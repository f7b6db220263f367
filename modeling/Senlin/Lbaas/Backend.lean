import Senlin.Python

/-!
# The Neutron LBaaS backend, as the load-balancer driver sees it

`senlin/drivers/openstack/lbaas.py` drives Neutron LBaaS through the client that
`LoadBalancerDriver.nc()` returns. The client is not among the sources; here it is a store of
resources, each known by its kind and id, and a `Behaviour` deciding how the backend answers
every call the driver makes:

* a create call either raises or returns a fresh id;
* a delete call either raises or removes the resource (a missing one is ignored);
* `loadbalancer_get` reports a provisioning/operating status pair, or `None` when the load
  balancer is absent;
* `subnet_get` and `network_get` report the subnet's network and the network's name.

The last three calls always answer: the driver does not guard them, and a backend that raised
from one of them would end the operation with that exception. Every result about the driver is
about the backends whose `loadbalancer_get`, `subnet_get` and `network_get` answer.

The answers are indexed by how many calls of that kind the backend has already answered, so
every sequence of answers is some `Behaviour`. The store logs the calls and, as ghost data, each
readiness wait of the driver and its result; the rollback theorems read the log.

* `Neutron`, `Behaviour`, the driver's monad `Op`;
* `create` and `delete`, and the client calls of the source as instances of them;
* `created` and `deleted`: the resources a stretch of the log made and removed.
-/

namespace Senlin.Lbaas

/-- The kinds of LBaaS resources the driver creates or deletes. -/
inductive Kind
  | loadbalancer
  | listener
  | pool
  | member
  | healthmonitor
  deriving DecidableEq, Repr

/-- A backend resource: its kind and its id. Neutron's ids are strings that are never empty, so
every id passes the driver's `if x_id:`; here they are numbers. -/
structure Ref where
  kind : Kind
  id : Nat
  deriving DecidableEq, Repr

/-- The arguments of the create calls of the client, one constructor per call. -/
inductive Spec
  /-- `loadbalancer_create(subnet, address, admin_state_up)`. -/
  | loadbalancer (subnet : String) (address : Option String) (adminStateUp : Bool)
  /-- `listener_create(lb_id, protocol, protocol_port, connection_limit, admin_state_up)`. -/
  | listener (lb : Nat) (protocol : String) (protocolPort : Nat) (connectionLimit : Option Nat)
      (adminStateUp : Bool)
  /-- `pool_create(lb_method, listener_id, protocol, admin_state_up)`. -/
  | pool (lbMethod : String) (listener : Nat) (protocol : String) (adminStateUp : Bool)
  /-- `pool_member_create(pool_id, address, port, subnet)`. -/
  | member (pool : Nat) (address : String) (port : Nat) (subnet : String)
  deriving DecidableEq, Repr

/-- The kind of resource a create call makes. -/
def Spec.kind : Spec → Kind
  | .loadbalancer .. => .loadbalancer
  | .listener .. => .listener
  | .pool .. => .pool
  | .member .. => .member

/-- An entry of the backend log. -/
inductive Event
  /-- A create call and the id it returned; `none` when it raised. -/
  | create (spec : Spec) (id : Option Nat)
  /-- A delete call; `ok = false` when it raised. -/
  | delete (ref : Ref) (ok : Bool)
  /-- A `_wait_for_lb_ready` on a load balancer, and what it returned. -/
  | wait (lb : Nat) (ready : Bool)
  deriving DecidableEq, Repr

/-- What `loadbalancer_get` reports about a load balancer that exists. -/
structure LbStatus where
  provisioningStatus : String
  operatingStatus : String
  deriving DecidableEq, Repr

/-- How the backend answers: the `k`-th create (delete) call raises when `createRaises k`
(`deleteRaises k`); the `k`-th `loadbalancer_get` of load balancer `lb` reports `poll k lb`. -/
structure Behaviour where
  createRaises : Nat → Bool
  deleteRaises : Nat → Bool
  poll : Nat → Nat → Option LbStatus
  /-- `subnet_get(subnet)['network_id']`. -/
  subnetNetwork : String → String
  /-- `network_get(net_id)['name']`. -/
  networkName : String → String

/-- The backend store. Ids are handed out from `fresh`, so every live id is below it. -/
structure Neutron where
  live : List Ref
  fresh : Nat
  creates : Nat
  deletes : Nat
  polls : Nat
  log : List Event
  live_lt_fresh : ∀ r ∈ live, r.id < fresh

/-- The exception a client call raised. -/
inductive BackendError
  | create (spec : Spec)
  | delete (ref : Ref)
  deriving DecidableEq, Repr

/-- Driver code: it changes the backend and may raise, keeping the changes made so far. -/
abbrev Op := EStateM BackendError Neutron

/-! ### Store updates -/

/-- A create call that returned: the resource is live under the fresh id. -/
def Neutron.add (s : Neutron) (spec : Spec) : Neutron where
  live := ⟨spec.kind, s.fresh⟩ :: s.live
  fresh := s.fresh + 1
  creates := s.creates + 1
  deletes := s.deletes
  polls := s.polls
  log := s.log ++ [.create spec (some s.fresh)]
  live_lt_fresh := by
    intro r hr
    rcases List.mem_cons.1 hr with rfl | hr
    · exact Nat.lt_succ_self _
    · exact Nat.lt_succ_of_lt (s.live_lt_fresh r hr)

/-- A delete call that returned: the resource, if live, is gone. -/
def Neutron.remove (s : Neutron) (ref : Ref) : Neutron where
  live := s.live.erase ref
  fresh := s.fresh
  creates := s.creates
  deletes := s.deletes + 1
  polls := s.polls
  log := s.log ++ [.delete ref true]
  live_lt_fresh := fun r hr => s.live_lt_fresh r (List.mem_of_mem_erase hr)

@[simp] theorem Neutron.add_live (s : Neutron) (spec : Spec) :
    (s.add spec).live = ⟨spec.kind, s.fresh⟩ :: s.live := rfl
@[simp] theorem Neutron.add_fresh (s : Neutron) (spec : Spec) :
    (s.add spec).fresh = s.fresh + 1 := rfl
@[simp] theorem Neutron.add_creates (s : Neutron) (spec : Spec) :
    (s.add spec).creates = s.creates + 1 := rfl
@[simp] theorem Neutron.add_deletes (s : Neutron) (spec : Spec) :
    (s.add spec).deletes = s.deletes := rfl
@[simp] theorem Neutron.add_polls (s : Neutron) (spec : Spec) :
    (s.add spec).polls = s.polls := rfl
@[simp] theorem Neutron.add_log (s : Neutron) (spec : Spec) :
    (s.add spec).log = s.log ++ [.create spec (some s.fresh)] := rfl

@[simp] theorem Neutron.remove_live (s : Neutron) (ref : Ref) :
    (s.remove ref).live = s.live.erase ref := rfl
@[simp] theorem Neutron.remove_fresh (s : Neutron) (ref : Ref) :
    (s.remove ref).fresh = s.fresh := rfl
@[simp] theorem Neutron.remove_creates (s : Neutron) (ref : Ref) :
    (s.remove ref).creates = s.creates := rfl
@[simp] theorem Neutron.remove_deletes (s : Neutron) (ref : Ref) :
    (s.remove ref).deletes = s.deletes + 1 := rfl
@[simp] theorem Neutron.remove_polls (s : Neutron) (ref : Ref) :
    (s.remove ref).polls = s.polls := rfl
@[simp] theorem Neutron.remove_log (s : Neutron) (ref : Ref) :
    (s.remove ref).log = s.log ++ [.delete ref true] := rfl

/-- A create call that raised: counted and logged, nothing made. -/
def Neutron.createFailed (s : Neutron) (spec : Spec) : Neutron :=
  { s with creates := s.creates + 1, log := s.log ++ [.create spec none] }

/-- A delete call that raised: counted and logged, nothing removed. -/
def Neutron.deleteFailed (s : Neutron) (ref : Ref) : Neutron :=
  { s with deletes := s.deletes + 1, log := s.log ++ [.delete ref false] }

@[simp] theorem Neutron.createFailed_live (s : Neutron) (spec : Spec) :
    (s.createFailed spec).live = s.live := rfl
@[simp] theorem Neutron.createFailed_log (s : Neutron) (spec : Spec) :
    (s.createFailed spec).log = s.log ++ [.create spec none] := rfl

@[simp] theorem Neutron.deleteFailed_live (s : Neutron) (ref : Ref) :
    (s.deleteFailed ref).live = s.live := rfl
@[simp] theorem Neutron.deleteFailed_deletes (s : Neutron) (ref : Ref) :
    (s.deleteFailed ref).deletes = s.deletes + 1 := rfl
@[simp] theorem Neutron.deleteFailed_log (s : Neutron) (ref : Ref) :
    (s.deleteFailed ref).log = s.log ++ [.delete ref false] := rfl

/-- The backend before the driver has made anything. -/
def Neutron.init : Neutron := ⟨[], 0, 0, 0, 0, [], fun _ h => absurd h (List.not_mem_nil _)⟩

/-! ### Client calls -/

variable (b : Behaviour)

/-- A create call of the client. -/
def create (spec : Spec) : Op Nat := fun s =>
  if b.createRaises s.creates then
    .error (.create spec) (s.createFailed spec)
  else .ok s.fresh (s.add spec)

/-- A delete call of the client. -/
def delete (ref : Ref) : Op Unit := fun s =>
  if b.deleteRaises s.deletes then
    .error (.delete ref) (s.deleteFailed ref)
  else .ok () (s.remove ref)

/-- `loadbalancer_get(lb_id)`: `none` for a load balancer that is absent. -/
def loadbalancerGet (lbId : Nat) : Op (Option LbStatus) := fun s =>
  .ok (b.poll s.polls lbId) { s with polls := s.polls + 1 }

/-- `loadbalancer_create(subnet, address, admin_state_up)`. -/
def loadbalancerCreate (subnet : String) (address : Option String) (adminStateUp : Bool) :
    Op Nat :=
  create b (.loadbalancer subnet address adminStateUp)

/-- `listener_create(lb_id, protocol, protocol_port, connection_limit, admin_state_up)`. -/
def listenerCreate (lbId : Nat) (protocol : String) (protocolPort : Nat)
    (connectionLimit : Option Nat) (adminStateUp : Bool) : Op Nat :=
  create b (.listener lbId protocol protocolPort connectionLimit adminStateUp)

/-- `pool_create(lb_method, listener_id, protocol, admin_state_up)`. -/
def poolCreate (lbMethod : String) (listenerId : Nat) (protocol : String) (adminStateUp : Bool) :
    Op Nat :=
  create b (.pool lbMethod listenerId protocol adminStateUp)

/-- `pool_member_create(pool_id, address, port, subnet)`. -/
def poolMemberCreate (poolId : Nat) (address : String) (port : Nat) (subnet : String) : Op Nat :=
  create b (.member poolId address port subnet)

/-- `healthmonitor_delete(healthmonitor_id)`. -/
def healthmonitorDelete (id : Nat) : Op Unit := delete b ⟨.healthmonitor, id⟩

/-- `pool_delete(pool_id)`. -/
def poolDelete (id : Nat) : Op Unit := delete b ⟨.pool, id⟩

/-- `listener_delete(listener_id)`. -/
def listenerDelete (id : Nat) : Op Unit := delete b ⟨.listener, id⟩

/-- `loadbalancer_delete(lb_id)`. -/
def loadbalancerDelete (id : Nat) : Op Unit := delete b ⟨.loadbalancer, id⟩

/-- `pool_member_delete(pool_id, member_id)`: members are known by their own id. -/
def poolMemberDelete (_poolId memberId : Nat) : Op Unit := delete b ⟨.member, memberId⟩

section Calls

variable {b} {s : Neutron}

theorem loadbalancerGet_apply (lbId : Nat) :
    loadbalancerGet b lbId s = .ok (b.poll s.polls lbId) { s with polls := s.polls + 1 } := rfl

theorem create_ok {spec : Spec} (h : b.createRaises s.creates = false) :
    create b spec s = .ok s.fresh (s.add spec) := by
  simp [create, h]

theorem create_raises {spec : Spec} (h : b.createRaises s.creates = true) :
    create b spec s = .error (.create spec) (s.createFailed spec) := by
  simp [create, h]

theorem delete_ok {ref : Ref} (h : b.deleteRaises s.deletes = false) :
    delete b ref s = .ok () (s.remove ref) := by
  simp [delete, h]

theorem delete_raises {ref : Ref} (h : b.deleteRaises s.deletes = true) :
    delete b ref s = .error (.delete ref) (s.deleteFailed ref) := by
  simp [delete, h]

end Calls

/-! ### Reading the log -/

/-- The resource a log entry made, if it is a create call that returned. -/
def Event.created : Event → Option Ref
  | .create spec (some id) => some ⟨spec.kind, id⟩
  | _ => none

/-- The resource a log entry is a delete call for, whether it returned or raised. -/
def Event.deleted : Event → Option Ref
  | .delete ref _ => some ref
  | _ => none

/-- The resources a stretch of the log made, in order. -/
def created (evs : List Event) : List Ref := evs.filterMap Event.created

/-- The resources a stretch of the log issued delete calls for, in order. -/
def deleted (evs : List Event) : List Ref := evs.filterMap Event.deleted

@[simp] theorem created_nil : created [] = [] := rfl
@[simp] theorem deleted_nil : deleted [] = [] := rfl

@[simp] theorem created_append (evs evs' : List Event) :
    created (evs ++ evs') = created evs ++ created evs' := List.filterMap_append _ _ _

@[simp] theorem deleted_append (evs evs' : List Event) :
    deleted (evs ++ evs') = deleted evs ++ deleted evs' := List.filterMap_append _ _ _

@[simp] theorem created_cons (e : Event) (evs : List Event) :
    created (e :: evs) = (e.created.toList ++ created evs) := by
  cases h : e.created <;> simp [created, List.filterMap_cons, h]

@[simp] theorem deleted_cons (e : Event) (evs : List Event) :
    deleted (e :: evs) = (e.deleted.toList ++ deleted evs) := by
  cases h : e.deleted <;> simp [deleted, List.filterMap_cons, h]

@[simp] theorem Event.created_create (spec : Spec) (id : Option Nat) :
    (Event.create spec id).created = id.map (⟨spec.kind, ·⟩) := by
  cases id <;> rfl
@[simp] theorem Event.created_delete (ref : Ref) (ok : Bool) :
    (Event.delete ref ok).created = none := rfl
@[simp] theorem Event.created_wait (lb : Nat) (r : Bool) : (Event.wait lb r).created = none := rfl
@[simp] theorem Event.deleted_create (spec : Spec) (id : Option Nat) :
    (Event.create spec id).deleted = none := rfl
@[simp] theorem Event.deleted_delete (ref : Ref) (ok : Bool) :
    (Event.delete ref ok).deleted = some ref := rfl
@[simp] theorem Event.deleted_wait (lb : Nat) (r : Bool) : (Event.wait lb r).deleted = none := rfl

end Senlin.Lbaas
