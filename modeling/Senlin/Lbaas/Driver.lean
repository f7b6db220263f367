import Senlin.Lbaas.Wait
import Senlin.Python

/-!
# `LoadBalancerDriver`: creating and deleting a load balancer, adding and removing members

The four public operations of `senlin/drivers/openstack/lbaas.py`, over the backend of
`Backend.lean`:

* `lbCreate`: load balancer, listener, pool, each followed by a readiness wait; when a wait
  fails, `_cleanup` calls `lb_delete` on what `result` holds so far;
* `lbDelete`: health monitor, pool, listener (those given), then the load balancer, each
  followed by a wait whose result is not looked at;
* `memberAdd`: picks the node's IPv4 address on the subnet's network (`getNodeAddress`);
* `memberRemove`: a `try` around the delete call and its wait.

`lbDelete_outcome` says what `lb_delete` does on every backend: it is one run of delete calls
over `LbIds.refs` (health monitor, pool, listener, load balancer), which reports success when
every call returned, and otherwise raises at the first call that raised (`DeleteOutcome`).
-/

namespace Senlin.Lbaas

/-- The `vip` argument of `lb_create`: the keys it reads, the `.get` ones optional. -/
structure Vip where
  subnet : String
  address : Option String
  adminStateUp : Bool
  protocol : String
  protocolPort : Nat
  connectionLimit : Option Nat
  deriving DecidableEq, Repr

/-- The `pool` argument of `lb_create`: the keys it reads. -/
structure PoolArgs where
  lbMethod : String
  protocol : String
  adminStateUp : Bool
  deriving DecidableEq, Repr

/-- The keyword arguments of `lb_delete`; `lb_create` passes its `result` dict. -/
structure LbIds where
  loadbalancer : Nat
  listener : Option Nat
  pool : Option Nat
  healthmonitor : Option Nat
  deriving DecidableEq, Repr

/-- The resources `lb_delete` deletes, in the order it deletes them. -/
def LbIds.refs (ids : LbIds) : List Ref :=
  (ids.healthmonitor.map (⟨.healthmonitor, ·⟩)).toList ++ (ids.pool.map (⟨.pool, ·⟩)).toList ++
    (ids.listener.map (⟨.listener, ·⟩)).toList ++ [⟨.loadbalancer, ids.loadbalancer⟩]

/-- The second component of `lb_create`'s reply: a message, or the `result` dict. -/
inductive LbReply
  | msg (text : String)
  | result (ids : LbIds)
  deriving DecidableEq, Repr

/-- One entry of a network's list in the `addresses` of a node's details. -/
structure AddrEntry where
  version : Nat
  addr : String
  deriving DecidableEq, Repr

/-- A node, as `_get_node_address` reads it: the `addresses` of `node.get_details(...)`. -/
structure Node where
  addresses : PyDict (List AddrEntry)

variable (b : Behaviour)

/-! ### `lb_delete` -/

/-- One delete step of `lb_delete`: `if x_id: self.nc().x_delete(x_id)`, then
`self._wait_for_lb_ready(lb_id)`. -/
def deleteIfGiven (del : Nat → Op Unit) (lbId : Nat) : Option Nat → Op Unit
  | none => pure ()
  | some id => do
    del id
    let _ ← waitForLbReady b lbId 60 false
    pure ()

/-- `lb_delete(**kwargs)`. The last wait is `self._wait_for_lb_ready(lb_id, True)`: the
positional `True` is the `timeout`, which Python reads as `1`. -/
def lbDelete (ids : LbIds) : Op (Bool × String) := do
  deleteIfGiven b (healthmonitorDelete b) ids.loadbalancer ids.healthmonitor
  deleteIfGiven b (poolDelete b) ids.loadbalancer ids.pool
  deleteIfGiven b (listenerDelete b) ids.loadbalancer ids.listener
  loadbalancerDelete b ids.loadbalancer
  let _ ← waitForLbReady b ids.loadbalancer 1 false
  return (true, "LB deletion succeeded")

/-! ### `lb_create` -/

/-- `lb_create(vip, pool)`. `_cleanup(msg, **result)` logs and calls `lb_delete`. -/
def lbCreate (vip : Vip) (pool : PoolArgs) : Op (Bool × LbReply) := do
  let lb ← loadbalancerCreate b vip.subnet vip.address vip.adminStateUp
  let result : LbIds := ⟨lb, none, none, none⟩
  let res ← waitForLbReady b lb 60 false
  if res = false then
    let _ ← lbDelete b result
    return (false, .msg s!"Failed in creating load balancer ({lb}).")
  else
    let listener ← listenerCreate b lb vip.protocol vip.protocolPort vip.connectionLimit
      vip.adminStateUp
    let result := { result with listener := some listener }
    let res ← waitForLbReady b lb 60 false
    if res = false then
      let _ ← lbDelete b result
      return (res, .msg s!"Failed in creating listener ({listener}).")
    else
      let poolId ← poolCreate b pool.lbMethod listener pool.protocol pool.adminStateUp
      let result := { result with pool := some poolId }
      let res ← waitForLbReady b lb 60 false
      if res = false then
        let _ ← lbDelete b result
        return (res, .msg s!"Failed in creating pool ({poolId}).")
      else
        return (true, .result result)

/-! ### Members -/

/-- The inner loop of `_get_node_address` over one network's entries:
`if addr['version'] == version: address[network] = addr['addr']`. -/
def addAddresses (version : Nat) (network : String) (address : PyDict String)
    (addrs : List AddrEntry) : PyDict String :=
  addrs.foldl (fun address addr =>
    if addr.version = version then address.set network addr.addr else address) address

/-- `_get_node_address(node, version)`: for every network, its last entry of that version. -/
def getNodeAddress (node : Node) (version : Nat) : PyDict String :=
  node.addresses.items.foldl (fun address p => addAddresses version p.1 address p.2) .empty

/-- `member_add(node, lb_id, pool_id, port, subnet)`: the new member's id, or `None`. -/
def memberAdd (node : Node) (lbId poolId : Nat) (port : Nat) (subnet : String) :
    Op (Option Nat) :=
  let addresses := getNodeAddress node 4
  if addresses.items = [] then pure none
  else
    let netName := b.networkName (b.subnetNetwork subnet)
    match addresses.get? netName with
    | none => pure none
    | some address => do
      let member ← poolMemberCreate b poolId address port subnet
      let _ ← waitForLbReady b lbId 60 false
      return some member

/-- `member_remove(lb_id, pool_id, member_id)`: `False` when a call in the `try` raised. -/
def memberRemove (lbId poolId memberId : Nat) : Op Bool :=
  tryCatch (do
      poolMemberDelete b poolId memberId
      let _ ← waitForLbReady b lbId 60 false
      return true)
    fun _ => return false

/-! ### What `lb_delete` does, on every backend -/

/-- `s'` follows `s` by delete calls that returned, of `refs` and in that order, and by waits. -/
structure Deletes (refs : List Ref) (s s' : Neutron) : Prop where
  live : s'.live = refs.foldl List.erase s.live
  fresh : s'.fresh = s.fresh
  creates : s'.creates = s.creates
  deletes : s'.deletes = s.deletes + refs.length
  log : ∃ evs, s'.log = s.log ++ evs ∧ created evs = [] ∧ deleted evs = refs

theorem Deletes.refl (s : Neutron) : Deletes [] s s := ⟨rfl, rfl, rfl, rfl, ⟨[], by simp⟩⟩

theorem Deletes.trans {refs refs' : List Ref} {s₁ s₂ s₃ : Neutron} (h : Deletes refs s₁ s₂)
    (h' : Deletes refs' s₂ s₃) : Deletes (refs ++ refs') s₁ s₃ := by
  obtain ⟨evs, hl, hc, hd⟩ := h.log
  obtain ⟨evs', hl', hc', hd'⟩ := h'.log
  exact ⟨by rw [h'.live, h.live, List.foldl_append], h'.fresh.trans h.fresh,
    h'.creates.trans h.creates, by rw [h'.deletes, h.deletes, List.length_append, Nat.add_assoc],
    ⟨evs ++ evs', by simp [hl', hl], by simp [hc, hc'], by simp [hd, hd']⟩⟩

/-- A delete call that returned, and then a wait. -/
theorem Deletes.removeWait (s : Neutron) (ref : Ref) (lb n : Nat) (r : Bool) :
    Deletes [ref] s ((s.remove ref).waited lb n r) :=
  ⟨rfl, rfl, rfl, rfl, ⟨[.delete ref true, .wait lb r], by simp, rfl, rfl⟩⟩

/-- What delete calls for `refs`, made in order and each followed by a wait, end in: either all
of them returned, and the run returns `v`; or the first that raised did, after those before it
returned, and the exception keeps the store as they left it. -/
def DeleteOutcome {α : Type} (refs : List Ref) (v : α) (s : Neutron) :
    EStateM.Result BackendError Neutron α → Prop
  | .ok a s' => a = v ∧ Deletes refs s s' ∧ ∀ i < refs.length, b.deleteRaises (s.deletes + i) = false
  | .error (.delete ref) s' => ∃ pre post s₁, refs = pre ++ ref :: post ∧ Deletes pre s s₁ ∧
      s' = s₁.deleteFailed ref ∧ (∀ i < pre.length, b.deleteRaises (s.deletes + i) = false) ∧
      b.deleteRaises (s.deletes + pre.length) = true
  | .error (.create _) _ => False

section Outcome

variable {b} {α : Type}

/-- No raise among the delete calls of a first run and of a second one that starts where it
stopped is no raise among those of both. -/
theorem noRaise_append {d : Nat} {l l' : List Ref}
    (h : ∀ i < l.length, b.deleteRaises (d + i) = false)
    (h' : ∀ i < l'.length, b.deleteRaises (d + l.length + i) = false) :
    ∀ i < (l ++ l').length, b.deleteRaises (d + i) = false := by
  intro i hi
  by_cases hil : i < l.length
  · exact h i hil
  · have := h' (i - l.length) (by rw [List.length_append] at hi; omega)
    rwa [Nat.add_assoc, Nat.add_sub_cancel' (by omega)] at this

/-- Two runs of delete calls, one after the other, are one run over both lists. -/
theorem DeleteOutcome.bind {refs refs' : List Ref} {v : α} {m : Op Unit} {k : Unit → Op α}
    (hm : ∀ s, DeleteOutcome b refs () s (m s)) (hk : ∀ s, DeleteOutcome b refs' v s (k () s))
    (s : Neutron) : DeleteOutcome b (refs ++ refs') v s ((m >>= k) s) := by
  have h := hm s
  cases hms : m s with
  | ok u s₁ =>
    rw [hms] at h
    obtain ⟨-, D, hD⟩ := h
    rw [bind_ok hms]
    have h' := hk s₁
    cases hks : k () s₁ with
    | ok a s₂ =>
      rw [hks] at h'
      obtain ⟨rfl, D', hD'⟩ := h'
      rw [D.deletes] at hD'
      exact ⟨rfl, D.trans D', noRaise_append hD hD'⟩
    | error e s₂ =>
      rw [hks] at h'
      cases e with
      | create => exact h'.elim
      | delete ref =>
        obtain ⟨pre, post, s₃, rfl, D', rfl, hpre, hraise⟩ := h'
        rw [D.deletes] at hpre hraise
        refine ⟨refs ++ pre, post, s₃, by simp, D.trans D', rfl, noRaise_append hD hpre, ?_⟩
        rwa [Nat.add_assoc, ← List.length_append] at hraise
  | error e s₁ =>
    rw [hms] at h
    rw [bind_error hms]
    cases e with
    | create => exact h.elim
    | delete ref =>
      obtain ⟨pre, post, s₃, rfl, D, rfl, hpre, hraise⟩ := h
      exact ⟨pre, post ++ refs', s₃, by simp, D, rfl, hpre, hraise⟩

/-- When none of the delete calls raises, the run returns `v`, having deleted every resource of
`refs`. -/
theorem DeleteOutcome.ok_of_forall {refs : List Ref} {v : α} {s : Neutron}
    {r : EStateM.Result BackendError Neutron α} (h : DeleteOutcome b refs v s r)
    (hd : ∀ i < refs.length, b.deleteRaises (s.deletes + i) = false) :
    ∃ s', r = .ok v s' ∧ Deletes refs s s' := by
  cases r with
  | ok a s' => exact ⟨s', by rw [h.1], h.2.1⟩
  | error e s' =>
    cases e with
    | create => exact h.elim
    | delete ref =>
      obtain ⟨pre, post, s₁, rfl, -, -, -, hraise⟩ := h
      rw [hd _ (by rw [List.length_append, List.length_cons]; omega)] at hraise
      cases hraise

/-- When the `k`-th delete call is the first that raises, the run raises its exception, after
the calls before it deleted their resources. -/
theorem DeleteOutcome.error_of_first {refs : List Ref} {v : α} {s : Neutron}
    {r : EStateM.Result BackendError Neutron α} (h : DeleteOutcome b refs v s r)
    {k : Nat} (hk : k < refs.length) (hpre : ∀ i < k, b.deleteRaises (s.deletes + i) = false)
    (hraise : b.deleteRaises (s.deletes + k) = true) :
    ∃ s₁, r = .error (.delete refs[k]) (s₁.deleteFailed refs[k]) ∧ Deletes (refs.take k) s s₁ := by
  cases r with
  | ok a s' => rw [h.2.2 k hk] at hraise; cases hraise
  | error e s' =>
    cases e with
    | create => exact h.elim
    | delete ref =>
      obtain ⟨pre, post, s₁, rfl, D, rfl, hpre', hraise'⟩ := h
      obtain rfl : k = pre.length := by
        rcases Nat.lt_trichotomy k pre.length with hlt | heq | hgt
        · rw [hpre' k hlt] at hraise; cases hraise
        · exact heq
        · rw [hpre _ hgt] at hraise'; cases hraise'
      have hget : (pre ++ ref :: post)[pre.length] = ref := by
        rw [List.getElem_append_right (Nat.le_refl _)]
        simp
      rw [hget, List.take_left]
      exact ⟨s₁, rfl, D⟩

/-- One delete call and its wait. -/
theorem deleteWait_outcome (ref : Ref) (lb : Nat) (timeout : Int) (ign : Bool) (v : α)
    (s : Neutron) :
    DeleteOutcome b [ref] v s
      ((delete b ref >>= fun _ => waitForLbReady b lb timeout ign >>= fun _ => pure v) s) := by
  cases h : b.deleteRaises s.deletes
  · obtain ⟨n, r, w⟩ := waitForLbReady_frame b lb timeout ign (s.remove ref)
    rw [bind_ok (delete_ok h), bind_ok w]
    exact ⟨rfl, Deletes.removeWait s ref lb n r, fun i hi => by
      rwa [show i = 0 by simpa using hi]⟩
  · rw [bind_error (delete_raises h)]
    exact ⟨[], [], s, rfl, Deletes.refl s, rfl, fun _ hi => absurd hi (Nat.not_lt_zero _), h⟩

theorem deleteIfGiven_outcome (del : Nat → Op Unit) (kind : Kind)
    (hdel : ∀ id, del id = delete b ⟨kind, id⟩) (lbId : Nat) (o : Option Nat) (s : Neutron) :
    DeleteOutcome b (o.map (⟨kind, ·⟩)).toList () s (deleteIfGiven b del lbId o s) := by
  cases o with
  | none => exact ⟨rfl, Deletes.refl s, fun _ hi => absurd hi (Nat.not_lt_zero _)⟩
  | some id =>
    simp only [deleteIfGiven, hdel]
    exact deleteWait_outcome _ lbId 60 false () s

/-- `lb_delete` is one run of delete calls: the health monitor, pool, listener (those given) and
the load balancer, in that order. -/
theorem lbDelete_outcome (ids : LbIds) (s : Neutron) :
    DeleteOutcome b ids.refs (true, "LB deletion succeeded") s (lbDelete b ids s) := by
  rw [LbIds.refs, List.append_assoc, List.append_assoc]
  apply DeleteOutcome.bind (deleteIfGiven_outcome (healthmonitorDelete b) .healthmonitor
    (fun _ => rfl) _ _)
  intro s₁
  apply DeleteOutcome.bind (deleteIfGiven_outcome (poolDelete b) .pool (fun _ => rfl) _ _)
  intro s₂
  apply DeleteOutcome.bind (deleteIfGiven_outcome (listenerDelete b) .listener (fun _ => rfl) _ _)
  exact deleteWait_outcome _ _ 1 false _

end Outcome

end Senlin.Lbaas
