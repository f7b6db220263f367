import Senlin.Lbaas.Members

/-!
# `lb_create`: what is rolled back, and what leaks

`lb_create` makes a load balancer, a listener and a pool, each followed by a readiness wait.
When a wait fails, `_cleanup` hands what `result` holds to `lb_delete`, which deletes it newest
first. A create call that raises is not caught: it propagates, and what was made before it
stays in the backend.

`CreateOutcome` says what a run of `lb_create` ends in when no delete call raises:

* success: the three resources, named by `result`, are live, no delete was issued, and every
  wait saw the load balancer `ACTIVE` and `ONLINE`;
* `(False, msg)`: every resource made was deleted, newest first, and the store's resources are
  what they were;
* an exception from a create call: what was made before it is still live.

`RollbackRaised` is the one other way a run can end: a delete call of `_cleanup` raised, and its
exception propagates with the resources from that one on still live. `lbCreate_outcome_any`
proves that every run ends in one of these, for every behaviour of the backend;
`lbCreate_failure_rollback` reads off what a failed run leaves, `lbCreate_failure_message` which
stage its message names, and `lbCreate_outcome` drops `RollbackRaised` when no delete raises. The last section runs the two defects at concrete
inputs: a listener create that raises leaves the load balancer behind, and `member_add`,
`member_remove` and `lb_delete` report success after waits that timed out.
-/

namespace Senlin.Lbaas

/-- `s'` follows `s` by create calls, making `crs` in order, and by waits that returned
`True`: what was made is live on top of the old store, and no delete was issued. -/
structure Creates (crs : List Ref) (s s' : Neutron) : Prop where
  live : s'.live = crs.reverse ++ s.live
  log : ∃ evs, s'.log = s.log ++ evs ∧ created evs = crs ∧ deleted evs = [] ∧
    ∀ lb r, Event.wait lb r ∈ evs → r = true

section Creates

variable {crs : List Ref} {s s₁ : Neutron}

theorem Creates.refl (s : Neutron) : Creates [] s s := ⟨rfl, ⟨[], by simp⟩⟩

theorem Creates.add (h : Creates crs s s₁) (spec : Spec) :
    Creates (crs ++ [⟨spec.kind, s₁.fresh⟩]) s (s₁.add spec) := by
  obtain ⟨evs, hl, hc, hd, hw⟩ := h.log
  refine ⟨by simp [h.live], evs ++ [.create spec (some s₁.fresh)], by simp [hl], by simp [hc],
    by simp [hd], ?_⟩
  simpa using hw

theorem Creates.waited (h : Creates crs s s₁) (lb n : Nat) : Creates crs s (s₁.waited lb n true) := by
  obtain ⟨evs, hl, hc, hd, hw⟩ := h.log
  refine ⟨by simp [h.live], evs ++ [.wait lb true], by simp [hl], by simp [hc], by simp [hd], ?_⟩
  simp only [List.mem_append, List.mem_singleton, Event.wait.injEq]
  rintro lb' r (h | ⟨-, rfl⟩)
  exacts [hw lb' r h, rfl]

theorem Creates.createFailed (h : Creates crs s s₁) (spec : Spec) :
    Creates crs s (s₁.createFailed spec) := by
  obtain ⟨evs, hl, hc, hd, hw⟩ := h.log
  refine ⟨by simp [h.live], evs ++ [.create spec none], by simp [hl], by simp [hc], by simp [hd],
    ?_⟩
  simpa using hw

end Creates

/-- Erasing the items of a list, first to last, from that list put in front of another leaves
the other. -/
theorem foldl_erase_append (l rest : List Ref) : l.foldl List.erase (l ++ rest) = rest := by
  induction l with
  | nil => rfl
  | cons a l ih => simp [List.erase_cons_head, ih]

/-- What a run of `lb_create` from `s` ends in, when no delete call raises. -/
def CreateOutcome (s : Neutron) : EStateM.Result BackendError Neutron (Bool × LbReply) → Prop
  | .ok (true, .result ids) s' => ∃ lb li po, ids = ⟨lb, some li, some po, none⟩ ∧
      Creates [⟨.loadbalancer, lb⟩, ⟨.listener, li⟩, ⟨.pool, po⟩] s s'
  | .ok (false, .msg _) s' => ∃ evs, s'.log = s.log ++ evs ∧
      deleted evs = (created evs).reverse ∧ s'.live = s.live
  | .error (.create _) s' => ∃ crs, Creates crs s s'
  | _ => False

/-! ### Example backends -/

/-- A backend whose second create call raises and whose load balancers are always `ACTIVE` and
`ONLINE`. -/
def listenerRaises : Behaviour where
  createRaises k := k == 1
  deleteRaises _ := false
  poll _ _ := some ⟨"ACTIVE", "ONLINE"⟩
  subnetNetwork _ := "net-1"
  networkName _ := "private"

/-- A `vip` with the keys `lb_create` reads. -/
def vip₀ : Vip := ⟨"subnet-1", none, true, "HTTP", 80, none⟩

/-- A `pool` with the keys `lb_create` reads. -/
def pool₀ : PoolArgs := ⟨"ROUND_ROBIN", "HTTP", true⟩

/-- A backend on which every call returns and every poll reports the load balancer
`PENDING_UPDATE`: no readiness wait ever succeeds. -/
def stuckPending : Behaviour where
  createRaises _ := false
  deleteRaises _ := false
  poll _ _ := some ⟨"PENDING_UPDATE", "ONLINE"⟩
  subnetNetwork _ := "net-1"
  networkName _ := "private"

/-- On `stuckPending`, every wait times out. -/
theorem stuckPending_wait (lbId : Nat) (timeout : Int) (s : Neutron) :
    waitForLbReady stuckPending lbId timeout false s =
      .ok false (s.waited lbId (pollBudget timeout 0) false) := by
  rw [waitForLbReady_eq, firstReady_of_never (stuckPending.ready false lbId s.polls) fun _ => rfl]

/-- On `stuckPending`, the wait after `loadbalancer_create` times out, and `_cleanup` deletes the
load balancer. -/
theorem lbCreate_stuckPending :
    ∃ s', lbCreate stuckPending vip₀ pool₀ .init =
      .ok (false, .msg "Failed in creating load balancer (0).") s' := by
  obtain ⟨s₁, hdel, -⟩ := (@lbDelete_outcome stuckPending ⟨0, none, none, none⟩
    ((Neutron.init.add (.loadbalancer "subnet-1" none true)).waited 0 (pollBudget 60 0) false)
    ).ok_of_forall fun _ _ => rfl
  refine ⟨s₁, ?_⟩
  simp only [lbCreate, loadbalancerCreate]
  rw [bind_ok (create_ok rfl), bind_ok (stuckPending_wait _ _ _), if_pos rfl]
  exact bind_ok hdel

/-- A backend on which no readiness wait succeeds and every delete call raises. -/
def stuckDeleteRaises : Behaviour := { stuckPending with deleteRaises := fun _ => true }

/-- On `stuckDeleteRaises`, the wait after `loadbalancer_create` times out, and the delete call of
`_cleanup` raises. -/
theorem lbCreate_stuckDeleteRaises :
    ∃ s', lbCreate stuckDeleteRaises vip₀ pool₀ .init = .error (.delete ⟨.loadbalancer, 0⟩) s' := by
  have hwait (lbId : Nat) (s : Neutron) : waitForLbReady stuckDeleteRaises lbId 60 false s =
      .ok false (s.waited lbId (pollBudget 60 0) false) := by
    rw [waitForLbReady_eq,
      firstReady_of_never (stuckDeleteRaises.ready false lbId s.polls) fun _ => rfl]
  obtain ⟨s₁, hdel, -⟩ := (@lbDelete_outcome stuckDeleteRaises ⟨0, none, none, none⟩
    ((Neutron.init.add (.loadbalancer "subnet-1" none true)).waited 0 (pollBudget 60 0) false)
    ).error_of_first (show 0 < 1 from Nat.one_pos) (fun _ h => absurd h (Nat.not_lt_zero _)) rfl
  refine ⟨s₁.deleteFailed ⟨.loadbalancer, 0⟩, ?_⟩
  simp only [lbCreate, loadbalancerCreate]
  rw [bind_ok (create_ok rfl), bind_ok (hwait _ _), if_pos rfl]
  exact bind_error hdel

/-- A node with one IPv4 address, on the network `private`. -/
def node₀ : Node := ⟨⟨[("private", [⟨4, "10.0.0.5"⟩])], by decide⟩⟩

/-- A run of `lb_create` that ended in an exception from a delete call of `_cleanup`: a delete
call raised; the resources made, newest first, are `pre ++ ref :: post`; those in `pre` were
deleted, and `ref` and the ones made before it are still live. -/
def RollbackRaised (b : Behaviour) (s : Neutron) :
    EStateM.Result BackendError Neutron (Bool × LbReply) → Prop
  | .error (.delete ref) s' => (∃ k, b.deleteRaises k = true) ∧
      ∃ crs pre post, crs.reverse = pre ++ ref :: post ∧ s'.live = ref :: post ++ s.live ∧
        ∃ evs, s'.log = s.log ++ evs ∧ created evs = crs ∧ deleted evs = pre ++ [ref]
  | _ => False

section Rollback

variable {b : Behaviour}

theorem RollbackRaised.raised {s : Neutron} {r : EStateM.Result BackendError Neutron (Bool × LbReply)}
    (h : RollbackRaised b s r) : ∃ k, b.deleteRaises k = true := by
  cases r with
  | ok a s' => exact h.elim
  | error e s' =>
    cases e with
    | create => exact h.elim
    | delete ref => exact h.1

/-- `_cleanup` after a failed wait: `lb_delete` on `result` either restores the store, having
issued a delete for each resource made, newest first, or raises at its first delete that
raised. -/
theorem cleanup_outcome {crs : List Ref} {s s₁ : Neutron} (h : Creates crs s s₁)
    (ids : LbIds) (hids : ids.refs = crs.reverse) (lb n : Nat) (msg : String) :
    CreateOutcome s ((lbDelete b ids >>= fun _ => pure (false, .msg msg)) (s₁.waited lb n false)) ∨
    RollbackRaised b s
      ((lbDelete b ids >>= fun _ => pure (false, .msg msg)) (s₁.waited lb n false)) := by
  have hD := @lbDelete_outcome b ids (s₁.waited lb n false)
  obtain ⟨evs, hl, hc, hdl, -⟩ := h.log
  cases hdel : lbDelete b ids (s₁.waited lb n false) with
  | ok a s' =>
    rw [hdel] at hD
    obtain ⟨-, D, -⟩ := hD
    obtain ⟨evs', hl', hc', hdl'⟩ := D.log
    rw [bind_ok hdel]
    refine .inl ⟨evs ++ [.wait lb false] ++ evs', by simp [hl', hl],
      by simp [hc, hc', hdl, hdl', hids], ?_⟩
    rw [D.live, hids, Neutron.waited_live, h.live, foldl_erase_append]
  | error e s' =>
    rw [hdel] at hD
    rw [bind_error hdel]
    cases e with
    | create => exact hD.elim
    | delete ref =>
      obtain ⟨pre, post, s₂, hrefs, D, rfl, -, hraise⟩ := hD
      obtain ⟨evs', hl', hc', hdl'⟩ := D.log
      have hcrs : crs.reverse = pre ++ ref :: post := hids.symm.trans hrefs
      refine .inr ⟨⟨_, hraise⟩, crs, pre, post, hcrs, ?_,
        evs ++ [.wait lb false] ++ evs' ++ [.delete ref false], by simp [hl', hl],
        by simp [hc, hc'], by simp [hdl, hdl']⟩
      rw [Neutron.deleteFailed_live, D.live, Neutron.waited_live, h.live, hcrs, List.append_assoc,
        foldl_erase_append, List.cons_append]

/-- One stage of `lb_create`: a create call, a readiness wait, and `_cleanup` when the wait
fails. A create that raises, or a failed wait, ends the run; otherwise the run goes on with what
was made so far. -/
theorem createStep_outcome {crs : List Ref} {s s₁ : Neutron} (h : Creates crs s s₁)
    {spec : Spec} {lb : Nat → Nat} {ids : Nat → LbIds}
    (hids : (ids s₁.fresh).refs = (crs ++ [(⟨spec.kind, s₁.fresh⟩ : Ref)]).reverse)
    {ret : Bool → Nat → Bool × LbReply} (hret : ∃ m, ret false s₁.fresh = (false, .msg m))
    {k : Nat → Op (Bool × LbReply)}
    (hk : ∀ n, Creates (crs ++ [⟨spec.kind, s₁.fresh⟩]) s ((s₁.add spec).waited (lb s₁.fresh) n true) →
      CreateOutcome s (k s₁.fresh ((s₁.add spec).waited (lb s₁.fresh) n true)) ∨
      RollbackRaised b s (k s₁.fresh ((s₁.add spec).waited (lb s₁.fresh) n true))) :
    CreateOutcome s ((create b spec >>= fun id => waitForLbReady b (lb id) 60 false >>= fun res =>
      if res = false then lbDelete b (ids id) >>= fun _ => pure (ret res id) else k id) s₁) ∨
    RollbackRaised b s ((create b spec >>= fun id => waitForLbReady b (lb id) 60 false >>= fun res =>
      if res = false then lbDelete b (ids id) >>= fun _ => pure (ret res id) else k id) s₁) := by
  cases hc : b.createRaises s₁.creates
  case true => rw [bind_error (create_raises hc)]; exact .inl ⟨_, h.createFailed _⟩
  obtain ⟨n, r, w⟩ := waitForLbReady_frame b (lb s₁.fresh) 60 false (s₁.add spec)
  rw [bind_ok (create_ok hc), bind_ok w]
  cases r
  case true => exact hk n ((h.add spec).waited _ n)
  obtain ⟨m, hm⟩ := hret
  rw [if_pos rfl, hm]
  exact cleanup_outcome (h.add spec) _ hids _ _ _

/-- `lb_create` ends in a `CreateOutcome`, or in an exception from a cleanup delete, for every
behaviour of the backend. -/
theorem lbCreate_outcome_any (vip : Vip) (pool : PoolArgs) (s : Neutron) :
    CreateOutcome s (lbCreate b vip pool s) ∨ RollbackRaised b s (lbCreate b vip pool s) := by
  simp only [lbCreate, loadbalancerCreate, listenerCreate, poolCreate]
  refine createStep_outcome (Creates.refl s) (by rfl) ⟨_, rfl⟩ fun n₁ C₁ => ?_
  refine createStep_outcome C₁ (by rfl) ⟨_, rfl⟩ fun n₂ C₂ => ?_
  refine createStep_outcome C₂ (by rfl) ⟨_, rfl⟩ fun n₃ C₃ => ?_
  exact .inl ⟨_, _, _, rfl, C₃⟩

/-- **Whatever the backend does, `lb_create` reports `(False, msg)` only after deleting every
resource it made, newest first, leaving the backend's resources as they were; when a delete of
that cleanup raises, the exception propagates after the newer resources were deleted, and the
one it failed on and the older ones stay live.** -/
theorem lbCreate_failure_rollback (vip : Vip) (pool : PoolArgs) (s : Neutron) :
    (∀ m s', lbCreate b vip pool s = .ok (false, .msg m) s' →
      ∃ evs, s'.log = s.log ++ evs ∧ deleted evs = (created evs).reverse ∧ s'.live = s.live) ∧
    (∀ ref s', lbCreate b vip pool s = .error (.delete ref) s' →
      ∃ crs pre post, crs.reverse = pre ++ ref :: post ∧ s'.live = ref :: post ++ s.live ∧
        ∃ evs, s'.log = s.log ++ evs ∧ created evs = crs ∧ deleted evs = pre ++ [ref]) := by
  have h := @lbCreate_outcome_any b vip pool s
  refine ⟨fun m s' hr => ?_, fun ref s' hr => ?_⟩ <;> rw [hr] at h
  · exact h.resolve_right id
  · exact (h.resolve_left id).2

theorem lbCreate_failure_rollback_stuckPending :
    (∃ m s', lbCreate stuckPending vip₀ pool₀ .init = .ok (false, .msg m) s' ∧
      ∃ evs, s'.log = Neutron.init.log ++ evs ∧ deleted evs = (created evs).reverse ∧
        s'.live = Neutron.init.live) ∧
    ∃ s', lbCreate stuckDeleteRaises vip₀ pool₀ .init = .error (.delete ⟨.loadbalancer, 0⟩) s' ∧
      ∃ crs pre post, crs.reverse = pre ++ ⟨.loadbalancer, 0⟩ :: post ∧
        s'.live = ⟨.loadbalancer, 0⟩ :: post ++ Neutron.init.live ∧
        ∃ evs, s'.log = Neutron.init.log ++ evs ∧ created evs = crs ∧
          deleted evs = pre ++ [⟨.loadbalancer, 0⟩] := by
  obtain ⟨s', h⟩ := lbCreate_stuckPending
  obtain ⟨s'', h'⟩ := lbCreate_stuckDeleteRaises
  exact ⟨⟨_, _, h, (lbCreate_failure_rollback vip₀ pool₀ .init).1 _ _ h⟩,
    _, h', (lbCreate_failure_rollback vip₀ pool₀ .init).2 _ _ h'⟩

/-- One stage of `lb_create` that ends in a `(False, msg)` reply: either its own wait failed, and
`msg` is its own, after a create and only deletes; or the stages after it produced the reply. -/
theorem createStep_false {spec : Spec} {lb : Nat → Nat} {ids : Nat → LbIds}
    {ret : Bool → Nat → Bool × LbReply} {k : Nat → Op (Bool × LbReply)} {s₁ s' : Neutron}
    {m : String}
    (h : (create b spec >>= fun id => waitForLbReady b (lb id) 60 false >>= fun res =>
      if res = false then lbDelete b (ids id) >>= fun _ => pure (ret res id) else k id) s₁ =
        .ok (false, .msg m) s') :
    (ret false s₁.fresh = (false, .msg m) ∧
      ∃ evs, s'.log = s₁.log ++ .create spec (some s₁.fresh) :: evs ∧ created evs = []) ∨
    ∃ n, k s₁.fresh ((s₁.add spec).waited (lb s₁.fresh) n true) = .ok (false, .msg m) s' := by
  cases hc : b.createRaises s₁.creates
  case true => rw [bind_error (create_raises hc)] at h; cases h
  obtain ⟨n, r, w⟩ := waitForLbReady_frame b (lb s₁.fresh) 60 false (s₁.add spec)
  rw [bind_ok (create_ok hc), bind_ok w] at h
  cases r
  case true => exact .inr ⟨n, h⟩
  rw [if_pos rfl] at h
  have hD := @lbDelete_outcome b (ids s₁.fresh) ((s₁.add spec).waited (lb s₁.fresh) n false)
  cases hdel : lbDelete b (ids s₁.fresh) ((s₁.add spec).waited (lb s₁.fresh) n false) with
  | ok a s₂ =>
    rw [bind_ok hdel] at h
    rw [hdel] at hD
    obtain ⟨evs, hl, hc', -⟩ := hD.2.1.log
    injection h with hm hs
    subst hs
    exact .inl ⟨hm, .wait (lb s₁.fresh) false :: evs, by simp [hl], by simp [hc']⟩
  | error e s₂ => rw [bind_error hdel] at h; cases h

/-- **When `lb_create` returns `(False, msg)`, `msg` names the stage whose readiness wait failed
(`load balancer`, `listener` or `pool`) and the id the backend gave the resource made there; that
resource is the last of those it created, and the ones before it are those of the earlier
stages.** -/
theorem lbCreate_failure_message {vip : Vip} {pool : PoolArgs} {s s' : Neutron} {m : String}
    (h : lbCreate b vip pool s = .ok (false, .msg m) s') :
    ∃ evs, s'.log = s.log ++ evs ∧
      (m = s!"Failed in creating load balancer ({s.fresh})." ∧
          created evs = [⟨.loadbalancer, s.fresh⟩] ∨
        m = s!"Failed in creating listener ({s.fresh + 1})." ∧
          created evs = [⟨.loadbalancer, s.fresh⟩, ⟨.listener, s.fresh + 1⟩] ∨
        m = s!"Failed in creating pool ({s.fresh + 2})." ∧
          created evs = [⟨.loadbalancer, s.fresh⟩, ⟨.listener, s.fresh + 1⟩, ⟨.pool, s.fresh + 2⟩]) := by
  simp only [lbCreate, loadbalancerCreate, listenerCreate, poolCreate] at h
  rcases createStep_false h with ⟨hm, evs, hl, hc⟩ | ⟨n₁, h⟩
  · cases hm
    exact ⟨_, hl, .inl ⟨rfl, by simp [hc, Spec.kind]⟩⟩
  rcases createStep_false h with ⟨hm, evs, hl, hc⟩ | ⟨n₂, h⟩
  · cases hm
    refine ⟨_, by rw [hl]; simp only [Neutron.waited_log, Neutron.add_log, List.append_assoc]; rfl,
      .inr (.inl ⟨rfl, ?_⟩)⟩
    simp [hc, Spec.kind]
  rcases createStep_false h with ⟨hm, evs, hl, hc⟩ | ⟨n₃, h⟩
  · cases hm
    refine ⟨_, by rw [hl]; simp only [Neutron.waited_log, Neutron.add_log, List.append_assoc]; rfl,
      .inr (.inr ⟨rfl, ?_⟩)⟩
    simp [hc, Spec.kind]
  · cases h

theorem lbCreate_failure_message_stuckPending :
    ∃ s', lbCreate stuckPending vip₀ pool₀ .init =
        .ok (false, .msg "Failed in creating load balancer (0).") s' ∧
      ∃ evs, s'.log = Neutron.init.log ++ evs ∧ created evs = [⟨.loadbalancer, 0⟩] := by
  obtain ⟨s', h⟩ := lbCreate_stuckPending
  obtain ⟨evs, hl, hm | hm | hm⟩ := lbCreate_failure_message h
  · exact ⟨s', h, evs, hl, hm.2⟩
  · exact absurd hm.1 (by decide)
  · exact absurd hm.1 (by decide)

section NoDeleteRaises

variable (hd : ∀ k, b.deleteRaises k = false)
include hd

/-- **`lb_create` ends in a `CreateOutcome`, for every behaviour of the backend in which no
delete call raises.** -/
theorem lbCreate_outcome (vip : Vip) (pool : PoolArgs) (s : Neutron) :
    CreateOutcome s (lbCreate b vip pool s) :=
  (lbCreate_outcome_any vip pool s).resolve_right fun h => by
    obtain ⟨k, hk⟩ := h.raised
    rw [hd] at hk
    cases hk

end NoDeleteRaises

end Rollback

theorem lbCreate_outcome_listenerRaises :
    (∀ k, listenerRaises.deleteRaises k = false) ∧
      CreateOutcome .init (lbCreate listenerRaises vip₀ pool₀ .init) :=
  ⟨fun _ => rfl, @lbCreate_outcome listenerRaises (fun _ => rfl) vip₀ pool₀ .init⟩

/-! ### Regressions -/

/-- `listener_create` raises after the load balancer was made and found ready: `lb_create`
raises, no delete is issued, and the load balancer stays in the backend. -/
theorem lbCreate_leaks_loadbalancer :
    ∃ s', lbCreate listenerRaises vip₀ pool₀ .init =
        .error (.create (.listener 0 "HTTP" 80 none true)) s' ∧
      s'.live = [⟨.loadbalancer, 0⟩] ∧ deleted s'.log = [] := by
  simp only [lbCreate, loadbalancerCreate, listenerCreate]
  rw [bind_ok (create_ok rfl), bind_ok (waitForLbReady_eq _ _ _ _ _)]
  have : firstReady (listenerRaises.ready false 0 0) (pollBudget 60 0) = (true, 1) := by decide
  simp only [Neutron.add_polls, this]
  rw [if_neg (by decide), bind_error (create_raises rfl)]
  exact ⟨_, rfl, rfl, rfl⟩

/-- On `stuckPending`, `member_add` returns a member id, `member_remove` returns `True` and
`lb_delete` returns `(True, _)`, although each of their readiness waits returned `False`. -/
theorem success_reported_after_timeouts :
    (∃ s', memberAdd stuckPending node₀ 0 0 80 "subnet-1" .init = .ok (some 0) s' ∧
      Event.wait 0 false ∈ s'.log) ∧
    (∃ s', memberRemove stuckPending 0 0 1 .init = .ok true s' ∧ Event.wait 0 false ∈ s'.log) ∧
    (∃ s', lbDelete stuckPending ⟨0, none, none, none⟩ .init =
      .ok (true, "LB deletion succeeded") s' ∧ Event.wait 0 false ∈ s'.log) := by
  have hnode : (getNodeAddress node₀ 4).get? "private" = some "10.0.0.5" := by decide
  refine ⟨?_, ?_, ?_⟩
  · exact ⟨_, memberAdd_of_wait stuckPending hnode rfl (stuckPending_wait 0 60 _), by simp⟩
  · exact ⟨_, memberRemove_of_wait stuckPending rfl (stuckPending_wait 0 60 _), by simp⟩
  · refine ⟨(Neutron.init.remove ⟨.loadbalancer, 0⟩).waited 0 (pollBudget 1 0) false, ?_, by simp⟩
    simp only [lbDelete, deleteIfGiven, loadbalancerDelete]
    rw [bind_ok (pure_apply _), bind_ok (pure_apply _), bind_ok (pure_apply _),
      bind_ok (delete_ok rfl), bind_ok (stuckPending_wait _ _ _)]
    rfl

end Senlin.Lbaas
