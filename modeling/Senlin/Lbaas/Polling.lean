import Senlin.Lbaas.Driver

/-!
# How long the driver blocks

`_wait_for_lb_ready` sleeps two seconds after each poll that does not end the wait, and stops once
`waited` reaches its timeout: a wait with the default `timeout=60` calls `loadbalancer_get` at most
30 times, and the last wait of `lb_delete`, whose timeout is the `True` it passes, at most once.
No other call of the driver polls. `PollsAtMost n m` says that `m` makes at most `n` polls from
any backend, whether it returns or raises; it composes along `>>=`, `if` and `try`, and gives:

* `lb_create`: at most 151 polls, three waits and the cleanup of its last stage;
* `lb_delete`: at most 30 for each of the health monitor, pool and listener given, and 1;
* `member_add` and `member_remove`: at most 30.
-/

namespace Senlin.Lbaas

/-- The backend a run ends with, whether it returned or raised. -/
def endState {α : Type} : EStateM.Result BackendError Neutron α → Neutron
  | .ok _ s => s
  | .error _ s => s

/-- `m` makes at most `n` `loadbalancer_get` calls from any backend, whether it returns or
raises. -/
def PollsAtMost {α : Type} (n : Nat) (m : Op α) : Prop :=
  ∀ s, (endState (m s)).polls ≤ s.polls + n

/-! ### Composing bounds -/

section Compose

variable {α β : Type} {n k : Nat}

theorem PollsAtMost.mono {m : Op α} (h : PollsAtMost n m) (hk : n ≤ k) : PollsAtMost k m :=
  fun s => Nat.le_trans (h s) (Nat.add_le_add_left hk _)

theorem PollsAtMost.pure (a : α) : PollsAtMost 0 (Pure.pure a : Op α) := fun _ => Nat.le_refl _

theorem PollsAtMost.bind {m : Op α} {f : α → Op β} (hm : PollsAtMost n m)
    (hf : ∀ a, PollsAtMost k (f a)) : PollsAtMost (n + k) (m >>= f) := by
  intro s
  have h := hm s
  cases hms : m s with
  | ok a s₁ =>
    rw [hms] at h
    rw [bind_ok hms]
    have := hf a s₁
    simp only [endState] at h
    omega
  | error e s₁ =>
    rw [hms] at h
    rw [bind_error hms]
    simp only [endState] at h ⊢
    omega

theorem PollsAtMost.ite {c : Prop} [Decidable c] {m₁ m₂ : Op α} (h₁ : PollsAtMost n m₁)
    (h₂ : PollsAtMost n m₂) : PollsAtMost n (if c then m₁ else m₂) := by
  split
  exacts [h₁, h₂]

theorem PollsAtMost.tryCatch {m : Op α} {h : BackendError → Op α} (hm : PollsAtMost n m)
    (hh : ∀ e, PollsAtMost k (h e)) : PollsAtMost (n + k) (tryCatch m h) := by
  intro s
  have h₀ := hm s
  cases hms : m s with
  | ok a s₁ =>
    rw [hms] at h₀
    rw [tryCatch_ok hms]
    simp only [endState] at h₀ ⊢
    omega
  | error e s₁ =>
    rw [hms] at h₀
    rw [tryCatch_error hms]
    have := hh e s₁
    simp only [endState] at h₀
    omega

end Compose

/-! ### The calls of the driver -/

variable (b : Behaviour)

theorem create_polls (spec : Spec) : PollsAtMost 0 (create b spec) := fun s => by
  unfold create
  split <;> exact Nat.le_refl _

theorem delete_polls (ref : Ref) : PollsAtMost 0 (delete b ref) := fun s => by
  unfold delete
  split <;> exact Nat.le_refl _

/-- A wait polls at most `pollBudget timeout 0` times: 30 for the default timeout. -/
theorem waitForLbReady_polls (lbId : Nat) (timeout : Int) (ign : Bool) :
    PollsAtMost (pollBudget timeout 0) (waitForLbReady b lbId timeout ign) := fun s => by
  rw [waitForLbReady_eq]
  exact Nat.add_le_add_left (firstReady_le _ _) _

/-- The number of polls of a wait with the default timeout, and of one with the timeout `True`. -/
theorem pollBudget_default : pollBudget 60 0 = 30 := by decide
theorem pollBudget_true : pollBudget 1 0 = 1 := by decide

theorem deleteIfGiven_polls (del : Nat → Op Unit) (hdel : ∀ id, PollsAtMost 0 (del id))
    (lbId : Nat) (o : Option Nat) : PollsAtMost (30 * o.toList.length) (deleteIfGiven b del lbId o) := by
  cases o with
  | none => exact PollsAtMost.pure ()
  | some id =>
    refine ((hdel id).bind fun _ => (waitForLbReady_polls b lbId 60 false).bind fun _ =>
      PollsAtMost.pure ()).mono ?_
    simp [pollBudget_default]

theorem lbDelete_polls (ids : LbIds) :
    PollsAtMost (30 * (ids.refs.length - 1) + 1) (lbDelete b ids) := by
  refine ((deleteIfGiven_polls b _ (fun _ => delete_polls b _) _ _).bind fun _ =>
    (deleteIfGiven_polls b _ (fun _ => delete_polls b _) _ _).bind fun _ =>
    (deleteIfGiven_polls b _ (fun _ => delete_polls b _) _ _).bind fun _ =>
    (delete_polls b _).bind fun _ => (waitForLbReady_polls b _ 1 false).bind fun _ =>
    PollsAtMost.pure _).mono ?_
  rcases ids with ⟨lb, _ | li, _ | po, _ | hm⟩ <;> simp [LbIds.refs, pollBudget_true]

/-- One stage of `lb_create`: a create call, a wait, and `_cleanup` or the later stages. -/
theorem createStep_polls {spec : Spec} {lb : Nat → Nat} {ids : Nat → LbIds}
    {ret : Bool → Nat → Bool × LbReply} {k : Nat → Op (Bool × LbReply)} (n₁ n₂ : Nat)
    (hdel : ∀ id, PollsAtMost n₁ (lbDelete b (ids id))) (hk : ∀ id, PollsAtMost n₂ (k id)) :
    PollsAtMost (30 + max n₁ n₂) (create b spec >>= fun id =>
      waitForLbReady b (lb id) 60 false >>= fun res =>
        if res = false then lbDelete b (ids id) >>= fun _ => Pure.pure (ret res id) else k id) := by
  refine ((create_polls b spec).bind fun id => (waitForLbReady_polls b (lb id) 60 false).bind
    fun _ => PollsAtMost.ite (((hdel id).bind fun _ => PollsAtMost.pure _).mono ?_)
      ((hk id).mono (Nat.le_max_right n₁ n₂))).mono ?_
  · exact Nat.add_zero n₁ ▸ Nat.le_max_left n₁ n₂
  · simp [pollBudget_default]

/-- `lb_create`: three stages of 30 polls, and the cleanup of a stage deletes what the earlier
stages made (1, 31 and 61 polls). -/
theorem lbCreate_polls (vip : Vip) (pool : PoolArgs) : PollsAtMost 151 (lbCreate b vip pool) := by
  refine PollsAtMost.mono ?_ (show 30 + max 1 (30 + max 31 (30 + max 61 0)) ≤ 151 by decide)
  simp only [lbCreate, loadbalancerCreate, listenerCreate, poolCreate]
  apply createStep_polls b 1 _
  · intro _; exact (lbDelete_polls b _).mono (by simp [LbIds.refs])
  intro _
  apply createStep_polls b 31 _
  · intro _; exact (lbDelete_polls b _).mono (by simp [LbIds.refs])
  intro _
  apply createStep_polls b 61 _
  · intro _; exact (lbDelete_polls b _).mono (by simp [LbIds.refs])
  intro _
  exact PollsAtMost.pure _

theorem memberAdd_polls (node : Node) (lbId poolId port : Nat) (subnet : String) :
    PollsAtMost 30 (memberAdd b node lbId poolId port subnet) := by
  simp only [memberAdd]
  split
  · exact (PollsAtMost.pure _).mono (Nat.zero_le _)
  split
  · exact (PollsAtMost.pure _).mono (Nat.zero_le _)
  exact ((create_polls b _).bind fun _ => (waitForLbReady_polls b lbId 60 false).bind fun _ =>
    PollsAtMost.pure _).mono (by simp [pollBudget_default])

theorem memberRemove_polls (lbId poolId memberId : Nat) :
    PollsAtMost 30 (memberRemove b lbId poolId memberId) :=
  (((delete_polls b _).bind fun _ => (waitForLbReady_polls b lbId 60 false).bind fun _ =>
    PollsAtMost.pure _).tryCatch fun _ => PollsAtMost.pure _).mono (by simp [pollBudget_default])

/-- **Every public operation of the driver polls `loadbalancer_get` a bounded number of times,
on every backend and whether it returns or raises: `lb_create` at most 151 times, `lb_delete` at
most 30 times for each of the health monitor, pool and listener it is given and once more, and
`member_add` and `member_remove` at most 30 times each.** -/
theorem driver_polls_bounded (vip : Vip) (pool : PoolArgs) (ids : LbIds) (node : Node)
    (lbId poolId memberId port : Nat) (subnet : String) :
    PollsAtMost 151 (lbCreate b vip pool) ∧
    PollsAtMost (30 * (ids.refs.length - 1) + 1) (lbDelete b ids) ∧
    PollsAtMost 30 (memberAdd b node lbId poolId port subnet) ∧
    PollsAtMost 30 (memberRemove b lbId poolId memberId) :=
  ⟨lbCreate_polls b vip pool, lbDelete_polls b ids, memberAdd_polls b node lbId poolId port subnet,
    memberRemove_polls b lbId poolId memberId⟩

end Senlin.Lbaas
