import Senlin.Lbaas.Backend
import Mathlib.Data.Rat.Floor

/-!
# `_wait_for_lb_ready`: polling a load balancer until it is ready

```
waited = 0
while waited < timeout:
    lb = self.nc().loadbalancer_get(lb_id)
    ...
    if lb_ready is True: return True
    eventlet.sleep(2)
    waited += 2
return False
```

`waitLoop` is the `while` loop, by well-founded recursion on `timeout - waited`;
`waitForLbReady` starts it at `waited = 0`. What the loop computes is `firstReady`: the first of
a budget of polls that ends the wait. `waitLoop_eq` says the loop is exactly that, and
`waitForLbReady_spec` reads off termination within `max 0 ⌈timeout / 2⌉` polls, the result, and
that polling stops at the first answer that ends the wait.
-/

namespace Senlin.Lbaas

/-- Whether a `loadbalancer_get` answer ends the wait: provisioning `ACTIVE` and operating
`ONLINE`, or an absent load balancer when `ignore_not_found`. -/
def lbReady (ignoreNotFound : Bool) : Option LbStatus → Bool
  | none => ignoreNotFound
  | some lb => lb.provisioningStatus == "ACTIVE" && lb.operatingStatus == "ONLINE"

variable (b : Behaviour)

/-- The `while waited < timeout` loop of `_wait_for_lb_ready`. -/
def waitLoop (lbId : Nat) (timeout : Int) (ignoreNotFound : Bool) (waited : Int) : Op Bool := do
  if waited < timeout then
    let lb ← loadbalancerGet b lbId
    if lbReady ignoreNotFound lb then return true
    else waitLoop lbId timeout ignoreNotFound (waited + 2)
  else return false
termination_by (timeout - waited).toNat

/-- Append a ghost entry to the backend log. -/
def note (e : Event) : Op Unit := fun s => .ok () { s with log := s.log ++ [e] }

/-- `_wait_for_lb_ready(lb_id, timeout, ignore_not_found)`; the source's defaults are
`timeout=60` and `ignore_not_found=False`. The result is noted in the log. -/
def waitForLbReady (lbId : Nat) (timeout : Int) (ignoreNotFound : Bool) : Op Bool := do
  let r ← waitLoop b lbId timeout ignoreNotFound 0
  note (.wait lbId r)
  return r

/-! ### What the loop computes -/

/-- Scan the polls `0, 1, …, n - 1` for the first one that ends the wait: the wait's result
and the number of polls made. -/
def firstReady (ready : Nat → Bool) : Nat → Bool × Nat
  | 0 => (false, 0)
  | n + 1 =>
    if ready 0 then (true, 1)
    else
      let r := firstReady (fun k => ready (k + 1)) n
      (r.1, r.2 + 1)

/-- The number of polls the loop may still make, started at `waited`. -/
def pollBudget (timeout waited : Int) : Nat := ((timeout - waited + 1) / 2).toNat

/-- The answers, from the poll numbered `start` on, as seen by a wait on load balancer `lbId`. -/
def Behaviour.ready (ignoreNotFound : Bool) (lbId start : Nat) (k : Nat) : Bool :=
  lbReady ignoreNotFound (b.poll (start + k) lbId)

theorem Behaviour.ready_succ (ign : Bool) (lbId start : Nat) :
    b.ready ign lbId (start + 1) = fun k => b.ready ign lbId start (k + 1) := by
  funext k
  simp only [Behaviour.ready, Nat.add_right_comm, Nat.add_assoc]

section FirstReady

variable (ready : Nat → Bool)

theorem firstReady_le (n : Nat) : (firstReady ready n).2 ≤ n := by
  induction n generalizing ready with
  | zero => rfl
  | succ n ih =>
    simp only [firstReady]
    split
    · omega
    · exact Nat.succ_le_succ (ih _)

theorem firstReady_fst (n : Nat) :
    (firstReady ready n).1 = true ↔ ∃ k < n, ready k = true := by
  induction n generalizing ready with
  | zero => simp [firstReady]
  | succ n ih =>
    simp only [firstReady]
    split
    · exact iff_of_true rfl ⟨0, Nat.succ_pos n, ‹_›⟩
    · rw [ih]
      constructor
      · rintro ⟨k, hk, h⟩
        exact ⟨k + 1, by omega, h⟩
      · rintro ⟨_ | k, hk, h⟩
        · simp_all
        · exact ⟨k, by omega, h⟩

theorem firstReady_pos (n : Nat) (h : (firstReady ready n).1 = true) :
    0 < (firstReady ready n).2 := by
  cases n with
  | zero => cases h
  | succ n =>
    simp only [firstReady]
    split <;> simp

/-- Polling stops at the first poll that ends the wait: of the polls made, only the last can
end it, and it does exactly when the result is `True`. -/
theorem firstReady_polls (n : Nat) :
    ∀ k < (firstReady ready n).2,
      ready k = ((firstReady ready n).1 && k + 1 == (firstReady ready n).2) := by
  induction n generalizing ready with
  | zero => simp [firstReady]
  | succ n ih =>
    simp only [firstReady]
    split
    · intro k hk
      obtain rfl : k = 0 := by omega
      simpa
    · rintro (_ | k) hk
      · have := firstReady_pos (fun k => ready (k + 1)) n
        cases h : (firstReady (fun k => ready (k + 1)) n).1 <;> simp_all [Nat.pos_iff_ne_zero]
      · simpa using ih (fun k => ready (k + 1)) k (by simpa using hk)

/-- A scan that never sees an answer ending the wait uses its whole budget. -/
theorem firstReady_of_never (h : ∀ k, ready k = false) (n : Nat) : firstReady ready n = (false, n) := by
  induction n generalizing ready with
  | zero => rfl
  | succ n ih => rw [firstReady, ih _ fun k => h (k + 1), if_neg (by simp [h])]

end FirstReady

theorem pollBudget_step {timeout waited : Int} (h : waited < timeout) :
    pollBudget timeout waited = pollBudget timeout (waited + 2) + 1 := by
  unfold pollBudget; omega

theorem pollBudget_stop {timeout waited : Int} (h : ¬waited < timeout) :
    pollBudget timeout waited = 0 := by
  unfold pollBudget; omega

/-- The budget of the whole wait is `max 0 ⌈timeout / 2⌉`. -/
theorem pollBudget_zero (timeout : Int) :
    (pollBudget timeout 0 : ℤ) = max 0 ⌈(timeout : ℚ) / 2⌉ := by
  have hceil : ⌈(timeout : ℚ) / 2⌉ = (timeout + 1) / 2 := by
    rw [Int.ceil_eq_iff]
    constructor
    · rw [lt_div_iff₀ (by norm_num : (0 : ℚ) < 2)]
      have : ((timeout + 1) / 2 - 1) * 2 < timeout := by omega
      exact_mod_cast this
    · rw [div_le_iff₀ (by norm_num : (0 : ℚ) < 2)]
      have : timeout ≤ (timeout + 1) / 2 * 2 := by omega
      exact_mod_cast this
  rw [hceil, pollBudget]
  omega

/-! ### The loop is the scan -/

/-- **The `while` loop makes the polls of `firstReady` and nothing else.** -/
theorem waitLoop_eq (lbId : Nat) (timeout : Int) (ign : Bool) (waited : Int) (s : Neutron) :
    waitLoop b lbId timeout ign waited s =
      .ok (firstReady (b.ready ign lbId s.polls) (pollBudget timeout waited)).1
        { s with polls := s.polls + (firstReady (b.ready ign lbId s.polls)
            (pollBudget timeout waited)).2 } := by
  induction waited using waitLoop.induct b lbId timeout ign generalizing s with
  | case1 waited h ih =>
    rw [waitLoop, if_pos h, pollBudget_step h, bind_ok (loadbalancerGet_apply lbId)]
    by_cases hr : lbReady ign (b.poll s.polls lbId) = true
    · simp [firstReady, Behaviour.ready, hr]
    · have h0 : b.ready ign lbId s.polls 0 = false := by simpa [Behaviour.ready] using hr
      rw [if_neg hr, ih]
      simp only [firstReady, h0, Behaviour.ready_succ]
      simp [Nat.add_assoc, Nat.add_comm 1]
  | case2 waited h =>
    rw [waitLoop, if_neg h, pollBudget_stop h]
    rfl

/-- The store after a wait on `lb` that made `n` polls and returned `r`. -/
def Neutron.waited (s : Neutron) (lb n : Nat) (r : Bool) : Neutron :=
  { s with polls := s.polls + n, log := s.log ++ [.wait lb r] }

@[simp] theorem Neutron.waited_live (s : Neutron) (lb n : Nat) (r : Bool) :
    (s.waited lb n r).live = s.live := rfl
@[simp] theorem Neutron.waited_fresh (s : Neutron) (lb n : Nat) (r : Bool) :
    (s.waited lb n r).fresh = s.fresh := rfl
@[simp] theorem Neutron.waited_creates (s : Neutron) (lb n : Nat) (r : Bool) :
    (s.waited lb n r).creates = s.creates := rfl
@[simp] theorem Neutron.waited_deletes (s : Neutron) (lb n : Nat) (r : Bool) :
    (s.waited lb n r).deletes = s.deletes := rfl
@[simp] theorem Neutron.waited_polls (s : Neutron) (lb n : Nat) (r : Bool) :
    (s.waited lb n r).polls = s.polls + n := rfl
@[simp] theorem Neutron.waited_log (s : Neutron) (lb n : Nat) (r : Bool) :
    (s.waited lb n r).log = s.log ++ [.wait lb r] := rfl

/-- `_wait_for_lb_ready` is the scan from the next poll, with its result noted. -/
theorem waitForLbReady_eq (lbId : Nat) (timeout : Int) (ign : Bool) (s : Neutron) :
    waitForLbReady b lbId timeout ign s =
      .ok (firstReady (b.ready ign lbId s.polls) (pollBudget timeout 0)).1
        (s.waited lbId (firstReady (b.ready ign lbId s.polls) (pollBudget timeout 0)).2
          (firstReady (b.ready ign lbId s.polls) (pollBudget timeout 0)).1) := by
  simp only [waitForLbReady, bind_ok (waitLoop_eq b lbId timeout ign 0 s)]
  rfl

/-- A wait returns, having polled and noted its result. -/
theorem waitForLbReady_frame (lbId : Nat) (timeout : Int) (ign : Bool) (s : Neutron) :
    ∃ n r, waitForLbReady b lbId timeout ign s = .ok r (s.waited lbId n r) :=
  ⟨_, _, waitForLbReady_eq b lbId timeout ign s⟩

/-- **`_wait_for_lb_ready` terminates after at most `max 0 ⌈timeout / 2⌉` polls; it returns
`True` exactly when one of the polls in that budget ends the wait; and it stops polling at the
first such answer.** -/
theorem waitForLbReady_spec (lbId : Nat) (timeout : Int) (ign : Bool) (s : Neutron) :
    ∃ n r, waitForLbReady b lbId timeout ign s =
        .ok r { s with polls := s.polls + n, log := s.log ++ [.wait lbId r] } ∧
      (n : ℤ) ≤ max 0 ⌈(timeout : ℚ) / 2⌉ ∧
      (r = true ↔ ∃ k : ℕ, (k : ℤ) < max 0 ⌈(timeout : ℚ) / 2⌉ ∧
        lbReady ign (b.poll (s.polls + k) lbId) = true) ∧
      ∀ k < n, lbReady ign (b.poll (s.polls + k) lbId) = (r && k + 1 == n) := by
  refine ⟨_, _, waitForLbReady_eq b lbId timeout ign s, ?_, ?_, firstReady_polls _ _⟩
  · rw [← pollBudget_zero]
    exact_mod_cast firstReady_le _ _
  · rw [firstReady_fst, ← pollBudget_zero]
    simp only [Behaviour.ready, Nat.cast_lt]

end Senlin.Lbaas
