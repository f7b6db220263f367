import Senlin.Lbaas.Rollback

/-!
# Taking down what the driver built

`lb_delete` and `member_remove` are the inverses the load-balancing policy relies on: the first
takes down the load balancer that `lb_create` built, from the `result` dict `lb_create`
returned, and the second the member that `member_add` registered. This module says what they do
on every backend, and that they undo what the create side did:

* `lbDelete_succeeds` and `lbDelete_raises_first`: `lb_delete` reports success exactly when none
  of its delete calls raises, and otherwise raises the exception of the first one that does,
  after the resources before it were deleted;
* `lbCreate_lbDelete`: `lb_delete` on what a successful `lb_create` returned restores the
  backend's resources;
* `memberRemove_never_raises`: `member_remove` returns on every backend, `False` exactly when its
  delete call raised;
* `memberAdd_memberRemove`: `member_remove` on the id `member_add` returned restores the
  backend's resources.

The round trips restore the live resources, not the backend's call counters or its log.
-/

namespace Senlin.Lbaas

/-! ### Example backends -/

/-- A backend whose second delete call raises. -/
def secondDeleteRaises : Behaviour where
  createRaises _ := false
  deleteRaises k := k == 1
  poll _ _ := some ⟨"ACTIVE", "ONLINE"⟩
  subnetNetwork _ := "net-1"
  networkName _ := "private"

/-- The `result` of a run of `lb_create` from the initial store. -/
def ids₀ : LbIds := ⟨0, some 1, some 2, none⟩

/-- On `healthy`, a wait sees the load balancer ready at its first poll. -/
theorem healthy_wait (lbId : Nat) (s : Neutron) :
    waitForLbReady healthy lbId 60 false s = .ok true (s.waited lbId 1 true) := by
  rw [waitForLbReady_eq]
  rfl

/-- On `healthy`, `lb_create` succeeds, with the next three ids. -/
theorem lbCreate_healthy (vip : Vip) (pool : PoolArgs) (s : Neutron) :
    ∃ s', lbCreate healthy vip pool s =
      .ok (true, .result ⟨s.fresh, some (s.fresh + 1), some (s.fresh + 2), none⟩) s' := by
  simp only [lbCreate, loadbalancerCreate, listenerCreate, poolCreate]
  rw [bind_ok (create_ok rfl), bind_ok (healthy_wait _ _), if_neg (by decide),
    bind_ok (create_ok rfl), bind_ok (healthy_wait _ _), if_neg (by decide),
    bind_ok (create_ok rfl), bind_ok (healthy_wait _ _), if_neg (by decide)]
  exact ⟨_, rfl⟩

/-! ### `lb_delete` on every backend -/

section Delete

variable {b : Behaviour}

/-- **When none of its delete calls raises, `lb_delete` reports success, having deleted the
health monitor, pool, listener (those given) and load balancer, in that order, and created
nothing.** -/
theorem lbDelete_succeeds (ids : LbIds) (s : Neutron)
    (hd : ∀ i < ids.refs.length, b.deleteRaises (s.deletes + i) = false) :
    ∃ s', lbDelete b ids s = .ok (true, "LB deletion succeeded") s' ∧
      s'.live = ids.refs.foldl List.erase s.live ∧
      ∃ evs, s'.log = s.log ++ evs ∧ created evs = [] ∧ deleted evs = ids.refs := by
  obtain ⟨s', h, D⟩ := (lbDelete_outcome ids s).ok_of_forall hd
  exact ⟨s', h, D.live, D.log⟩

theorem lbDelete_succeeds_healthy :
    (∀ i < ids₀.refs.length, healthy.deleteRaises (Neutron.init.deletes + i) = false) ∧
      ∃ s', lbDelete healthy ids₀ .init = .ok (true, "LB deletion succeeded") s' ∧
        s'.live = ids₀.refs.foldl List.erase Neutron.init.live ∧
        ∃ evs, s'.log = Neutron.init.log ++ evs ∧ created evs = [] ∧ deleted evs = ids₀.refs :=
  ⟨fun _ _ => rfl, lbDelete_succeeds ids₀ .init fun _ _ => rfl⟩

/-- **When its `k`-th delete call is the first that raises, `lb_delete` raises that call's
exception, naming the `k`-th resource, after deleting the `k` resources before it; the ones
after it are not touched.** -/
theorem lbDelete_raises_first (ids : LbIds) (s : Neutron) (k : Nat) (hk : k < ids.refs.length)
    (hpre : ∀ i < k, b.deleteRaises (s.deletes + i) = false)
    (hraise : b.deleteRaises (s.deletes + k) = true) :
    ∃ s', lbDelete b ids s = .error (.delete ids.refs[k]) s' ∧
      s'.live = (ids.refs.take k).foldl List.erase s.live := by
  obtain ⟨s₁, h, D⟩ := (lbDelete_outcome ids s).error_of_first hk hpre hraise
  exact ⟨_, h, D.live⟩

theorem lbDelete_raises_first_listener :
    1 < ids₀.refs.length ∧
      (∀ i < 1, secondDeleteRaises.deleteRaises (Neutron.init.deletes + i) = false) ∧
      secondDeleteRaises.deleteRaises (Neutron.init.deletes + 1) = true ∧
      ∃ s', lbDelete secondDeleteRaises ids₀ .init = .error (.delete ⟨.listener, 1⟩) s' ∧
        s'.live = [] :=
  ⟨by decide, by decide, rfl, lbDelete_raises_first ids₀ .init 1 (by decide) (by decide) rfl⟩

/-- **`lb_delete` on the `result` of a successful `lb_create` takes down what `lb_create` built:
when none of its three delete calls raises, it reports success, and the backend's resources are
again those before `lb_create`.** -/
theorem lbCreate_lbDelete {vip : Vip} {pool : PoolArgs} {s s₁ : Neutron} {ids : LbIds}
    (h : lbCreate b vip pool s = .ok (true, .result ids) s₁)
    (hd : ∀ i < 3, b.deleteRaises (s₁.deletes + i) = false) :
    ∃ s₂, lbDelete b ids s₁ = .ok (true, "LB deletion succeeded") s₂ ∧ s₂.live = s.live := by
  have hc := @lbCreate_outcome_any b vip pool s
  rw [h] at hc
  obtain ⟨lb, li, po, rfl, C⟩ := hc.resolve_right id
  obtain ⟨s₂, h₂, D⟩ := (@lbDelete_outcome b ⟨lb, some li, some po, none⟩ s₁).ok_of_forall hd
  refine ⟨s₂, h₂, ?_⟩
  rw [D.live, C.live]
  exact foldl_erase_append _ _

theorem lbCreate_lbDelete_healthy :
    ∃ s₁, lbCreate healthy vip₀ pool₀ .init = .ok (true, .result ids₀) s₁ ∧
      (∀ i < 3, healthy.deleteRaises (s₁.deletes + i) = false) ∧
      ∃ s₂, lbDelete healthy ids₀ s₁ = .ok (true, "LB deletion succeeded") s₂ ∧
        s₂.live = Neutron.init.live := by
  obtain ⟨s₁, h⟩ := lbCreate_healthy vip₀ pool₀ .init
  exact ⟨s₁, h, fun _ _ => rfl, lbCreate_lbDelete h fun _ _ => rfl⟩

end Delete

/-! ### Members -/

section Members

variable (b : Behaviour)

/-- **`member_remove` returns on every backend: `True` and the member deleted when its delete
call returned, `False` and the backend's resources unchanged when it raised.** -/
theorem memberRemove_never_raises (lbId poolId memberId : Nat) (s : Neutron) :
    ∃ s', memberRemove b lbId poolId memberId s = .ok (!b.deleteRaises s.deletes) s' ∧
      s'.live = if b.deleteRaises s.deletes then s.live else s.live.erase ⟨.member, memberId⟩ := by
  cases hd : b.deleteRaises s.deletes
  case false =>
    obtain ⟨n, r, w⟩ := waitForLbReady_frame b lbId 60 false (s.remove ⟨.member, memberId⟩)
    exact ⟨_, memberRemove_of_wait b hd w, rfl⟩
  case true =>
    refine ⟨s.deleteFailed ⟨.member, memberId⟩, ?_, rfl⟩
    simp only [memberRemove, poolMemberDelete]
    rw [tryCatch_error (bind_error (delete_raises hd))]
    rfl

/-- **`member_remove` on the id `member_add` returned takes the member out again: when its
delete call returns, it reports `True`, and the backend's resources are those before
`member_add`.** -/
theorem memberAdd_memberRemove {node : Node} {lbId poolId port : Nat} {subnet : String}
    {s s₁ : Neutron} {m : Nat} (h : memberAdd b node lbId poolId port subnet s = .ok (some m) s₁)
    (hd : b.deleteRaises s₁.deletes = false) :
    ∃ s₂, memberRemove b lbId poolId m s₁ = .ok true s₂ ∧ s₂.live = s.live := by
  obtain ⟨n, r, w⟩ := waitForLbReady_frame b lbId 60 false (s₁.remove ⟨.member, m⟩)
  refine ⟨_, memberRemove_of_wait b hd w, ?_⟩
  rw [Neutron.waited_live, Neutron.remove_live, memberAdd_live b h, List.erase_cons_head]

theorem memberAdd_memberRemove_node₀ :
    ∃ s₁, memberAdd healthy node₀ 0 0 80 "subnet-1" .init = .ok (some 0) s₁ ∧
      healthy.deleteRaises s₁.deletes = false ∧
      ∃ s₂, memberRemove healthy 0 0 0 s₁ = .ok true s₂ ∧ s₂.live = Neutron.init.live := by
  have hnode : (getNodeAddress node₀ 4).get? "private" = some "10.0.0.5" := by decide
  have h : memberAdd healthy node₀ 0 0 80 "subnet-1" .init = _ :=
    memberAdd_of_wait healthy hnode rfl (healthy_wait 0 _)
  exact ⟨_, h, rfl, memberAdd_memberRemove healthy h rfl⟩

end Members

end Senlin.Lbaas
