import Senlin.Lbaas.Driver

/-!
# Pool members: which address `member_add` registers

`_get_node_address(node, version=4)` walks the node's `addresses`, network by network and entry
by entry, overwriting `address[network]` with every entry of the version; so it keeps, for each
network, the *last* IPv4 entry (`lastOfVersion`). `member_add` then looks up the name of the
subnet's network.

`getNodeAddress_get?` reads the nested loop as a lookup, and `getNodeAddress_isSome` and
`getNodeAddress_mem` say when it finds an address and which; `memberAdd_address` says that
`member_add` calls `pool_member_create` exactly when the node has an IPv4 address on the
subnet's network, always with one of those addresses, and otherwise returns `None` without a
call, and `memberAdd_last_address` that the address is the last one listed. `memberAdd_spec`
is `member_add` on every backend, and `memberAdd_effect` what it changes there.
`memberAdd_of_wait` and `memberRemove_of_wait` record that neither operation looks at the result
of its readiness wait.
-/

namespace Senlin.Lbaas

/-- What the inner loop of `_get_node_address` leaves for a network: the address of the last
entry of the version, or what was there before. -/
def lastOfVersion (version : Nat) (addrs : List AddrEntry) (init : Option String) :
    Option String :=
  addrs.foldl (fun r e => if e.version = version then some e.addr else r) init

section Address

variable (version : Nat)

theorem lastOfVersion_eq_some {addrs : List AddrEntry} {init : Option String} {a : String}
    (h : lastOfVersion version addrs init = some a) :
    (∃ e ∈ addrs, e.version = version ∧ e.addr = a) ∨ init = some a := by
  induction addrs generalizing init with
  | nil => exact .inr h
  | cons e rest ih =>
    rcases ih h with ⟨e', he', hv⟩ | hi
    · exact .inl ⟨e', List.mem_cons_of_mem _ he', hv⟩
    · by_cases hv : e.version = version
      · simp only [hv, if_true, Option.some.injEq] at hi
        exact .inl ⟨e, List.mem_cons_self _ _, hv, hi⟩
      · simp only [hv, if_false] at hi
        exact .inr hi

theorem lastOfVersion_isSome (addrs : List AddrEntry) (init : Option String) :
    (lastOfVersion version addrs init).isSome ↔
      (∃ e ∈ addrs, e.version = version) ∨ init.isSome := by
  induction addrs generalizing init with
  | nil => simp [lastOfVersion]
  | cons e rest ih =>
    simp only [lastOfVersion, List.foldl_cons] at ih ⊢
    rw [ih]
    by_cases hv : e.version = version <;> simp [hv]

/-- The inner loop of `_get_node_address` keeps the address of the last entry of the version. -/
theorem lastOfVersion_eq_getLast? (addrs : List AddrEntry) (init : Option String) :
    lastOfVersion version addrs init =
      ((addrs.filter (·.version == version)).getLast?.map (·.addr)).or init := by
  induction addrs generalizing init with
  | nil => rfl
  | cons e rest ih =>
    simp only [lastOfVersion, List.foldl_cons] at ih ⊢
    rw [ih]
    by_cases hv : e.version = version
    · simp only [hv, if_true, List.filter_cons, beq_self_eq_true, List.getLast?_cons]
      cases (rest.filter (·.version == version)).getLast? <;> rfl
    · simp [hv, List.filter_cons]

theorem get?_addAddresses (network : String) (acc : PyDict String) (addrs : List AddrEntry)
    (n : String) :
    (addAddresses version network acc addrs).get? n =
      if n = network then lastOfVersion version addrs (acc.get? n) else acc.get? n := by
  induction addrs generalizing acc with
  | nil => by_cases hn : n = network <;> simp [addAddresses, lastOfVersion, hn]
  | cons e rest ih =>
    simp only [addAddresses, lastOfVersion, List.foldl_cons] at ih ⊢
    rw [ih]
    by_cases hn : n = network <;> by_cases hv : e.version = version <;> simp [hn, hv]

theorem get?_foldl_addAddresses (n : String) (items : List (String × List AddrEntry))
    (hnd : (items.map Prod.fst).Nodup) (acc : PyDict String) :
    (items.foldl (fun address p => addAddresses version p.1 address p.2) acc).get? n =
      (items.lookup n).elim (acc.get? n) (lastOfVersion version · (acc.get? n)) := by
  induction items generalizing acc with
  | nil => rfl
  | cons p rest ih =>
    obtain ⟨k, addrs⟩ := p
    simp only [List.map_cons, List.nodup_cons] at hnd
    rw [List.foldl_cons, ih hnd.2, get?_addAddresses]
    by_cases hn : n = k
    · subst hn
      have : rest.lookup n = none :=
        List.lookup_eq_none_iff.2 fun p hp => bne_iff_ne.2 fun e => hnd.1 (e ▸ List.mem_map_of_mem _ hp)
      simp [this]
    · simp [hn, lookup_cons_of_ne _ _ hn]

/-- **`_get_node_address` keeps, for each network, the last entry of the version.** -/
theorem getNodeAddress_get? (node : Node) (n : String) :
    (getNodeAddress node version).get? n =
      (node.addresses.get? n).bind (lastOfVersion version · none) := by
  rw [getNodeAddress, get?_foldl_addAddresses version n _ node.addresses.nodup, PyDict.get?_empty]
  simp only [PyDict.get?]
  cases node.addresses.items.lookup n <;> rfl

/-- `_get_node_address` has an address for network `n` exactly when `n` has an entry of the
version. -/
theorem getNodeAddress_isSome (node : Node) (n : String) :
    ((getNodeAddress node version).get? n).isSome ↔
      ∃ e ∈ (node.addresses.get? n).getD [], e.version = version := by
  rw [getNodeAddress_get?]
  cases node.addresses.get? n with
  | none => simp
  | some addrs => simp [lastOfVersion_isSome]

/-- Every address `_get_node_address` keeps is that of an entry of the version. -/
theorem getNodeAddress_mem {node : Node} {n a : String}
    (h : (getNodeAddress node version).get? n = some a) :
    ∃ e ∈ (node.addresses.get? n).getD [], e.version = version ∧ e.addr = a := by
  rw [getNodeAddress_get?] at h
  cases hN : node.addresses.get? n with
  | none => simp [hN] at h
  | some addrs =>
    rw [hN, Option.some_bind] at h
    simpa using (lastOfVersion_eq_some version h).resolve_right (by simp)

end Address

variable (b : Behaviour)

/-- `member_add` when the node has an address on the subnet's network: one create call with
it, then a wait. -/
theorem memberAdd_of_get? {node : Node} {subnet a : String}
    (h : (getNodeAddress node 4).get? (b.networkName (b.subnetNetwork subnet)) = some a)
    (lbId poolId port : Nat) :
    memberAdd b node lbId poolId port subnet = (do
      let member ← poolMemberCreate b poolId a port subnet
      let _ ← waitForLbReady b lbId 60 false
      return some member) := by
  have hne : (getNodeAddress node 4).items ≠ [] := fun he => by
    simp [PyDict.get?, he] at h
  simp only [memberAdd, if_neg hne, h]

/-- `member_add` when the node has no address on the subnet's network: `None`, and no call. -/
theorem memberAdd_of_get?_none {node : Node} {subnet : String}
    (h : (getNodeAddress node 4).get? (b.networkName (b.subnetNetwork subnet)) = none)
    (lbId poolId port : Nat) :
    memberAdd b node lbId poolId port subnet = pure none := by
  by_cases he : (getNodeAddress node 4).items = []
  · simp only [memberAdd, if_pos he]
  · simp only [memberAdd, if_neg he, h]

/-- **`member_add` calls `pool_member_create` exactly when the node has an IPv4 address on the
subnet's network, and then with one of those addresses; otherwise it returns `None` and calls
nothing.** -/
theorem memberAdd_address (node : Node) (lbId poolId port : Nat) (subnet : String) :
    let entries := (node.addresses.get? (b.networkName (b.subnetNetwork subnet))).getD []
    ((∃ e ∈ entries, e.version = 4) →
      ∃ a, (∃ e ∈ entries, e.version = 4 ∧ e.addr = a) ∧
        memberAdd b node lbId poolId port subnet = (do
          let member ← poolMemberCreate b poolId a port subnet
          let _ ← waitForLbReady b lbId 60 false
          return some member)) ∧
    ((¬∃ e ∈ entries, e.version = 4) → memberAdd b node lbId poolId port subnet = pure none) := by
  intro entries
  by_cases hv4 : ∃ e ∈ entries, e.version = 4
  · obtain ⟨a, ha⟩ := Option.isSome_iff_exists.1 ((getNodeAddress_isSome 4 node _).2 hv4)
    exact ⟨fun _ => ⟨a, getNodeAddress_mem 4 ha, memberAdd_of_get? b ha lbId poolId port⟩,
      fun h => absurd hv4 h⟩
  · refine ⟨fun h => absurd h hv4, fun _ => memberAdd_of_get?_none b ?_ lbId poolId port⟩
    exact Option.not_isSome_iff_eq_none.1 (mt (getNodeAddress_isSome 4 node _).1 hv4)

/-- `member_add` returns the new member's id whatever its readiness wait returned. -/
theorem memberAdd_of_wait {node : Node} {subnet a : String} {s s' : Neutron} {r : Bool}
    (h : (getNodeAddress node 4).get? (b.networkName (b.subnetNetwork subnet)) = some a)
    {lbId poolId port : Nat} (hc : b.createRaises s.creates = false)
    (hw : waitForLbReady b lbId 60 false (s.add (.member poolId a port subnet)) = .ok r s') :
    memberAdd b node lbId poolId port subnet s = .ok (some s.fresh) s' := by
  rw [memberAdd_of_get? b h, poolMemberCreate, bind_ok (create_ok hc), bind_ok hw]
  rfl

/-- `member_add` on every backend: `None` with no call, the exception of its create call, or the
new member's id after its wait. -/
theorem memberAdd_spec (node : Node) (lbId poolId port : Nat) (subnet : String) (s : Neutron) :
    memberAdd b node lbId poolId port subnet s = .ok none s ∨
    ∃ a, memberAdd b node lbId poolId port subnet s = .error (.create (.member poolId a port subnet))
        (s.createFailed (.member poolId a port subnet)) ∨
      ∃ n r, memberAdd b node lbId poolId port subnet s =
        .ok (some s.fresh) ((s.add (.member poolId a port subnet)).waited lbId n r) := by
  cases ha : (getNodeAddress node 4).get? (b.networkName (b.subnetNetwork subnet)) with
  | none => exact .inl (by rw [memberAdd_of_get?_none b ha]; rfl)
  | some a =>
    refine .inr ⟨a, ?_⟩
    rw [memberAdd_of_get? b ha, poolMemberCreate]
    cases hc : b.createRaises s.creates
    · obtain ⟨n, r, w⟩ := waitForLbReady_frame b lbId 60 false (s.add (.member poolId a port subnet))
      exact .inr ⟨n, r, by rw [bind_ok (create_ok hc), bind_ok w]; rfl⟩
    · exact .inl (bind_error (create_raises hc))

/-- When `member_add` returns a member id, that member is the one resource it added. -/
theorem memberAdd_live {node : Node} {lbId poolId port : Nat} {subnet : String} {s s' : Neutron}
    {m : Nat} (h : memberAdd b node lbId poolId port subnet s = .ok (some m) s') :
    s'.live = ⟨.member, m⟩ :: s.live := by
  rcases memberAdd_spec b node lbId poolId port subnet s with h' | ⟨a, h' | ⟨n, r, h'⟩⟩ <;>
    rw [h'] at h <;> cases h
  rfl

/-- **`member_add` registers the last IPv4 address the node lists on the subnet's network:
`_get_node_address` overwrites `address[network]` with every IPv4 entry it meets.** -/
theorem memberAdd_last_address (node : Node) (lbId poolId port : Nat) (subnet : String)
    (e : AddrEntry)
    (he : (((node.addresses.get? (b.networkName (b.subnetNetwork subnet))).getD []).filter
      (·.version == 4)).getLast? = some e) :
    memberAdd b node lbId poolId port subnet = (do
      let member ← poolMemberCreate b poolId e.addr port subnet
      let _ ← waitForLbReady b lbId 60 false
      return some member) := by
  apply memberAdd_of_get? b
  rw [getNodeAddress_get?]
  cases hN : node.addresses.get? (b.networkName (b.subnetNetwork subnet)) with
  | none => simp [hN] at he
  | some addrs =>
    simp only [hN, Option.getD_some] at he
    rw [Option.some_bind, lastOfVersion_eq_getLast?, he]
    rfl

/-- A backend on which every call returns and every load balancer is `ACTIVE` and `ONLINE`. -/
def healthy : Behaviour where
  createRaises _ := false
  deleteRaises _ := false
  poll _ _ := some ⟨"ACTIVE", "ONLINE"⟩
  subnetNetwork _ := "net-1"
  networkName _ := "private"

/-- A node with two IPv4 addresses and one IPv6 address on the network `private`. -/
def node₁ : Node := ⟨⟨[("private", [⟨4, "10.0.0.5"⟩, ⟨6, "fd00::5"⟩, ⟨4, "10.0.0.6"⟩])], by decide⟩⟩

theorem memberAdd_last_address_node₁ :
    (((node₁.addresses.get? (healthy.networkName (healthy.subnetNetwork "subnet-1"))).getD []).filter
      (·.version == 4)).getLast? = some ⟨4, "10.0.0.6"⟩ ∧
    memberAdd healthy node₁ 0 0 80 "subnet-1" = (do
      let member ← poolMemberCreate healthy 0 "10.0.0.6" 80 "subnet-1"
      let _ ← waitForLbReady healthy 0 60 false
      return some member) :=
  ⟨by decide, memberAdd_last_address healthy node₁ 0 0 80 "subnet-1" ⟨4, "10.0.0.6"⟩ (by decide)⟩

/-- `member_remove` returns `True` whatever its readiness wait returned. -/
theorem memberRemove_of_wait {lbId poolId memberId : Nat} {s s' : Neutron} {r : Bool}
    (hd : b.deleteRaises s.deletes = false)
    (hw : waitForLbReady b lbId 60 false (s.remove ⟨.member, memberId⟩) = .ok r s') :
    memberRemove b lbId poolId memberId s = .ok true s' := by
  simp only [memberRemove, poolMemberDelete]
  exact tryCatch_ok (by rw [bind_ok (delete_ok hd), bind_ok hw]; rfl)

end Senlin.Lbaas
