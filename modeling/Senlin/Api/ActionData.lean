import Senlin.Api.Controller

/-!
# What actions read from their bodies: replacement maps and policy data

`_replace_nodes` forwards `body[this_action]['nodes']`, a map from the nodes to replace to their
replacements, after four checks, on requests of microversion 1.3 or later; `_sanitize_policy`
checks the data of `policy_attach` and `policy_update` and parses its `enabled`.

* `ReplacementMap`: what `_replace_nodes` should forward: a non-empty map, no empty id, and no node
  named twice as a replacement;
* `setLen_map_str`, `length_dedup_eq_iff`: on strings, `len(values) == len(set(values))` holds
  exactly when the values are pairwise distinct;
* `replaceNodes_accepts`: from microversion 1.3 on, `_replace_nodes` makes its engine call
  exactly on a replacement map, and forwards that map; otherwise it raises `HTTPBadRequest` and
  makes no call. Below 1.3 it raises `HTTPNotFound` on every body, and makes no call;
* `sanitizePolicy_checks`: `_sanitize_policy` returns the data with `enabled` parsed exactly when
  the data is a map with a `policy_id` and an `enabled` that parses, when given; otherwise it
  raises `HTTPBadRequest`, also where the parse raised `InvalidParameter`.
-/

namespace Senlin.Api

open ClusterController

/-! ### `len(values) == len(set(values))` -/

theorem setLen_map_str (ts : List String) :
    Json.setLen (ts.map .str) = .ok (ts.map Json.HashKey.str).dedup.length := by
  suffices h : (ts.map Json.str).mapM Json.hashKey = .ok (ts.map Json.HashKey.str) by
    rw [Json.setLen, h]
    rfl
  induction ts with
  | nil => rfl
  | cons t ts ih =>
    rw [List.map_cons, List.mapM_cons, ih]
    rfl

theorem length_dedup_eq_iff {α : Type} [DecidableEq α] (l : List α) :
    l.dedup.length = l.length ↔ l.Nodup :=
  (List.dedup_sublist l).length_eq.trans List.dedup_eq_self

theorem exists_map_str {vs : List Json} (h : ∀ v ∈ vs, ∃ t, v = .str t) :
    ∃ ts : List String, vs = ts.map Json.str := by
  induction vs with
  | nil => exact ⟨[], rfl⟩
  | cons v vs ih =>
    obtain ⟨t, rfl⟩ := h v (List.mem_cons_self _ _)
    obtain ⟨ts, rfl⟩ := ih fun w hw => h w (List.mem_cons_of_mem _ hw)
    exact ⟨t :: ts, rfl⟩

/-! ### `_replace_nodes` -/

/-- The map `_replace_nodes` should forward: non-empty, with no empty id, and with no node named
twice as a replacement. -/
structure ReplacementMap (nodes : PyDict Json) : Prop where
  nonempty : nodes.items ≠ []
  old_ne : ∀ p ∈ nodes.items, p.1 ≠ ""
  new_ne : ∀ p ∈ nodes.items, p.2 ≠ .str ""
  injective : ∀ p ∈ nodes.items, ∀ q ∈ nodes.items, p.2 = q.2 → p.1 = q.1

theorem checkNodeIds_checks : ∀ items : List (String × Json),
    Checks BadRequest (∀ p ∈ items, p.1 ≠ "" ∧ p.2.truthy = true) () (checkNodeIds items)
  | [] => .inl ⟨by simp, rfl⟩
  | (oldNode, newNode) :: rest => by
    rw [checkNodeIds]
    refine (Checks.ite_throw ⟨_, rfl⟩ fun _ => Checks.ite_throw ⟨_, rfl⟩ fun _ =>
      checkNodeIds_checks rest).congr ?_ fun _ => rfl
    simp [and_assoc]

/-- **On a `dict`, `_replace_nodes` up to its engine call returns the `nodes` map exactly when it
is a replacement map, and raises `HTTPBadRequest` otherwise.** -/
theorem replaceNodesCall_checks {body : Json} {thisAction : String}
    {members : List (String × Json)} (hbody : body.get thisAction = .ok (.obj members))
    (hstr : ∀ d, ((PyDict.ofList members).getD "nodes" .null).dict? = some d →
      ∀ p ∈ d.items, ∃ t, p.2 = .str t) :
    Checks BadRequest
      (∃ d, ((PyDict.ofList members).getD "nodes" .null).dict? = some d ∧ ReplacementMap d)
      (((PyDict.ofList members).getD "nodes" .null).dict?.getD .empty)
      (replaceNodesCall thisAction body) := by
  simp only [replaceNodesCall, hbody, ok_bind, Json.get_obj]
  generalize (PyDict.ofList members).getD "nodes" .null = nodes at hstr ⊢
  cases hd : nodes.dict? with
  | none =>
    rw [ite_self]
    exact .of_error (by simp) rfl ⟨_, rfl⟩
  | some d =>
    rw [Json.truthy_of_dict? hd]
    cases hne : d.items.isEmpty
    · obtain ⟨ts, hts⟩ : ∃ ts : List String, d.values = ts.map Json.str :=
        exists_map_str fun v hv => by
          obtain ⟨p, hp, rfl⟩ := List.mem_map.1 hv
          exact hstr d hd p hp
      have hvals : d.values.Nodup ↔ (ts.map Json.HashKey.str).dedup.length = ts.length := by
        rw [hts, List.nodup_map_iff fun _ _ => Json.str.inj,
          ← List.nodup_map_iff fun _ _ => Json.HashKey.str.inj,
          ← length_dedup_eq_iff, List.length_map]
      simp only [Bool.not_false, ite_true, hts, setLen_map_str, ok_bind]
      apply Checks.congr
      · apply Checks.ite_throw ⟨_, rfl⟩; intro _
        apply (checkNodeIds_checks d.items).bind; intro _
        exact Checks.pure d
      · rw [List.length_map, ne_eq, not_not, eq_comm, ← hvals, PyDict.values_nodup_iff]
        constructor
        · rintro ⟨hinj, hids, -⟩
          refine ⟨d, rfl, ⟨by simpa using hne, fun p hp => (hids p hp).1, fun p hp => ?_, hinj⟩⟩
          obtain ⟨t, ht⟩ := hstr d hd p hp
          have := (hids p hp).2
          rw [ht] at this ⊢
          simpa [Json.truthy] using this
        · rintro ⟨_, ⟨⟩, hmap⟩
          refine ⟨hmap.injective, fun p hp => ⟨hmap.old_ne p hp, ?_⟩, trivial⟩
          obtain ⟨t, ht⟩ := hstr d hd p hp
          have := hmap.new_ne p hp
          rw [ht] at this ⊢
          simpa [Json.truthy] using this
      · exact fun _ => rfl
    · exact .of_error (fun ⟨_, h, hmap⟩ => hmap.nonempty (by cases h; simpa using hne)) rfl
        ⟨_, rfl⟩

/-- A map of one node to one replacement, both named, is a replacement map. -/
theorem replacementMap_single {oldNode newNode : String} (ho : oldNode ≠ "")
    (hn : newNode ≠ "") : ReplacementMap (PyDict.ofList [(oldNode, .str newNode)]) := by
  have hitems : (PyDict.ofList [(oldNode, Json.str newNode)]).items = [(oldNode, .str newNode)] :=
    rfl
  refine ⟨by simp [hitems], ?_, ?_, ?_⟩ <;> simp only [hitems, List.mem_singleton]
  · rintro _ rfl; exact ho
  · rintro _ rfl h; exact hn (Json.str.inj h)
  · rintro _ rfl _ rfl _; rfl

/-- **From microversion 1.3 on, `_replace_nodes`, on a `dict` whose `nodes`, when a `dict`, has
string values, makes its engine call exactly when `nodes` is a replacement map, and then forwards
that map, whether the engine replies or raises; otherwise it raises `HTTPBadRequest` and makes no
engine call. Below 1.3 it raises `HTTPNotFound` and makes no engine call, whatever the body.** -/
theorem replaceNodes_accepts (R : Engine) (ver : ApiVersion) {body : Json} {thisAction : String}
    {members : List (String × Json)} (hbody : body.get thisAction = .ok (.obj members))
    (hstr : ∀ d, ((PyDict.ofList members).getD "nodes" .null).dict? = some d →
      ∀ p ∈ d.items, ∃ t, p.2 = .str t)
    (clusterId : String) (log : List RpcCall) :
    (ver.atLeast ⟨1, 3⟩ = true →
      (∀ d, ((PyDict.ofList members).getD "nodes" .null).dict? = some d → ReplacementMap d →
        callsMade (replaceNodes R ver clusterId thisAction body log) =
          log ++ [.clusterReplaceNodes clusterId d]) ∧
      ((¬∃ d, ((PyDict.ofList members).getD "nodes" .null).dict? = some d ∧ ReplacementMap d) →
        ∃ msg, replaceNodes R ver clusterId thisAction body log =
          .error (.httpBadRequest msg) log)) ∧
    (ver.atLeast ⟨1, 3⟩ = false →
      replaceNodes R ver clusterId thisAction body log = .error .httpNotFound log) := by
  unfold replaceNodes versioned
  refine ⟨fun hver => ?_, fun hver => by rw [if_neg (by simp [hver])]; rfl⟩
  rw [if_pos hver]
  obtain ⟨hcall, hraise⟩ := (replaceNodesCall_checks hbody hstr).call_spec
    (fun params => rpcSubmit R (.clusterReplaceNodes clusterId params) >>= fun res =>
      pure res.located) (callsMade_rpcSubmit R _ _ log)
  refine ⟨fun d hd hmap => ?_, fun hno => ?_⟩
  · rw [hcall ⟨d, hd, hmap⟩, hd, Option.getD_some]
  · obtain ⟨e, he, msg, rfl⟩ := hraise hno
    exact ⟨msg, he⟩

/-- The data `{"nodes": {"node-1": "node-9"}}` of a `replace_nodes` body. -/
def replaceData₀ : List (String × Json) := [("nodes", .obj [("node-1", .str "node-9")])]

theorem replaceNodes_accepts_one_node :
    (Json.obj [("replace_nodes", .obj replaceData₀)]).get "replace_nodes" =
      .ok (.obj replaceData₀) ∧
    (∀ d, ((PyDict.ofList replaceData₀).getD "nodes" .null).dict? = some d →
      ∀ p ∈ d.items, ∃ t, p.2 = .str t) ∧
    callsMade (replaceNodes engine₀ ⟨1, 3⟩ "cluster-1" "replace_nodes"
        (.obj [("replace_nodes", .obj replaceData₀)]) []) =
      [.clusterReplaceNodes "cluster-1" (PyDict.ofList [("node-1", .str "node-9")])] := by
  have hstr : ∀ d, ((PyDict.ofList replaceData₀).getD "nodes" .null).dict? = some d →
      ∀ p ∈ d.items, ∃ t, p.2 = .str t := by
    rintro d ⟨⟩ p hp
    change p ∈ [("node-1", .str "node-9")] at hp
    obtain rfl : p = ("node-1", .str "node-9") := by simpa using hp
    exact ⟨_, rfl⟩
  exact ⟨rfl, hstr, ((replaceNodes_accepts engine₀ ⟨1, 3⟩ (by rfl) hstr "cluster-1" []).1 rfl).1
    _ rfl (replacementMap_single (by decide) (by decide))⟩

/-- **Without the microversion, the acceptance condition is wrong: at 1.2, `_replace_nodes`
raises `HTTPNotFound` on a replacement map, and makes no engine call.** -/
theorem replaceNodes_not_found_below_1_3 :
    ReplacementMap (PyDict.ofList [("node-1", .str "node-9")]) ∧
    replaceNodes engine₀ ⟨1, 2⟩ "cluster-1" "replace_nodes"
        (.obj [("replace_nodes", .obj replaceData₀)]) [] = .error .httpNotFound [] :=
  ⟨replacementMap_single (by decide) (by decide), rfl⟩

/-! ### `_sanitize_policy` -/

variable (C : Common)

/-- The data `_sanitize_policy` accepts: a map with a `policy_id`, whose `enabled`, when given,
parses as a boolean. -/
structure PolicyData (d : PyDict Json) : Prop where
  policyId : (d.get? C.cpPolicyId).isSome
  enabled : ∀ v, d.get? C.cpEnabled = some v → (C.toBool v).isSome

/-- The data `_sanitize_policy` returns: the same `dict`, with `enabled` parsed when given. -/
def sanitized (d : PyDict Json) : PyDict Json :=
  match d.get? C.cpEnabled with
  | some v => d.set C.cpEnabled (.bool ((C.toBool v).getD false))
  | none => d

/-- **`_sanitize_policy` returns the data with `enabled` parsed exactly when the data is a map
with a `policy_id` and an `enabled` that parses, when given; otherwise it raises
`HTTPBadRequest`, also where `parse_bool_param` raised `InvalidParameter`.** -/
theorem sanitizePolicy_checks (data : Json) :
    Checks BadRequest (∃ d, data.dict? = some d ∧ PolicyData C d)
      (sanitized C (data.dict?.getD .empty)) (sanitizePolicy C data) := by
  unfold sanitizePolicy
  cases hd : data.dict? with
  | none => exact .of_error (by simp) rfl ⟨_, rfl⟩
  | some d =>
    simp only [Option.getD_some, sanitized]
    cases hp : d.get? C.cpPolicyId with
    | none =>
      refine .of_error (fun ⟨_, h, hpd⟩ => ?_) rfl ⟨_, rfl⟩
      cases h
      simpa [hp] using hpd.policyId
    | some _ =>
      cases he : d.get? C.cpEnabled with
      | none => exact .inl ⟨⟨d, rfl, by simp [hp], by simp [he]⟩, rfl⟩
      | some v =>
        cases hb : C.toBool v with
        | none =>
          refine .of_error (fun ⟨_, h, hpd⟩ => ?_) (by simp [Common.parseBoolParam, hb]; rfl)
            ⟨_, rfl⟩
          cases h
          simpa [hb] using hpd.enabled v he
        | some b =>
          exact .inl ⟨⟨d, rfl, by simp [hp], by simp [he, hb]⟩,
            by simp [Common.parseBoolParam, hb]⟩

end Senlin.Api
