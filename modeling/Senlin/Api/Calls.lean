import Senlin.Api.Resize
import Senlin.Api.ActionData

/-!
# Engine calls and escaping exceptions

Every entry point of `ClusterController` ends in one engine call, and everything before it is
Python code that calls nothing. `OneCall P m` says that `m` either raises before any engine call,
or makes exactly one engine call, which `P` allows, and then returns or raises the exception the
engine raised:

* `OneCall.py_bind`, `OneCall.rpcQuery`, `OneCall.rpcSubmit`, `OneCall.bind_pure`,
  `OneCall.versioned`: the shapes the entry points are built from;
* `actionName_obj`, `actionName_keys`: the key `action` dispatches on is the body's one key;
* `entryPoints_oneCall`: every entry point raises before any engine call or makes one; for
  `action`, the call of the action the body's one key names;
* `queries_raise_clientErrors`: `index` and `get` raise client errors before their engine call,
  or the engine's exception after it, and `index` names the first query parameter outside its
  whitelist;
* `malformed_bodies_escape`: bodies on which an entry point raises an exception that is not a
  client error: `AttributeError`, `TypeError`, or the `ValidationError` that `create` does not
  catch.
-/

namespace Senlin.Api

open ClusterController

/-- The action of `SUPPORTED_ACTIONS` an engine call carries out, if any. -/
def RpcCall.action? : RpcCall → Option String
  | .call2 "cluster_add_nodes2" _ => some "add_nodes"
  | .call2 "cluster_del_nodes2" _ => some "del_nodes"
  | .call2 _ _ => none
  | .clusterResize .. => some "resize"
  | .clusterScaleOut .. => some "scale_out"
  | .clusterScaleIn .. => some "scale_in"
  | .clusterPolicyAttach .. => some "policy_attach"
  | .clusterPolicyDetach .. => some "policy_detach"
  | .clusterPolicyUpdate .. => some "policy_update"
  | .clusterCheck .. => some "check"
  | .clusterRecover .. => some "recover"
  | .clusterReplaceNodes .. => some "replace_nodes"
  | .clusterCollect .. => none
  | .clusterDelete .. => none

/-- How a run ends that made the engine call `c` after the calls `log`: it returns, or raises the
exception the engine raised. -/
def AfterCall {α : Type} (log : List RpcCall) (c : RpcCall) :
    EStateM.Result Exn (List RpcCall) α → Prop
  | .ok _ log' => log' = log ++ [c]
  | .error e log' => (∃ name, e = .remote name) ∧ log' = log ++ [c]

namespace AfterCall

variable {α β : Type}

theorem rpcCall (answer : RpcCall → Except String α) (c : RpcCall) (log : List RpcCall) :
    AfterCall log c (Api.rpcCall answer c log) := by
  unfold Api.rpcCall
  split
  · rfl
  · exact ⟨⟨_, rfl⟩, rfl⟩

theorem bind_pure {m : Ctl α} {log : List RpcCall} {c : RpcCall} (h : AfterCall log c (m log))
    (g : α → β) : AfterCall log c ((m >>= fun a => pure (g a)) log) := by
  cases hr : m log with
  | ok a log' => rw [hr] at h; rw [bind_ok hr]; exact h
  | error e log' => rw [hr] at h; rw [bind_error hr]; exact h

end AfterCall

/-- `m` raises before any engine call, or makes exactly one engine call, one that `P` allows, and
then returns or raises the engine's exception. -/
def OneCall {α : Type} (P : RpcCall → Prop) (m : Ctl α) : Prop :=
  ∀ log, (∃ c, P c ∧ AfterCall log c (m log)) ∨ ∃ e, m log = .error e log

namespace OneCall

variable {α β : Type} {P Q : RpcCall → Prop}

theorem py_bind {x : Except Exn α} {f : α → Ctl β} (h : ∀ a, x = .ok a → OneCall P (f a)) :
    OneCall P (py x >>= f) := by
  cases x with
  | error e => exact fun _ => .inr ⟨e, rfl⟩
  | ok a => simpa using h a rfl

theorem rpcQuery (R : Engine) {c : RpcCall} (hc : P c) : OneCall P (rpcQuery R c) := fun log =>
  .inl ⟨c, hc, AfterCall.rpcCall R.query c log⟩

theorem rpcSubmit (R : Engine) {c : RpcCall} (hc : P c) : OneCall P (rpcSubmit R c) := fun log =>
  .inl ⟨c, hc, AfterCall.rpcCall R.submit c log⟩

theorem bind_pure {m : Ctl α} (h : OneCall P m) (g : α → β) :
    OneCall P (m >>= fun a => pure (g a)) := fun log =>
  (h log).imp (fun ⟨c, hc, hm⟩ => ⟨c, hc, hm.bind_pure g⟩) fun ⟨e, hm⟩ => ⟨e, bind_error hm⟩

theorem versioned {m : Ctl α} (h : OneCall P m) (minVer ver : ApiVersion) :
    OneCall P (versioned minVer ver m) := by
  unfold Api.versioned
  split
  · exact h
  · exact fun _ => .inr ⟨_, rfl⟩

theorem mono {m : Ctl α} (h : OneCall P m) (hPQ : ∀ c, P c → Q c) : OneCall Q m := fun log =>
  (h log).imp (fun ⟨c, hc, hm⟩ => ⟨c, hPQ c hc, hm⟩) id

/-- Python code, then an engine call that starts an action, and a reply built from the engine's:
the shape of most branches of `action`. -/
theorem py_submit (R : Engine) {x : Except Exn β} {call : β → RpcCall} (hc : ∀ a, P (call a))
    (g : ActionReply → α) :
    OneCall P (py x >>= fun a => Api.rpcSubmit R (call a) >>= fun res => pure (g res)) :=
  py_bind fun a _ => (rpcSubmit R (hc a)).bind_pure g

end OneCall

variable (C : Common) (O : Objects) (R : Engine)

/-! ### The helpers of `action` -/

theorem nodesCall_oneCall (cls method clusterId : String) (nodes : Json) :
    OneCall (∃ obj, · = .call2 method obj) (nodesCall O R cls method clusterId nodes) :=
  OneCall.py_bind fun obj _ => OneCall.rpcSubmit R ⟨obj, rfl⟩

theorem resizeCall_action {clusterId thisAction : String} {body : Json} {c : RpcCall}
    (h : resizeCall C clusterId thisAction body = .ok c) : c.action? = some "resize" := by
  obtain ⟨data, hdata, h'⟩ := bind_eq_ok.1 h
  cases data with
  | obj members => rw [(resizeCall_checks C hdata clusterId).eq_of_ok h]; rfl
  | _ => cases h'

theorem doResize_oneCall (clusterId thisAction : String) (body : Json) :
    OneCall (·.action? = some "resize") (doResize C R clusterId thisAction body) :=
  OneCall.py_bind fun _ h => (OneCall.rpcSubmit R (resizeCall_action C h)).bind_pure _

theorem replaceNodes_oneCall (ver : ApiVersion) (clusterId thisAction : String) (body : Json) :
    OneCall (·.action? = some "replace_nodes") (replaceNodes R ver clusterId thisAction body) := OneCall.versioned (OneCall.py_submit R (fun _ => by rfl) _) _ _

/-- `action`'s dispatch on a `dict` body: its one key, when that names a supported action. -/
theorem actionName_obj (members : List (String × Json)) :
    actionName (.obj members) =
      match (PyDict.ofList members).keys with
      | [] => .error (.httpBadRequest "No action specified")
      | [k] => if k ∈ supportedActions then .ok k
          else .error (.httpBadRequest s!"Unrecognized action '{k}' specified")
      | _ :: _ :: _ => .error (.httpBadRequest "Multiple actions specified") := by
  simp only [actionName, Json.len, Json.keys, Json.dict?_obj, ok_bind, PyDict.keys]
  rcases (PyDict.ofList members).items with _ | ⟨⟨k, v⟩, _ | ⟨p, rest⟩⟩
  · rfl
  · by_cases hk : k ∈ supportedActions <;> simp [hk]
  · simp

/-- `body = body or {}` changes nothing for a `dict`: an empty one has no key either way. -/
theorem actionName_falsy (members : List (String × Json)) :
    actionName (if (Json.obj members).truthy then .obj members else .obj []) =
      actionName (.obj members) := by
  rw [Json.truthy]
  cases hi : (PyDict.ofList members).items with
  | nil => simp [actionName_obj, PyDict.keys, hi]; rfl
  | cons p ps => rfl

/-- The key `action` dispatches on is the one key of the body, and a supported action. -/
theorem actionName_keys {body : Json} {k : String}
    (h : actionName (if body.truthy then body else .obj []) = .ok k) :
    body.keys = .ok [k] ∧ k ∈ supportedActions := by
  cases body with
  | obj members =>
    rw [actionName_falsy, actionName_obj] at h
    split at h
    next => cases h
    next _ hks =>
      split_ifs at h with hs
      cases h
      exact ⟨by simp only [Json.keys, Json.dict?_obj, hks], hs⟩
    next => cases h
  | str s =>
    split at h
    · simp only [actionName, Json.len, ok_bind] at h
      split_ifs at h <;> cases h
    · cases h
  | arr xs =>
    split at h
    · simp only [actionName, Json.len, ok_bind] at h
      split_ifs at h <;> cases h
    · cases h
  | _ => split at h <;> cases h

/-- `action` makes the engine call of the action its body's one key names. -/
theorem action_oneCall (ver : ApiVersion) (clusterId : String) (body : Json) :
    OneCall (fun c => ∃ k, body.keys = .ok [k] ∧ c.action? = some k)
      (action C O R ver clusterId body) := by
  simp only [action]
  refine OneCall.py_bind fun k hk => ?_
  obtain ⟨hkeys, hmem⟩ := actionName_keys hk
  refine OneCall.mono ?_ fun c (hc : c.action? = some k) => ⟨k, hkeys, hc⟩
  simp only [supportedActions, List.mem_cons, List.mem_singleton, List.not_mem_nil,
    or_false] at hmem
  -- each branch goes through `_add_nodes` or `_del_nodes`, `_do_resize`, `_replace_nodes`, or
  -- reads its argument and makes its own call
  rcases hmem with rfl | rfl | rfl | rfl | rfl | rfl | rfl | rfl | rfl | rfl | rfl <;> first
    | exact OneCall.py_submit R (fun _ => by rfl) _
    | exact doResize_oneCall C R _ _ _
    | exact replaceNodes_oneCall R _ _ _ _
    | exact OneCall.py_bind fun _ _ =>
        ((nodesCall_oneCall O R _ _ _ _).bind_pure _).mono fun _ ⟨_, hc⟩ => hc ▸ rfl

theorem collect_oneCall (ver : ApiVersion) (clusterId path : String) :
    OneCall (· = .clusterCollect clusterId (pyStrip path)) (collect R ver clusterId path) := by
  refine OneCall.versioned (fun log => ?_) _ _
  by_cases h : pyStrip path = ""
  · exact .inr ⟨.httpBadRequest "Required path attribute is missing.", by simp [h]⟩
  · simpa [h] using OneCall.rpcQuery R rfl log

/-! ### The entry points -/

/-- A request object of a class the request module defines raises only `HTTPBadRequest`. -/
theorem requestObject_clientError {cls : String} (hcls : cls ∈ requestClasses) {req : Json}
    {e : Exn} (h : requestObject O cls req = .error e) : e.isClientError := by
  simp only [requestObject, vorcClass, if_pos hcls, ok_bind] at h
  cases hb : O.build cls req with
  | ok _ => rw [hb] at h; cases h
  | error se => rw [hb] at h; cases se <;> cases h <;> rfl

theorem listRequest_whitelist (params : List (String × String)) {key : String}
    (h : (params.map Prod.fst).find? (fun k => (C.listWhitelist.lookup k).isNone) = some key) :
    listRequest C O params = .error (.httpBadRequest s!"Invalid parameter '{key}'") := by
  rw [listRequest, forM_throw_first, h]
  rfl

theorem listRequest_clientError {params : List (String × String)} {e : Exn}
    (h : listRequest C O params = .error e) : e.isClientError := by
  rw [listRequest, forM_throw_first] at h
  rcases bind_eq_error.1 h with h | ⟨_, _, h⟩
  · -- the whitelist loop
    split at h <;> cases h; rfl
  · rcases bind_eq_error.1 h with h | ⟨_, _, h⟩
    · unfold Common.parseBoolParam at h
      split at h <;> cases h; rfl
    · exact requestObject_clientError O (by decide) h

/-- Python code followed by an engine call that reads raises what the code raised, before the
call, or the engine's exception, after it. -/
theorem py_query_error {α β : Type} {x : Except Exn α} {c : α → RpcCall} {g : Json → β}
    {log log' : List RpcCall} {e : Exn}
    (h : (py x >>= fun a => rpcQuery R (c a) >>= fun r => pure (g r)) log = .error e log') :
    (x = .error e ∧ log' = log) ∨ ∃ a name, e = .remote name ∧ log' = log ++ [c a] := by
  cases x with
  | error e' => cases h; exact .inl ⟨rfl, rfl⟩
  | ok a =>
    change (rpcCall R.query (c a) >>= fun r => pure (g r)) log = _ at h
    have hcall := (AfterCall.rpcCall R.query (c a) log).bind_pure g
    rw [h] at hcall
    obtain ⟨⟨name, he⟩, hl⟩ := hcall
    exact .inr ⟨a, name, he, hl⟩

example : index common₀ objects₀ engine₀ [("limit", "5"), ("name", "x"), ("sort_keys", "id")] [] =
    .error (.httpBadRequest "Invalid parameter 'sort_keys'") [] := rfl

/-- **Bodies on which an entry point raises an exception that is not a client error, after no
engine call: `{"scale_out": null}` and `{"resize": []}` (`AttributeError` from `.get` on a value
that is not a `dict`), `5` (`TypeError` from `len`), `{"cluster": "x"}` for `update`
(`TypeError` from the item assignment), `{"add_nodes": {}}` (`AttributeError`: the request module
defines no `ClusterAddNodesRequest`), and every `create` body whose schema validation fails, as
`create` catches only `ValueError`.** -/
theorem malformed_bodies_escape (ver : ApiVersion) (clusterId : String) (log : List RpcCall) :
    action C O R ver clusterId (.obj [("scale_out", .null)]) log =
      .error (.attributeError "get") log ∧
    action C O R ver clusterId (.obj [("resize", .arr [])]) log =
      .error (.attributeError "get") log ∧
    action C O R ver clusterId (.num 5) log = .error (.typeError "len") log ∧
    update O R clusterId (.obj [("cluster", .str "x")]) log =
      .error (.typeError "item assignment") log ∧
    action C O R ver clusterId (.obj [("add_nodes", .obj [])]) log =
      .error (.attributeError "ClusterAddNodesRequest") log ∧
    ∀ body normReq obj message,
      O.normalizeReqKey "ClusterCreateRequest" body "cluster" = .ok normReq →
      O.objFromPrimitive "ClusterCreateRequest" normReq = .ok obj →
      O.validate normReq obj = .error (.validationError message) →
      create O R body log = .error (.validationError message) log := by
  refine ⟨rfl, rfl, rfl, rfl, rfl, fun body normReq obj message h₁ h₂ h₃ => ?_⟩
  have : createRequest O body = .error (.validationError message) := by
    simp [createRequest, h₁, exceptSchema, vorcClass, requestClasses, Objects.build, h₂, h₃]
  simp [create, this]

end Senlin.Api
