import Senlin.Api.Json

/-!
# `ClusterController`: the cluster endpoints of the v1 API

`senlin/api/openstack/v1/clusters.py`. Each entry point reads the request with Python's own
operations, builds a request object where it has one, and makes one call to the engine over RPC.
Everything it does before that call is Python code that calls nothing: an `Except Exn`
computation, which `py` runs in the controller's monad `Ctl`. `Ctl` keeps the list of engine calls
made so far, which `callsMade` reads whether the run returned or raised.

* `Common`, `Objects`, `Engine`: the parts of senlin the controller calls that are not among the
  sources (`consts`, `utils`, `api.common.util`, the request-object layer, the RPC client), as
  parameters; the engine answers each call or raises;
* `versioned`: the microversion dispatch of `wsgi.Controller.api_version`, which `collect` (1.2)
  and `_replace_nodes` (1.3) are under;
* `index`, `create`, `get`, `update`, `collect`, `delete`;
* `action`, which reads the body's one key (`actionName`) and dispatches to `addNodes`,
  `delNodes`, `doResize`, `replaceNodes`, or an engine call of its own, through
  `sanitizePolicy` for the two policy actions.
-/

namespace Senlin.Api

/-- How `int(value)` ends: with an integer, with `TypeError` or `ValueError`, or with
`OverflowError`, which it raises on an infinite `float`. -/
inductive IntCall
  | int (n : Int)
  | invalid
  | overflow
  deriving DecidableEq, Repr

/-- The helpers the controller takes from `senlin.common` and `senlin.api.common`: the names
`consts` defines, `int()`, `str()`, the boolean reading of `utils.parse_bool_param`, the text of an
`InvalidParameter`, and `util.get_allowed_params`. -/
structure Common where
  clusterName : String
  clusterStatus : String
  paramLimit : String
  paramMarker : String
  paramSort : String
  paramGlobalProject : String
  adjustmentType : String
  adjustmentNumber : String
  adjustmentMinSize : String
  adjustmentMaxSize : String
  adjustmentMinStep : String
  adjustmentStrict : String
  adjustmentTypes : List String
  cpPolicyId : String
  cpEnabled : String
  /-- `int(value)`. -/
  toInt : Json → IntCall
  /-- `strutils.bool_from_string(value, strict=True)` where `str(value).lower()` is `'true'` or
  `'false'`, and `none` elsewhere. -/
  toBool : Json → Option Bool
  /-- `str(value)`. -/
  str : Json → String
  /-- `six.text_type(InvalidParameter(name=name, value=value))`. -/
  invalidParameterText : String → Json → String
  /-- `util.get_allowed_params(req.params, whitelist)`. -/
  getAllowedParams : List (String × String) → List (String × String) → PyDict Json

namespace Common

variable (C : Common)

/-- `utils.parse_int_param(name, value, allow_negative=...)` on a value that is not `None`, with
`allow_zero` and the limits at their defaults: `int(value)` inside
`try: ... except (TypeError, ValueError)`, which raises `InvalidParameter` for those two and lets
`OverflowError` through, and `InvalidParameter` for a negative number that is not allowed. -/
def parseIntParam (name : String) (value : Json) (allowNegative : Bool) : Except Exn Int :=
  match C.toInt value with
  | .int n => if allowNegative = false ∧ n < 0 then .error (.invalidParameter name value) else .ok n
  | .invalid => .error (.invalidParameter name value)
  | .overflow => .error .overflowError

/-- `utils.parse_bool_param(name, value)`. -/
def parseBoolParam (name : String) (value : Json) : Except Exn Bool :=
  match C.toBool value with
  | some b => .ok b
  | none => .error (.invalidParameter name (.str (C.str value)))

/-- `adj_type in consts.ADJUSTMENT_TYPES`. -/
def isAdjustmentType : Json → Bool
  | .str t => t ∈ C.adjustmentTypes
  | _ => false

/-- The `whitelist` of `index`: the query parameters it takes, and whether each may repeat. -/
def listWhitelist : List (String × String) :=
  [(C.clusterName, "mixed"), (C.clusterStatus, "mixed"), (C.paramLimit, "single"),
    (C.paramMarker, "single"), (C.paramSort, "single"), (C.paramGlobalProject, "single")]

end Common

/-- The errors of the request-object layer. -/
inductive SchemaError
  /-- A `ValueError` from `normalize_req` or `obj_from_primitive`; `six.text_type(ex)`. -/
  | valueError (text : String)
  /-- A `jsonschema.exceptions.ValidationError`; `ex.message`. -/
  | validationError (message : String)

/-- The request-object layer of `senlin.objects`, of which only the fields of the request classes
are among the sources. -/
structure Objects where
  /-- `SenlinObject.normalize_req(name, req, None)`. -/
  normalizeReq : String → Json → Json
  /-- `SenlinObject.normalize_req(name, req, key)`. -/
  normalizeReqKey : String → Json → String → Except SchemaError Json
  /-- `vorc.<name>.obj_from_primitive(norm_req)`. -/
  objFromPrimitive : String → Json → Except SchemaError Json
  /-- `jsonschema.validate(norm_req, obj.to_json_schema())`. -/
  validate : Json → Json → Except SchemaError Unit
  /-- `obj.cluster` of a `ClusterCreateRequest`. -/
  cluster : Json → Json

/-- The request classes `objects/requests/clusters.py` defines. -/
def requestClasses : List String :=
  ["ClusterListRequestBody", "ClusterCreateRequestBody", "ClusterCreateRequest",
    "ClusterGetRequest", "ClusterUpdateRequest"]

/-- `vorc.<name>`: an `AttributeError` for a class the module does not define. -/
def vorcClass (name : String) : Except Exn String :=
  if name ∈ requestClasses then .ok name else .error (.attributeError name)

/-- The body of the `try` around a request object: `obj_from_primitive`, then the validation of
the primitive against the object's schema. -/
def Objects.build (O : Objects) (cls : String) (normReq : Json) : Except SchemaError Json := do
  let obj ← O.objFromPrimitive cls normReq
  O.validate normReq obj
  pure obj

/-- `except ValueError as ex: raise exc.HTTPBadRequest(six.text_type(ex))`, and, when
`validation`, `except jsonschema.exceptions.ValidationError as ex:
raise exc.HTTPBadRequest(six.text_type(ex.message))`. -/
def exceptSchema {α : Type} (validation : Bool) : Except SchemaError α → Except Exn α
  | .ok a => .ok a
  | .error (.valueError text) => .error (.httpBadRequest text)
  | .error (.validationError message) =>
    .error (if validation then .httpBadRequest message else .validationError message)

/-- The `try` block of `index`, `get`, `update`, `_add_nodes` and `_del_nodes`. -/
def requestObject (O : Objects) (cls : String) (normReq : Json) : Except Exn Json := do
  let cls ← vorcClass cls
  exceptSchema true (O.build cls normReq)

/-! ### The engine -/

/-- The engine calls the controller makes, with the arguments it passes. -/
inductive RpcCall
  | call2 (method : String) (obj : Json)
  | clusterResize (clusterId : String) (adjType : Json) (number minSize maxSize minStep : Option Int)
      (strict : Bool)
  | clusterScaleOut (clusterId : String) (count : Json)
  | clusterScaleIn (clusterId : String) (count : Json)
  | clusterPolicyAttach (clusterId : String) (kwargs : PyDict Json)
  | clusterPolicyDetach (clusterId : String) (policyId : Json)
  | clusterPolicyUpdate (clusterId : String) (kwargs : PyDict Json)
  | clusterCheck (clusterId : String) (params : PyDict Json)
  | clusterRecover (clusterId : String) (params : PyDict Json)
  | clusterReplaceNodes (clusterId : String) (nodes : PyDict Json)
  | clusterCollect (clusterId : String) (path : String)
  | clusterDelete (clusterId : String) (cast : Bool)

/-- The engine's reply to a call that starts an action: a `dict` holding the action's id under
`action`. -/
structure ActionReply where
  dict : PyDict Json
  action : String
  dict_action : dict.get? "action" = some (.str action)

/-- The engine, as the controller sees it: each call returns its reply, or raises the exception
named. -/
structure Engine where
  /-- The reply to `cluster_list2`, `cluster_get2` and `cluster_collect`. -/
  query : RpcCall → Except String Json
  /-- The reply to a call that starts an action. -/
  submit : RpcCall → Except String ActionReply

/-- The controller's computations: the engine calls made so far, in order; an exception keeps
them. -/
abbrev Ctl := EStateM Exn (List RpcCall)

/-- Python code that makes no engine call. -/
def py {α : Type} : Except Exn α → Ctl α
  | .ok a => pure a
  | .error e => throw e

/-- An engine call, answered by `answer`: the call is made, and the engine's reply returned or
its exception raised. -/
def rpcCall {α : Type} (answer : RpcCall → Except String α) (c : RpcCall) : Ctl α := fun log =>
  match answer c with
  | .ok r => .ok r (log ++ [c])
  | .error name => .error (.remote name) (log ++ [c])

/-- An engine call that reads. -/
def rpcQuery (R : Engine) (c : RpcCall) : Ctl Json := rpcCall R.query c

/-- An engine call that starts an action. -/
def rpcSubmit (R : Engine) (c : RpcCall) : Ctl ActionReply := rpcCall R.submit c

/-- The engine calls made by the end of a run, whether it returned or raised. -/
def callsMade {α : Type} : EStateM.Result Exn (List RpcCall) α → List RpcCall
  | .ok _ log => log
  | .error _ log => log

/-- A microversion `major.minor` of the API, as `req.version_request` carries it. -/
structure ApiVersion where
  major : Nat
  minor : Nat
  deriving DecidableEq, Repr

/-- `ver.matches(min_ver, None)`: `ver` is `min_ver` or later, comparing `(major, minor)`. -/
def ApiVersion.atLeast (ver minVer : ApiVersion) : Bool :=
  minVer.major < ver.major || (minVer.major == ver.major && minVer.minor ≤ ver.minor)

/-- A method under `@wsgi.Controller.api_version(min_ver)`: the versioned-method dispatch of
`wsgi.Controller` runs it when the request's microversion is `min_ver` or later, and raises
`HTTPNotFound` otherwise. -/
def versioned {α : Type} (minVer ver : ApiVersion) (m : Ctl α) : Ctl α :=
  if ver.atLeast minVer then m else throw .httpNotFound

section Run

variable {α β : Type}

@[simp] theorem py_ok (a : α) : py (.ok a) = (pure a : Ctl α) := rfl

@[simp] theorem py_error (e : Exn) : py (.error e : Except Exn α) = (throw e : Ctl α) := rfl

/-- An engine call that starts an action, and a reply built from the engine's: one call,
whether the engine replied or raised. -/
theorem callsMade_rpcSubmit (R : Engine) (c : RpcCall) (g : ActionReply → β)
    (log : List RpcCall) :
    callsMade ((rpcSubmit R c >>= fun res => Pure.pure (g res)) log) = log ++ [c] := by
  unfold rpcSubmit rpcCall
  cases R.submit c <;> rfl

/-- Checked code followed by code that makes one engine call: when the check passes, that call
is made; otherwise the code raises what the check allows, and no call is made. -/
theorem Checks.call_spec {E : Exn → Prop} {P : Prop} {a : α} {x : Except Exn α}
    (h : Checks E P a x) (k : α → Ctl β) {log : List RpcCall} {c : RpcCall}
    (hk : callsMade (k a log) = log ++ [c]) :
    (P → callsMade ((py x >>= k) log) = log ++ [c]) ∧
    (¬P → ∃ e, (py x >>= k) log = .error e log ∧ E e) := by
  rcases h with ⟨hP, rfl⟩ | ⟨hP, e, rfl, he⟩
  · exact ⟨fun _ => hk, fun h => absurd hP h⟩
  · exact ⟨fun h => absurd h hP, fun _ => ⟨e, rfl, he⟩⟩

end Run

/-- `location = {'location': '/actions/%s' % res['action']}`. -/
def ActionReply.location (res : ActionReply) : String := "/actions/" ++ res.action

/-- `res.update(location)`, then `return res`. -/
def ActionReply.located (res : ActionReply) : Json :=
  .obj (res.dict.set "location" (.str res.location)).items

/-- `action_id = cluster.pop('action')`, then `{'cluster': cluster, 'location': ...}`. -/
def ActionReply.withCluster (cluster : ActionReply) : Json :=
  .obj [("cluster", .obj (cluster.dict.erase "action").items), ("location", .str cluster.location)]

namespace ClusterController

variable (C : Common) (O : Objects) (R : Engine)

/-- `SUPPORTED_ACTIONS`. -/
def supportedActions : List String :=
  ["add_nodes", "del_nodes", "scale_out", "scale_in", "resize", "policy_attach", "policy_detach",
    "policy_update", "check", "recover", "replace_nodes"]

/-! ### `index`, `create`, `get`, `update` -/

/-- `index` up to its engine call: the `ClusterListRequestBody` it sends. -/
def listRequest (params : List (String × String)) : Except Exn Json := do
  (params.map Prod.fst).forM fun key =>
    if (C.listWhitelist.lookup key).isNone then
      throw (.httpBadRequest s!"Invalid parameter '{key}'")
    else pure ()
  let params := C.getAllowedParams params C.listWhitelist
  let isGlobal := (params.get? C.paramGlobalProject).getD (.bool false)
  let params := params.erase C.paramGlobalProject
  let globalProject ← C.parseBoolParam C.paramGlobalProject isGlobal
  let params := params.set "project_safe" (.bool !globalProject)
  requestObject O "ClusterListRequestBody"
    (O.normalizeReq "ClusterListRequestBody" (.obj params.items))

/-- `index(req)`, on the query parameters of `req`. -/
def index (params : List (String × String)) : Ctl Json := do
  let obj ← py (listRequest C O params)
  let clusters ← rpcQuery R (.call2 "cluster_list2" obj)
  pure (.obj [("clusters", clusters)])

/-- `create` up to its engine call: one `try` around `normalize_req`, `obj_from_primitive` and the
validation, whose only `except` clause is for `ValueError`. -/
def createRequest (body : Json) : Except Exn Json := do
  let normReq ← exceptSchema false (O.normalizeReqKey "ClusterCreateRequest" body "cluster")
  let cls ← vorcClass "ClusterCreateRequest"
  exceptSchema false (O.build cls normReq)

/-- `create(req, body)`. -/
def create (body : Json) : Ctl Json := do
  let obj ← py (createRequest O body)
  let cluster ← rpcSubmit R (.call2 "cluster_create2" (O.cluster obj))
  pure cluster.withCluster

/-- `get` up to its engine call. -/
def getRequest (clusterId : String) : Except Exn Json :=
  requestObject O "ClusterGetRequest"
    (O.normalizeReq "ClusterGetRequest" (.obj [("identity", .str clusterId)]))

/-- `get(req, cluster_id)`. -/
def get (clusterId : String) : Ctl Json := do
  let obj ← py (getRequest O clusterId)
  let cluster ← rpcQuery R (.call2 "cluster_get2" obj)
  pure (.obj [("cluster", cluster)])

/-- `update` up to its engine call. -/
def updateRequest (clusterId : String) (body : Json) : Except Exn Json := do
  let data ← body.get "cluster"
  if data.isNull then
    throw (.httpBadRequest "Malformed request data, missing 'cluster' key in request body.")
  let params ← body.getItem "cluster"
  let params ← params.setItem "identity" (.str clusterId)
  requestObject O "ClusterUpdateRequest" (O.normalizeReq "ClusterUpdateRequest" params)

/-- `update(req, cluster_id, body)`. -/
def update (clusterId : String) (body : Json) : Ctl Json := do
  let obj ← py (updateRequest O clusterId body)
  let cluster ← rpcSubmit R (.call2 "cluster_update2" obj)
  pure cluster.withCluster

/-! ### `_do_resize` -/

/-- Lines 157–171 of `_do_resize`: `adjustment_type` and `number` come together, the type is one
of `ADJUSTMENT_TYPES`, and the number is parsed. -/
def adjustmentNumber (adjType number : Json) : Except Exn (Option Int) := do
  if !adjType.isNull then
    if !C.isAdjustmentType adjType then
      throw (.invalidParameter "adjustment_type" adjType)
    if number.isNull then
      throw (.httpBadRequest "Missing number value for resize operation.")
  if !number.isNull then
    if adjType.isNull then
      throw (.httpBadRequest "Missing adjustment_type value for resize operation.")
    some <$> C.parseIntParam C.adjustmentNumber number true
  else pure none

/-- `if x is not None: x = utils.parse_int_param(name, x, ...)`, for `min_size`, `max_size` and
`min_step`. -/
def optionalInt (name : String) (value : Json) (allowNegative : Bool) :
    Except Exn (Option Int) :=
  if value.isNull then pure none else some <$> C.parseIntParam name value allowNegative

/-- Lines 179–184 of `_do_resize`: a positive `max_size` bounds `min_size`. -/
def checkSizes : Option Int → Option Int → Except Exn Unit
  | some n, some m =>
    if m > 0 ∧ n > m then
      throw (.httpBadRequest
        s!"The specified min_size ({n}) is greater than the specified max_size ({m}).")
    else pure ()
  | _, _ => pure ()

/-- Lines 189–192 of `_do_resize`: `strict` is parsed, and `True` when absent. -/
def strictParam (strict : Json) : Except Exn Bool :=
  if strict.isNull then pure true else C.parseBoolParam C.adjustmentStrict strict

/-- `_do_resize` up to its engine call: the `cluster_resize` call it makes. -/
def resizeCall (clusterId thisAction : String) (body : Json) : Except Exn RpcCall := do
  let data ← body.get thisAction
  let adjType ← data.get C.adjustmentType
  let number ← data.get C.adjustmentNumber
  let minSize ← data.get C.adjustmentMinSize
  let maxSize ← data.get C.adjustmentMaxSize
  let minStep ← data.get C.adjustmentMinStep
  let strict ← data.get C.adjustmentStrict
  let number ← adjustmentNumber C adjType number
  let minSize ← optionalInt C C.adjustmentMinSize minSize false
  let maxSize ← optionalInt C C.adjustmentMaxSize maxSize true
  checkSizes minSize maxSize
  let minStep ← optionalInt C C.adjustmentMinStep minStep false
  let strict ← strictParam C strict
  pure (.clusterResize clusterId adjType number minSize maxSize minStep strict)

/-- `_do_resize(req, cluster_id, this_action, body)`. -/
def doResize (clusterId thisAction : String) (body : Json) : Ctl Json := do
  let call ← py (resizeCall C clusterId thisAction body)
  let result ← rpcSubmit R call
  pure result.located

/-! ### `_sanitize_policy`, `_replace_nodes`, `_add_nodes`, `_del_nodes` -/

/-- `_sanitize_policy(data)`. -/
def sanitizePolicy (data : Json) : Except Exn (PyDict Json) := do
  let some d := data.dict? | throw (.httpBadRequest "The data provided is not a map.")
  if (d.get? C.cpPolicyId).isNone then
    throw (.httpBadRequest "The 'policy_id' field is missing in the request.")
  if (d.get? C.cpEnabled).isSome then
    let enabled := (d.get? C.cpEnabled).getD .null
    match C.parseBoolParam C.cpEnabled enabled with
    | .ok enabled => pure (d.set C.cpEnabled (.bool enabled))
    | .error (.invalidParameter name value) =>
      throw (.httpBadRequest (C.invalidParameterText name value))
    | .error e => throw e
  else pure d

/-- The loop of `_replace_nodes` over `params.items()`. -/
def checkNodeIds : List (String × Json) → Except Exn Unit
  | [] => pure ()
  | (oldNode, newNode) :: rest => do
    if oldNode = "" then throw (.httpBadRequest "The original node id could not be empty.")
    if !newNode.truthy then throw (.httpBadRequest "The replacement node id could not be empty.")
    checkNodeIds rest

/-- `_replace_nodes` up to its engine call: the `nodes` it forwards. The first check is
`if not params or not isinstance(params, dict)`. -/
def replaceNodesCall (thisAction : String) (body : Json) : Except Exn (PyDict Json) := do
  let params ← (← body.get thisAction).get "nodes"
  let some params := (if params.truthy then params.dict? else none)
    | throw (.httpBadRequest "The data provided is not a map.")
  let newNodes := params.values
  if newNodes.length ≠ (← Json.setLen newNodes) then
    throw (.httpBadRequest "The data provided contains duplicated nodes.")
  checkNodeIds params.items
  pure params

/-- `_replace_nodes(req, cluster_id, this_action, body)`, under `api_version('1.3')`: `action`
calls it through `self`, so the version dispatch runs on the request's microversion `ver`. -/
def replaceNodes (ver : ApiVersion) (clusterId thisAction : String) (body : Json) : Ctl Json :=
  versioned ⟨1, 3⟩ ver do
    let params ← py (replaceNodesCall thisAction body)
    let res ← rpcSubmit R (.clusterReplaceNodes clusterId params)
    pure res.located

/-- `_add_nodes` and `_del_nodes`: the request object of class `cls`, sent by `call2` to
`method`. -/
def nodesCall (cls method clusterId : String) (nodes : Json) : Ctl ActionReply := do
  let obj ← py (requestObject O cls
    (O.normalizeReq cls (.obj [("identity", .str clusterId), ("nodes", nodes)])))
  rpcSubmit R (.call2 method obj)

/-- `_add_nodes(ctx, cid, nodes)`. -/
def addNodes (cid : String) (nodes : Json) : Ctl ActionReply :=
  nodesCall O R "ClusterAddNodesRequest" "cluster_add_nodes2" cid nodes

/-- `_del_nodes(ctx, cid, nodes)`. -/
def delNodes (cid : String) (nodes : Json) : Ctl ActionReply :=
  nodesCall O R "ClusterDelNodesRequest" "cluster_del_nodes2" cid nodes

/-! ### `action` -/

/-- Lines 289–298 of `action`: the body's one key, which names a supported action. -/
def actionName (body : Json) : Except Exn String := do
  let n ← body.len
  if n < 1 then throw (.httpBadRequest "No action specified")
  if n > 1 then throw (.httpBadRequest "Multiple actions specified")
  let some thisAction := (← body.keys).head? | throw .indexError
  if thisAction ∉ supportedActions then
    throw (.httpBadRequest s!"Unrecognized action '{thisAction}' specified")
  pure thisAction

/-- `body.get(this_action).get(key, default)`. -/
def actionArg (body : Json) (thisAction key : String) (default : Json) : Except Exn Json := do
  (← body.get thisAction).getD key default

/-- `params = body.get(this_action)`, which `check` and `recover` require to be a map. -/
def actionParams (body : Json) (thisAction : String) : Except Exn (PyDict Json) := do
  let some params := (← body.get thisAction).dict?
    | throw (.httpBadRequest "The params provided is not a map.")
  pure params

/-- The `policy_id` of `policy_detach`. -/
def detachPolicyId (body : Json) (thisAction : String) : Except Exn Json := do
  let policyId ← actionArg body thisAction "policy_id" .null
  if !policyId.truthy then throw (.httpBadRequest "No policy specified for detach.")
  pure policyId

/-- `action(req, cluster_id, body=None)`, on a request of microversion `ver`. -/
def action (ver : ApiVersion) (clusterId : String) (body : Json) : Ctl Json := do
  let body := if body.truthy then body else .obj []
  let thisAction ← py (actionName body)
  if thisAction = "add_nodes" then
    let nodes ← py (actionArg body thisAction "nodes" (.arr []))
    let res ← addNodes O R clusterId nodes
    pure res.located
  else if thisAction = "del_nodes" then
    let nodes ← py (actionArg body thisAction "nodes" (.arr []))
    let res ← delNodes O R clusterId nodes
    pure res.located
  else if thisAction = "resize" then
    doResize C R clusterId thisAction body
  else if thisAction = "scale_out" then
    let count ← py (actionArg body thisAction "count" .null)
    let res ← rpcSubmit R (.clusterScaleOut clusterId count)
    pure res.located
  else if thisAction = "scale_in" then
    let count ← py (actionArg body thisAction "count" .null)
    let res ← rpcSubmit R (.clusterScaleIn clusterId count)
    pure res.located
  else if thisAction = "policy_attach" then
    let data ← py (do sanitizePolicy C (← body.get thisAction))
    let res ← rpcSubmit R (.clusterPolicyAttach clusterId data)
    pure res.located
  else if thisAction = "policy_detach" then
    let policyId ← py (detachPolicyId body thisAction)
    let res ← rpcSubmit R (.clusterPolicyDetach clusterId policyId)
    pure res.located
  else if thisAction = "policy_update" then
    let data ← py (do sanitizePolicy C (← body.get thisAction))
    let res ← rpcSubmit R (.clusterPolicyUpdate clusterId data)
    pure res.located
  else if thisAction = "check" then
    let params ← py (actionParams body thisAction)
    let res ← rpcSubmit R (.clusterCheck clusterId params)
    pure res.located
  else if thisAction = "replace_nodes" then
    replaceNodes R ver clusterId thisAction body
  else
    let params ← py (actionParams body thisAction)
    let res ← rpcSubmit R (.clusterRecover clusterId params)
    pure res.located

/-! ### `collect`, `delete` -/

/-- `collect(req, cluster_id, path)`, under `api_version('1.2')`, on a request of microversion
`ver`. -/
def collect (ver : ApiVersion) (clusterId path : String) : Ctl Json :=
  versioned ⟨1, 2⟩ ver do
    let strippedPath := pyStrip path
    if strippedPath = "" then throw (.httpBadRequest "Required path attribute is missing.")
    rpcQuery R (.clusterCollect clusterId strippedPath)

/-- `delete(req, cluster_id)`. -/
def delete (clusterId : String) : Ctl Json := do
  let res ← rpcSubmit R (.clusterDelete clusterId false)
  pure (.obj [("location", .str res.location)])

end ClusterController

/-! ### One instance of the parameters -/

/-- `str(value)` on the values whose text the examples below show: a string, a boolean, `None`,
an integer (as Python prints an `int`), the infinities and `nan`. Other numbers, lists and dicts,
whose text no example shows, are printed as `<value>`. -/
def pyStr₀ : Json → String
  | .str s => s
  | .bool b => if b then "True" else "False"
  | .null => "None"
  | .num q => if q.den = 1 then toString q.num else "<value>"
  | .inf negative => if negative then "-inf" else "inf"
  | .nan => "nan"
  | _ => "<value>"

/-- The helpers of `senlin.common`, with the names a request body uses; `int()` on numbers,
decimal strings and booleans, `OverflowError` on the infinities and `ValueError` on `nan`; and
the boolean reading of booleans and of `true` and `false` in any case. -/
def common₀ : Common where
  clusterName := "name"
  clusterStatus := "status"
  paramLimit := "limit"
  paramMarker := "marker"
  paramSort := "sort"
  paramGlobalProject := "global_project"
  adjustmentType := "adjustment_type"
  adjustmentNumber := "number"
  adjustmentMinSize := "min_size"
  adjustmentMaxSize := "max_size"
  adjustmentMinStep := "min_step"
  adjustmentStrict := "strict"
  adjustmentTypes := ["EXACT_CAPACITY", "CHANGE_IN_CAPACITY", "CHANGE_IN_PERCENTAGE"]
  cpPolicyId := "policy_id"
  cpEnabled := "enabled"
  toInt := fun
    | .num q => .int (q.num.tdiv q.den)
    | .inf _ => .overflow
    | .str s => match (pyStrip s).toInt? with
      | some n => .int n
      | none => .invalid
    | .bool b => .int (if b then 1 else 0)
    | _ => .invalid
  toBool := fun
    | .bool b => some b
    | .str s => if s.toLower = "true" then some true
      else if s.toLower = "false" then some false else none
    | _ => none
  str := pyStr₀
  invalidParameterText := fun name value =>
    "Invalid value '" ++ pyStr₀ value ++ "' specified for '" ++ name ++ "'"
  getAllowedParams := fun params whitelist =>
    PyDict.ofList ((params.filter fun p => (whitelist.lookup p.1).isSome).map
      fun p => (p.1, .str p.2))

/-- A request-object layer that builds every object and accepts it. -/
def objects₀ : Objects where
  normalizeReq := fun name req => .obj [("senlin_object.name", .str name), ("senlin_object.data", req)]
  normalizeReqKey := fun name req key =>
    match req.getItem key with
    | .ok data => .ok (.obj [("senlin_object.name", .str name), ("senlin_object.data", data)])
    | .error _ => .error (.valueError ("Request body missing " ++ key ++ " key."))
  objFromPrimitive := fun _ normReq => .ok normReq
  validate := fun _ _ => .ok ()
  cluster := id

/-- An engine that answers every query with an empty list and starts the action `action-1` on
every other call. -/
def engine₀ : Engine where
  query := fun _ => .ok (.arr [])
  submit := fun _ => .ok ⟨PyDict.empty.set "action" (.str "action-1"), "action-1", by simp⟩

end Senlin.Api
