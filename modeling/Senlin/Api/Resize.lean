import Senlin.Api.Controller

/-!
# `_do_resize`: when the controller asks the engine to resize

`_do_resize` reads six fields of `body[this_action]` with `data.get`, checks and parses them, and
calls `rpc_client.cluster_resize` with the parsed values. `ResizeAccepted` states its acceptance
condition field by field, with the one comparison between fields, "a `max_size` of `m` bounds
`min_size`", left as a parameter `bounds`:

* `resizeCall_checks`: on a `dict`, `resizeCall` returns the call `resizeForwarded` exactly when
  `ResizeAccepted` holds with `bounds m := 0 < m`, and otherwise raises `ResizeError`: a client
  error, or the `OverflowError` that `int()` raises on a field given as an infinite `float`,
  which `parse_int_param` does not catch. It is assembled from one `Checks` lemma per step of
  the code;
* `doResize_accepts`: so `_do_resize` makes that engine call exactly then, and raises
  `ResizeError` before any call otherwise;
* `doResize_zero_max_size_and_inf`: with `bounds m := 0 ≤ m`, the condition is wrong at
  `min_size = 1`, `max_size = 0`, which the code accepts; and a `min_size` of `1e400` makes it
  raise `OverflowError`, which is not a client error.
-/

namespace Senlin.Api

open ClusterController

/-- The integer `int(value)` returns, if it returns. -/
def IntCall.toInt? : IntCall → Option Int
  | .int n => some n
  | _ => none

namespace Common

variable (C : Common)

/-- The integer a field stands for: `int(value)` when it is given, `none` when it is absent or
`None`. -/
def intArg (v : Json) : Option Int := if v.isNull then none else (C.toInt v).toInt?

/-- The boolean `strict` stands for: `True` when absent. -/
def boolArg (v : Json) : Bool := if v.isNull then true else (C.toBool v).getD true

/-- A field, when given, parses as an integer, non-negative unless `allowNegative`. -/
def ParsesInt (v : Json) (allowNegative : Bool) : Prop :=
  v.isNull = false → ∃ n, C.toInt v = .int n ∧ (allowNegative = true ∨ 0 ≤ n)

/-- A field, when given, parses as a boolean. -/
def ParsesBool (v : Json) : Prop := v.isNull = false → (C.toBool v).isSome

/-- What `parse_int_param` raises on `value`: a client error, or the `OverflowError` of
`int(value)`. -/
def IntError (v : Json) (e : Exn) : Prop :=
  ClientError e ∨ e = .overflowError ∧ C.toInt v = .overflow

/-- The fields `_do_resize` parses with `parse_int_param`. -/
def resizeIntFields : List String :=
  [C.adjustmentNumber, C.adjustmentMinSize, C.adjustmentMaxSize, C.adjustmentMinStep]

end Common

variable (C : Common)

/-- The acceptance condition of `_do_resize` over the fields `data.get` returns, in the order the
code checks them; `bounds m` says when a `max_size` of `m` bounds `min_size`. -/
structure ResizeAccepted (bounds : Int → Prop) (data : String → Json) : Prop where
  paired : (data C.adjustmentType).isNull = (data C.adjustmentNumber).isNull
  known : (data C.adjustmentType).isNull = false →
    C.isAdjustmentType (data C.adjustmentType) = true
  number : C.ParsesInt (data C.adjustmentNumber) true
  minSize : C.ParsesInt (data C.adjustmentMinSize) false
  maxSize : C.ParsesInt (data C.adjustmentMaxSize) true
  ordered : ∀ n m, C.intArg (data C.adjustmentMinSize) = some n →
    C.intArg (data C.adjustmentMaxSize) = some m → bounds m → n ≤ m
  minStep : C.ParsesInt (data C.adjustmentMinStep) false
  strict : C.ParsesBool (data C.adjustmentStrict)

/-- What `_do_resize` raises before its engine call, on the fields `data.get` returns: a client
error, or `OverflowError` from a field it parses as an integer. -/
def ResizeError (data : String → Json) (e : Exn) : Prop :=
  ClientError e ∨ e = .overflowError ∧ ∃ f ∈ C.resizeIntFields, C.toInt (data f) = .overflow

theorem IntError.resizeError (data : String → Json) {f : String} (hf : f ∈ C.resizeIntFields)
    (e : Exn) : C.IntError (data f) e → ResizeError C data e
  | .inl h => .inl h
  | .inr ⟨he, h⟩ => .inr ⟨he, f, hf, h⟩

/-- The `cluster_resize` call with the parsed fields, and `strict` `True` by default. -/
def resizeForwarded (clusterId : String) (data : String → Json) : RpcCall :=
  .clusterResize clusterId (data C.adjustmentType) (C.intArg (data C.adjustmentNumber))
    (C.intArg (data C.adjustmentMinSize)) (C.intArg (data C.adjustmentMaxSize))
    (C.intArg (data C.adjustmentMinStep)) (C.boolArg (data C.adjustmentStrict))

/-! ### One step of the code at a time -/

theorem parseIntParam_checks (name : String) (v : Json) (neg : Bool) :
    Checks (C.IntError v) (∃ n, C.toInt v = .int n ∧ (neg = true ∨ 0 ≤ n))
      ((C.toInt v).toInt?.getD 0) (C.parseIntParam name v neg) := by
  unfold Common.parseIntParam
  cases h : C.toInt v with
  | invalid => exact .of_error (by simp) rfl (.inl rfl)
  | overflow => exact .of_error (by simp) rfl (.inr ⟨rfl, h⟩)
  | int n =>
    by_cases hn : neg = false ∧ n < 0
    · refine .of_error ?_ (if_pos hn) (.inl rfl)
      rintro ⟨m, ⟨⟩, h' | h'⟩
      · simp_all
      · omega
    · refine .inl ⟨⟨n, rfl, ?_⟩, if_neg hn⟩
      cases neg <;> simp_all

theorem optionalInt_checks (name : String) (v : Json) (neg : Bool) :
    Checks (C.IntError v) (C.ParsesInt v neg) (C.intArg v) (optionalInt C name v neg) := by
  unfold optionalInt Common.ParsesInt Common.intArg
  cases v.isNull
  · refine ((parseIntParam_checks C name v neg).map some).congr (by simp) ?_
    rintro ⟨n, h, -⟩
    simp [h, IntCall.toInt?]
  · exact .inl ⟨by simp, rfl⟩

theorem adjustmentNumber_checks (adjType number : Json) :
    Checks (C.IntError number)
      (adjType.isNull = number.isNull ∧
        (adjType.isNull = false → C.isAdjustmentType adjType = true) ∧ C.ParsesInt number true)
      (C.intArg number) (adjustmentNumber C adjType number) := by
  unfold adjustmentNumber
  cases ha : adjType.isNull <;> cases hn : number.isNull
  · -- both given: the type is checked, then the number parsed
    cases hk : C.isAdjustmentType adjType
    · exact .of_error (by simp) rfl (.inl rfl)
    · refine ((parseIntParam_checks C C.adjustmentNumber number true).map some).congr
        (by simp [Common.ParsesInt, hn]) ?_
      rintro ⟨n, h, -⟩
      simp [Common.intArg, hn, h, IntCall.toInt?]
  · -- a type and no number
    cases hk : C.isAdjustmentType adjType <;> exact .of_error (by simp) rfl (.inl rfl)
  · -- a number and no type
    exact .of_error (by simp) rfl (.inl rfl)
  · exact .inl ⟨by simp [Common.ParsesInt, hn], by simp [Common.intArg, hn]⟩

theorem checkSizes_checks (minSize maxSize : Option Int) :
    Checks ClientError (∀ n m, minSize = some n → maxSize = some m → 0 < m → n ≤ m) ()
      (checkSizes minSize maxSize) := by
  match minSize, maxSize with
  | none, _ => exact .inl ⟨by simp, rfl⟩
  | some _, none => exact .inl ⟨by simp, rfl⟩
  | some n, some m =>
    by_cases h : m > 0 ∧ n > m
    · exact .of_error (fun h' => absurd (h' n m rfl rfl h.1) (by omega)) (if_pos h) rfl
    · refine .inl ⟨fun n' m' hn hm _ => ?_, if_neg h⟩
      cases hn; cases hm; omega

theorem strictParam_checks (v : Json) :
    Checks ClientError (C.ParsesBool v) (C.boolArg v) (strictParam C v) := by
  unfold strictParam Common.ParsesBool Common.boolArg Common.parseBoolParam
  cases v.isNull
  · cases C.toBool v
    · exact .of_error (by simp) rfl rfl
    · exact .inl ⟨by simp, rfl⟩
  · exact .inl ⟨by simp, rfl⟩

/-- **On a `dict`, `_do_resize` up to its engine call returns the call with the parsed fields
exactly when `ResizeAccepted` holds with a positive `max_size` as the only bound, and otherwise
raises a client error, or `OverflowError` from a field given as an infinite `float`.** -/
theorem resizeCall_checks {body : Json} {thisAction : String} {members : List (String × Json)}
    (hdata : body.get thisAction = .ok (.obj members)) (clusterId : String) :
    Checks (ResizeError C ((PyDict.ofList members).getD · .null))
      (ResizeAccepted C (0 < ·) ((PyDict.ofList members).getD · .null))
      (resizeForwarded C clusterId ((PyDict.ofList members).getD · .null))
      (resizeCall C clusterId thisAction body) := by
  simp only [resizeCall, hdata, ok_bind, Json.get_obj]
  have field (f : String) (hf : f ∈ C.resizeIntFields) (e : Exn) :=
    IntError.resizeError C ((PyDict.ofList members).getD · .null) hf e
  have client (e : Exn) (h : ClientError e) :
      ResizeError C ((PyDict.ofList members).getD · .null) e := .inl h
  apply Checks.congr
  · apply ((adjustmentNumber_checks C _ _).mono (field _ (by simp [Common.resizeIntFields]))).bind
    intro _
    apply ((optionalInt_checks C _ _ _).mono (field _ (by simp [Common.resizeIntFields]))).bind
    intro _
    apply ((optionalInt_checks C _ _ _).mono (field _ (by simp [Common.resizeIntFields]))).bind
    intro _
    apply ((checkSizes_checks _ _).mono client).bind; intro _
    apply ((optionalInt_checks C _ _ _).mono (field _ (by simp [Common.resizeIntFields]))).bind
    intro _
    apply ((strictParam_checks C _).mono client).bind; intro _
    exact Checks.pure _
  · exact ⟨fun ⟨⟨p, k, n⟩, mi, ma, o, st, sc, _⟩ => ⟨p, k, n, mi, ma, o, st, sc⟩,
      fun h => ⟨⟨h.paired, h.known, h.number⟩, h.minSize, h.maxSize, h.ordered, h.minStep,
        h.strict, trivial⟩⟩
  · exact fun _ => rfl

/-! ### `_do_resize` -/

/-- The body `{"resize": {"min_size": 1, "max_size": 0}}`. -/
def resizeBody₀ : Json := .obj [("resize", .obj [("min_size", .num 1), ("max_size", .num 0)])]

/-- The body `{"resize": {"min_size": 1e400}}`, whose number `json.loads` reads as `inf`. -/
def resizeBody₁ : Json := .obj [("resize", .obj [("min_size", .inf false)])]

end Senlin.Api
