import Senlin.Python

/-!
# Request bodies: JSON values and the Python operations the controller applies to them

A request body of the cluster API is what `json.loads` returns: `None`, a `bool`, a number, a
`str`, a `list` or a `dict`. A number is an `int`, or a `float`, which is a rational number, an
infinity (`json.loads` reads `Infinity`, and a literal too large for a float such as `1e400`, as
`inf`) or `NaN`. `ClusterController` reads it with Python's own operations, and most of
them raise on the wrong kind of value:

* `x.get(k)`, `x.keys()`: `AttributeError` unless `x` is a `dict`;
* `x[k]`, `x[k] = v` with a string `k`: `TypeError` unless `x` is a `dict`;
* `len(x)`: `TypeError` on `None`, a `bool` or a number;
* `set(xs)`: `TypeError` when a member is a `list` or a `dict`;
* `if x`, `not x`, `x or y`: truthiness, which never raises.

An object keeps its members as written (`Json.obj`); the `dict` it denotes is `PyDict.ofList` of
them, so a repeated key keeps its last value, as `json.loads` does.
-/

namespace Senlin.Api

/-- A JSON value, as `json.loads` returns it. -/
inductive Json
  | null
  | bool (b : Bool)
  /-- An `int`, or a finite `float`, with its exact value. -/
  | num (q : ℚ)
  /-- The `float` `inf`, or `-inf` when `negative`. -/
  | inf (negative : Bool)
  /-- The `float` `nan`. -/
  | nan
  | str (s : String)
  | arr (xs : List Json)
  | obj (members : List (String × Json))
  deriving Inhabited

/-- The exceptions the controller raises, or lets through from the code it calls. -/
inductive Exn
  /-- `webob.exc.HTTPBadRequest(msg)`. -/
  | httpBadRequest (msg : String)
  /-- `senlin.common.exception.InvalidParameter(name=name, value=value)`. -/
  | invalidParameter (name : String) (value : Json)
  /-- A `jsonschema` `ValidationError` that no `except` clause catches. -/
  | validationError (message : String)
  /-- `AttributeError`: a `dict` method called on another value, or a missing module attribute. -/
  | attributeError (attr : String)
  /-- `TypeError` from the operation named. -/
  | typeError (op : String)
  /-- `KeyError`. -/
  | keyError (key : String)
  /-- `IndexError`. -/
  | indexError
  /-- `OverflowError`, which `int()` raises on an infinite `float`. -/
  | overflowError
  /-- `webob.exc.HTTPNotFound`, which the versioned-method dispatch of `wsgi.Controller` raises
  when the request's microversion is below a method's minimum. -/
  | httpNotFound
  /-- An exception the engine raised in an RPC call (such as `ResourceNotFound`), by name. -/
  | remote (name : String)

/-- The client errors, which the API answers with a 400: `HTTPBadRequest` and
`InvalidParameter`. -/
def Exn.isClientError : Exn → Bool
  | .httpBadRequest _ => true
  | .invalidParameter _ _ => true
  | _ => false

namespace Json

/-- `x is None`. -/
def isNull : Json → Bool
  | null => true
  | _ => false

/-- The `dict` an object denotes. -/
def dict? : Json → Option (PyDict Json)
  | obj members => some (PyDict.ofList members)
  | _ => none

/-- `bool(x)`: `None`, `False`, zero and empty values are false. -/
def truthy : Json → Bool
  | null => false
  | bool b => b
  | num q => q != 0
  | inf _ => true
  | nan => true
  | str s => s != ""
  | arr xs => !xs.isEmpty
  | obj members => !(PyDict.ofList members).items.isEmpty

/-- `x.get(k, default)`. -/
def getD (x : Json) (k : String) (default : Json) : Except Exn Json :=
  match x.dict? with
  | some d => .ok (d.getD k default)
  | none => .error (.attributeError "get")

/-- `x.get(k)`. -/
def get (x : Json) (k : String) : Except Exn Json := x.getD k null

/-- `x[k]`. -/
def getItem (x : Json) (k : String) : Except Exn Json :=
  match x.dict? with
  | some d =>
    match d.get? k with
    | some v => .ok v
    | none => .error (.keyError k)
  | none => .error (.typeError "subscript")

/-- `x[k] = v`, and the value `x` holds afterwards. -/
def setItem (x : Json) (k : String) (v : Json) : Except Exn Json :=
  match x.dict? with
  | some d => .ok (obj (d.set k v).items)
  | none => .error (.typeError "item assignment")

/-- `len(x)`. -/
def len : Json → Except Exn Nat
  | str s => .ok s.length
  | arr xs => .ok xs.length
  | obj members => .ok (PyDict.ofList members).items.length
  | _ => .error (.typeError "len")

/-- `list(x.keys())`. -/
def keys (x : Json) : Except Exn (List String) :=
  match x.dict? with
  | some d => .ok d.keys
  | none => .error (.attributeError "keys")

/-- What a `set` tells its members apart by: Python's `==`, under which `True == 1`. -/
inductive HashKey
  | none
  | num (q : ℚ)
  | inf (negative : Bool)
  /-- `json.loads` returns one `nan` object, which a `set` keeps once. -/
  | nan
  | str (s : String)
  deriving DecidableEq

/-- The `HashKey` of a member of a `set`. -/
def hashKey : Json → Except Exn HashKey
  | null => .ok .none
  | bool b => .ok (.num (if b then 1 else 0))
  | num q => .ok (.num q)
  | inf neg => .ok (.inf neg)
  | nan => .ok .nan
  | str s => .ok (.str s)
  | _ => .error (.typeError "unhashable")

/-- `len(list(set(xs)))`. -/
def setLen (xs : List Json) : Except Exn Nat := do
  let ks ← xs.mapM hashKey
  pure ks.dedup.length

@[simp] theorem isNull_null : null.isNull = true := rfl
@[simp] theorem isNull_obj (members : List (String × Json)) : (obj members).isNull = false := rfl
@[simp] theorem dict?_obj (members : List (String × Json)) :
    (obj members).dict? = some (PyDict.ofList members) := rfl

@[simp] theorem getD_obj (members : List (String × Json)) (k : String) (default : Json) :
    (obj members).getD k default = .ok ((PyDict.ofList members).getD k default) := rfl

@[simp] theorem get_obj (members : List (String × Json)) (k : String) :
    (obj members).get k = .ok ((PyDict.ofList members).getD k null) := rfl

@[simp] theorem dict?_null : null.dict? = none := rfl
@[simp] theorem dict?_arr (xs : List Json) : (arr xs).dict? = none := rfl
@[simp] theorem dict?_str (s : String) : (str s).dict? = none := rfl

/-- A `dict` is true when it has an item. -/
theorem truthy_of_dict? {x : Json} {d : PyDict Json} (h : x.dict? = some d) :
    x.truthy = !d.items.isEmpty := by
  cases x <;> cases h
  rfl

end Json

/-! ### Validation code

Most of what the controller does before its engine call checks the request: it returns a value
built from the request when a condition holds, and raises otherwise. `Checks E P v x` says so of
`x`, with the exceptions it may raise limited by `E`; `Checks.bind` chains such statements along
the code, conjoining their conditions. -/

/-- A client error. -/
def ClientError (e : Exn) : Prop := e.isClientError = true

/-- An `HTTPBadRequest`. -/
def BadRequest (e : Exn) : Prop := ∃ msg, e = .httpBadRequest msg

section Checks

variable {α β : Type} {E : Exn → Prop}

/-- `x` returns `v` when `P` holds, and otherwise raises an exception that `E` allows. -/
def Checks (E : Exn → Prop) (P : Prop) (v : α) (x : Except Exn α) : Prop :=
  (P ∧ x = .ok v) ∨ (¬P ∧ ∃ e, x = .error e ∧ E e)

variable {P Q : Prop} {a a' : α} {b : β} {x : Except Exn α}

theorem Checks.pure (a : α) : Checks E True a (pure a) := .inl ⟨trivial, rfl⟩

theorem Checks.of_error {e : Exn} (hP : ¬P) (h : x = .error e) (he : E e) : Checks E P a x :=
  .inr ⟨hP, e, h, he⟩

theorem Checks.bind {f : α → Except Exn β} (hx : Checks E P a x)
    (hf : P → Checks E Q b (f a)) : Checks E (P ∧ Q) b (x >>= f) := by
  rcases hx with ⟨hP, rfl⟩ | ⟨hP, e, rfl, he⟩
  · rcases hf hP with ⟨hQ, h⟩ | ⟨hQ, e, h, he⟩
    · exact .inl ⟨⟨hP, hQ⟩, h⟩
    · exact .inr ⟨fun h => hQ h.2, e, h, he⟩
  · exact .inr ⟨fun h => hP h.1, e, rfl, he⟩

theorem Checks.map (g : α → β) (hx : Checks E P a x) : Checks E P (g a) (g <$> x) := by
  rcases hx with ⟨hP, rfl⟩ | ⟨hP, e, rfl, he⟩
  · exact .inl ⟨hP, rfl⟩
  · exact .inr ⟨hP, e, rfl, he⟩

theorem Checks.congr (hx : Checks E P a x) (hPQ : P ↔ Q) (ha : P → a = a') :
    Checks E Q a' x := by
  rcases hx with ⟨hP, h⟩ | ⟨hP, h⟩
  · exact .inl ⟨hPQ.1 hP, ha hP ▸ h⟩
  · exact .inr ⟨fun hQ => hP (hPQ.2 hQ), h⟩

/-- A check whose exceptions `E` allows raises only what a wider `E'` allows. -/
theorem Checks.mono {E' : Exn → Prop} (hx : Checks E P a x) (hE : ∀ e, E e → E' e) :
    Checks E' P a x := by
  rcases hx with h | ⟨hP, e, h, he⟩
  · exact .inl h
  · exact .inr ⟨hP, e, h, hE e he⟩

theorem Checks.eq_of_ok (hx : Checks E P a x) (h : x = .ok a') : a' = a := by
  rcases hx with ⟨-, rfl⟩ | ⟨-, e, rfl, -⟩ <;> cases h
  rfl

/-- `if c: raise e`, then the rest of the code. -/
theorem Checks.ite_throw {c : Prop} [Decidable c] {e : Exn} {k : PUnit → Except Exn α}
    (he : E e) (hk : ¬c → Checks E P a (k ⟨⟩)) :
    Checks E (¬c ∧ P) a (if c then throw e >>= k else Pure.pure ⟨⟩ >>= k) := by
  by_cases hc : c
  · exact .of_error (fun h => h.1 hc) (by rw [if_pos hc]; rfl) he
  · rw [if_neg hc]
    exact (hk hc).congr ⟨fun h => ⟨hc, h⟩, And.right⟩ fun _ => rfl

end Checks

end Senlin.Api
