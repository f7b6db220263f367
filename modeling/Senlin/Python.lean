import Mathlib.Tactic

/-!
# Python's dictionaries, strings and exceptions

Both the driver and the API controller read and build Python `dict`s keyed by strings: the
`addresses` of a node's details, the map `_get_node_address` builds, and every JSON object of a
request body. A `PyDict` keeps its items in insertion order with each key once; the invariant
is a field, so a dict with a repeated key cannot be built.

* `PyDict.set` is `d[k] = v`: it overwrites in place, or appends a new key;
* `PyDict.ofList` is `dict(pairs)`, as `json.loads` builds an object: later members win, and
  keys keep the order of their first appearance; `ofList_items`: `dict(d.items())` is `d`;
* `pyStrip` is `s.strip()`, which removes every code point `str.isspace` accepts, not only the
  ASCII ones `String.trim` removes.

Python code that raises is an `Except` computation when it changes nothing, and an `EStateM`
computation, which keeps on an exception the changes made before it, when it does. `bind_eq_ok`
and `bind_ok` take either apart one statement at a time.
-/

namespace Senlin

/-- `d[k] = v` on a list of items: overwrite the item of key `k`, or append one. -/
def setItem {α : Type} (k : String) (v : α) : List (String × α) → List (String × α)
  | [] => [(k, v)]
  | p :: rest => if p.1 = k then (k, v) :: rest else p :: setItem k v rest

section SetItem

variable {α : Type} (k : String) (v : α)

theorem lookup_cons_of_ne {k' : String} {l : List (String × α)} (h : k' ≠ k) :
    ((k, v) :: l).lookup k' = l.lookup k' := by
  rw [List.lookup_cons, beq_false_of_ne h]

theorem keys_setItem (l : List (String × α)) :
    (setItem k v l).map Prod.fst =
      if k ∈ l.map Prod.fst then l.map Prod.fst else l.map Prod.fst ++ [k] := by
  induction l with
  | nil => rfl
  | cons p rest ih =>
    simp only [setItem, List.map_cons, List.mem_cons]
    by_cases hp : p.1 = k
    · rw [if_pos hp, if_pos (.inl hp.symm), hp]; rfl
    · rw [if_neg hp, List.map_cons, ih, if_congr (or_iff_right (Ne.symm hp)) rfl rfl]
      split_ifs <;> rfl

theorem lookup_setItem (k' : String) (l : List (String × α)) :
    (setItem k v l).lookup k' = if k' = k then some v else l.lookup k' := by
  induction l with
  | nil => by_cases hk : k' = k <;> simp [setItem, hk, lookup_cons_of_ne]
  | cons p rest ih =>
    obtain ⟨pk, pv⟩ := p
    by_cases hp : pk = k
    · subst hp
      by_cases hk : k' = pk <;> simp [setItem, hk, lookup_cons_of_ne]
    · by_cases hk : k' = pk
      · subst hk
        simp [setItem, hp]
      · simp [setItem, hp, lookup_cons_of_ne _ _ hk, ih]

theorem setItem_of_not_mem {l : List (String × α)} (h : k ∉ l.map Prod.fst) :
    setItem k v l = l ++ [(k, v)] := by
  induction l with
  | nil => rfl
  | cons p rest ih =>
    simp only [List.map_cons, List.mem_cons, not_or] at h
    simp [setItem, Ne.symm h.1, ih h.2]

theorem lookup_filter_ne (l : List (String × α)) (k' : String) :
    (l.filter (·.1 != k)).lookup k' = if k' = k then none else l.lookup k' := by
  induction l with
  | nil => simp
  | cons p rest ih =>
    obtain ⟨pk, pv⟩ := p
    by_cases hp : pk = k
    · subst hp
      rw [List.filter_cons_of_neg (by simp), ih]
      split_ifs with hk
      · rfl
      · rw [lookup_cons_of_ne _ _ hk]
    · rw [List.filter_cons_of_pos (by simpa using hp)]
      by_cases hk : k' = pk
      · subst hk
        simp [hp]
      · rw [lookup_cons_of_ne _ _ hk, lookup_cons_of_ne _ _ hk, ih]

end SetItem

/-- A Python `dict` with string keys: its items in insertion order, each key once. -/
structure PyDict (α : Type) where
  items : List (String × α)
  nodup : (items.map Prod.fst).Nodup

namespace PyDict

variable {α : Type}

/-- `{}`. -/
def empty : PyDict α := ⟨[], List.nodup_nil⟩

/-- The keys, in insertion order. -/
def keys (d : PyDict α) : List String := d.items.map Prod.fst

/-- `d.values()`. -/
def values (d : PyDict α) : List α := d.items.map Prod.snd

/-- `d.get(k)`, with `none` for a missing key. -/
def get? (d : PyDict α) (k : String) : Option α := d.items.lookup k

/-- `d.get(k, default)`. -/
def getD (d : PyDict α) (k : String) (default : α) : α := (d.get? k).getD default

/-- `d[k] = v`. -/
def set (d : PyDict α) (k : String) (v : α) : PyDict α where
  items := setItem k v d.items
  nodup := by
    rw [keys_setItem]
    by_cases hk : k ∈ d.items.map Prod.fst
    · rw [if_pos hk]; exact d.nodup
    · rw [if_neg hk]; exact d.nodup.append (List.nodup_singleton k) (List.disjoint_singleton.2 hk)

/-- What `d.pop(k)` leaves in `d`. -/
def erase (d : PyDict α) (k : String) : PyDict α where
  items := d.items.filter (·.1 != k)
  nodup := d.nodup.sublist ((List.filter_sublist _).map _)

/-- `dict(pairs)`: later pairs win, keys in the order of their first appearance. -/
def ofList (kvs : List (String × α)) : PyDict α := kvs.foldl (fun d p => d.set p.1 p.2) empty

@[simp] theorem get?_empty (k : String) : (empty : PyDict α).get? k = none := rfl

@[simp] theorem get?_set (d : PyDict α) (k k' : String) (v : α) :
    (d.set k v).get? k' = if k' = k then some v else d.get? k' :=
  lookup_setItem k v k' d.items

@[simp] theorem get?_erase (d : PyDict α) (k k' : String) :
    (d.erase k).get? k' = if k' = k then none else d.get? k' :=
  lookup_filter_ne k d.items k'

theorem eq_of_items {d d' : PyDict α} (h : d.items = d'.items) : d = d' := by
  cases d; cases d'; cases h; rfl

theorem items_foldl_set (l : List (String × α)) (acc : PyDict α)
    (hnd : (l.map Prod.fst).Nodup) (hdis : ∀ k ∈ l.map Prod.fst, k ∉ acc.keys) :
    (l.foldl (fun d p => d.set p.1 p.2) acc).items = acc.items ++ l := by
  induction l generalizing acc with
  | nil => simp
  | cons p rest ih =>
    simp only [List.map_cons, List.nodup_cons, List.mem_cons, forall_eq_or_imp] at hnd hdis
    have hset : (acc.set p.1 p.2).items = acc.items ++ [p] := setItem_of_not_mem _ _ hdis.1
    rw [List.foldl_cons, ih _ hnd.2, hset, List.append_assoc, List.singleton_append]
    intro k hk
    simp only [keys, hset, List.map_append, List.mem_append, List.map_singleton,
      List.mem_singleton, not_or]
    exact ⟨hdis.2 k hk, fun e => hnd.1 (e ▸ hk)⟩

/-- `dict(d.items())` is `d`. -/
theorem ofList_items (d : PyDict α) : ofList d.items = d :=
  eq_of_items (items_foldl_set d.items empty d.nodup fun k _ => List.not_mem_nil k)

/-- The values of a `dict` are pairwise distinct exactly when no two keys share a value. -/
theorem values_nodup_iff (d : PyDict α) :
    d.values.Nodup ↔ ∀ p ∈ d.items, ∀ q ∈ d.items, p.2 = q.2 → p.1 = q.1 := by
  rw [values, List.nodup_map_iff_inj_on (d.nodup.of_map _)]
  exact ⟨fun h p hp q hq e => congrArg Prod.fst (h p hp q hq e),
    fun h p hp q hq e => Prod.ext (h p hp q hq e) e⟩

end PyDict

/-! ### Strings -/

/-- `c.isspace()` in Python 3: the code points `str.strip()` removes. -/
def pyIsSpace (c : Char) : Bool :=
  let n := c.toNat
  (0x09 ≤ n && n ≤ 0x0D) || (0x1C ≤ n && n ≤ 0x20) || n == 0x85 || n == 0xA0 || n == 0x1680 ||
    (0x2000 ≤ n && n ≤ 0x200A) || n == 0x2028 || n == 0x2029 || n == 0x202F || n == 0x205F ||
    n == 0x3000

/-- `s.strip()`: the string without its leading and trailing whitespace. -/
def pyStrip (s : String) : String :=
  ⟨((s.data.dropWhile pyIsSpace).reverse.dropWhile pyIsSpace).reverse⟩

/-! ### Exceptions -/

section Except

variable {ε α β : Type}

@[simp] theorem ok_bind (a : α) (f : α → Except ε β) : (Except.ok a >>= f) = f a := rfl

@[simp] theorem error_bind (e : ε) (f : α → Except ε β) :
    (Except.error e >>= f) = Except.error e := rfl

theorem bind_eq_ok {x : Except ε α} {f : α → Except ε β} {b : β} :
    x >>= f = .ok b ↔ ∃ a, x = .ok a ∧ f a = .ok b := by
  cases x <;> simp

theorem bind_eq_error {x : Except ε α} {f : α → Except ε β} {e : ε} :
    x >>= f = .error e ↔ x = .error e ∨ ∃ a, x = .ok a ∧ f a = .error e := by
  cases x <;> simp

@[simp] theorem except_pure (a : α) : (pure a : Except ε α) = .ok a := rfl

@[simp] theorem except_throw (e : ε) : (throw e : Except ε α) = .error e := rfl

/-- A loop `for x in xs: if p(x): raise err(x)` raises at the first element that fails, as
`List.find?` finds it. -/
theorem forM_throw_first (p : α → Bool) (err : α → ε) (xs : List α) :
    xs.forM (fun x => if p x then throw (err x) else pure ()) =
      (match xs.find? p with
       | some x => .error (err x)
       | none => .ok () : Except ε Unit) := by
  induction xs with
  | nil => rfl
  | cons x xs ih =>
    cases h : p x
    · simpa [List.forM_cons, List.find?_cons, h] using ih
    · simp [List.forM_cons, List.find?_cons, h]

end Except

section EStateM

variable {ε σ α β : Type} {x : EStateM ε σ α} {f : α → EStateM ε σ β} {s s' : σ}

theorem bind_ok {a : α} (h : x s = .ok a s') : (x >>= f) s = f a s' := by
  show EStateM.bind x f s = _
  simp only [EStateM.bind, h]

theorem bind_error {e : ε} (h : x s = .error e s') : (x >>= f) s = .error e s' := by
  show EStateM.bind x f s = _
  simp only [EStateM.bind, h]

@[simp] theorem pure_apply (a : α) : (pure a : EStateM ε σ α) s = .ok a s := rfl

@[simp] theorem throw_apply (e : ε) : (throw e : EStateM ε σ α) s = .error e s := rfl

@[simp] theorem throw_bind (e : ε) (f : α → EStateM ε σ β) :
    (throw e >>= f : EStateM ε σ β) = throw e := rfl

theorem tryCatch_ok {h : ε → EStateM ε σ α} {a : α} (hx : x s = .ok a s') :
    tryCatch x h s = .ok a s' := by
  show EStateM.tryCatch x h s = _
  simp only [EStateM.tryCatch, hx]

theorem tryCatch_error {h : ε → EStateM ε σ α} {e : ε} (hx : x s = .error e s') :
    tryCatch x h s = h e s' := by
  show EStateM.tryCatch x h s = _
  simp only [EStateM.tryCatch, hx]
  rfl

end EStateM

end Senlin
