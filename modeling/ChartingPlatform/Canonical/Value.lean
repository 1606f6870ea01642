/-
  Canonical JSON (`canonical.py`): the Python values it is applied to, the
  type-tagged tree `_canonical_value` builds from a value, `canonical_json` and
  `content_digest`.

  A value is one of the shapes the function's `isinstance` chain tells apart,
  in the order of the chain; each constructor of `PyValue` is one branch, and
  `object` stands for every other type.  A dataclass instance carries the
  metadata of its fields (`dataclasses.fields`).

  SHA-256 is a parameter `sha256` from the serialised text to content
  addresses; results that need it to be free of collisions say so.
-/
import ChartingPlatform.Canonical.Scalar
import ChartingPlatform.Lib.Json
import ChartingPlatform.Lib.Sorting

namespace ChartingPlatform

open Lib List

/-! ## Values -/

inductive PyKey where
  | str (s : String)
  | other
  deriving DecidableEq

def PyKey.text : PyKey → String
  | .str s => s
  | .other => ""

structure Field where
  name : String
  /-- `metadata={"canonical_omit_none": True}` -/
  omitNone : Bool := false
  /-- `field(init=...)` -/
  init : Bool := true
  deriving DecidableEq

/-- A Python value, by the branch of `_canonical_value` that takes it. -/
inductive PyValue where
  | dataclass (cls : String) (fields : List (Field × PyValue))
  | enum (cls : String) (value : PyValue)
  | decimal (d : PyDecimal)
  | datetime (d : PyDateTime)
  | timedelta (d : PyTimedelta)
  | date (d : Day)
  | mapping (items : List (PyKey × PyValue))
  | set (frozen : Bool) (items : List PyValue)
  | tuple (items : List PyValue)
  | list (items : List PyValue)
  | float (x : PyFloat)
  | none
  | bool (b : Bool)
  | int (z : ℤ)
  | str (s : String)
  | object (typeName : String)

/-- Induction over values, with a hypothesis for every element of a container. -/
@[elab_as_elim]
theorem PyValue.induct {P : PyValue → Prop}
    (dataclass : ∀ cls fs, (∀ f ∈ fs, P f.2) → P (.dataclass cls fs))
    (enum : ∀ cls v, P v → P (.enum cls v))
    (decimal : ∀ d, P (.decimal d)) (datetime : ∀ d, P (.datetime d))
    (timedelta : ∀ d, P (.timedelta d)) (date : ∀ d, P (.date d))
    (mapping : ∀ is, (∀ i ∈ is, P i.2) → P (.mapping is))
    (set : ∀ b xs, (∀ x ∈ xs, P x) → P (.set b xs))
    (tuple : ∀ xs, (∀ x ∈ xs, P x) → P (.tuple xs))
    (list : ∀ xs, (∀ x ∈ xs, P x) → P (.list xs))
    (float : ∀ x, P (.float x)) (none : P .none) (bool : ∀ b, P (.bool b))
    (int : ∀ z, P (.int z)) (str : ∀ s, P (.str s)) (object : ∀ t, P (.object t)) :
    ∀ v, P v := by
  have step : ∀ n (v : PyValue), sizeOf v < n → P v := by
    intro n
    induction n with
    | zero => intro v h; omega
    | succ n ih =>
      intro v h
      cases v with
      | dataclass cls fs =>
        refine dataclass cls fs fun f hf => ih _ ?_
        have := sizeOf_lt_of_mem hf
        obtain ⟨f, v⟩ := f
        simp at this h ⊢; omega
      | enum cls v => exact enum cls v (ih v (by simp at h; omega))
      | mapping is =>
        refine mapping is fun i hi => ih _ ?_
        have := sizeOf_lt_of_mem hi
        obtain ⟨k, v⟩ := i
        simp at this h ⊢; omega
      | set b xs =>
        refine set b xs fun x hx => ih x ?_
        have := sizeOf_lt_of_mem hx
        simp at h; omega
      | tuple xs =>
        refine tuple xs fun x hx => ih x ?_
        have := sizeOf_lt_of_mem hx
        simp at h; omega
      | list xs =>
        refine list xs fun x hx => ih x ?_
        have := sizeOf_lt_of_mem hx
        simp at h; omega
      | decimal d => exact decimal d
      | datetime d => exact datetime d
      | timedelta d => exact timedelta d
      | date d => exact date d
      | float x => exact float x
      | none => exact none
      | bool b => exact bool b
      | int z => exact int z
      | str s => exact str s
      | object t => exact object t
  exact fun v => step _ v (Nat.lt_succ_self _)

/-- `value is None`. -/
def PyValue.isNone : PyValue → Bool
  | .none => true
  | _ => false

def Field.isPrivate (f : Field) : Bool := f.name.toList.head? == some '_'

/-- The fields `_canonical_value` leaves out. -/
def omitted (f : Field) (v : PyValue) : Bool := f.isPrivate || (f.omitNone && v.isNone)

/-! ## The tagged tree -/

/-- `[tag, ...]`. -/
def tagged (tag : String) (rest : List Json) : Json := .arr (.str tag :: rest)

mutual

/-- `_canonical_value`. -/
def canonicalValue : PyValue → Except PyError Json
  | .dataclass cls fields => do
    let fs ← collect (canonicalFields fields)
    return tagged "dataclass" [.str cls, .arr fs]
  | .enum cls value => do
    let j ← canonicalValue value
    return tagged "enum" [.str cls, j]
  | .decimal (.finite negative c e) =>
    .ok (tagged "decimal" [.str (String.ofList (decimalIdentity negative c e))])
  | .decimal .special => .error (valueError "non-finite decimals are not canonical JSON values")
  | .datetime d => do
    let t ← d.instant
    return tagged "datetime" [.str (String.ofList (instantText t))]
  | .timedelta d =>
    .ok (tagged "timedelta" [.int d.days, .int d.seconds.val, .int d.microseconds.val])
  | .date d => .ok (tagged "date" [.str (String.ofList (dateText d))])
  | .mapping items => do
    ensure (∀ i ∈ items, i.1 ≠ .other) (typeError "canonical JSON object keys must be strings")
    let es ← collect ((sortBy Prod.fst (canonicalEntries items)).map Prod.snd)
    return tagged "mapping" [.arr es]
  | .set _ items => do
    let js ← collect (canonicalItems items)
    return tagged "set" [.arr (sortBy Json.dumps js)]
  | .tuple items => do
    let js ← collect (canonicalItems items)
    return tagged "tuple" [.arr js]
  | .list items => do
    let js ← collect (canonicalItems items)
    return tagged "list" [.arr js]
  | .float x =>
    if x.exponent.val = 2047 then
      .error (valueError "non-finite floats are not canonical JSON values")
    else .ok (tagged "float" [.str (String.ofList (floatHex x))])
  | .none => .ok (tagged "null" [])
  | .bool b => .ok (tagged "bool" [.bool b])
  | .int z => .ok (tagged "int" [.str (String.ofList (intText z))])
  | .str s => .ok (tagged "str" [.str s])
  | .object typeName =>
    .error (typeError ("unsupported canonical JSON value: " ++ typeName))

/-- The elements of a sequence or set, each in its own outcome. -/
def canonicalItems : List PyValue → List (Except PyError Json)
  | [] => []
  | v :: vs => canonicalValue v :: canonicalItems vs

/-- The entries `[key, value]` of a mapping, keyed for sorting. -/
def canonicalEntries : List (PyKey × PyValue) → List (String × Except PyError Json)
  | [] => []
  | (k, v) :: is =>
    (k.text, (canonicalValue v).map fun j => .arr [.str k.text, j]) :: canonicalEntries is

/-- The entries `[name, value]` of the dataclass fields that are not left out. -/
def canonicalFields : List (Field × PyValue) → List (Except PyError Json)
  | [] => []
  | (f, v) :: fs =>
    if omitted f v then canonicalFields fs
    else ((canonicalValue v).map fun j => .arr [.str f.name, j]) :: canonicalFields fs

end

/-- The entry `[name, value]`. -/
def entry (name : String) (j : Json) : Json := .arr [.str name, j]

def visible (fs : List (Field × PyValue)) : List (Field × PyValue) :=
  fs.filter fun f => !omitted f.1 f.2

theorem canonicalItems_eq_map (vs : List PyValue) :
    canonicalItems vs = vs.map canonicalValue := by
  induction vs with
  | nil => rfl
  | cons v vs ih => rw [canonicalItems, ih, map_cons]

theorem canonicalEntries_eq_map (is : List (PyKey × PyValue)) :
    canonicalEntries is = is.map fun i => (i.1.text, (canonicalValue i.2).map (entry i.1.text)) := by
  induction is with
  | nil => rfl
  | cons i is ih =>
    obtain ⟨k, v⟩ := i
    rw [canonicalEntries, ih, map_cons]; rfl

theorem canonicalFields_eq_map (fs : List (Field × PyValue)) :
    canonicalFields fs =
      (visible fs).map fun f => (canonicalValue f.2).map (entry f.1.name) := by
  induction fs with
  | nil => rfl
  | cons f fs ih =>
    obtain ⟨f, v⟩ := f
    rw [canonicalFields, ih]
    by_cases h : omitted f v = true
    · simp [h, visible]
    · simp [h, visible]; rfl

/-- `canonical_json`. -/
def canonicalJson (v : PyValue) : Except PyError String := (canonicalValue v).map Json.dumps

/-! ## Content addresses -/

/-- A content address `sha256:...`.  Its fixed width is not represented, so
    that a collision-free digest exists. -/
structure Digest where
  text : String
  deriving DecidableEq, Repr

theorem digestMk_injective : Function.Injective Digest.mk := fun _ _ h => congrArg Digest.text h

/-- `content_digest`. -/
def contentDigest (sha256 : String → Digest) (v : PyValue) : Except PyError Digest :=
  (canonicalJson v).map sha256

/-- `content_digest` of data that canonical JSON accepts.  The digests of
    contracts are taken with it: their values are always accepted. -/
def digest (sha256 : String → Digest) (v : PyValue) : Digest :=
  match contentDigest sha256 v with
  | .ok d => d
  | .error e => sha256 e.message

end ChartingPlatform
