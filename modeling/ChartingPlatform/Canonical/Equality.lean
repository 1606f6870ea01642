/-
  Python's `==` and `hash` on canonical data, as far as building a `frozenset`
  needs them.

  Equality is coarser than what canonical JSON keeps apart (`1 == True`).
-/
import ChartingPlatform.Canonical.Injective

namespace ChartingPlatform

open Lib
open scoped List

def PyFloat.value (x : PyFloat) : ℚ :=
  (if x.negative then -1 else 1) *
    if x.exponent.val = 0 then (x.fraction.val : ℚ) * 2 ^ (-1074 : ℤ)
    else (2 ^ 52 + x.fraction.val : ℚ) * 2 ^ ((x.exponent.val : ℤ) - 1075)

def numberKey (q : ℚ) : Json := tagged "number" [.int q.num, .int q.den]

mutual

/-- A key that two values share exactly when Python calls them equal.  The
    fields that are left out of the encoding do not count: in a class without
    private fields they are `None` on both sides.  Aware datetimes are compared
    as moments, which is Python's rule outside one daylight-saving zone. -/
def eqKey : PyValue → Json
  | .dataclass cls fs => tagged "dataclass" [.str cls, .arr (eqKeyFields fs)]
  | .enum _ v => eqKey v
  | .decimal (.finite n c e) => numberKey (PyDecimal.finite n c e).value
  | .decimal .special => tagged "nan" []
  | .datetime d =>
    match d.utcoffset with
    | some offset => tagged "instant" [.int (d.wall.val - offset)]
    | Option.none => tagged "naive" [.int d.wall.val]
  | .timedelta d =>
    tagged "timedelta" [.int d.days, .int d.seconds.val, .int d.microseconds.val]
  | .date d => tagged "date" [.int d.val]
  | .mapping is => tagged "mapping" [.arr (sortBy Json.dumps (eqKeyEntries is))]
  | .set _ xs => tagged "set" [.arr (sortBy Json.dumps (eqKeyItems xs))]
  | .tuple xs => tagged "tuple" [.arr (eqKeyItems xs)]
  | .list xs => tagged "list" [.arr (eqKeyItems xs)]
  | .float x => numberKey x.value
  | .none => tagged "null" []
  | .bool b => numberKey (if b then 1 else 0)
  | .int z => numberKey z
  | .str s => tagged "str" [.str s]
  | .object t => tagged "object" [.str t]

def eqKeyItems : List PyValue → List Json
  | [] => []
  | v :: vs => eqKey v :: eqKeyItems vs

def eqKeyEntries : List (PyKey × PyValue) → List Json
  | [] => []
  | (k, v) :: is => entry k.text (eqKey v) :: eqKeyEntries is

def eqKeyFields : List (Field × PyValue) → List Json
  | [] => []
  | (f, v) :: fs => if omitted f v then eqKeyFields fs else entry f.name (eqKey v) :: eqKeyFields fs

end

mutual

/-- `hash(value)` does not raise: a frozen dataclass hashes its fields. -/
def hashable : PyValue → Bool
  | .dataclass _ fs => hashableFields fs
  | .mapping _ => false
  | .set frozen _ => frozen
  | .tuple xs => hashableItems xs
  | .list _ => false
  | _ => true

def hashableItems : List PyValue → Bool
  | [] => true
  | v :: vs => hashable v && hashableItems vs

def hashableFields : List (Field × PyValue) → Bool
  | [] => true
  | (_, v) :: fs => hashable v && hashableFields fs

end

/-- The elements a set keeps: the first of each class of equal values. -/
def distinct : List PyValue → List PyValue
  | [] => []
  | v :: vs => v :: (distinct vs).filter fun w => decide (eqKey w ≠ eqKey v)

theorem SameItems.forall₂ : ∀ {xs ys : List PyValue}, SameItems xs ys → List.Forall₂ Same xs ys
  | _, _, .nil => .nil
  | _, _, .cons h hs => .cons h hs.forall₂

theorem eqKey_datetime {d : PyDateTime} {t : Instant} (h : d.instant = .ok t) :
    eqKey (.datetime d) = tagged "instant" [.int t.val] := by
  obtain ⟨wall, offset, tzinfo⟩ := d
  cases offset with
  | none => cases h
  | some offset =>
    simp only [PyDateTime.instant, PyDateTime.astimezone] at h
    split_ifs at h with hr
    obtain rfl := Except.ok.inj h
    simp only [eqKey]
    rw [Int.toNat_of_nonneg hr.1]

end ChartingPlatform
