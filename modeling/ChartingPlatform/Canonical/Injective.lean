/-
  What canonical JSON identifies (`canonical.py`).

  `Same` is the intended equality of canonical data: one kind, and equal up to
  the exponent of decimals, the time zone of instants, the order of mapping
  keys and of set elements, `set` versus `frozenset`, and the dataclass fields
  that are left out.
-/
import ChartingPlatform.Canonical.Value

namespace ChartingPlatform

open Lib List

/-! ## Kinds -/

/-- The kind of a value: what its tag tells.  `set` and `frozenset` are one kind. -/
inductive Kind where
  | dataclass | enum | decimal | datetime | timedelta | date | mapping | set | tuple | list
  | float | none | bool | int | str | object
  deriving DecidableEq

def PyValue.kind : PyValue → Kind
  | .dataclass .. => .dataclass
  | .enum .. => .enum
  | .decimal _ => .decimal
  | .datetime _ => .datetime
  | .timedelta _ => .timedelta
  | .date _ => .date
  | .mapping _ => .mapping
  | .set .. => .set
  | .tuple _ => .tuple
  | .list _ => .list
  | .float _ => .float
  | .none => .none
  | .bool _ => .bool
  | .int _ => .int
  | .str _ => .str
  | .object _ => .object

def Kind.tag : Kind → String
  | .dataclass => "dataclass"
  | .enum => "enum"
  | .decimal => "decimal"
  | .datetime => "datetime"
  | .timedelta => "timedelta"
  | .date => "date"
  | .mapping => "mapping"
  | .set => "set"
  | .tuple => "tuple"
  | .list => "list"
  | .float => "float"
  | .none => "null"
  | .bool => "bool"
  | .int => "int"
  | .str => "str"
  | .object => "object"

theorem Kind.tag_injective : Function.Injective Kind.tag := by
  intro a b h
  cases a <;> cases b <;> first | rfl | exact absurd h (by decide)

/-! ## The intended equality -/

mutual

inductive Same : PyValue → PyValue → Prop
  /-- Only the fields that are encoded count. -/
  | dataclass {cls fs gs} : SameFields (visible fs) (visible gs) →
      Same (.dataclass cls fs) (.dataclass cls gs)
  | enum {cls v w} : Same v w → Same (.enum cls v) (.enum cls w)
  /-- Decimals are compared as numbers. -/
  | decimal {n c e n' c' e'} :
      (PyDecimal.finite n c e).value = (PyDecimal.finite n' c' e').value →
      Same (.decimal (.finite n c e)) (.decimal (.finite n' c' e'))
  /-- Datetimes are compared as instants. -/
  | datetime {d d' t} : d.instant = .ok t → d'.instant = .ok t →
      Same (.datetime d) (.datetime d')
  | timedelta {d} : Same (.timedelta d) (.timedelta d)
  | date {d} : Same (.date d) (.date d)
  /-- The order of the keys does not count. -/
  | mapping {is js ks} : SameEntries is js → js ~ ks → Same (.mapping is) (.mapping ks)
  /-- Neither the order of the elements nor being frozen counts. -/
  | set {b b' xs ys zs} : SameItems xs ys → ys ~ zs → Same (.set b xs) (.set b' zs)
  | tuple {xs ys} : SameItems xs ys → Same (.tuple xs) (.tuple ys)
  | list {xs ys} : SameItems xs ys → Same (.list xs) (.list ys)
  /-- Floats are compared bit by bit, so that the two zeros differ. -/
  | float {x} : Same (.float x) (.float x)
  | none : Same .none .none
  | bool {b} : Same (.bool b) (.bool b)
  | int {z} : Same (.int z) (.int z)
  | str {s} : Same (.str s) (.str s)

inductive SameItems : List PyValue → List PyValue → Prop
  | nil : SameItems [] []
  | cons {v w vs ws} : Same v w → SameItems vs ws → SameItems (v :: vs) (w :: ws)

inductive SameEntries : List (PyKey × PyValue) → List (PyKey × PyValue) → Prop
  | nil : SameEntries [] []
  | cons {k v w is js} : Same v w → SameEntries is js →
      SameEntries ((k, v) :: is) ((k, w) :: js)

inductive SameFields : List (Field × PyValue) → List (Field × PyValue) → Prop
  | nil : SameFields [] []
  | cons {f g v w fs gs} : f.name = g.name → Same v w → SameFields fs gs →
      SameFields ((f, v) :: fs) ((g, w) :: gs)

end

theorem Same.kind_eq {a b : PyValue} (h : Same a b) : a.kind = b.kind := by
  cases h <;> rfl

/-- What Python guarantees of a value: the keys of a mapping are distinct, at every depth. -/
inductive Wf : PyValue → Prop
  | dataclass {cls fs} : (∀ f ∈ fs, Wf f.2) → Wf (.dataclass cls fs)
  | enum {cls v} : Wf v → Wf (.enum cls v)
  | mapping {is} : (is.map Prod.fst).Nodup → (∀ i ∈ is, Wf i.2) → Wf (.mapping is)
  | set {b xs} : (∀ x ∈ xs, Wf x) → Wf (.set b xs)
  | tuple {xs} : (∀ x ∈ xs, Wf x) → Wf (.tuple xs)
  | list {xs} : (∀ x ∈ xs, Wf x) → Wf (.list xs)
  | decimal {d} : Wf (.decimal d)
  | datetime {d} : Wf (.datetime d)
  | timedelta {d} : Wf (.timedelta d)
  | date {d} : Wf (.date d)
  | float {x} : Wf (.float x)
  | none : Wf .none
  | bool {b} : Wf (.bool b)
  | int {z} : Wf (.int z)
  | str {s} : Wf (.str s)
  | object {t} : Wf (.object t)

/-! ## Successful encodings, kind by kind -/

theorem canonicalValue_tag {v : PyValue} {j : Json} (h : canonicalValue v = .ok j) :
    ∃ r, j = tagged v.kind.tag r := by
  cases v with
  | dataclass cls fs | enum cls v =>
    obtain ⟨_, -, h⟩ := bind_eq_ok.1 h
    exact ⟨_, (Except.ok.inj h).symm⟩
  | decimal d =>
    cases d with
    | finite n c e => exact ⟨_, (Except.ok.inj h).symm⟩
    | special => cases h
  | datetime d =>
    obtain ⟨_, -, h⟩ := bind_eq_ok.1 h
    exact ⟨_, (Except.ok.inj h).symm⟩
  | mapping is =>
    obtain ⟨_, -, h⟩ := bind_eq_ok.1 h
    obtain ⟨_, -, h⟩ := bind_eq_ok.1 h
    exact ⟨_, (Except.ok.inj h).symm⟩
  | set b xs | tuple xs | list xs =>
    obtain ⟨_, -, h⟩ := bind_eq_ok.1 h
    exact ⟨_, (Except.ok.inj h).symm⟩
  | float x =>
    change (if x.exponent.val = 2047 then _ else _) = _ at h
    split_ifs at h
    exact ⟨_, (Except.ok.inj h).symm⟩
  | object t => cases h
  | timedelta d | date d | none | bool b | int z | str s => exact ⟨_, (Except.ok.inj h).symm⟩

theorem kind_eq_of_canonicalValue {a b : PyValue} {j : Json} (ha : canonicalValue a = .ok j)
    (hb : canonicalValue b = .ok j) : a.kind = b.kind := by
  obtain ⟨r, hr⟩ := canonicalValue_tag ha
  obtain ⟨r', hr'⟩ := canonicalValue_tag hb
  have h : tagged a.kind.tag r = tagged b.kind.tag r' := hr.symm.trans hr'
  simp only [tagged, Json.arr.injEq, List.cons.injEq, Json.str.injEq] at h
  exact Kind.tag_injective h.1

theorem canonicalValue_dataclass {cls : String} {fs : List (Field × PyValue)} {j : Json} :
    canonicalValue (.dataclass cls fs) = .ok j ↔
      ∃ js, (visible fs).map (fun f => (canonicalValue f.2).map (entry f.1.name)) = js.map .ok ∧
        tagged "dataclass" [.str cls, .arr js] = j := by
  change (collect (canonicalFields fs) >>= fun js => _) = _ ↔ _
  rw [canonicalFields_eq_map]
  simp only [bind_eq_ok, collect_eq_ok, pure_eq_ok, Except.ok.injEq]

theorem canonicalValue_mapping {is : List (PyKey × PyValue)} {j : Json} :
    canonicalValue (.mapping is) = .ok j ↔ (∀ i ∈ is, i.1 ≠ .other) ∧
      ∃ js, (sortBy Prod.fst (is.map fun i =>
          (i.1.text, (canonicalValue i.2).map (entry i.1.text)))).map Prod.snd = js.map .ok ∧
        tagged "mapping" [.arr js] = j := by
  change (ensure _ _ >>= fun _ => collect (sortBy Prod.fst (canonicalEntries is) |>.map Prod.snd) >>=
    fun es => _) = _ ↔ _
  rw [canonicalEntries_eq_map]
  simp only [bind_eq_ok, ensure_eq_ok, collect_eq_ok, pure_eq_ok, Except.ok.injEq,
    exists_and_left, exists_const]

theorem canonicalValue_set {b : Bool} {xs : List PyValue} {j : Json} :
    canonicalValue (.set b xs) = .ok j ↔ ∃ js, xs.map canonicalValue = js.map .ok ∧
      tagged "set" [.arr (sortBy Json.dumps js)] = j := by
  change (collect (canonicalItems xs) >>= fun js => _) = _ ↔ _
  rw [canonicalItems_eq_map]
  simp only [bind_eq_ok, collect_eq_ok, pure_eq_ok, Except.ok.injEq]

theorem canonicalValue_tuple {xs : List PyValue} {j : Json} :
    canonicalValue (.tuple xs) = .ok j ↔ ∃ js, xs.map canonicalValue = js.map .ok ∧
      tagged "tuple" [.arr js] = j := by
  change (collect (canonicalItems xs) >>= fun js => _) = _ ↔ _
  rw [canonicalItems_eq_map]
  simp only [bind_eq_ok, collect_eq_ok, pure_eq_ok, Except.ok.injEq]

theorem canonicalValue_list {xs : List PyValue} {j : Json} :
    canonicalValue (.list xs) = .ok j ↔ ∃ js, xs.map canonicalValue = js.map .ok ∧
      tagged "list" [.arr js] = j := by
  change (collect (canonicalItems xs) >>= fun js => _) = _ ↔ _
  rw [canonicalItems_eq_map]
  simp only [bind_eq_ok, collect_eq_ok, pure_eq_ok, Except.ok.injEq]

theorem canonicalValue_datetime {d : PyDateTime} {j : Json} :
    canonicalValue (.datetime d) = .ok j ↔ ∃ t, d.instant = .ok t ∧
      tagged "datetime" [.str (String.ofList (instantText t))] = j := by
  change (d.instant >>= fun t => _) = _ ↔ _
  simp only [bind_eq_ok, pure_eq_ok, Except.ok.injEq]

theorem canonicalValue_enum {cls : String} {v : PyValue} {j : Json} :
    canonicalValue (.enum cls v) = .ok j ↔ ∃ i, canonicalValue v = .ok i ∧
      tagged "enum" [.str cls, i] = j := by
  change (canonicalValue v >>= fun i => _) = _ ↔ _
  simp only [bind_eq_ok, pure_eq_ok, Except.ok.injEq]

theorem canonicalValue_float {x : PyFloat} {j : Json} :
    canonicalValue (.float x) = .ok j ↔ x.exponent.val ≠ 2047 ∧
      tagged "float" [.str (String.ofList (floatHex x))] = j := by
  change (if x.exponent.val = 2047 then _ else _) = _ ↔ _
  split_ifs with h <;> simp [h]

/-! ## Accepted values -/

def Accepted (v : PyValue) : Prop := ∃ j, canonicalValue v = .ok j

theorem accepted_str (s : String) : Accepted (.str s) := ⟨_, rfl⟩

theorem accepted_int (z : ℤ) : Accepted (.int z) := ⟨_, rfl⟩

theorem accepted_bool (b : Bool) : Accepted (.bool b) := ⟨_, rfl⟩

theorem accepted_none : Accepted .none := ⟨_, rfl⟩

theorem accepted_utc (t : Instant) : Accepted (.datetime (.utc t)) :=
  ⟨_, canonicalValue_datetime.2 ⟨t, instant_utc t, rfl⟩⟩

theorem accepted_enum {v : PyValue} (cls : String) (h : Accepted v) : Accepted (.enum cls v) := by
  obtain ⟨j, hj⟩ := h
  exact ⟨_, canonicalValue_enum.2 ⟨j, hj, rfl⟩⟩

theorem accepted_dataclass {cls : String} {fs : List (Field × PyValue)}
    (h : ∀ f ∈ fs, Accepted f.2) : Accepted (.dataclass cls fs) := by
  have hvis : ∀ f ∈ visible fs, ∃ j, (canonicalValue f.2).map (entry f.1.name) = .ok j := by
    intro f hf
    obtain ⟨j, hj⟩ := h f (mem_of_mem_filter hf)
    exact ⟨_, map_eq_ok.2 ⟨j, hj, rfl⟩⟩
  obtain ⟨js, hjs⟩ := exists_map_ok hvis
  exact ⟨_, canonicalValue_dataclass.2 ⟨js, hjs, rfl⟩⟩

theorem accepted_set {b : Bool} {xs : List PyValue} (h : ∀ x ∈ xs, Accepted x) :
    Accepted (.set b xs) := by
  obtain ⟨js, hjs⟩ := exists_map_ok h
  exact ⟨_, canonicalValue_set.2 ⟨js, hjs, rfl⟩⟩

theorem accepted_tuple {xs : List PyValue} (h : ∀ x ∈ xs, Accepted x) : Accepted (.tuple xs) := by
  obtain ⟨js, hjs⟩ := exists_map_ok h
  exact ⟨_, canonicalValue_tuple.2 ⟨js, hjs, rfl⟩⟩

/-! ## Equal trees come from values that are `Same` -/

/-- What the induction hypothesis says of one value. -/
def Determined (v : PyValue) : Prop :=
  ∀ w j, canonicalValue v = .ok j → canonicalValue w = .ok j → Same v w

theorem sameItems_of_map {xs ys : List PyValue} {js : List Json} (ih : ∀ x ∈ xs, Determined x)
    (hx : xs.map canonicalValue = js.map .ok) (hy : ys.map canonicalValue = js.map .ok) :
    SameItems xs ys := by
  induction js generalizing xs ys with
  | nil =>
    rw [map_nil, map_eq_nil_iff] at hx hy
    subst hx; subst hy
    exact .nil
  | cons j js ihj =>
    obtain ⟨x, xs, rfl, hx₁, hx₂⟩ := map_eq_cons_iff.1 hx
    obtain ⟨y, ys, rfl, hy₁, hy₂⟩ := map_eq_cons_iff.1 hy
    exact .cons (ih x mem_cons_self y j hx₁ hy₁)
      (ihj (fun x hx => ih x (mem_cons_of_mem _ hx)) hx₂ hy₂)

theorem entry_inj {k k' : String} {j j' : Json} (h : entry k j = entry k' j') :
    k = k' ∧ j = j' := by
  simpa [entry] using h

theorem sameFields_of_map {fs gs : List (Field × PyValue)} {js : List Json}
    (ih : ∀ f ∈ fs, Determined f.2)
    (hf : fs.map (fun f => (canonicalValue f.2).map (entry f.1.name)) = js.map .ok)
    (hg : gs.map (fun f => (canonicalValue f.2).map (entry f.1.name)) = js.map .ok) :
    SameFields fs gs := by
  induction js generalizing fs gs with
  | nil =>
    rw [map_nil, map_eq_nil_iff] at hf hg
    subst hf; subst hg
    exact .nil
  | cons j js ihj =>
    obtain ⟨⟨f, v⟩, fs, rfl, hf₁, hf₂⟩ := map_eq_cons_iff.1 hf
    obtain ⟨⟨g, w⟩, gs, rfl, hg₁, hg₂⟩ := map_eq_cons_iff.1 hg
    obtain ⟨i, hv, hi⟩ := map_eq_ok.1 hf₁
    obtain ⟨i', hw, hi'⟩ := map_eq_ok.1 hg₁
    obtain ⟨hname, rfl⟩ := entry_inj (hi.trans hi'.symm)
    exact .cons hname (ih (f, v) mem_cons_self w i hv hw)
      (ihj (fun f hf => ih f (mem_cons_of_mem _ hf)) hf₂ hg₂)

/-- The outcome of a mapping entry, keyed for sorting. -/
abbrev keyed (i : PyKey × PyValue) : String × Except PyError Json :=
  (i.1.text, (canonicalValue i.2).map (entry i.1.text))

theorem keyed_key {i : PyKey × PyValue} {j : Json} (h : (keyed i).2 = .ok j) :
    ∃ j', j = entry (keyed i).1 j' := by
  obtain ⟨j', -, h⟩ := map_eq_ok.1 h
  exact ⟨j', h.symm⟩

theorem eq_of_map_snd {ps qs : List (String × Except PyError Json)} {js : List Json}
    (hp : ∀ p ∈ ps, ∀ j, p.2 = .ok j → ∃ j', j = entry p.1 j')
    (hq : ∀ q ∈ qs, ∀ j, q.2 = .ok j → ∃ j', j = entry q.1 j')
    (hps : ps.map Prod.snd = js.map .ok) (hqs : qs.map Prod.snd = js.map .ok) : ps = qs := by
  induction js generalizing ps qs with
  | nil =>
    rw [map_nil, map_eq_nil_iff] at hps hqs
    rw [hps, hqs]
  | cons j js ih =>
    obtain ⟨⟨k, x⟩, ps, rfl, hx, hps⟩ := map_eq_cons_iff.1 hps
    obtain ⟨⟨k', y⟩, qs, rfl, hy, hqs⟩ := map_eq_cons_iff.1 hqs
    obtain ⟨i, hi⟩ := hp _ mem_cons_self j hx
    obtain ⟨i', hi'⟩ := hq _ mem_cons_self j hy
    obtain ⟨hk, -⟩ := entry_inj (hi.symm.trans hi')
    have htail := ih (fun p h => hp p (mem_cons_of_mem _ h))
      (fun q h => hq q (mem_cons_of_mem _ h)) hps hqs
    simp only at hk hx hy
    rw [htail, hk, hx, hy]

theorem sameEntries_of_map {is js : List (PyKey × PyValue)} (ih : ∀ i ∈ is, Determined i.2)
    (hi : ∀ i ∈ is, i.1 ≠ .other) (hj : ∀ i ∈ js, i.1 ≠ .other)
    (hok : ∀ i ∈ is, ∃ j, (keyed i).2 = .ok j) (h : js.map keyed = is.map keyed) :
    SameEntries is js := by
  induction is generalizing js with
  | nil =>
    rw [map_nil, map_eq_nil_iff] at h
    subst h
    exact .nil
  | cons i is ihi =>
    obtain ⟨⟨k', w⟩, js, rfl, h₁, h₂⟩ := map_eq_cons_iff.1 h
    obtain ⟨k, v⟩ := i
    obtain ⟨j, hk⟩ := hok _ mem_cons_self
    obtain ⟨hkey, hval⟩ := Prod.mk.inj h₁
    have hkk : k' = k := by
      have hk₁ := hi _ mem_cons_self
      have hk₂ := hj _ mem_cons_self
      cases k with
      | other => exact absurd rfl hk₁
      | str s =>
        cases k' with
        | other => exact absurd rfl hk₂
        | str s' => exact congrArg PyKey.str hkey
    subst hkk
    obtain ⟨a, hv, ha⟩ := map_eq_ok.1 hk
    obtain ⟨b, hw, hb⟩ := map_eq_ok.1 (hval.trans hk)
    obtain ⟨-, rfl⟩ := entry_inj (ha.trans hb.symm)
    exact .cons (ih (k', v) mem_cons_self w a hv hw)
      (ihi (fun i h => ih i (mem_cons_of_mem _ h)) (fun i h => hi i (mem_cons_of_mem _ h))
        (fun i h => hj i (mem_cons_of_mem _ h)) (fun i h => hok i (mem_cons_of_mem _ h)) h₂)

theorem sameMapping_of_map {is ks : List (PyKey × PyValue)} {js : List Json}
    (ih : ∀ i ∈ is, Determined i.2)
    (hi : ∀ i ∈ is, i.1 ≠ .other) (hk : ∀ i ∈ ks, i.1 ≠ .other)
    (his : (sortBy Prod.fst (is.map keyed)).map Prod.snd = js.map .ok)
    (hks : (sortBy Prod.fst (ks.map keyed)).map Prod.snd = js.map .ok) :
    ∃ ms, SameEntries is ms ∧ ms ~ ks := by
  have hkeyed : ∀ (is : List (PyKey × PyValue)), ∀ p ∈ sortBy Prod.fst (is.map keyed),
      ∀ j, p.2 = .ok j → ∃ j', j = entry p.1 j' := by
    intro is p hp j hj
    obtain ⟨i, -, rfl⟩ := mem_map.1 ((mem_sortBy _).1 hp)
    exact keyed_key hj
  have hperm : ks.map keyed ~ is.map keyed :=
    perm_of_sortBy_eq (eq_of_map_snd (hkeyed ks) (hkeyed is) hks his)
  obtain ⟨ms, hms, hmap⟩ := exists_perm_of_map_perm hperm
  refine ⟨ms, sameEntries_of_map ih hi (fun i h => hk i (hms.mem_iff.1 h)) ?_ hmap, hms⟩
  intro i hmem
  have : (keyed i).2 ∈ (sortBy Prod.fst (is.map keyed)).map Prod.snd :=
    mem_map.2 ⟨_, (mem_sortBy _).2 (mem_map.2 ⟨i, hmem, rfl⟩), rfl⟩
  rw [his] at this
  obtain ⟨j, -, hj⟩ := mem_map.1 this
  exact ⟨j, hj.symm⟩

theorem tagged_inj {t : String} {r r' : List Json} (h : tagged t r = tagged t r') : r = r' := by
  simpa [tagged] using h

theorem same_of_canonicalValue (a : PyValue) : Determined a := by
  induction a using PyValue.induct with
  | dataclass cls fs ih =>
    intro b j ha hb
    have hk := kind_eq_of_canonicalValue ha hb
    cases b with
    | dataclass cls' gs =>
      obtain ⟨js, hjs, rfl⟩ := canonicalValue_dataclass.1 ha
      obtain ⟨js', hjs', h⟩ := canonicalValue_dataclass.1 hb
      have h := tagged_inj h
      simp only [List.cons.injEq, Json.str.injEq, Json.arr.injEq, and_true] at h
      obtain ⟨rfl, rfl⟩ := h
      refine .dataclass (sameFields_of_map (fun f hf => ih f ?_) hjs hjs')
      exact mem_of_mem_filter hf
    | _ => cases hk
  | enum cls v ih =>
    intro b j ha hb
    have hk := kind_eq_of_canonicalValue ha hb
    cases b with
    | enum cls' w =>
      obtain ⟨i, hi, rfl⟩ := canonicalValue_enum.1 ha
      obtain ⟨i', hi', h⟩ := canonicalValue_enum.1 hb
      have h := tagged_inj h
      simp only [List.cons.injEq, Json.str.injEq, and_true] at h
      obtain ⟨rfl, rfl⟩ := h
      exact .enum (ih w i' hi hi')
    | _ => cases hk
  | decimal d =>
    intro b j ha hb
    have hk := kind_eq_of_canonicalValue ha hb
    cases b with
    | decimal d' =>
      cases d with
      | special => cases ha
      | finite n c e =>
        cases d' with
        | special => cases hb
        | finite n' c' e' =>
          have h := tagged_inj (Except.ok.inj (ha.trans hb.symm))
          simp only [List.cons.injEq, Json.str.injEq, and_true] at h
          exact .decimal (decimalIdentity_eq_iff.1 (String.ofList_injective h))
    | _ => cases hk
  | datetime d =>
    intro b j ha hb
    have hk := kind_eq_of_canonicalValue ha hb
    cases b with
    | datetime d' =>
      obtain ⟨t, ht, rfl⟩ := canonicalValue_datetime.1 ha
      obtain ⟨t', ht', h⟩ := canonicalValue_datetime.1 hb
      have h := tagged_inj h
      simp only [List.cons.injEq, Json.str.injEq, and_true] at h
      have := instantText_injective (String.ofList_injective h)
      subst this
      exact .datetime ht ht'
    | _ => cases hk
  | timedelta d =>
    intro b j ha hb
    have hk := kind_eq_of_canonicalValue ha hb
    cases b with
    | timedelta d' =>
      have h := tagged_inj (Except.ok.inj (ha.trans hb.symm))
      simp only [List.cons.injEq, Json.int.injEq, and_true, Nat.cast_inj] at h
      obtain ⟨h₁, h₂, h₃⟩ := h
      obtain ⟨days, seconds, microseconds⟩ := d
      obtain ⟨days', seconds', microseconds'⟩ := d'
      obtain rfl := h₁
      obtain rfl := Fin.ext h₂
      obtain rfl := Fin.ext h₃
      exact .timedelta
    | _ => cases hk
  | date d =>
    intro b j ha hb
    have hk := kind_eq_of_canonicalValue ha hb
    cases b with
    | date d' =>
      have h := tagged_inj (Except.ok.inj (ha.trans hb.symm))
      simp only [List.cons.injEq, Json.str.injEq, and_true] at h
      obtain rfl := dateText_injective (String.ofList_injective h)
      exact .date
    | _ => cases hk
  | mapping is ih =>
    intro b j ha hb
    have hk := kind_eq_of_canonicalValue ha hb
    cases b with
    | mapping ks =>
      obtain ⟨hi, js, hjs, rfl⟩ := canonicalValue_mapping.1 ha
      obtain ⟨hks, js', hjs', h⟩ := canonicalValue_mapping.1 hb
      have h := tagged_inj h
      simp only [List.cons.injEq, Json.arr.injEq, and_true] at h
      subst h
      obtain ⟨ms, hms, hp⟩ := sameMapping_of_map ih hi hks hjs hjs'
      exact .mapping hms hp
    | _ => cases hk
  | set f xs ih =>
    intro b j ha hb
    have hk := kind_eq_of_canonicalValue ha hb
    cases b with
    | set f' zs =>
      obtain ⟨js, hjs, rfl⟩ := canonicalValue_set.1 ha
      obtain ⟨js', hjs', h⟩ := canonicalValue_set.1 hb
      have h := tagged_inj h
      simp only [List.cons.injEq, Json.arr.injEq, and_true] at h
      have hp : zs.map canonicalValue ~ js.map .ok := hjs' ▸ (perm_of_sortBy_eq h).map _
      obtain ⟨ys, hys, hmap⟩ := exists_perm_of_map_perm hp
      exact .set (sameItems_of_map ih hjs hmap) hys
    | _ => cases hk
  | tuple xs ih =>
    intro b j ha hb
    have hk := kind_eq_of_canonicalValue ha hb
    cases b with
    | tuple ys =>
      obtain ⟨js, hjs, rfl⟩ := canonicalValue_tuple.1 ha
      obtain ⟨js', hjs', h⟩ := canonicalValue_tuple.1 hb
      have h := tagged_inj h
      simp only [List.cons.injEq, Json.arr.injEq, and_true] at h
      exact .tuple (sameItems_of_map ih hjs (h ▸ hjs'))
    | _ => cases hk
  | list xs ih =>
    intro b j ha hb
    have hk := kind_eq_of_canonicalValue ha hb
    cases b with
    | list ys =>
      obtain ⟨js, hjs, rfl⟩ := canonicalValue_list.1 ha
      obtain ⟨js', hjs', h⟩ := canonicalValue_list.1 hb
      have h := tagged_inj h
      simp only [List.cons.injEq, Json.arr.injEq, and_true] at h
      exact .list (sameItems_of_map ih hjs (h ▸ hjs'))
    | _ => cases hk
  | float x =>
    intro b j ha hb
    have hk := kind_eq_of_canonicalValue ha hb
    cases b with
    | float x' =>
      obtain ⟨-, rfl⟩ := canonicalValue_float.1 ha
      obtain ⟨-, h⟩ := canonicalValue_float.1 hb
      have h := tagged_inj h
      simp only [List.cons.injEq, Json.str.injEq, and_true] at h
      obtain rfl := floatHex_injective (String.ofList_injective h)
      exact .float
    | _ => cases hk
  | none =>
    intro b j ha hb
    have hk := kind_eq_of_canonicalValue ha hb
    cases b with
    | none => exact .none
    | _ => cases hk
  | bool x =>
    intro b j ha hb
    have hk := kind_eq_of_canonicalValue ha hb
    cases b with
    | bool x' =>
      have h := tagged_inj (Except.ok.inj (ha.trans hb.symm))
      simp only [List.cons.injEq, Json.bool.injEq, and_true] at h
      exact h ▸ .bool
    | _ => cases hk
  | int z =>
    intro b j ha hb
    have hk := kind_eq_of_canonicalValue ha hb
    cases b with
    | int z' =>
      have h := tagged_inj (Except.ok.inj (ha.trans hb.symm))
      simp only [List.cons.injEq, Json.str.injEq, and_true] at h
      obtain rfl := intText_injective (String.ofList_injective h)
      exact .int
    | _ => cases hk
  | str s =>
    intro b j ha hb
    have hk := kind_eq_of_canonicalValue ha hb
    cases b with
    | str s' =>
      have h := tagged_inj (Except.ok.inj (ha.trans hb.symm))
      simp only [List.cons.injEq, Json.str.injEq, and_true] at h
      exact h ▸ .str
    | _ => cases hk
  | object t =>
    intro b j ha hb
    cases ha

/-! ## Values that are `Same` have equal trees -/

/-- What the induction hypothesis says of one value. -/
def Respected (v : PyValue) : Prop :=
  ∀ w j, Same v w → canonicalValue v = .ok j → canonicalValue w = .ok j

theorem map_of_sameItems {xs ys : List PyValue} {js : List Json} (ih : ∀ x ∈ xs, Respected x)
    (h : SameItems xs ys) (hx : xs.map canonicalValue = js.map .ok) :
    ys.map canonicalValue = js.map .ok := by
  induction xs generalizing ys js with
  | nil =>
    cases h
    exact hx
  | cons x xs ihx =>
    cases h with
    | cons h hs =>
      obtain ⟨j, js, rfl, hj, hjs⟩ := map_eq_cons_iff.1 hx.symm
      rw [map_cons, map_cons, ih x mem_cons_self _ j h hj.symm,
        ihx (fun x hx => ih x (mem_cons_of_mem _ hx)) hs hjs.symm]

theorem map_of_sameFields {fs gs : List (Field × PyValue)} {js : List Json}
    (ih : ∀ f ∈ fs, Respected f.2) (h : SameFields fs gs)
    (hf : fs.map (fun f => (canonicalValue f.2).map (entry f.1.name)) = js.map .ok) :
    gs.map (fun f => (canonicalValue f.2).map (entry f.1.name)) = js.map .ok := by
  induction fs generalizing gs js with
  | nil =>
    cases h
    exact hf
  | cons f fs ihf =>
    cases h with
    | cons hname h hs =>
      obtain ⟨j, js, rfl, hj, hjs⟩ := map_eq_cons_iff.1 hf.symm
      obtain ⟨i, hi, rfl⟩ := map_eq_ok.1 hj.symm
      rw [map_cons, map_cons, ih _ mem_cons_self _ i h hi,
        ihf (fun x hx => ih x (mem_cons_of_mem _ hx)) hs hjs.symm]
      simp only [Except.map, hname]

theorem map_of_sameEntries {is js : List (PyKey × PyValue)} (ih : ∀ i ∈ is, Respected i.2)
    (h : SameEntries is js) (hok : ∀ i ∈ is, ∃ j, (keyed i).2 = .ok j) :
    js.map keyed = is.map keyed ∧ js.map Prod.fst = is.map Prod.fst := by
  induction is generalizing js with
  | nil =>
    cases h
    exact ⟨rfl, rfl⟩
  | cons i is ihi =>
    cases h with
    | cons h hs =>
      obtain ⟨j, hj⟩ := hok _ mem_cons_self
      obtain ⟨a, ha, -⟩ := map_eq_ok.1 hj
      obtain ⟨h₁, h₂⟩ := ihi (fun i h => ih i (mem_cons_of_mem _ h)) hs
        (fun i h => hok i (mem_cons_of_mem _ h))
      simp only [map_cons, keyed, ih _ mem_cons_self _ a h ha, ha, h₁, h₂, and_self]

theorem nodup_text {is : List (PyKey × PyValue)} (hn : (is.map Prod.fst).Nodup)
    (hi : ∀ i ∈ is, i.1 ≠ .other) : (is.map fun i => i.1.text).Nodup := by
  have hmap : (is.map fun i => i.1.text) = (is.map Prod.fst).map PyKey.text := by
    rw [map_map]; rfl
  rw [hmap]
  refine hn.map_on ?_
  intro k hk k' hk' h
  obtain ⟨i, hmem, rfl⟩ := mem_map.1 hk
  obtain ⟨i', hmem', rfl⟩ := mem_map.1 hk'
  have h₁ := hi i hmem
  have h₂ := hi i' hmem'
  cases hi₁ : i.1 with
  | other => exact absurd hi₁ h₁
  | str s =>
    cases hi₂ : i'.1 with
    | other => exact absurd hi₂ h₂
    | str s' =>
      rw [hi₁, hi₂] at h
      exact congrArg PyKey.str h

theorem canonicalValue_mapping_of_same {is ks ms : List (PyKey × PyValue)} {j : Json}
    (ih : ∀ i ∈ is, Respected i.2) (hn : (is.map Prod.fst).Nodup) (h : SameEntries is ms)
    (hp : ms ~ ks) (hj : canonicalValue (.mapping is) = .ok j) :
    canonicalValue (.mapping ks) = .ok j := by
  obtain ⟨hi, js, hjs, rfl⟩ := canonicalValue_mapping.1 hj
  have hok : ∀ i ∈ is, ∃ j, (keyed i).2 = .ok j := by
    intro i hmem
    have : (keyed i).2 ∈ (sortBy Prod.fst (is.map keyed)).map Prod.snd :=
      mem_map.2 ⟨_, (mem_sortBy _).2 (mem_map.2 ⟨i, hmem, rfl⟩), rfl⟩
    rw [hjs] at this
    obtain ⟨j, -, hj⟩ := mem_map.1 this
    exact ⟨j, hj.symm⟩
  obtain ⟨hmap, hkeys⟩ := map_of_sameEntries ih h hok
  have hperm : is.map keyed ~ ks.map keyed := hmap ▸ hp.map keyed
  -- the keys are distinct, so sorting by key does not depend on the order
  have hsort : sortBy Prod.fst (is.map keyed) = sortBy Prod.fst (ks.map keyed) := by
    refine sortBy_eq_of_perm hperm ?_
    intro a ha b hb hab
    have hnd : ((is.map keyed).map Prod.fst).Nodup := by
      rw [map_map]; exact nodup_text hn hi
    exact inj_on_of_nodup_map hnd ha hb hab
  refine canonicalValue_mapping.2 ⟨?_, js, hsort ▸ hjs, rfl⟩
  intro i hmem
  have hfst : i.1 ∈ is.map Prod.fst :=
    hkeys ▸ mem_map_of_mem (hp.mem_iff.2 hmem)
  obtain ⟨i', hi', he⟩ := mem_map.1 hfst
  exact he ▸ hi i' hi'

theorem canonicalValue_set_of_same {b b' : Bool} {xs ys zs : List PyValue} {j : Json}
    (ih : ∀ x ∈ xs, Respected x) (h : SameItems xs ys) (hp : ys ~ zs)
    (hj : canonicalValue (.set b xs) = .ok j) : canonicalValue (.set b' zs) = .ok j := by
  obtain ⟨js, hjs, rfl⟩ := canonicalValue_set.1 hj
  have hys := map_of_sameItems ih h hjs
  have hzs : js.map .ok ~ zs.map canonicalValue := hys ▸ hp.map canonicalValue
  obtain ⟨js', hjs', hmap⟩ := exists_perm_of_map_perm hzs
  refine canonicalValue_set.2 ⟨js', hmap.symm, ?_⟩
  rw [sortBy_eq_of_perm hjs' fun a _ b _ hab => Json.dumps_injective hab]

theorem canonicalValue_of_same (a : PyValue) (ha : Wf a) : Respected a := by
  induction a using PyValue.induct with
  | dataclass cls fs ih =>
    intro b j h hj
    cases ha with | dataclass hwf =>
    cases h with | dataclass h =>
    obtain ⟨js, hjs, rfl⟩ := canonicalValue_dataclass.1 hj
    refine canonicalValue_dataclass.2 ⟨js, map_of_sameFields (fun f hf => ?_) h hjs, rfl⟩
    have hmem := mem_of_mem_filter hf
    exact ih f hmem (hwf f hmem)
  | enum cls v ih =>
    intro b j h hj
    cases ha with | enum hwf =>
    cases h with | enum h =>
    obtain ⟨i, hi, rfl⟩ := canonicalValue_enum.1 hj
    exact canonicalValue_enum.2 ⟨i, ih hwf _ i h hi, rfl⟩
  | decimal d =>
    intro b j h hj
    cases h with | decimal h =>
    rw [canonicalValue, ← decimalIdentity_eq_iff.2 h]
    exact hj
  | datetime d =>
    intro b j h hj
    cases h with | datetime ht ht' =>
    obtain ⟨t, hd, rfl⟩ := canonicalValue_datetime.1 hj
    obtain rfl := Except.ok.inj (ht.symm.trans hd)
    exact canonicalValue_datetime.2 ⟨_, ht', rfl⟩
  | mapping is ih =>
    intro b j h hj
    cases ha with | mapping hn hwf =>
    cases h with | mapping h hp =>
    exact canonicalValue_mapping_of_same (fun i hi => ih i hi (hwf i hi)) hn h hp hj
  | set f xs ih =>
    intro b j h hj
    cases ha with | set hwf =>
    cases h with | set h hp =>
    exact canonicalValue_set_of_same (fun x hx => ih x hx (hwf x hx)) h hp hj
  | tuple xs ih =>
    intro b j h hj
    cases ha with | tuple hwf =>
    cases h with | tuple h =>
    obtain ⟨js, hjs, rfl⟩ := canonicalValue_tuple.1 hj
    exact canonicalValue_tuple.2 ⟨js, map_of_sameItems (fun x hx => ih x hx (hwf x hx)) h hjs, rfl⟩
  | list xs ih =>
    intro b j h hj
    cases ha with | list hwf =>
    cases h with | list h =>
    obtain ⟨js, hjs, rfl⟩ := canonicalValue_list.1 hj
    exact canonicalValue_list.2 ⟨js, map_of_sameItems (fun x hx => ih x hx (hwf x hx)) h hjs, rfl⟩
  | timedelta d | date d | float x | none | bool x | int z | str s =>
    intro b j h hj; cases h; exact hj
  | object t => intro b j h hj; cases hj

/-! ## Canonical texts -/

/-- **Canonical JSON identifies exactly the same data**: of two accepted values
    the texts agree if and only if the values have one kind and are equal up to
    the intended equalities. -/
theorem canonicalJson_eq_iff {a b : PyValue} {s t : String} (hwf : Wf a)
    (ha : canonicalJson a = .ok s) (hb : canonicalJson b = .ok t) :
    s = t ↔ a.kind = b.kind ∧ Same a b := by
  obtain ⟨i, hi, rfl⟩ := map_eq_ok.1 ha
  obtain ⟨j, hj, rfl⟩ := map_eq_ok.1 hb
  constructor
  · intro h
    obtain rfl := Json.dumps_injective h
    exact ⟨kind_eq_of_canonicalValue hi hj, same_of_canonicalValue a b i hi hj⟩
  · rintro ⟨-, h⟩
    rw [Except.ok.inj ((canonicalValue_of_same a hwf b i h hi).symm.trans hj)]

theorem digest_eq_iff {sha256 : String → Digest} (hsha : Function.Injective sha256)
    {a b : PyValue} (hwf : Wf a) (ha : Accepted a) (hb : Accepted b) :
    digest sha256 a = digest sha256 b ↔ Same a b := by
  obtain ⟨i, hi⟩ := ha
  obtain ⟨j, hj⟩ := hb
  have hda : digest sha256 a = sha256 (Json.dumps i) := by
    simp only [digest, contentDigest, canonicalJson, hi, Except.map]
  have hdb : digest sha256 b = sha256 (Json.dumps j) := by
    simp only [digest, contentDigest, canonicalJson, hj, Except.map]
  rw [hda, hdb, hsha.eq_iff, Json.dumps_injective.eq_iff]
  constructor
  · rintro rfl
    exact same_of_canonicalValue a b i hi hj
  · intro h
    exact Except.ok.inj ((canonicalValue_of_same a hwf b i h hi).symm.trans hj)

def quantityWithTags : PyValue :=
  .mapping [(.str "quantity", .decimal (.finite false 150 (-2))),
    (.str "tags", .set true [.str "core", .str "alpha"])]

def quantityWithTags' : PyValue :=
  .mapping [(.str "tags", .set false [.str "alpha", .str "core"]),
    (.str "quantity", .decimal (.finite false 15 (-1)))]

theorem same_quantityWithTags : Same quantityWithTags quantityWithTags' :=
  ((canonicalJson_eq_iff (s := "[\"mapping\",[[\"quantity\",[\"decimal\",\"0:15:-1\"]]," ++
      "[\"tags\",[\"set\",[[\"str\",\"alpha\"],[\"str\",\"core\"]]]]]]")
    (.mapping (by decide) (by
      intro i hi
      simp only [mem_cons, not_mem_nil, or_false] at hi
      rcases hi with rfl | rfl
      · exact .decimal
      · refine .set fun x hx => ?_
        simp only [mem_cons, not_mem_nil, or_false] at hx
        rcases hx with rfl | rfl
        · exact .str
        · exact .str))
    (by rfl) (by rfl)).1 rfl).2

end ChartingPlatform
