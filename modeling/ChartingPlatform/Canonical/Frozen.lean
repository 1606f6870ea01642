/-
  Frozen values (`canonical.py`, `freeze_json`): what freezing leaves.

  Freezing turns lists and sets into tuples, dataclasses into mappings and
  enumeration members into their values.
-/
import ChartingPlatform.Canonical.MarketEvent

namespace ChartingPlatform

open Lib List

/-- A value that `freeze_json` may return. -/
inductive Frozen : PyValue → Prop
  | mapping {is} : (∀ i ∈ is, Frozen i.2) → Frozen (.mapping is)
  | tuple {xs} : (∀ x ∈ xs, Frozen x) → Frozen (.tuple xs)
  | decimal {d} : Frozen (.decimal d)
  | datetime {d} : Frozen (.datetime d)
  | timedelta {d} : Frozen (.timedelta d)
  | date {d} : Frozen (.date d)
  | float {x} : Frozen (.float x)
  | none : Frozen .none
  | bool {b} : Frozen (.bool b)
  | int {z} : Frozen (.int z)
  | str {s} : Frozen (.str s)

/-- What Python guarantees of a value: the keys of a mapping and the names of
    the fields of a dataclass are distinct, at every depth. -/
inductive Proper : PyValue → Prop
  | dataclass {cls fs} : (fs.map fun f => f.1.name).Nodup → (∀ f ∈ fs, Proper f.2) →
      Proper (.dataclass cls fs)
  | enum {cls v} : Proper v → Proper (.enum cls v)
  | mapping {is} : (is.map Prod.fst).Nodup → (∀ i ∈ is, Proper i.2) → Proper (.mapping is)
  | set {b xs} : (∀ x ∈ xs, Proper x) → Proper (.set b xs)
  | tuple {xs} : (∀ x ∈ xs, Proper x) → Proper (.tuple xs)
  | list {xs} : (∀ x ∈ xs, Proper x) → Proper (.list xs)
  | decimal {d} : Proper (.decimal d)
  | datetime {d} : Proper (.datetime d)
  | timedelta {d} : Proper (.timedelta d)
  | date {d} : Proper (.date d)
  | float {x} : Proper (.float x)
  | none : Proper .none
  | bool {b} : Proper (.bool b)
  | int {z} : Proper (.int z)
  | str {s} : Proper (.str s)
  | object {t} : Proper (.object t)

/-! ## The parts of a frozen container -/

theorem freezeItems_eq_map (vs : List PyValue) : freezeItems vs = vs.map freezeValue := by
  induction vs with
  | nil => rfl
  | cons v vs ih => rw [freezeItems, ih, map_cons]

theorem freezeEntries_eq_map (is : List (PyKey × PyValue)) :
    freezeEntries is = is.map fun i => (i.1, freezeValue i.2) := by
  induction is with
  | nil => rfl
  | cons i is ih => rw [freezeEntries, ih, map_cons]

theorem freezeFields_eq_map (fs : List (Field × PyValue)) :
    freezeFields fs = (fs.filter fun f => !f.1.isPrivate).map
      fun f => (.str f.1.name, freezeValue f.2) := by
  induction fs with
  | nil => rfl
  | cons f fs ih =>
    obtain ⟨f, v⟩ := f
    rw [freezeFields, ih]
    by_cases h : f.isPrivate = true
    · simp [h]
    · simp [h]

theorem mem_freezeItems {vs : List PyValue} {w : PyValue} :
    w ∈ freezeItems vs ↔ ∃ v ∈ vs, freezeValue v = w := by
  rw [freezeItems_eq_map, mem_map]

variable {is : List (PyKey × PyValue)} {i : PyKey × PyValue} {fs : List (Field × PyValue)}
  {xs : List PyValue} {v : PyValue}

theorem mem_freezeEntries :
    i ∈ freezeEntries is ↔ ∃ j ∈ is, (j.1, freezeValue j.2) = i := by
  rw [freezeEntries_eq_map, mem_map]

theorem mem_freezeFields :
    i ∈ freezeFields fs ↔
      ∃ f ∈ fs, f.1.isPrivate = false ∧ (.str f.1.name, freezeValue f.2) = i := by
  rw [freezeFields_eq_map, mem_map]
  constructor
  · rintro ⟨f, hf, rfl⟩
    obtain ⟨hf, hp⟩ := mem_filter.1 hf
    exact ⟨f, hf, by simpa using hp, rfl⟩
  · rintro ⟨f, hf, hp, rfl⟩
    exact ⟨f, mem_filter.2 ⟨hf, by simpa using hp⟩, rfl⟩

theorem map_fst_freezeEntries (is : List (PyKey × PyValue)) :
    (freezeEntries is).map Prod.fst = is.map Prod.fst := by
  rw [freezeEntries_eq_map, map_map]
  rfl

/-! ## Parts of accepted values -/

theorem accepted_of_map {vs : List PyValue} {js : List Json}
    (h : vs.map canonicalValue = js.map .ok) : ∀ v ∈ vs, Accepted v := by
  intro v hv
  have hmem : canonicalValue v ∈ js.map Except.ok := h ▸ mem_map_of_mem hv
  obtain ⟨j, -, hj⟩ := mem_map.1 hmem
  exact ⟨j, hj.symm⟩

theorem accepted_of_mem_set {b : Bool} (h : Accepted (.set b xs)) :
    ∀ x ∈ xs, Accepted x := by
  obtain ⟨j, hj⟩ := h
  obtain ⟨js, hjs, -⟩ := canonicalValue_set.1 hj
  exact accepted_of_map hjs

theorem accepted_of_mem_tuple (h : Accepted (.tuple xs)) :
    ∀ x ∈ xs, Accepted x := by
  obtain ⟨j, hj⟩ := h
  obtain ⟨js, hjs, -⟩ := canonicalValue_tuple.1 hj
  exact accepted_of_map hjs

theorem accepted_of_mem_list (h : Accepted (.list xs)) :
    ∀ x ∈ xs, Accepted x := by
  obtain ⟨j, hj⟩ := h
  obtain ⟨js, hjs, -⟩ := canonicalValue_list.1 hj
  exact accepted_of_map hjs

theorem accepted_enum_iff {cls : String} : Accepted (.enum cls v) ↔ Accepted v := by
  refine ⟨?_, accepted_enum cls⟩
  rintro ⟨j, hj⟩
  obtain ⟨i, hi, -⟩ := canonicalValue_enum.1 hj
  exact ⟨i, hi⟩

theorem accepted_mapping_iff :
    Accepted (.mapping is) ↔ ∀ i ∈ is, i.1 ≠ .other ∧ Accepted i.2 := by
  constructor
  · rintro ⟨j, hj⟩
    obtain ⟨hkeys, js, hjs, -⟩ := canonicalValue_mapping.1 hj
    intro i hi
    refine ⟨hkeys i hi, ?_⟩
    have hmem : (keyed i).2 ∈ js.map Except.ok :=
      hjs ▸ mem_map_of_mem ((perm_sortBy Prod.fst _).mem_iff.2 (mem_map_of_mem hi))
    obtain ⟨j', -, hj'⟩ := mem_map.1 hmem
    obtain ⟨i', hi', -⟩ := map_eq_ok.1 hj'.symm
    exact ⟨i', hi'⟩
  · intro h
    have hall : ∀ p ∈ sortBy Prod.fst (is.map keyed), ∃ j, p.2 = .ok j := by
      intro p hp
      obtain ⟨i, hi, rfl⟩ := mem_map.1 ((perm_sortBy Prod.fst _).mem_iff.1 hp)
      obtain ⟨j, hj⟩ := (h i hi).2
      exact ⟨_, map_eq_ok.2 ⟨j, hj, rfl⟩⟩
    obtain ⟨js, hjs⟩ := exists_map_ok hall
    exact ⟨_, canonicalValue_mapping.2 ⟨fun i hi => (h i hi).1, js, hjs, rfl⟩⟩

/-- A field that is not private is accepted, or left out because it is `None`. -/
theorem accepted_of_field {cls : String}
    (h : Accepted (.dataclass cls fs)) {f : Field × PyValue} (hf : f ∈ fs)
    (hp : f.1.isPrivate = false) : Accepted f.2 := by
  obtain ⟨j, hj⟩ := h
  obtain ⟨js, hjs, -⟩ := canonicalValue_dataclass.1 hj
  by_cases ho : omitted f.1 f.2 = true
  · have hnone : f.2.isNone = true := by
      rw [omitted, hp, Bool.false_or, Bool.and_eq_true] at ho
      exact ho.2
    cases hv : f.2 with
    | none => exact accepted_none
    | _ =>
      rw [hv] at hnone
      cases hnone
  · have hvis : f ∈ visible fs := mem_filter.2 ⟨hf, by simpa using ho⟩
    have hmem : (canonicalValue f.2).map (entry f.1.name) ∈ js.map Except.ok :=
      hjs ▸ mem_map_of_mem hvis
    obtain ⟨_, -, h'⟩ := mem_map.1 hmem
    obtain ⟨i, hi, -⟩ := map_eq_ok.1 h'.symm
    exact ⟨i, hi⟩

/-! ## Freezing an accepted value -/

/-- **An accepted value is frozen to mappings, tuples and scalars.** -/
theorem frozen_freezeValue (v : PyValue) (h : Accepted v) : Frozen (freezeValue v) := by
  induction v using PyValue.induct with
  | dataclass cls fs ih =>
    refine .mapping fun i hi => ?_
    obtain ⟨f, hf, hp, rfl⟩ := mem_freezeFields.1 hi
    exact ih f hf (accepted_of_field h hf hp)
  | enum cls v ih => exact ih (accepted_enum_iff.1 h)
  | mapping is ih =>
    refine .mapping fun i hi => ?_
    obtain ⟨j, hj, rfl⟩ := mem_freezeEntries.1 hi
    exact ih j hj (accepted_mapping_iff.1 h j hj).2
  | set b xs ih =>
    refine .tuple fun w hw => ?_
    obtain ⟨x, hx, rfl⟩ := mem_freezeItems.1 ((perm_sortBy canonicalKey _).mem_iff.1 hw)
    exact ih x hx (accepted_of_mem_set h x hx)
  | tuple xs ih =>
    refine .tuple fun w hw => ?_
    obtain ⟨x, hx, rfl⟩ := mem_freezeItems.1 hw
    exact ih x hx (accepted_of_mem_tuple h x hx)
  | list xs ih =>
    refine .tuple fun w hw => ?_
    obtain ⟨x, hx, rfl⟩ := mem_freezeItems.1 hw
    exact ih x hx (accepted_of_mem_list h x hx)
  | decimal d => exact .decimal
  | datetime d => exact .datetime
  | timedelta d => exact .timedelta
  | date d => exact .date
  | float x => exact .float
  | none => exact .none
  | bool b => exact .bool
  | int z => exact .int
  | str s => exact .str
  | object t =>
    obtain ⟨_, hj⟩ := h
    cases hj

theorem freezeValue_of_frozen (h : Frozen v) : freezeValue v = v := by
  induction h with
  | @mapping is _ ih =>
    rw [freezeValue, freezeEntries_eq_map]
    refine congrArg PyValue.mapping ((map_congr_left fun i hi => ?_).trans (map_id is))
    rw [ih i hi]
    rfl
  | @tuple xs _ ih =>
    rw [freezeValue, freezeItems_eq_map]
    exact congrArg PyValue.tuple ((map_congr_left ih).trans (map_id xs))
  | decimal | datetime | timedelta | date | float | none | bool | int | str => rfl

theorem accepted_freezeValue (v : PyValue) (h : Accepted v) : Accepted (freezeValue v) := by
  induction v using PyValue.induct with
  | dataclass cls fs ih =>
    refine accepted_mapping_iff.2 fun i hi => ?_
    obtain ⟨f, hf, hp, rfl⟩ := mem_freezeFields.1 hi
    exact ⟨PyKey.noConfusion, ih f hf (accepted_of_field h hf hp)⟩
  | enum cls v ih => exact ih (accepted_enum_iff.1 h)
  | mapping is ih =>
    refine accepted_mapping_iff.2 fun i hi => ?_
    obtain ⟨j, hj, rfl⟩ := mem_freezeEntries.1 hi
    obtain ⟨hkey, hv⟩ := accepted_mapping_iff.1 h j hj
    exact ⟨hkey, ih j hj hv⟩
  | set b xs ih =>
    refine accepted_tuple fun w hw => ?_
    obtain ⟨x, hx, rfl⟩ := mem_freezeItems.1 ((perm_sortBy canonicalKey _).mem_iff.1 hw)
    exact ih x hx (accepted_of_mem_set h x hx)
  | tuple xs ih =>
    refine accepted_tuple fun w hw => ?_
    obtain ⟨x, hx, rfl⟩ := mem_freezeItems.1 hw
    exact ih x hx (accepted_of_mem_tuple h x hx)
  | list xs ih =>
    refine accepted_tuple fun w hw => ?_
    obtain ⟨x, hx, rfl⟩ := mem_freezeItems.1 hw
    exact ih x hx (accepted_of_mem_list h x hx)
  | _ => exact h

theorem wf_freezeValue (h : Proper v) : Wf (freezeValue v) := by
  induction h with
  | @dataclass cls fs hn _ ih =>
    refine .mapping ?_ fun i hi => ?_
    · rw [freezeFields_eq_map, map_map]
      have hsub : ((fs.filter fun f => !f.1.isPrivate).map fun f => f.1.name).Nodup :=
        hn.sublist (filter_sublist.map _)
      have hmap : ((fs.filter fun f => !f.1.isPrivate).map fun f => f.1.name).map PyKey.str =
          (fs.filter fun f => !f.1.isPrivate).map (Prod.fst ∘ fun f =>
            (PyKey.str f.1.name, freezeValue f.2)) := by
        rw [map_map]
        rfl
      exact hmap ▸ hsub.map fun a b hab => PyKey.str.inj hab
    · obtain ⟨f, hf, -, rfl⟩ := mem_freezeFields.1 hi
      exact ih f hf
  | enum _ ih => exact ih
  | mapping hn _ ih =>
    refine .mapping ((map_fst_freezeEntries _).symm ▸ hn) fun i hi => ?_
    obtain ⟨j, hj, rfl⟩ := mem_freezeEntries.1 hi
    exact ih j hj
  | set _ ih =>
    refine .tuple fun w hw => ?_
    obtain ⟨x, hx, rfl⟩ := mem_freezeItems.1 ((perm_sortBy canonicalKey _).mem_iff.1 hw)
    exact ih x hx
  | tuple _ ih | list _ ih =>
    refine .tuple fun w hw => ?_
    obtain ⟨x, hx, rfl⟩ := mem_freezeItems.1 hw
    exact ih x hx
  | decimal => exact .decimal
  | datetime => exact .datetime
  | timedelta => exact .timedelta
  | date => exact .date
  | float => exact .float
  | none => exact .none
  | bool => exact .bool
  | int => exact .int
  | str => exact .str
  | object => exact .object

/-! ## What freezing keeps -/

theorem same_of_mem_mapping {ks : List (PyKey × PyValue)} (h : Same (.mapping is) (.mapping ks)) (hi : i ∈ is) : ∃ w, (i.1, w) ∈ ks ∧ Same i.2 w := by
  cases h with | @mapping _ js _ hs hp =>
  obtain ⟨j, hj, hkey, hw⟩ : ∃ j ∈ js, i.1 = j.1 ∧ Same i.2 j.2 := by
    have hall := sameEntries_iff.1 hs
    clear hs hp
    induction hall with
    | nil => cases hi
    | cons h _ ih =>
      rcases mem_cons.1 hi with rfl | hi
      · exact ⟨_, mem_cons_self, h⟩
      · obtain ⟨j, hj, h'⟩ := ih hi
        exact ⟨j, mem_cons_of_mem _ hj, h'⟩
  obtain ⟨k, w⟩ := j
  exact ⟨w, hp.mem_iff.1 (show (i.1, w) ∈ js from hkey ▸ hj), hw⟩

/-- **Freezing keeps the content** exactly of the values that are frozen already. -/
theorem same_freezeValue_iff (hp : Proper v) (ha : Accepted v) :
    Same v (freezeValue v) ↔ Frozen v := by
  constructor
  · intro h
    induction hp with
    | dataclass => exact absurd h.kind_eq Kind.noConfusion
    | @enum cls v _ _ =>
      have hf := frozen_freezeValue (.enum cls v) ha
      generalize freezeValue (.enum cls v) = w at h hf
      cases h
      cases hf
    | @mapping is hn _ ih =>
      refine .mapping fun i hi => ih i hi (accepted_mapping_iff.1 ha i hi).2 ?_
      rw [freezeValue] at h
      obtain ⟨w, hw, hsame⟩ := same_of_mem_mapping h hi
      obtain ⟨j, hj, heq⟩ := mem_freezeEntries.1 hw
      obtain ⟨hkey, rfl⟩ := Prod.mk.inj heq
      rwa [inj_on_of_nodup_map hn hj hi hkey] at hsame
    | set => exact absurd h.kind_eq Kind.noConfusion
    | @tuple xs _ ih =>
      rw [freezeValue, freezeItems_eq_map] at h
      cases h with | tuple h =>
      refine .tuple fun x hx => ih x hx (accepted_of_mem_tuple ha x hx) ?_
      exact List.forall₂_same.1 (List.forall₂_map_right_iff.1 (sameItems_iff.1 h)) x hx
    | list => exact absurd h.kind_eq Kind.noConfusion
    | decimal => exact .decimal
    | datetime => exact .datetime
    | timedelta => exact .timedelta
    | date => exact .date
    | float => exact .float
    | none => exact .none
    | bool => exact .bool
    | int => exact .int
    | str => exact .str
    | object =>
      obtain ⟨_, hj⟩ := ha
      cases hj
  · intro h
    obtain ⟨j, hj⟩ := ha
    rw [freezeValue_of_frozen h]
    exact same_of_canonicalValue v v j hj hj

end ChartingPlatform
