/-
  The decoder of canonical data without classes, as it stands in
  `postgres_storage.py` and `dispatch_payload.py` (`_decode_canonical`): both
  copies know the same tags and differ in their messages and in how they build a
  mapping from its entries.
-/
import ChartingPlatform.Canonical.Frozen

namespace ChartingPlatform

open Lib List

/-- What the loop over the entries of a mapping meets at one of them: a key and
    the outcome of decoding its value, unless the entry is malformed. -/
abbrev EntryOutcome := Except PyError (String × Except PyError PyValue)

def readEntry (i : String × PyValue) : EntryOutcome := .ok (i.1, .ok i.2)

structure TagDecoder where
  /-- What its messages call the value: `canonical <label> value is malformed`. -/
  label : String
  /-- What its messages call the rest of a tagged value. -/
  noun : String
  /-- The exception for a text that a reader refuses. -/
  unreadable : String → String → PyError
  /-- The loop over the entries of a mapping. -/
  mapping : List EntryOutcome → Except PyError PyValue
  /-- It needs the value of every entry. -/
  mapping_reads : ∀ es v, mapping es = .ok v →
    ∃ items : List (String × PyValue), es = items.map readEntry
  /-- Entries in the order of their keys make the mapping they list. -/
  mapping_sorted : ∀ items : List (String × PyValue), (items.Pairwise fun a b => a.1 < b.1) →
    mapping (items.map readEntry) = .ok (.mapping (items.map fun i => (.str i.1, i.2)))

/-- The tags the decoder knows, with what its messages call them. -/
def taggedWords : List (String × String) :=
  [("bool", "bool"), ("int", "int"), ("float", "float"), ("str", "string"), ("tuple", "sequence"),
    ("list", "sequence"), ("set", "sequence"), ("mapping", "mapping"), ("decimal", "decimal"),
    ("datetime", "datetime"), ("date", "date")]

section
variable (D : TagDecoder)

def TagDecoder.malformed : Json → PyError
  | .arr [.str tag, _] =>
    match taggedWords.lookup tag with
    | some word => valueError ("canonical " ++ word ++ " " ++ D.noun ++ " is malformed")
    | none => valueError ("unsupported canonical " ++ D.label ++ " tag: " ++ tag)
  | _ => valueError ("canonical " ++ D.label ++ " value is malformed")

def TagDecoder.read {α : Type} (word text : String) (reader : List Char → Option α)
    (value : α → PyValue) : Except PyError PyValue :=
  match reader text.toList with
  | some a => .ok (value a)
  | none => .error (D.unreadable word text)

mutual

/-- `_decode_canonical`. -/
def TagDecoder.decode : Json → Except PyError PyValue
  | .arr [.str "null"] => .ok .none
  | .arr [.str "bool", .bool b] => .ok (.bool b)
  | .arr [.str "int", .str s] => D.read "int" s textInt? .int
  | .arr [.str "float", .str s] => D.read "float" s floatOfHex? .float
  | .arr [.str "str", .str s] => .ok (.str s)
  | .arr [.str "tuple", .arr js] => (collect (TagDecoder.decodeItems js)).map .tuple
  | .arr [.str "set", .arr js] => (collect (TagDecoder.decodeItems js)).map .tuple
  | .arr [.str "list", .arr js] => (collect (TagDecoder.decodeItems js)).map .list
  | .arr [.str "mapping", .arr es] => D.mapping (TagDecoder.decodeEntries es)
  | .arr [.str "decimal", .str s] => D.read "decimal" s decimalOfText? .decimal
  | .arr [.str "datetime", .str s] => D.read "datetime" s instantOfText? fun t => .datetime (.utc t)
  | .arr [.str "date", .str s] => D.read "date" s dateOfText? .date
  | j => .error (D.malformed j)

def TagDecoder.decodeItems : List Json → List (Except PyError PyValue)
  | [] => []
  | j :: js => TagDecoder.decode j :: TagDecoder.decodeItems js

def TagDecoder.decodeEntries : List Json → List EntryOutcome
  | [] => []
  | .arr [.str k, j] :: js => .ok (k, TagDecoder.decode j) :: TagDecoder.decodeEntries js
  | _ :: js =>
    .error (valueError "canonical mapping entry is malformed") :: TagDecoder.decodeEntries js

end

end

/-! ## Values without a `timedelta` -/

mutual

/-- No `timedelta` is in the value, outside the private fields of dataclasses. -/
def timedeltaFree : PyValue → Bool
  | .timedelta _ => false
  | .dataclass _ fs => timedeltaFreeFields fs
  | .enum _ v => timedeltaFree v
  | .mapping is => timedeltaFreeEntries is
  | .set _ xs => timedeltaFreeItems xs
  | .tuple xs => timedeltaFreeItems xs
  | .list xs => timedeltaFreeItems xs
  | _ => true

def timedeltaFreeItems : List PyValue → Bool
  | [] => true
  | v :: vs => timedeltaFree v && timedeltaFreeItems vs

def timedeltaFreeEntries : List (PyKey × PyValue) → Bool
  | [] => true
  | (_, v) :: is => timedeltaFree v && timedeltaFreeEntries is

def timedeltaFreeFields : List (Field × PyValue) → Bool
  | [] => true
  | (f, v) :: fs => (f.isPrivate || timedeltaFree v) && timedeltaFreeFields fs

end

theorem timedeltaFreeItems_iff {vs : List PyValue} :
    timedeltaFreeItems vs = true ↔ ∀ v ∈ vs, timedeltaFree v = true := by
  induction vs with
  | nil => simp [timedeltaFreeItems]
  | cons v vs ih => simp [timedeltaFreeItems, ih]

theorem timedeltaFreeEntries_iff {is : List (PyKey × PyValue)} :
    timedeltaFreeEntries is = true ↔ ∀ i ∈ is, timedeltaFree i.2 = true := by
  induction is with
  | nil => simp [timedeltaFreeEntries]
  | cons i is ih => simp [timedeltaFreeEntries, ih]

theorem timedeltaFreeFields_iff {fs : List (Field × PyValue)} :
    timedeltaFreeFields fs = true ↔
      ∀ f ∈ fs, f.1.isPrivate = false → timedeltaFree f.2 = true := by
  induction fs with
  | nil => simp [timedeltaFreeFields]
  | cons f fs ih =>
    obtain ⟨f, v⟩ := f
    rw [timedeltaFreeFields, Bool.and_eq_true, ih, forall_mem_cons]
    refine and_congr_left fun _ => ?_
    cases f.isPrivate <;> simp

theorem timedeltaFree_freezeValue (v : PyValue) :
    timedeltaFree (freezeValue v) = timedeltaFree v := by
  induction v using PyValue.induct with
  | dataclass cls fs ih =>
    refine Bool.eq_iff_iff.2 ?_
    rw [freezeValue, timedeltaFree, timedeltaFree, timedeltaFreeEntries_iff,
      timedeltaFreeFields_iff]
    constructor
    · intro h f hf hp
      rw [← ih f hf]
      exact h _ (mem_freezeFields.2 ⟨f, hf, hp, rfl⟩)
    · intro h i hi
      obtain ⟨f, hf, hp, rfl⟩ := mem_freezeFields.1 hi
      rw [ih f hf]
      exact h f hf hp
  | enum cls v ih => exact ih
  | mapping is ih =>
    refine Bool.eq_iff_iff.2 ?_
    rw [freezeValue, timedeltaFree, timedeltaFree, timedeltaFreeEntries_iff,
      timedeltaFreeEntries_iff, freezeEntries_eq_map, forall_mem_map]
    exact forall₂_congr fun i hi => by rw [ih i hi]
  | set b xs ih =>
    refine Bool.eq_iff_iff.2 ?_
    rw [freezeValue, timedeltaFree, timedeltaFree, timedeltaFreeItems_iff, timedeltaFreeItems_iff]
    simp only [mem_sortBy, freezeItems_eq_map, forall_mem_map]
    exact forall₂_congr fun x hx => by rw [ih x hx]
  | tuple xs ih | list xs ih =>
    refine Bool.eq_iff_iff.2 ?_
    rw [freezeValue, timedeltaFree, timedeltaFree, timedeltaFreeItems_iff, timedeltaFreeItems_iff,
      freezeItems_eq_map, forall_mem_map]
    exact forall₂_congr fun x hx => by rw [ih x hx]
  | _ => rfl

/-! ## Decoding what was encoded -/

section
variable {D : TagDecoder}

theorem TagDecoder.decodeEntries_entry (k : String) (j : Json) (js : List Json) :
    D.decodeEntries (entry k j :: js) = .ok (k, D.decode j) :: D.decodeEntries js := rfl

/-! One equation for each tag that a frozen value is written with. -/

theorem TagDecoder.decode_null : D.decode (tagged "null" []) = .ok .none := rfl

theorem TagDecoder.decode_bool (b : Bool) :
    D.decode (tagged "bool" [.bool b]) = .ok (.bool b) := rfl

theorem TagDecoder.decode_int (s : String) :
    D.decode (tagged "int" [.str s]) = D.read "int" s textInt? .int := rfl

theorem TagDecoder.decode_float (s : String) :
    D.decode (tagged "float" [.str s]) = D.read "float" s floatOfHex? .float := rfl

theorem TagDecoder.decode_str (s : String) : D.decode (tagged "str" [.str s]) = .ok (.str s) := rfl

theorem TagDecoder.decode_tuple (js : List Json) :
    D.decode (tagged "tuple" [.arr js]) = (collect (D.decodeItems js)).map .tuple := rfl

theorem TagDecoder.decode_mapping (js : List Json) :
    D.decode (tagged "mapping" [.arr js]) = D.mapping (D.decodeEntries js) := rfl

theorem TagDecoder.decode_decimal (s : String) :
    D.decode (tagged "decimal" [.str s]) = D.read "decimal" s decimalOfText? .decimal := rfl

theorem TagDecoder.decode_datetime (s : String) : D.decode (tagged "datetime" [.str s]) =
    D.read "datetime" s instantOfText? fun t => .datetime (.utc t) := rfl

theorem TagDecoder.decode_date (s : String) :
    D.decode (tagged "date" [.str s]) = D.read "date" s dateOfText? .date := rfl

theorem TagDecoder.decode_timedelta (days seconds micros : Json) :
    D.decode (tagged "timedelta" [days, seconds, micros]) =
      .error (valueError ("canonical " ++ D.label ++ " value is malformed")) := rfl

def TagDecoder.Restores (D : TagDecoder) (v : PyValue) : Prop :=
  ∀ j, canonicalValue v = .ok j → ∃ d, D.decode j = .ok d ∧ Same v d ∧ Frozen d

theorem canonicalValue_mapping_sorted {is : List (PyKey × PyValue)} {j : Json}
    (hn : (is.map Prod.fst).Nodup) (h : canonicalValue (.mapping is) = .ok j) :
    ∃ ms js, ms ~ is ∧ (∀ i ∈ ms, i.1 ≠ .other) ∧
      (ms.Pairwise fun a b => a.1.text < b.1.text) ∧
      ms.map (fun i => (canonicalValue i.2).map (entry i.1.text)) = js.map .ok ∧
      j = tagged "mapping" [.arr js] := by
  obtain ⟨hi, js, hjs, rfl⟩ := canonicalValue_mapping.1 h
  refine ⟨sortBy (fun i => i.1.text) is, js, perm_sortBy _ is, fun i hmem => ?_, ?_, ?_, rfl⟩
  · exact hi i ((mem_sortBy _).1 hmem)
  · exact pairwise_lt_sortBy (nodup_text hn hi)
  · rw [← hjs, ← map_sortBy keyed Prod.fst, map_map]
    rfl

theorem decodeItems_of_restores {xs : List PyValue} {js : List Json}
    (ih : ∀ x ∈ xs, D.Restores x) (hx : xs.map canonicalValue = js.map .ok) :
    ∃ ds, D.decodeItems js = ds.map .ok ∧ SameItems xs ds ∧ ∀ d ∈ ds, Frozen d := by
  induction xs generalizing js with
  | nil =>
    rw [map_nil, eq_comm, map_eq_nil_iff] at hx
    subst hx
    exact ⟨[], rfl, .nil, by simp⟩
  | cons x xs ihx =>
    obtain ⟨j, js, rfl, hj, hjs⟩ := map_eq_cons_iff.1 hx.symm
    obtain ⟨d, hd, hs, hf⟩ := ih x mem_cons_self j hj.symm
    obtain ⟨ds, hds, hss, hfs⟩ := ihx (fun x hx => ih x (mem_cons_of_mem _ hx)) hjs.symm
    refine ⟨d :: ds, by rw [TagDecoder.decodeItems, hd, hds, map_cons], .cons hs hss, ?_⟩
    exact forall_mem_cons.2 ⟨hf, hfs⟩

theorem decodeEntries_of_restores {ms : List (PyKey × PyValue)} {js : List Json}
    (ih : ∀ i ∈ ms, D.Restores i.2) (hkeys : ∀ i ∈ ms, i.1 ≠ .other)
    (hm : ms.map (fun i => (canonicalValue i.2).map (entry i.1.text)) = js.map .ok) :
    ∃ items : List (String × PyValue), D.decodeEntries js = items.map readEntry ∧
      SameEntries ms (items.map fun i => (.str i.1, i.2)) ∧ ∀ i ∈ items, Frozen i.2 := by
  induction ms generalizing js with
  | nil =>
    rw [map_nil, eq_comm, map_eq_nil_iff] at hm
    subst hm
    exact ⟨[], rfl, .nil, by simp⟩
  | cons i ms ihm =>
    obtain ⟨j, js, rfl, hj, hjs⟩ := map_eq_cons_iff.1 hm.symm
    obtain ⟨t, ht, rfl⟩ := map_eq_ok.1 hj.symm
    obtain ⟨d, hd, hs, hf⟩ := ih i mem_cons_self t ht
    obtain ⟨items, hitems, hss, hfs⟩ := ihm (fun i hi => ih i (mem_cons_of_mem _ hi))
      (fun i hi => hkeys i (mem_cons_of_mem _ hi)) hjs.symm
    obtain ⟨k, v⟩ := i
    cases k with
    | other => exact absurd rfl (hkeys _ mem_cons_self)
    | str k =>
      refine ⟨(k, d) :: items, ?_, .cons hs hss, forall_mem_cons.2 ⟨hf, hfs⟩⟩
      rw [show (PyKey.str k, v).1.text = k from rfl, TagDecoder.decodeEntries_entry, hd, hitems]
      rfl

theorem pairwise_of_sameEntries {ms : List (PyKey × PyValue)} {items : List (String × PyValue)}
    (h : SameEntries ms (items.map fun i => (.str i.1, i.2)))
    (hs : ms.Pairwise fun a b => a.1.text < b.1.text) :
    items.Pairwise fun a b => a.1 < b.1 := by
  have hkeys : ms.map (fun i => i.1.text) = items.map Prod.fst := by
    clear hs
    induction items generalizing ms with
    | nil => cases h; rfl
    | cons i items ih =>
      cases h with
      | cons _ h => exact congrArg (List.cons _) (ih h)
  have hlt : (ms.map fun i => i.1.text).Pairwise (· < ·) := pairwise_map.2 hs
  rw [hkeys] at hlt
  exact pairwise_map.1 hlt

theorem restores_mapping {is : List (PyKey × PyValue)}
    (hn : (is.map Prod.fst).Nodup) (ih : ∀ i ∈ is, D.Restores i.2) : D.Restores (.mapping is) := by
  intro j hj
  obtain ⟨ms, js, hms, hkeys, hsorted, hjs, rfl⟩ := canonicalValue_mapping_sorted hn hj
  obtain ⟨items, hitems, hsame, hfrozen⟩ := decodeEntries_of_restores
    (fun i hi => ih i (hms.mem_iff.1 hi)) hkeys hjs
  have hbuild := D.mapping_sorted items (pairwise_of_sameEntries hsame hsorted)
  obtain ⟨ks, hks, hp⟩ := List.perm_comp_forall₂ hms.symm (sameEntries_iff.1 hsame)
  refine ⟨_, ?_, .mapping (sameEntries_iff.2 hks) hp, .mapping ?_⟩
  · rw [TagDecoder.decode_mapping, hitems, hbuild]
  · rw [forall_mem_map]
    exact hfrozen

/-- **A frozen value without a `timedelta` is restored.** -/
theorem restored_of_timedeltaFree {v : PyValue} (hf : Frozen v) (hwf : Wf v)
    (h : timedeltaFree v = true) : D.Restores v := by
  induction hf with
  | mapping _ ih =>
    cases hwf with | mapping hn hwf =>
    rw [timedeltaFree, timedeltaFreeEntries_iff] at h
    exact restores_mapping hn fun i hi => ih i hi (hwf i hi) (h i hi)
  | tuple _ ih =>
    cases hwf with | tuple hwf =>
    rw [timedeltaFree, timedeltaFreeItems_iff] at h
    intro j hj
    obtain ⟨js, hjs, rfl⟩ := canonicalValue_tuple.1 hj
    obtain ⟨ds, hds, hss, hfs⟩ := decodeItems_of_restores
      (fun x hx => ih x hx (hwf x hx) (h x hx)) hjs
    refine ⟨.tuple ds, ?_, .tuple hss, .tuple hfs⟩
    rw [TagDecoder.decode_tuple, hds, collect_map_ok]
    rfl
  | @decimal d =>
    intro j hj
    cases d with
    | special => cases hj
    | finite n c e =>
      obtain rfl := Except.ok.inj hj
      obtain ⟨n', c', e', hread, hval⟩ := decimalOfText?_identity n c e
      refine ⟨.decimal (.finite n' c' e'), ?_, .decimal hval.symm, .decimal⟩
      rw [TagDecoder.decode_decimal, TagDecoder.read, String.toList_ofList, hread]
  | datetime =>
    intro j hj
    obtain ⟨t, ht, rfl⟩ := canonicalValue_datetime.1 hj
    refine ⟨.datetime (.utc t), ?_, .datetime ht (instant_utc t), .datetime⟩
    rw [TagDecoder.decode_datetime, TagDecoder.read, String.toList_ofList, instantOfText?_instantText]
  | timedelta => cases h
  | @date d =>
    intro j hj
    obtain rfl := Except.ok.inj hj
    refine ⟨.date d, ?_, .date, .date⟩
    rw [TagDecoder.decode_date, TagDecoder.read, String.toList_ofList, dateOfText?_dateText]
  | @float x =>
    intro j hj
    obtain ⟨-, rfl⟩ := canonicalValue_float.1 hj
    refine ⟨.float x, ?_, .float, .float⟩
    rw [TagDecoder.decode_float, TagDecoder.read, String.toList_ofList, floatOfHex?_floatHex]
  | none =>
    intro j hj
    obtain rfl := Except.ok.inj hj
    exact ⟨.none, TagDecoder.decode_null, .none, .none⟩
  | @bool b =>
    intro j hj
    obtain rfl := Except.ok.inj hj
    exact ⟨.bool b, TagDecoder.decode_bool b, .bool, .bool⟩
  | @int z =>
    intro j hj
    obtain rfl := Except.ok.inj hj
    refine ⟨.int z, ?_, .int, .int⟩
    rw [TagDecoder.decode_int, TagDecoder.read, String.toList_ofList, textInt?_intText]
  | @str s =>
    intro j hj
    obtain rfl := Except.ok.inj hj
    exact ⟨.str s, TagDecoder.decode_str s, .str, .str⟩

/-! ## What decodes had no `timedelta` -/

/-- What decodes from the tree of the value shows that it holds no `timedelta`. -/
def TagDecoder.Refuses (D : TagDecoder) (v : PyValue) : Prop :=
  ∀ j d, canonicalValue v = .ok j → D.decode j = .ok d → timedeltaFree v = true

theorem refuses_items {xs : List PyValue} {js : List Json} {ds : List PyValue}
    (ih : ∀ x ∈ xs, D.Refuses x) (hx : xs.map canonicalValue = js.map .ok)
    (hd : D.decodeItems js = ds.map .ok) : ∀ x ∈ xs, timedeltaFree x = true := by
  induction xs generalizing js ds with
  | nil => simp
  | cons x xs ihx =>
    obtain ⟨j, js, rfl, hj, hjs⟩ := map_eq_cons_iff.1 hx.symm
    obtain ⟨d, ds, rfl, hd₁, hd₂⟩ := map_eq_cons_iff.1 hd.symm
    exact forall_mem_cons.2 ⟨ih x mem_cons_self j d hj.symm hd₁.symm,
      ihx (fun x hx => ih x (mem_cons_of_mem _ hx)) hjs.symm hd₂.symm⟩

theorem refuses_entries {ms : List (PyKey × PyValue)} {js : List Json}
    {items : List (String × PyValue)} (ih : ∀ i ∈ ms, D.Refuses i.2)
    (hm : ms.map (fun i => (canonicalValue i.2).map (entry i.1.text)) = js.map .ok)
    (hd : D.decodeEntries js = items.map readEntry) : ∀ i ∈ ms, timedeltaFree i.2 = true := by
  induction ms generalizing js items with
  | nil => simp
  | cons i ms ihm =>
    obtain ⟨j, js, rfl, hj, hjs⟩ := map_eq_cons_iff.1 hm.symm
    obtain ⟨t, ht, rfl⟩ := map_eq_ok.1 hj.symm
    rw [TagDecoder.decodeEntries_entry] at hd
    obtain ⟨item, items, rfl, hd₁, hd₂⟩ := map_eq_cons_iff.1 hd.symm
    have hdec : D.decode t = .ok item.2 := (Prod.mk.inj (Except.ok.inj hd₁)).2.symm
    exact forall_mem_cons.2 ⟨ih i mem_cons_self t item.2 ht hdec,
      ihm (fun i hi => ih i (mem_cons_of_mem _ hi)) hjs.symm hd₂.symm⟩

theorem timedeltaFree_of_decoded {v : PyValue} (hf : Frozen v) (hwf : Wf v) : D.Refuses v := by
  induction hf with
  | mapping _ ih =>
    cases hwf with | mapping hn hwf =>
    intro j d hj hd
    obtain ⟨ms, js, hms, -, -, hjs, rfl⟩ := canonicalValue_mapping_sorted hn hj
    rw [TagDecoder.decode_mapping] at hd
    obtain ⟨items, hitems⟩ := D.mapping_reads _ _ hd
    rw [timedeltaFree, timedeltaFreeEntries_iff]
    exact fun i hi => refuses_entries
      (fun i hi => ih i (hms.mem_iff.1 hi) (hwf i (hms.mem_iff.1 hi))) hjs hitems i (hms.mem_iff.2 hi)
  | tuple _ ih =>
    cases hwf with | tuple hwf =>
    intro j d hj hd
    obtain ⟨js, hjs, rfl⟩ := canonicalValue_tuple.1 hj
    rw [TagDecoder.decode_tuple] at hd
    obtain ⟨ds, hds, -⟩ := map_eq_ok.1 hd
    rw [timedeltaFree, timedeltaFreeItems_iff]
    exact refuses_items (fun x hx => ih x hx (hwf x hx)) hjs (collect_eq_ok.1 hds)
  | timedelta =>
    intro j d hj hd
    obtain rfl := Except.ok.inj hj
    rw [TagDecoder.decode_timedelta] at hd
    cases hd
  | decimal | datetime | date | float | none | bool | int | str => exact fun _ _ _ _ => rfl

end

end ChartingPlatform
