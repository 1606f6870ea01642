/-
  Round trips of canonical contracts: what `decode_canonical_contract` gives
  back for the canonical text of a contract instance.

  The constructors of the classes see the decoded values of their fields, not the
  ones the instance was built with: `rebuild` builds it again from those.
-/
import ChartingPlatform.Canonical.Decode

namespace ChartingPlatform

open Lib List

/-! ## Instances -/

/-- A Python value of the classes in `env`: every dataclass instance in it was
    built, and so passes the validation of its class. -/
inductive Valid (env : Classes) : PyValue → Prop
  | dataclass {cls type args vs} : env.dataclass cls = some type → type.construct args = .ok vs →
      (∀ v ∈ vs, Valid env v) → Valid env (.dataclass cls (type.fields.zip vs))
  | enum {cls members s} : env.enum cls = some members → s ∈ members →
      Valid env (.enum cls (.str s))
  | mapping {is} : (is.map Prod.fst).Nodup → (∀ i ∈ is, Valid env i.2) → Valid env (.mapping is)
  | set {b xs} : (∀ x ∈ xs, Valid env x) → Valid env (.set b xs)
  | tuple {xs} : (∀ x ∈ xs, Valid env x) → Valid env (.tuple xs)
  | list {xs} : (∀ x ∈ xs, Valid env x) → Valid env (.list xs)
  | decimal {d} : Valid env (.decimal d)
  | datetime {d} : Valid env (.datetime d)
  | timedelta {d} : Valid env (.timedelta d)
  | date {d} : Valid env (.date d)
  | float {x} : Valid env (.float x)
  | none : Valid env .none
  | bool {b} : Valid env (.bool b)
  | int {z} : Valid env (.int z)
  | str {s} : Valid env (.str s)

def normalDecimal (negative : Bool) (c : ℕ) (e : ℤ) : PyDecimal :=
  if c = 0 then .finite false 0 0 else .finite negative (normalized c e).1 (normalized c e).2

def canonicalTree (v : PyValue) : Json := (canonicalValue v).toOption.getD (.arr [])

def memberText (v : PyValue) : String := Json.dumps (canonicalTree v)

section
variable (env : Classes)

/-- The constructor of a class on given field values. -/
def reconstruct (cls : String) (vs : List PyValue) : Except PyError PyValue := do
  let type ← orRaise (env.dataclass cls) "dataclass canonical value uses an unsupported type"
  let ws ← rewrap (type.construct (initValues type.fields vs))
    "dataclass canonical value failed contract validation"
  return .dataclass cls (type.fields.zip ws)

mutual

/-- The value built again from the inside out, by the constructors of its
    classes: decimals normalised, datetimes in UTC, mappings by key, sets frozen. -/
def rebuild : PyValue → Except PyError PyValue
  | .dataclass cls fields => collect (rebuildFields fields) >>= reconstruct env cls
  | .decimal (.finite negative c e) => .ok (.decimal (normalDecimal negative c e))
  | .datetime d => d.instant.map fun t => .datetime (.utc t)
  | .mapping items =>
    collect ((sortBy Prod.fst (rebuildEntries items)).map Prod.snd) >>= decodeMapping
  | .set _ items => collect ((sortBy Prod.fst (rebuildMembers items)).map Prod.snd) >>= decodeSet
  | .tuple items => (collect (rebuildItems items)).map .tuple
  | .list items => (collect (rebuildItems items)).map .list
  | v => .ok v

def rebuildItems : List PyValue → List (Except PyError PyValue)
  | [] => []
  | v :: vs => rebuild v :: rebuildItems vs

/-- The members of a set, keyed by their canonical texts. -/
def rebuildMembers : List PyValue → List (String × Except PyError PyValue)
  | [] => []
  | v :: vs => (memberText v, rebuild v) :: rebuildMembers vs

def rebuildEntries :
    List (PyKey × PyValue) → List (String × Except PyError (String × PyValue))
  | [] => []
  | (k, v) :: is => (k.text, (rebuild v).map fun w => (k.text, w)) :: rebuildEntries is

def rebuildFields : List (Field × PyValue) → List (Except PyError PyValue)
  | [] => []
  | (_, v) :: fs => rebuild v :: rebuildFields fs

end

end

variable {env : Classes}

theorem Valid.wf {v : PyValue} (h : Valid env v) : Wf v := by
  induction h with
  | dataclass _ _ _ ih => exact .dataclass fun f hf => ih f.2 (of_mem_zip hf).2
  | enum => exact .enum .str
  | mapping hn _ ih => exact .mapping hn ih
  | set _ ih => exact .set ih
  | tuple _ ih => exact .tuple ih
  | list _ ih => exact .list ih
  | decimal => exact .decimal
  | datetime => exact .datetime
  | timedelta => exact .timedelta
  | date => exact .date
  | float => exact .float
  | none => exact .none
  | bool => exact .bool
  | int => exact .int
  | str => exact .str

theorem rebuildItems_eq_map (vs : List PyValue) : rebuildItems env vs = vs.map (rebuild env) := by
  induction vs with
  | nil => rfl
  | cons v vs ih => rw [rebuildItems, ih, map_cons]

theorem rebuildMembers_eq_map (vs : List PyValue) :
    rebuildMembers env vs = vs.map fun v => (memberText v, rebuild env v) := by
  induction vs with
  | nil => rfl
  | cons v vs ih => rw [rebuildMembers, ih, map_cons]

theorem rebuildEntries_eq_map (is : List (PyKey × PyValue)) : rebuildEntries env is =
    is.map fun i => (i.1.text, (rebuild env i.2).map fun w => (i.1.text, w)) := by
  induction is with
  | nil => rfl
  | cons i is ih => rw [rebuildEntries, ih, map_cons]

theorem rebuildFields_eq_map (fs : List (Field × PyValue)) :
    rebuildFields env fs = fs.map fun f => rebuild env f.2 := by
  induction fs with
  | nil => rfl
  | cons f fs ih => rw [rebuildFields, ih, map_cons]

/-! ## Sequences of values that are `Same` -/

theorem sameItems_iff {xs ys : List PyValue} : SameItems xs ys ↔ List.Forall₂ Same xs ys := by
  refine ⟨SameItems.forall₂, fun h => ?_⟩
  induction h with
  | nil => exact .nil
  | cons h _ ih => exact .cons h ih

theorem sameEntries_iff {is js : List (PyKey × PyValue)} :
    SameEntries is js ↔ List.Forall₂ (fun i j => i.1 = j.1 ∧ Same i.2 j.2) is js := by
  constructor
  · intro h
    induction is generalizing js with
    | nil => cases h; exact .nil
    | cons i is ih =>
      cases h with
      | cons h hs => exact .cons ⟨rfl, h⟩ (ih hs)
  · intro h
    induction h with
    | nil => exact .nil
    | @cons i j _ _ h _ ih =>
      obtain ⟨k, v⟩ := i
      obtain ⟨k', w⟩ := j
      obtain ⟨rfl, hv⟩ := h
      exact .cons hv ih

/-! ## Decoding what was encoded -/

theorem decodeEntries_entry (k : String) (j : Json) (js : List Json) :
    decodeEntries env (entry k j :: js) =
      (decodeCanonicalValue env j).map (fun v => (k, v)) :: decodeEntries env js := rfl

/-- What the induction hypothesis says of one value: its tree decodes to the value built again. -/
def Restored (env : Classes) (v : PyValue) : Prop :=
  ∀ j, canonicalValue v = .ok j → decodeCanonicalValue env j = rebuild env v

theorem decodeItems_of_restored {xs : List PyValue} {js : List Json}
    (ih : ∀ x ∈ xs, Restored env x) (hx : xs.map canonicalValue = js.map .ok) :
    decodeItems env js = xs.map (rebuild env) := by
  induction xs generalizing js with
  | nil =>
    rw [map_nil, eq_comm, map_eq_nil_iff] at hx
    rw [hx, decodeItems, map_nil]
  | cons x xs ihx =>
    obtain ⟨j, js, rfl, hj, hjs⟩ := map_eq_cons_iff.1 hx.symm
    rw [decodeItems, ih x mem_cons_self j hj.symm,
      ihx (fun x hx => ih x (mem_cons_of_mem _ hx)) hjs.symm, map_cons]

theorem decodeEntries_of_restored {ps : List (String × PyValue)} {js : List Json}
    (ih : ∀ p ∈ ps, Restored env p.2)
    (hp : ps.map (fun p => (canonicalValue p.2).map (entry p.1)) = js.map .ok) :
    decodeEntries env js = ps.map fun p => (rebuild env p.2).map fun v => (p.1, v) := by
  induction ps generalizing js with
  | nil =>
    rw [map_nil, eq_comm, map_eq_nil_iff] at hp
    rw [hp, decodeEntries, map_nil]
  | cons p ps ihp =>
    obtain ⟨j, js, rfl, hj, hjs⟩ := map_eq_cons_iff.1 hp.symm
    obtain ⟨i, hi, rfl⟩ := map_eq_ok.1 hj.symm
    rw [decodeEntries_entry, ih p mem_cons_self i hi,
      ihp (fun p hp => ih p (mem_cons_of_mem _ hp)) hjs.symm, map_cons]

/-- Outcomes under names are the outcomes, and then the names. -/
theorem collect_named {ε α β : Type} (f : α → Except ε β) (ps : List (String × α)) :
    collect (ps.map fun p => (f p.2).map fun b => (p.1, b)) =
      (collect (ps.map fun p => f p.2)).map fun bs => (ps.map Prod.fst).zip bs := by
  induction ps with
  | nil => rfl
  | cons p ps ih =>
    simp only [map_cons, collect]
    cases f p.2 with
    | error e => rfl
    | ok b =>
      change (collect (ps.map fun p => (f p.2).map fun b => (p.1, b)) >>= _) = _
      rw [ih]
      cases collect (ps.map fun p => f p.2) <;> rfl

theorem filterMap_decodedField {fs : List Field} {ds : List PyValue}
    {items : List (String × PyValue)} (hn : (fs.map Field.name).Nodup)
    (hl : fs.length = ds.length) (hi : ∀ f ∈ fs, ∀ i ∈ items, i.1 ≠ f.name) :
    (fs.filter Field.init).filterMap (decodedField (items ++ (fs.map Field.name).zip ds)) =
      initValues fs ds := by
  induction fs generalizing ds items with
  | nil => rfl
  | cons f fs ih =>
    obtain ⟨d, ds, rfl⟩ := exists_cons_of_length_eq_add_one hl.symm
    rw [map_cons, nodup_cons] at hn
    have hi' : ∀ g ∈ fs, ∀ i ∈ items ++ [(f.name, d)], i.1 ≠ g.name := by
      intro g hg i hmem
      rcases mem_append.1 hmem with hmem | hmem
      · exact hi g (mem_cons_of_mem _ hg) i hmem
      · rw [mem_singleton] at hmem
        subst hmem
        exact fun he => hn.1 (mem_map.2 ⟨g, hg, he.symm⟩)
    have hrest := ih hn.2 (by simpa using hl) hi'
    rw [append_assoc] at hrest
    have hf : decodedField (items ++ (f.name :: fs.map Field.name).zip (d :: ds)) f = some d := by
      have hnone : items.find? (fun i => decide (i.1 = f.name)) = none :=
        find?_eq_none.2 fun i hmem => by simpa using hi f mem_cons_self i hmem
      simp [decodedField, find?_append, hnone]
    simp only [map_cons, initValues, zip_cons_cons, filter_cons] at hrest ⊢
    cases hinit : f.init with
    | true =>
      simp only [if_true, filterMap_cons, map_cons]
      rw [← zip_cons_cons, hf]
      simpa using hrest
    | false => simpa using hrest

theorem decodeDataclass_zip {cls : String} {type : DataclassType} {ds : List PyValue}
    (ht : canonicalDataclassRegistry env cls = some type) (henv : env.dataclass cls = some type)
    (hl : type.fields.length = ds.length) :
    decodeDataclass env cls ((type.fields.map Field.name).zip ds) = reconstruct env cls ds := by
  have hkeys : ((type.fields.map Field.name).zip ds).map Prod.fst = type.fields.map Field.name :=
    map_fst_zip (by simp [hl])
  have hinit := @filterMap_decodedField _ _ [] type.nodup_fields hl (by simp)
  rw [nil_append] at hinit
  unfold decodeDataclass reconstruct
  rw [ht, henv, orRaise, ok_bind, ok_bind, hkeys, ensure_of type.nodup_fields, ok_bind,
    ensure_of rfl, ok_bind, hinit]

theorem restored_dataclass {cls : String} {type : DataclassType} {vs : List PyValue}
    (ht : canonicalDataclassRegistry env cls = some type) (henv : env.dataclass cls = some type)
    (hl : vs.length = type.fields.length)
    (ho : ∀ f ∈ type.fields.zip vs, omitted f.1 f.2 = false)
    (ih : ∀ v ∈ vs, Restored env v) : Restored env (.dataclass cls (type.fields.zip vs)) := by
  intro j hj
  obtain ⟨js, hjs, rfl⟩ := canonicalValue_dataclass.1 hj
  have hvis : visible (type.fields.zip vs) = type.fields.zip vs :=
    filter_eq_self.2 fun f hf => by simp [ho f hf]
  -- the entries are the fields by name
  have hps : ((type.fields.map Field.name).zip vs).map
      (fun p => (canonicalValue p.2).map (entry p.1)) = js.map .ok := by
    rw [← hjs, hvis, zip_map_left, map_map]
    rfl
  have hnames : ((type.fields.map Field.name).zip vs).map Prod.fst = type.fields.map Field.name :=
    map_fst_zip (by simp [hl])
  have hrebuilt : (((type.fields.map Field.name).zip vs).map fun p => rebuild env p.2) =
      rebuildFields env (type.fields.zip vs) := by
    rw [rebuildFields_eq_map, zip_map_left, map_map]
    rfl
  have hentries := decodeEntries_of_restored (fun p hp => ih p.2 (of_mem_zip hp).2) hps
  change (collect (decodeEntries env js) >>= decodeDataclass env cls) =
    collect (rebuildFields env (type.fields.zip vs)) >>= reconstruct env cls
  rw [hentries, collect_named, hnames, hrebuilt]
  cases hds : collect (rebuildFields env (type.fields.zip vs)) with
  | error e => rfl
  | ok ds =>
    have hlength := congrArg List.length (collect_eq_ok.1 hds)
    rw [rebuildFields_eq_map, length_map, length_map, length_zip, hl,
      min_self] at hlength
    exact decodeDataclass_zip ht henv hlength

theorem restored_mapping {is : List (PyKey × PyValue)} (ih : ∀ i ∈ is, Restored env i.2) :
    Restored env (.mapping is) := by
  intro j hj
  obtain ⟨-, js, hjs, rfl⟩ := canonicalValue_mapping.1 hj
  rw [← map_sortBy keyed Prod.fst, map_map] at hjs
  have hps : ((sortBy (fun i => (keyed i).1) is).map fun i => (i.1.text, i.2)).map
      (fun p => (canonicalValue p.2).map (entry p.1)) = js.map .ok := by
    rw [← hjs, map_map]
    rfl
  have hentries := decodeEntries_of_restored (by
    intro p hp
    obtain ⟨i, hmem, rfl⟩ := mem_map.1 hp
    exact ih i ((mem_sortBy _).1 hmem)) hps
  change (collect (decodeEntries env js) >>= decodeMapping) =
    collect ((sortBy Prod.fst (rebuildEntries env is)).map Prod.snd) >>= decodeMapping
  rw [hentries, rebuildEntries_eq_map, ← map_sortBy _ Prod.fst, map_map, map_map]
  rfl

/-- The members of a set in the order of their texts. -/
theorem map_sortBy_text {xs : List PyValue} {js : List Json}
    (h : xs.map canonicalValue = js.map .ok) :
    (sortBy memberText xs).map canonicalValue = (sortBy Json.dumps js).map .ok := by
  have htree : ∀ x ∈ xs, canonicalValue x = .ok (canonicalTree x) := by
    intro x hx
    obtain ⟨j, -, hj⟩ := mem_map.1 (h ▸ mem_map_of_mem hx)
    rw [canonicalTree, ← hj]
    rfl
  have hjs : js = xs.map canonicalTree := by
    rw [map_congr_left htree] at h
    have h' : (xs.map canonicalTree).map (@Except.ok PyError Json) = js.map .ok := by
      rw [← h, map_map]
      rfl
    exact (Function.Injective.list_map (fun _ _ h => Except.ok.inj h) h').symm
  rw [hjs, ← map_sortBy canonicalTree Json.dumps, map_map]
  exact map_congr_left fun x hx => htree x ((mem_sortBy _).1 hx)

theorem restored_set {b : Bool} {xs : List PyValue} (ih : ∀ x ∈ xs, Restored env x) :
    Restored env (.set b xs) := by
  intro j hj
  obtain ⟨js, hjs, rfl⟩ := canonicalValue_set.1 hj
  have hitems := decodeItems_of_restored (fun x hx => ih x ((mem_sortBy _).1 hx))
    (map_sortBy_text hjs)
  change (collect (decodeItems env (sortBy Json.dumps js)) >>= decodeSet) =
    collect ((sortBy Prod.fst (rebuildMembers env xs)).map Prod.snd) >>= decodeSet
  rw [hitems, rebuildMembers_eq_map, ← map_sortBy _ Prod.fst, map_map]
  rfl

theorem decodableItems_iff {vs : List PyValue} :
    decodableItems env vs = true ↔ ∀ v ∈ vs, decodable env v = true := by
  induction vs with
  | nil => simp [decodableItems]
  | cons v vs ih => simp [decodableItems, ih]

theorem decodableEntries_iff {is : List (PyKey × PyValue)} :
    decodableEntries env is = true ↔ ∀ i ∈ is, decodable env i.2 = true := by
  induction is with
  | nil => simp [decodableEntries]
  | cons i is ih => simp [decodableEntries, ih]

theorem decodableFields_iff {fs : List (Field × PyValue)} :
    decodableFields env fs = true ↔
      ∀ f ∈ fs, omitted f.1 f.2 = false ∧ decodable env f.2 = true := by
  induction fs with
  | nil => simp [decodableFields]
  | cons f fs ih => simp [decodableFields, ih]

theorem dataclass_of_registry {cls : String} {type : DataclassType}
    (h : canonicalDataclassRegistry env cls = some type) : env.dataclass cls = some type := by
  rw [canonicalDataclassRegistry] at h
  split_ifs at h
  exact h

theorem enum_of_registry {cls : String} {members : List String}
    (h : canonicalEnumRegistry env cls = some members) : env.enum cls = some members := by
  rw [canonicalEnumRegistry] at h
  split_ifs at h
  exact h

theorem exists_field_of_mem {fs : List Field} {vs : List PyValue} (hl : vs.length = fs.length)
    {v : PyValue} (hv : v ∈ vs) : ∃ f, (f, v) ∈ fs.zip vs := by
  have hs : (fs.zip vs).map Prod.snd = vs := map_snd_zip hl.le
  rw [← hs] at hv
  obtain ⟨⟨f, w⟩, hf, rfl⟩ := mem_map.1 hv
  exact ⟨f, hf⟩

theorem decimalOfText?_decimalIdentity (n : Bool) (c : ℕ) (e : ℤ) :
    decimalOfText? (decimalIdentity n c e) = some (normalDecimal n c e) := by
  unfold decimalIdentity normalDecimal
  split_ifs <;> exact decimalOfText?_decimalText _ _ _

theorem restored_of_decodable (x : PyValue) (hv : Valid env x) (hd : decodable env x = true) :
    Restored env x := by
  induction x using PyValue.induct with
  | dataclass cls fs ih =>
    cases hv with | @dataclass _ type args vs ht hargs hvs =>
    have hl := type.length_construct args vs hargs
    rw [decodable, Bool.and_eq_true, decodableFields_iff] at hd
    obtain ⟨type', hreg⟩ := Option.isSome_iff_exists.1 hd.1
    obtain rfl := Option.some.inj (ht.symm.trans (dataclass_of_registry hreg))
    refine restored_dataclass hreg ht hl (fun f hf => (hd.2 f hf).1) fun v hmem => ?_
    obtain ⟨f, hf⟩ := exists_field_of_mem hl hmem
    exact ih _ hf (hvs v hmem) (hd.2 _ hf).2
  | enum cls v ih =>
    cases hv with | @enum _ members s hm hs =>
    intro j hj
    obtain ⟨i, hi, rfl⟩ := canonicalValue_enum.1 hj
    obtain rfl := Except.ok.inj hi
    rw [decodable] at hd
    obtain ⟨members', hreg⟩ := Option.isSome_iff_exists.1 hd
    obtain rfl := Option.some.inj (hm.symm.trans (enum_of_registry hreg))
    change decodeEnum env cls (.str s) = _
    rw [decodeEnum, hreg]
    simp [orRaise, ensure_of hs, rebuild]
  | decimal d =>
    intro j hj
    cases d with
    | special => cases hj
    | finite n c e =>
      obtain rfl := Except.ok.inj hj
      change decodeCanonicalDecimal _ = _
      rw [decodeCanonicalDecimal, String.toList_ofList, decimalOfText?_decimalIdentity]
      rfl
  | datetime d =>
    intro j hj
    obtain ⟨t, ht, rfl⟩ := canonicalValue_datetime.1 hj
    change decodeCanonicalDatetime _ = d.instant.map _
    rw [decodeCanonicalDatetime, String.toList_ofList, instantOfText?_instantText, ht]
    rfl
  | timedelta d => cases hd
  | date d =>
    intro j hj
    obtain rfl := Except.ok.inj hj
    change (orRaise (dateOfText? _) _).map PyValue.date = _
    rw [String.toList_ofList, dateOfText?_dateText]
    rfl
  | mapping is ih =>
    cases hv with | mapping hn hvs =>
    rw [decodable, decodableEntries_iff] at hd
    exact restored_mapping fun i hi => ih i hi (hvs i hi) (hd i hi)
  | set b xs ih =>
    cases hv with | set hvs =>
    rw [decodable, decodableItems_iff] at hd
    exact restored_set fun x hx => ih x hx (hvs x hx) (hd x hx)
  | tuple xs ih =>
    cases hv with | tuple hvs =>
    rw [decodable, decodableItems_iff] at hd
    intro j hj
    obtain ⟨js, hjs, rfl⟩ := canonicalValue_tuple.1 hj
    change (collect (decodeItems env js)).map PyValue.tuple =
      (collect (rebuildItems env xs)).map PyValue.tuple
    rw [decodeItems_of_restored (fun x hx => ih x hx (hvs x hx) (hd x hx)) hjs, rebuildItems_eq_map]
  | list xs ih =>
    cases hv with | list hvs =>
    rw [decodable, decodableItems_iff] at hd
    intro j hj
    obtain ⟨js, hjs, rfl⟩ := canonicalValue_list.1 hj
    change (collect (decodeItems env js)).map PyValue.list =
      (collect (rebuildItems env xs)).map PyValue.list
    rw [decodeItems_of_restored (fun x hx => ih x hx (hvs x hx) (hd x hx)) hjs, rebuildItems_eq_map]
  | float x =>
    intro j hj
    obtain ⟨-, rfl⟩ := canonicalValue_float.1 hj
    change (orRaise (floatOfHex? _) _).map PyValue.float = _
    rw [String.toList_ofList, floatOfHex?_floatHex]
    rfl
  | int z =>
    intro j hj
    obtain rfl := Except.ok.inj hj
    change decodeCanonicalInt _ = _
    simp [decodeCanonicalInt, orRaise, ensure, rebuild]
  | none | bool | str =>
    intro j hj
    obtain rfl := Except.ok.inj hj
    rfl
  | object t => cases hv

/-! ## What decodes was decodable -/

/-- What the induction hypothesis says of one value. -/
def Supported (env : Classes) (v : PyValue) : Prop :=
  ∀ j d, canonicalValue v = .ok j → decodeCanonicalValue env j = .ok d → decodable env v = true

theorem supported_items {xs : List PyValue} {js : List Json} {ds : List PyValue}
    (ih : ∀ x ∈ xs, Supported env x) (hx : xs.map canonicalValue = js.map .ok)
    (hd : decodeItems env js = ds.map .ok) : ∀ x ∈ xs, decodable env x = true := by
  induction xs generalizing js ds with
  | nil => simp
  | cons x xs ihx =>
    obtain ⟨j, js, rfl, hj, hjs⟩ := map_eq_cons_iff.1 hx.symm
    obtain ⟨d, ds, rfl, hd₁, hd₂⟩ := map_eq_cons_iff.1 hd.symm
    exact forall_mem_cons.2 ⟨ih x mem_cons_self j d hj.symm hd₁.symm,
      ihx (fun x hx => ih x (mem_cons_of_mem _ hx)) hjs.symm hd₂.symm⟩

theorem supported_entries {ps : List (String × PyValue)} {js : List Json}
    {items : List (String × PyValue)} (ih : ∀ p ∈ ps, Supported env p.2)
    (hp : ps.map (fun p => (canonicalValue p.2).map (entry p.1)) = js.map .ok)
    (hd : decodeEntries env js = items.map .ok) :
    items.map Prod.fst = ps.map Prod.fst ∧ ∀ p ∈ ps, decodable env p.2 = true := by
  induction ps generalizing js items with
  | nil =>
    rw [map_nil, eq_comm, map_eq_nil_iff] at hp
    subst hp
    rw [decodeEntries, eq_comm, map_eq_nil_iff] at hd
    subst hd
    simp
  | cons p ps ihp =>
    obtain ⟨j, js, rfl, hj, hjs⟩ := map_eq_cons_iff.1 hp.symm
    obtain ⟨i, hi, rfl⟩ := map_eq_ok.1 hj.symm
    rw [decodeEntries_entry] at hd
    obtain ⟨item, items, rfl, hd₁, hd₂⟩ := map_eq_cons_iff.1 hd.symm
    obtain ⟨d, hdec, rfl⟩ := map_eq_ok.1 hd₁.symm
    obtain ⟨hnames, hall⟩ := ihp (fun p hp => ih p (mem_cons_of_mem _ hp)) hjs.symm hd₂.symm
    exact ⟨by rw [map_cons, map_cons, hnames],
      forall_mem_cons.2 ⟨ih p mem_cons_self i d hi hdec, hall⟩⟩

theorem not_omitted_of_names {type : DataclassType} {vs : List PyValue}
    (hl : vs.length = type.fields.length)
    (hnames : ((visible (type.fields.zip vs)).map fun f => f.1.name).toFinset =
      (type.fields.map Field.name).toFinset) :
    ∀ f ∈ type.fields.zip vs, omitted f.1 f.2 = false := by
  rintro ⟨f, v⟩ hf
  have hmem : f.name ∈ (type.fields.map Field.name).toFinset :=
    mem_toFinset.2 (mem_map_of_mem (of_mem_zip hf).1)
  rw [← hnames, mem_toFinset] at hmem
  obtain ⟨⟨g, w⟩, hg, hname⟩ := mem_map.1 hmem
  obtain ⟨hg, ho⟩ := mem_filter.1 hg
  -- the names of the fields are distinct, so it is the same field
  have hmap : (type.fields.zip vs).map (fun f => f.1.name) = type.fields.map Field.name := by
    rw [← @map_fst_zip _ _ type.fields vs hl.ge, map_map,
      map_fst_zip hl.ge]
    rfl
  have heq := inj_on_of_nodup_map (hmap ▸ type.nodup_fields) hg hf hname
  rw [← heq]
  simpa using ho

theorem supported_of_valid (x : PyValue) (hv : Valid env x) : Supported env x := by
  induction x using PyValue.induct with
  | dataclass cls fs ih =>
    cases hv with | @dataclass _ type args vs ht hargs hvs =>
    have hl := type.length_construct args vs hargs
    intro j d hj hd
    obtain ⟨js, hjs, rfl⟩ := canonicalValue_dataclass.1 hj
    obtain ⟨items, hitems, hd⟩ := bind_eq_ok.1
      (show (collect (decodeEntries env js) >>= decodeDataclass env cls) = .ok d from hd)
    obtain ⟨type', hreg, hd⟩ := bind_eq_ok.1 hd
    obtain ⟨_, -, hd⟩ := bind_eq_ok.1 hd
    obtain ⟨_, hset, -⟩ := bind_eq_ok.1 hd
    rw [orRaise_eq_ok] at hreg
    rw [ensure_eq_ok] at hset
    obtain rfl := Option.some.inj (ht.symm.trans (dataclass_of_registry hreg))
    have hps : ((visible (type.fields.zip vs)).map fun f => (f.1.name, f.2)).map
        (fun p => (canonicalValue p.2).map (entry p.1)) = js.map .ok := by
      rw [← hjs, map_map]
      rfl
    obtain ⟨hnames, hall⟩ := supported_entries (by
      intro p hp
      obtain ⟨f, hf, rfl⟩ := mem_map.1 hp
      have hf := mem_of_mem_filter hf
      exact ih f hf (hvs _ (of_mem_zip hf).2)) hps (collect_eq_ok.1 hitems)
    rw [hnames, map_map] at hset
    have ho := not_omitted_of_names hl hset
    rw [decodable, Bool.and_eq_true, decodableFields_iff, hreg]
    refine ⟨rfl, fun f hf => ⟨ho f hf, ?_⟩⟩
    have hvis : f ∈ visible (type.fields.zip vs) := mem_filter.2 ⟨hf, by simp [ho f hf]⟩
    exact hall (f.1.name, f.2) (mem_map.2 ⟨f, hvis, rfl⟩)
  | enum cls v ih =>
    cases hv with | @enum _ members s hm hs =>
    intro j d hj hd
    obtain ⟨i, hi, rfl⟩ := canonicalValue_enum.1 hj
    obtain rfl := Except.ok.inj hi
    obtain ⟨members', hreg, -⟩ := bind_eq_ok.1
      (show decodeEnum env cls (.str s) = .ok d from hd)
    rw [orRaise_eq_ok] at hreg
    rw [decodable, hreg]
    rfl
  | timedelta d =>
    intro j d' hj hd
    obtain rfl := Except.ok.inj hj
    cases hd
  | mapping is ih =>
    cases hv with | mapping hn hvs =>
    intro j d hj hd
    obtain ⟨hi, js, hjs, rfl⟩ := canonicalValue_mapping.1 hj
    obtain ⟨items, hitems, -⟩ := bind_eq_ok.1
      (show (collect (decodeEntries env js) >>= decodeMapping) = .ok d from hd)
    rw [← map_sortBy keyed Prod.fst, map_map] at hjs
    have hps : ((sortBy (fun i => (keyed i).1) is).map fun i => (i.1.text, i.2)).map
        (fun p => (canonicalValue p.2).map (entry p.1)) = js.map .ok := by
      rw [← hjs, map_map]
      rfl
    obtain ⟨-, hall⟩ := supported_entries (by
      intro p hp
      obtain ⟨i, hmem, rfl⟩ := mem_map.1 hp
      have hmem := (mem_sortBy _).1 hmem
      exact ih i hmem (hvs i hmem)) hps (collect_eq_ok.1 hitems)
    rw [decodable, decodableEntries_iff]
    exact fun i hmem => hall (i.1.text, i.2) (mem_map.2 ⟨i, (mem_sortBy _).2 hmem, rfl⟩)
  | set b xs ih =>
    cases hv with | set hvs =>
    intro j d hj hd
    obtain ⟨js, hjs, rfl⟩ := canonicalValue_set.1 hj
    obtain ⟨ds, hds, -⟩ := bind_eq_ok.1
      (show (collect (decodeItems env (sortBy Json.dumps js)) >>= decodeSet) = .ok d from hd)
    have hall := supported_items (fun x hx => ih x ((mem_sortBy _).1 hx) (hvs x ((mem_sortBy _).1 hx)))
      (map_sortBy_text hjs) (collect_eq_ok.1 hds)
    rw [decodable, decodableItems_iff]
    exact fun x hx => hall x ((mem_sortBy _).2 hx)
  | tuple xs ih =>
    cases hv with | tuple hvs =>
    intro j d hj hd
    obtain ⟨js, hjs, rfl⟩ := canonicalValue_tuple.1 hj
    obtain ⟨ds, hds, -⟩ := map_eq_ok.1
      (show (collect (decodeItems env js)).map PyValue.tuple = .ok d from hd)
    rw [decodable, decodableItems_iff]
    exact supported_items (fun x hx => ih x hx (hvs x hx)) hjs (collect_eq_ok.1 hds)
  | list xs ih =>
    cases hv with | list hvs =>
    intro j d hj hd
    obtain ⟨js, hjs, rfl⟩ := canonicalValue_list.1 hj
    obtain ⟨ds, hds, -⟩ := map_eq_ok.1
      (show (collect (decodeItems env js)).map PyValue.list = .ok d from hd)
    rw [decodable, decodableItems_iff]
    exact supported_items (fun x hx => ih x hx (hvs x hx)) hjs (collect_eq_ok.1 hds)
  | object t => cases hv
  | _ => intro j d _ _; rfl

/-! ## The round trip -/

/-- **The round trip of a contract**: the canonical text of a valid instance
    decodes to the same instance exactly when the instance is decodable and the
    constructors of its classes, on the decoded values, build the same instance. -/
theorem decode_canonicalJson_iff {cls : String} {fs : List (Field × PyValue)} {s : String}
    (hv : Valid env (.dataclass cls fs)) (hs : canonicalJson (.dataclass cls fs) = .ok s) :
    (∃ y, decodeCanonicalContract env s cls = .ok y ∧ Same (.dataclass cls fs) y) ↔
      decodable env (.dataclass cls fs) = true ∧
        ∃ y, rebuild env (.dataclass cls fs) = .ok y ∧ Same (.dataclass cls fs) y := by
  obtain ⟨j, hj, rfl⟩ := map_eq_ok.1 hs
  constructor
  · rintro ⟨y, hy, hsame⟩
    rw [decodeCanonicalContract, rewrap_eq_ok] at hy
    obtain ⟨root, hroot, hy⟩ := bind_eq_ok.1 hy
    obtain ⟨d, hd, hy⟩ := bind_eq_ok.1 hy
    obtain ⟨_, -, hy⟩ := bind_eq_ok.1 hy
    obtain ⟨_, -, hy⟩ := bind_eq_ok.1 hy
    obtain ⟨_, -, hy⟩ := bind_eq_ok.1 hy
    obtain rfl := Except.ok.inj hy
    rw [orRaise_eq_ok, Json.loads_dumps, Option.some.injEq] at hroot
    subst hroot
    have hdecodable := supported_of_valid _ hv j d hj hd
    rw [restored_of_decodable _ hv hdecodable j hj] at hd
    exact ⟨hdecodable, d, hd, hsame⟩
  · rintro ⟨hdecodable, y, hy, hsame⟩
    rw [← restored_of_decodable _ hv hdecodable j hj] at hy
    have hroot : isInstance y cls = true := by
      cases hsame
      simp [isInstance]
    have htext : canonicalJson y = .ok (Json.dumps j) :=
      map_eq_ok.2 ⟨j, canonicalValue_of_same _ hv.wf y j hsame hj, rfl⟩
    refine ⟨y, ?_, hsame⟩
    rw [decodeCanonicalContract, rewrap_eq_ok, decodeContractBody, Json.loads_dumps]
    simp [orRaise, hy, htext, ensure, hroot]

end ChartingPlatform
