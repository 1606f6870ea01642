/-
  What the fingerprints of forward records identify: with a collision-free
  digest, records with one fingerprint are equal.
-/
import ChartingPlatform.Forward.Admission

namespace ChartingPlatform

open Lib List

/-! ## Fields of equal records -/

variable {sha256 : String → Digest} {fs gs : List (Field × PyValue)}
  {is ks : List (PyKey × PyValue)}

theorem same_of_digest (hsha : Function.Injective sha256)
    {a b : PyValue} (ha : Accepted a) (hb : Accepted b) (h : digest sha256 a = digest sha256 b) :
    Same a b := by
  obtain ⟨i, hi⟩ := ha
  obtain ⟨j, hj⟩ := hb
  have hda : digest sha256 a = sha256 (Json.dumps i) := by
    simp only [digest, contentDigest, canonicalJson, hi, Except.map]
  have hdb : digest sha256 b = sha256 (Json.dumps j) := by
    simp only [digest, contentDigest, canonicalJson, hj, Except.map]
  rw [hda, hdb] at h
  obtain rfl := Json.dumps_injective (hsha h)
  exact same_of_canonicalValue a b i hi hj

theorem SameFields.values (h : SameFields fs gs) :
    List.Forall₂ Same (fs.map Prod.snd) (gs.map Prod.snd) := by
  induction fs generalizing gs with
  | nil => cases h; exact .nil
  | cons f fs ih => cases h with
    | cons _ hv hfs => exact .cons hv (ih hfs)

theorem Same.fields {cls : String} (h : Same (.dataclass cls fs) (.dataclass cls gs)) :
    List.Forall₂ Same ((visible fs).map Prod.snd) ((visible gs).map Prod.snd) := by
  cases h with
  | dataclass h => exact h.values

@[simp] theorem same_str_iff {s t : String} : Same (.str s) (.str t) ↔ s = t := by
  constructor
  · intro h; cases h; rfl
  · rintro rfl; exact .str

@[simp] theorem same_int_iff {m n : ℤ} : Same (.int m) (.int n) ↔ m = n := by
  constructor
  · intro h; cases h; rfl
  · rintro rfl; exact .int

@[simp] theorem same_utc_iff {s t : Instant} :
    Same (.datetime (.utc s)) (.datetime (.utc t)) ↔ s = t := by
  constructor
  · intro h
    cases h with
    | datetime hs ht => exact Except.ok.inj ((instant_utc s).symm.trans (hs.trans
        (ht.symm.trans (instant_utc t))))
  · rintro rfl; exact .datetime (instant_utc s) (instant_utc s)

@[simp] theorem same_optionText_iff {s t : Option String} :
    Same (optionText s) (optionText t) ↔ s = t := by
  constructor
  · intro h
    cases s <;> cases t <;> cases h <;> rfl
  · rintro rfl
    cases s
    · exact .none
    · exact .str

@[simp] theorem same_enum_iff {cls : String} {v w : PyValue} :
    Same (.enum cls v) (.enum cls w) ↔ Same v w := by
  constructor
  · intro h; cases h with
    | enum h => exact h
  · exact .enum

theorem eq_of_sameItems_str {l : List String} {vs : List PyValue}
    (h : SameItems (l.map .str) vs) : vs = l.map .str := by
  induction l generalizing vs with
  | nil => cases h; rfl
  | cons s l ih => cases h with
    | cons hs hl =>
      cases hs
      rw [map_cons, ih hl]

@[simp] theorem same_idsToPy_iff {s t : Finset String} : Same (idsToPy s) (idsToPy t) ↔ s = t := by
  constructor
  · intro h
    cases h with
    | set hi hp =>
      rw [eq_of_sameItems_str hi] at hp
      have hinj : Function.Injective PyValue.str := fun _ _ h => PyValue.str.inj h
      have hperm : (sortedList s).Perm (sortedList t) := (map_perm_map_iff hinj).1 hp
      rw [← toFinset_sortedList s, ← toFinset_sortedList t, toFinset_eq_of_perm _ _ hperm]
  · rintro rfl
    refine .set ?_ (List.Perm.refl _)
    induction sortedList s with
    | nil => exact .nil
    | cons x l ih => exact .cons .str ih

theorem accepted_optionText (s : Option String) : Accepted (optionText s) := by
  cases s
  · exact accepted_none
  · exact accepted_str _

theorem accepted_idsToPy (s : Finset String) : Accepted (idsToPy s) := by
  refine accepted_set fun x hx => ?_
  obtain ⟨id, -, rfl⟩ := mem_map.1 hx
  exact accepted_str id

attribute [simp] accepted_str accepted_int accepted_bool accepted_none accepted_utc
  accepted_optionText accepted_idsToPy

/-! ## Mappings -/

theorem accepted_mapping (h : ∀ i ∈ is, i.1 ≠ .other ∧ Accepted i.2) : Accepted (.mapping is) := by
  have hsorted : ∀ x ∈ sortBy Prod.fst (is.map fun i =>
      (i.1.text, (canonicalValue i.2).map (entry i.1.text))), ∃ j, x.2 = .ok j := by
    intro x hx
    obtain ⟨i, hi, rfl⟩ := mem_map.1 ((mem_sortBy _).1 hx)
    obtain ⟨j, hj⟩ := (h i hi).2
    exact ⟨_, map_eq_ok.2 ⟨j, hj, rfl⟩⟩
  obtain ⟨js, hjs⟩ := exists_map_ok hsorted
  exact ⟨_, canonicalValue_mapping.2 ⟨fun i hi => (h i hi).1, js, hjs, rfl⟩⟩

/-- A value that is `Same` only to itself. -/
def Rigid (v : PyValue) : Prop := ∀ w, Same v w → w = v

theorem rigid_str (s : String) : Rigid (.str s) := fun w h => by cases h; rfl

theorem rigid_optionText (s : Option String) : Rigid (optionText s) := fun w h => by
  cases s <;> cases h <;> rfl

theorem eq_of_sameEntries {js : List (PyKey × PyValue)} (hr : ∀ i ∈ is, Rigid i.2)
    (h : SameEntries is js) : js = is := by
  induction is generalizing js with
  | nil => cases h; rfl
  | cons i is ih => cases h with
    | cons hv his =>
      rw [hr _ mem_cons_self _ hv, ih (fun i hi => hr i (mem_cons_of_mem _ hi)) his]

theorem perm_of_same_mapping (hr : ∀ i ∈ is, Rigid i.2)
    (h : Same (.mapping is) (.mapping ks)) : is.Perm ks := by
  cases h with
  | mapping hs hp =>
    obtain rfl := eq_of_sameEntries hr hs
    exact hp

theorem perm_of_digest_mapping (hsha : Function.Injective sha256) (hi : ∀ i ∈ is, i.1 ≠ .other ∧ Accepted i.2 ∧ Rigid i.2)
    (hk : ∀ i ∈ ks, i.1 ≠ .other ∧ Accepted i.2)
    (h : digest sha256 (.mapping is) = digest sha256 (.mapping ks)) : is.Perm ks :=
  perm_of_same_mapping (fun i hmem => (hi i hmem).2.2)
    (same_of_digest hsha (accepted_mapping fun i hmem => ⟨(hi i hmem).1, (hi i hmem).2.1⟩)
      (accepted_mapping hk) h)

/-! ## Records -/

theorem CarryInMode.text_injective : Function.Injective CarryInMode.text := by
  intro a b h
  cases a <;> cases b <;> first | rfl | exact absurd h (by decide)

theorem ForwardState.text_injective : Function.Injective ForwardState.text := by
  intro a b h
  cases a <;> cases b <;> first | rfl | exact absurd h (by decide)

theorem Digest.text_inj {a b : Digest} : a.text = b.text ↔ a = b :=
  ⟨fun h => by cases a; cases b; exact congrArg Digest.mk h, congrArg Digest.text⟩

theorem accepted_event (e : CanonicalForwardEvent) : Accepted e.toPy := by
  refine accepted_dataclass ?_
  simp

theorem accepted_instance (i : ForwardInstance) : Accepted i.toPy := by
  refine accepted_dataclass ?_
  simp [accepted_enum]

theorem accepted_checkpoint (c : ForwardStateCheckpoint) : Accepted c.toPy := by
  refine accepted_dataclass ?_
  simp [accepted_instance]

theorem eq_of_same_event {e f : CanonicalForwardEvent} (h : Same e.toPy f.toPy) : e = f := by
  have hf := h.fields
  simp only [visible, omitted, Field.isPrivate] at hf
  simp [Digest.text_inj] at hf
  obtain ⟨h₁, h₂, h₃, h₄, h₅, h₆⟩ := hf
  cases e; cases f
  subst h₁ h₂ h₃ h₄ h₅ h₆
  rfl

theorem eq_of_same_instance {i j : ForwardInstance} (h : Same i.toPy j.toPy) : i = j := by
  have hf := h.fields
  simp only [visible, omitted, Field.isPrivate] at hf
  simp [Digest.text_inj, CarryInMode.text_injective.eq_iff, ForwardState.text_injective.eq_iff]
    at hf
  obtain ⟨h₁, h₂, h₃, h₄, h₅, h₆, h₇, h₈, h₉, h₁₀⟩ := hf
  cases i; cases j
  subst h₁ h₂ h₃ h₄ h₅ h₆ h₇ h₈ h₉ h₁₀
  rfl

theorem eq_of_same_checkpoint {c d : ForwardStateCheckpoint} (h : Same c.toPy d.toPy) : c = d := by
  have hf := h.fields
  simp only [visible, omitted, Field.isPrivate] at hf
  simp at hf
  obtain ⟨h₁, h₂, h₃, h₄, h₅, h₆⟩ := hf
  have h₁ := eq_of_same_instance h₁
  cases c; cases d
  subst h₁ h₂ h₃ h₄ h₅ h₆
  rfl

section
variable {sha256 : String → Digest} (hsha : Function.Injective sha256)
include hsha

theorem event_of_fingerprint {e f : CanonicalForwardEvent}
    (h : e.fingerprint sha256 = f.fingerprint sha256) : e = f :=
  eq_of_same_event (same_of_digest hsha (accepted_event e) (accepted_event f) h)

theorem checkpoint_of_fingerprint {c d : ForwardStateCheckpoint}
    (h : c.fingerprint sha256 = d.fingerprint sha256) : c = d :=
  eq_of_same_checkpoint (same_of_digest hsha (accepted_checkpoint c) (accepted_checkpoint d) h)

end

end ChartingPlatform
