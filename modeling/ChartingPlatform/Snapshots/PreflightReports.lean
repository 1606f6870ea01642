/-
  Preflight reports: what `preflight_capabilities` returns, and when.
-/
import ChartingPlatform.Snapshots.Preflight
import ChartingPlatform.Forward.Fingerprints

namespace ChartingPlatform

open Lib List Function

/-! ## Digests of cells -/

@[simp] theorem same_membersToPy_iff {cls : String} {s t : Finset String} :
    Same (membersToPy cls s) (membersToPy cls t) ↔ s = t := by
  have hinj : Injective fun text => PyValue.enum cls (.str text) := by
    intro x y h
    simpa using h
  constructor
  · intro h
    cases h with
    | set hi hp =>
      rename_i zs
      have hzs : zs = (sortedList s).map fun text => PyValue.enum cls (.str text) := by
        clear hp
        generalize sortedList s = l at hi
        induction l generalizing zs with
        | nil => cases hi; rfl
        | cons x l ih => cases hi with
          | cons hx hl =>
            cases hx with
            | enum hx =>
              cases hx
              rw [map_cons, ih hl]
      rw [hzs] at hp
      have hperm : sortedList s ~ sortedList t := (map_perm_map_iff hinj).1 hp
      rw [← toFinset_sortedList s, ← toFinset_sortedList t, toFinset_eq_of_perm _ _ hperm]
  · rintro rfl
    refine .set ?_ (List.Perm.refl _)
    induction sortedList s with
    | nil => exact .nil
    | cons x l ih => exact .cons (.enum .str) ih

@[simp] theorem accepted_membersToPy (cls : String) (s : Finset String) :
    Accepted (membersToPy cls s) := by
  refine accepted_set fun x hx => ?_
  obtain ⟨text, -, rfl⟩ := mem_map.1 hx
  exact accepted_enum cls (accepted_str text)

theorem ProductClass.text_injective : Injective ProductClass.text := by
  intro a b h
  cases a <;> cases b <;> first | rfl | exact absurd h (by decide)

theorem accepted_cell (c : CapabilityCell) : Accepted c.toPy := by
  refine accepted_dataclass ?_
  simp [accepted_enum]

theorem eq_of_same_cell {c' : CapabilityCell} (h : Same c.toPy c'.toPy) : c = c' := by
  have hf := h.fields
  simp only [visible, omitted, Field.isPrivate] at hf
  simp [Digest.text_inj, ProductClass.text_injective.eq_iff,
    (Finset.image_injective EventGranularity.text_injective).eq_iff,
    (Finset.image_injective AdjustmentMode.text_injective).eq_iff] at hf
  obtain ⟨h₁, h₂, h₃, h₄, h₅, h₆, h₇, h₈, h₉, h₁₀, h₁₁, h₁₂, h₁₃, h₁₄⟩ := hf
  cases c; cases c'
  subst h₁ h₂ h₃ h₄ h₅ h₆ h₇ h₈ h₉ h₁₀ h₁₁ h₁₂ h₁₃ h₁₄
  rfl

/-! ## The best cell -/

variable {fromisoformat : String → Except PyError PyDateTime} {sha256 : String → Digest}
  {q q' : PreflightRequest} {r : PreflightRequirement} {c : CapabilityCell}
  {requirements requirements' : List PreflightRequirement} {cells cells' : List CapabilityCell}
  {allowDegraded : Bool} {degradations degradations' : List Degradation}

/-- A matching cell that is least by its classification, the number of its gaps, its evidence
    and its digest. -/
def IsBest (sha256 : String → Digest) (q : PreflightRequest) (r : PreflightRequirement)
    (c : CapabilityCell) : Prop :=
  c ∈ q.matchingCells r ∧ ∀ c' ∈ q.matchingCells r,
    q.candidateKey sha256 r c ≤ q.candidateKey sha256 r c'

theorem mem_matchingCells : c ∈ q.matchingCells r ↔
    c ∈ q.cells ∧ c.instrumentId = r.instrumentId ∧ c.productClass = r.productClass := by
  rw [PreflightRequest.matchingCells, mem_filter, decide_eq_true_eq]

variable {d : Degradation} {decisions : List PreflightDecision} {report : CapabilityReport}

theorem mem_declared : d ∈ q.declared r c ↔
    d ∈ q.degradations ∧ d.instrumentId = r.instrumentId ∧ d.field ∈ capabilityGaps r c := by
  rw [PreflightRequest.declared, mem_filter, decide_eq_true_eq]

theorem mem_argmin_iff_isBest (hsha : Injective sha256) :
    c ∈ (q.matchingCells r).argmin (q.candidateKey sha256 r) ↔ IsBest sha256 q r c := by
  constructor
  · intro h
    exact ⟨argmin_mem h, fun c' hc' => le_of_mem_argmin hc' h⟩
  · rintro ⟨hc, hleast⟩
    cases h : (q.matchingCells r).argmin (q.candidateKey sha256 r) with
    | none =>
      rw [argmin_eq_none.1 h] at hc
      exact absurd hc not_mem_nil
    | some c' =>
      -- equal keys have equal digests
      have hkey := le_antisymm (hleast c' (argmin_mem h)) (le_of_mem_argmin hc h)
      simp only [PreflightRequest.candidateKey, EmbeddingLike.apply_eq_iff_eq,
        Prod.mk.injEq] at hkey
      obtain ⟨-, -, -, hdigest⟩ := hkey
      rw [Digest.text_inj] at hdigest
      exact congrArg some (eq_of_same_cell
        (same_of_digest hsha (accepted_cell c) (accepted_cell c') hdigest)).symm

structure SameRequest (q q' : PreflightRequest) : Prop where
  cells : q.cells ~ q'.cells
  allowDegraded : q.allowDegraded = q'.allowDegraded
  degradations : q.degradations ~ q'.degradations

theorem SameRequest.classify (h : SameRequest q q') : q.classify r c = q'.classify r c := by
  have hdeclared : ((q.declared r c).map (·.field)).toFinset =
      ((q'.declared r c).map (·.field)).toFinset :=
    toFinset_eq_of_perm _ _ ((h.degradations.filter _).map _)
  rw [PreflightRequest.classify, PreflightRequest.classify, h.allowDegraded, hdeclared]

theorem SameRequest.isBest (h : SameRequest q q') :
    IsBest sha256 q r c ↔ IsBest sha256 q' r c := by
  have hkey : ∀ x, q.candidateKey sha256 r x = q'.candidateKey sha256 r x := by
    intro x
    rw [PreflightRequest.candidateKey, PreflightRequest.candidateKey, h.classify]
  have hmem : ∀ x, x ∈ q.matchingCells r ↔ x ∈ q'.matchingCells r := by
    intro x
    rw [mem_matchingCells, mem_matchingCells, h.cells.mem_iff]
  simp only [IsBest, hkey, hmem]

theorem SameRequest.argmin (hsha : Injective sha256) (h : SameRequest q q') :
    (q.matchingCells r).argmin (q.candidateKey sha256 r) =
      (q'.matchingCells r).argmin (q'.candidateKey sha256 r) := by
  refine Option.ext fun c => ?_
  rw [← Option.mem_def, ← Option.mem_def, mem_argmin_iff_isBest hsha, mem_argmin_iff_isBest hsha,
    h.isBest]

/-! ## Orders -/

theorem PreflightRequirement.sortKey_injective :
    Injective PreflightRequirement.sortKey := by
  intro s t h
  simp only [sortKey, EmbeddingLike.apply_eq_iff_eq, Prod.mk.injEq] at h
  obtain ⟨h₁, h₂, h₃, h₄, h₅, h₆, h₇, h₈, h₉, h₁₀, h₁₁, h₁₂, h₁₃⟩ := h
  have h₂ := ProductClass.text_injective h₂
  have h₃ := EventGranularity.text_injective h₃
  have h₈ := AdjustmentMode.text_injective h₈
  cases s; cases t
  dsimp only at *
  subst h₁ h₂ h₃ h₄ h₅ h₆ h₇ h₈ h₉ h₁₀ h₁₁ h₁₂ h₁₃
  rfl

theorem DegradedField.text_injective : Injective DegradedField.text := by
  intro a b h
  cases a <;> cases b <;> first | rfl | exact absurd h (by decide)

theorem Degradation.sortKey_injective : Injective Degradation.sortKey := by
  intro s t h
  simp only [sortKey, EmbeddingLike.apply_eq_iff_eq, Prod.mk.injEq] at h
  obtain ⟨h₁, h₂, h₃, h₄⟩ := h
  have h₂ := DegradedField.text_injective h₂
  cases s; cases t
  dsimp only at *
  subst h₁ h₂ h₃ h₄
  rfl

/-- **The order of the inputs** does not matter. -/
theorem preflightCapabilities_perm (hsha : Injective sha256)
    (hr : requirements ~ requirements') (hc : cells ~ cells') (hd : degradations ~ degradations') :
    preflightCapabilities fromisoformat sha256 requirements cells allowDegraded degradations =
      preflightCapabilities fromisoformat sha256 requirements' cells' allowDegraded
        degradations' := by
  have hr' : sortBy PreflightRequirement.sortKey requirements =
      sortBy PreflightRequirement.sortKey requirements' :=
    sortBy_eq_of_perm hr fun _ _ _ _ h => PreflightRequirement.sortKey_injective h
  have hd' : sortBy Degradation.sortKey degradations = sortBy Degradation.sortKey degradations' :=
    sortBy_eq_of_perm hd fun _ _ _ _ h => Degradation.sortKey_injective h
  have hdecide : decideRequirement fromisoformat sha256
        ⟨cells, allowDegraded, sortBy Degradation.sortKey degradations'⟩ =
      decideRequirement fromisoformat sha256
        ⟨cells', allowDegraded, sortBy Degradation.sortKey degradations'⟩ := by
    funext r
    have hsame : SameRequest ⟨cells, allowDegraded, sortBy Degradation.sortKey degradations'⟩
        ⟨cells', allowDegraded, sortBy Degradation.sortKey degradations'⟩ :=
      ⟨hc, rfl, List.Perm.refl _⟩
    rw [decideRequirement, decideRequirement, hsame.argmin hsha]
    rfl
  have hne : requirements ≠ [] ↔ requirements' ≠ [] := by
    constructor
    · rintro h rfl
      exact h (perm_nil.1 hr)
    · rintro h rfl
      exact h (nil_perm.1 hr)
  unfold preflightCapabilities
  dsimp only
  rw [hr', hd', hdecide, ensure_congr hne, ensure_congr hr.nodup_iff]

/-! ## Decisions -/

def PreflightRequest.UniqueKeys (q : PreflightRequest) : Prop :=
  (q.degradations.map Degradation.key).Nodup

/-- What the best cell replaces is supported by it. -/
def Fits (fromisoformat : String → Except PyError PyDateTime) (sha256 : String → Digest)
    (q : PreflightRequest) (r : PreflightRequirement) : Prop :=
  ∀ c ∈ (q.matchingCells r).argmin (q.candidateKey sha256 r), ∀ d ∈ q.declared r c,
    substitutionIsSupported fromisoformat c d = true

def decisionBy (q : PreflightRequest) (r : PreflightRequirement) (c : CapabilityCell) :
    PreflightDecision :=
  ⟨r, q.classify r c, some c.evidenceDigest, (capabilityGaps r c).map DegradedField.text,
    q.declared r c, decide (q.classify r c = .rigorous)⟩

def decisionOf (sha256 : String → Digest) (q : PreflightRequest) (r : PreflightRequirement) :
    PreflightDecision :=
  match (q.matchingCells r).argmin (q.candidateKey sha256 r) with
  | none => ⟨r, .unsupported, none, ["instrument_coverage"], [], false⟩
  | some c => decisionBy q r c

theorem nodup_capabilityGaps : (capabilityGaps r c).Nodup := by
  refine List.Nodup.sublist (filter_sublist.map Prod.fst) ?_
  simp only [map_cons, map_nil]
  decide

theorem capabilityGaps_of_classify (h : q.classify r c = .rigorous) :
    capabilityGaps r c = [] := by
  rw [PreflightRequest.classify] at h
  split_ifs at h with hgaps
  exact hgaps

theorem declared_of_classify (h : q.classify r c = .degraded) :
    q.allowDegraded = true ∧ capabilityGaps r c ≠ [] ∧
      ((q.declared r c).map (·.field)).toFinset = (capabilityGaps r c).toFinset := by
  rw [PreflightRequest.classify] at h
  split_ifs at h with hgaps hall
  exact ⟨hall.1, hgaps, hall.2⟩

theorem gaps_of_classify (h : q.classify r c = .unsupported) : capabilityGaps r c ≠ [] := by
  rw [PreflightRequest.classify] at h
  split_ifs at h with hgaps hall
  exact hgaps

theorem nodup_declared (hkeys : q.UniqueKeys) : ((q.declared r c).map (·.field)).Nodup := by
  have hsub : (q.declared r c).Sublist q.degradations := filter_sublist
  have hn := hkeys.sublist (hsub.map Degradation.key)
  rw [List.Nodup, pairwise_map] at hn ⊢
  refine hn.imp_of_mem ?_
  intro x y hx hy hne heq
  exact hne (Prod.ext ((mem_declared.1 hx).2.1.trans (mem_declared.1 hy).2.1.symm) heq)

theorem makePreflightDecision_decisionBy (hkeys : q.UniqueKeys) :
    makePreflightDecision (decisionBy q r c) = .ok (decisionBy q r c) := by
  have htext : ∀ f : DegradedField, notBlank f.text = true := by
    intro f
    cases f <;> decide
  have hempty : capabilityGaps r c = [] → (q.declared r c).isEmpty = true := by
    intro h
    rw [List.isEmpty_iff, eq_nil_iff_forall_not_mem]
    intro d hd
    have := (mem_declared.1 hd).2.2
    rw [h] at this
    exact absurd this not_mem_nil
  have hsets : ((q.declared r c).map (·.field)).toFinset = (capabilityGaps r c).toFinset →
      ((q.declared r c).map (·.field.text)).toFinset =
        ((capabilityGaps r c).map DegradedField.text).toFinset := by
    intro h
    ext text
    rw [show (fun d : Degradation => d.field.text) = DegradedField.text ∘ (·.field) from rfl,
      ← map_map, mem_toFinset, mem_toFinset, mem_map, mem_map]
    refine exists_congr fun f => and_congr_left fun _ => ?_
    rw [← mem_toFinset, h, mem_toFinset]
  unfold makePreflightDecision decisionBy
  rw [ensure_of, ok_bind, ensure_of, ok_bind, ensure_of (nodup_declared hkeys), ok_bind,
    ensure_of, ok_bind, ensure_of, ok_bind, ensure_of, ok_bind, ensure_of, ok_bind, ensure_of,
    ok_bind, ensure_of, ok_bind]
  · rfl
  · intro h
    have h : q.classify r c = .unsupported := h
    exact ⟨fun hnil => gaps_of_classify h (map_eq_nil_iff.1 hnil), by simp [h]⟩
  · intro h
    have h : q.classify r c = .degraded := h
    obtain ⟨-, hgaps, hset⟩ := declared_of_classify h
    exact ⟨fun hnil => hgaps (map_eq_nil_iff.1 hnil), by simp [h], hsets hset⟩
  · exact fun _ => by simp
  · intro h
    have h : q.classify r c = .rigorous := h
    have hgaps := capabilityGaps_of_classify h
    exact ⟨map_eq_nil_iff.2 hgaps, by simp [h], hempty hgaps⟩
  · intro d hd
    exact mem_map_of_mem (mem_declared.1 hd).2.2
  · intro d hd
    exact (mem_declared.1 hd).2.1
  · exact nodup_capabilityGaps.map DegradedField.text_injective
  · intro gap hgap
    obtain ⟨f, -, rfl⟩ := mem_map.1 hgap
    exact htext f

theorem decideRequirement_eq_ok (hkeys : q.UniqueKeys) {d : PreflightDecision} :
    decideRequirement fromisoformat sha256 q r = .ok d ↔
      Fits fromisoformat sha256 q r ∧ d = decisionOf sha256 q r := by
  rw [decideRequirement, Fits, decisionOf]
  cases (q.matchingCells r).argmin (q.candidateKey sha256 r) with
  | none =>
    have hok : makePreflightDecision ⟨r, .unsupported, none, ["instrument_coverage"], [], false⟩ =
        .ok ⟨r, .unsupported, none, ["instrument_coverage"], [], false⟩ := by
      have hblank : notBlank "instrument_coverage" = true := by decide
      unfold makePreflightDecision
      simp [ensure_of, hblank]
    simp only [hok, Except.ok.injEq]
    exact ⟨fun h => ⟨fun c hc => absurd hc (by simp), h.symm⟩, fun h => h.2.symm⟩
  | some c =>
    have hinvalid : ((q.declared r c).filter
        fun d => !substitutionIsSupported fromisoformat c d).isEmpty = true ↔
        ∀ d ∈ q.declared r c, substitutionIsSupported fromisoformat c d = true := by
      rw [List.isEmpty_iff, filter_eq_nil_iff]
      simp
    dsimp only
    rw [bind_eq_ok]
    simp only [ensure_eq_ok, hinvalid, Option.mem_some_iff, forall_eq']
    change (∃ _, _ ∧ makePreflightDecision (decisionBy q r c) = _) ↔ _
    rw [makePreflightDecision_decisionBy hkeys, Except.ok.injEq]
    constructor
    · rintro ⟨-, hfits, rfl⟩
      exact ⟨hfits, rfl⟩
    · rintro ⟨hfits, rfl⟩
      exact ⟨(), hfits, rfl⟩

@[simp] theorem decisionOf_requirement : (decisionOf sha256 q r).requirement = r := by
  rw [decisionOf]
  cases (q.matchingCells r).argmin (q.candidateKey sha256 r) <;> rfl

theorem mem_decisionOf_degradations :
    d ∈ (decisionOf sha256 q r).degradations ↔
      ∃ c ∈ (q.matchingCells r).argmin (q.candidateKey sha256 r), d ∈ q.declared r c := by
  rw [decisionOf]
  cases (q.matchingCells r).argmin (q.candidateKey sha256 r) with
  | none => simp
  | some c => simp [decisionBy]

/-! ## Reports -/

def sortedRequest (cells : List CapabilityCell) (allowDegraded : Bool)
    (degradations : List Degradation) : PreflightRequest :=
  ⟨cells, allowDegraded, sortBy Degradation.sortKey degradations⟩

def reportOf (sha256 : String → Digest) (requirements : List PreflightRequirement)
    (cells : List CapabilityCell) (allowDegraded : Bool) (degradations : List Degradation) :
    CapabilityReport :=
  let decisions := (sortBy PreflightRequirement.sortKey requirements).map
    (decisionOf sha256 (sortedRequest cells allowDegraded degradations))
  ⟨decisions, fingerprintOf sha256 decisions allowDegraded
    (sortBy Degradation.sortKey degradations), allowDegraded,
    sortBy Degradation.sortKey degradations⟩

/-- Every declared degradation is used by the decision on some requirement. -/
def AllUsed (sha256 : String → Digest) (q : PreflightRequest)
    (requirements : List PreflightRequirement) : Prop :=
  ∀ d ∈ q.degradations, ∃ r ∈ requirements, d ∈ (decisionOf sha256 q r).degradations

theorem mem_usedKeys {k : String × DegradedField} :
    k ∈ usedKeys decisions ↔ ∃ d ∈ decisions, ∃ x ∈ d.degradations, x.key = k := by
  rw [usedKeys, mem_toFinset, mem_flatMap]
  simp only [mem_map]

theorem decisionOf_subset (h : d ∈ (decisionOf sha256 q r).degradations) :
    d ∈ q.degradations := by
  obtain ⟨c, -, hd⟩ := mem_decisionOf_degradations.1 h
  exact (mem_declared.1 hd).1

theorem allUsed_iff (hkeys : q.UniqueKeys) {sorted : List PreflightRequirement}
    (hs : sorted ~ requirements) :
    (q.degradations.map Degradation.key).toFinset \
        usedKeys (sorted.map (decisionOf sha256 q)) = ∅ ↔ AllUsed sha256 q requirements := by
  rw [Finset.sdiff_eq_empty_iff_subset]
  constructor
  · intro h d hd
    obtain ⟨d', hd', x, hx, hkey⟩ :=
      mem_usedKeys.1 (h (mem_toFinset.2 (mem_map_of_mem hd)))
    obtain ⟨r, hr, rfl⟩ := mem_map.1 hd'
    obtain rfl := inj_on_of_nodup_map hkeys (decisionOf_subset hx) hd hkey
    exact ⟨r, hs.mem_iff.1 hr, hx⟩
  · intro h k hk
    obtain ⟨d, hd, rfl⟩ := mem_map.1 (mem_toFinset.1 hk)
    obtain ⟨r, hr, hmem⟩ := h d hd
    exact mem_usedKeys.2 ⟨_, mem_map_of_mem (hs.mem_iff.2 hr), d, hmem, rfl⟩

/-- A decision is not degraded unless that is allowed. -/
theorem decisionOf_allowed (h : (decisionOf sha256 q r).classification = .degraded) :
    q.allowDegraded = true := by
  rw [decisionOf] at h
  cases hc : (q.matchingCells r).argmin (q.candidateKey sha256 r) with
  | none =>
    rw [hc] at h
    exact absurd h (by simp)
  | some c =>
    rw [hc] at h
    exact (declared_of_classify h).1

theorem collect_decideRequirement (hkeys : q.UniqueKeys) :
    collect (requirements.map (decideRequirement fromisoformat sha256 q)) = .ok decisions ↔
      (∀ r ∈ requirements, Fits fromisoformat sha256 q r) ∧
        decisions = requirements.map (decisionOf sha256 q) := by
  rw [collect_eq_ok]
  induction requirements generalizing decisions with
  | nil => simp [eq_comm]
  | cons r requirements ih =>
    cases decisions with
    | nil => simp
    | cons d decisions =>
      rw [map_cons, map_cons, List.cons.injEq, ih, decideRequirement_eq_ok hkeys,
        forall_mem_cons, map_cons, List.cons.injEq]
      constructor
      · rintro ⟨⟨h₁, h₂⟩, h₃, h₄⟩
        exact ⟨⟨h₁, h₃⟩, h₂, h₄⟩
      · rintro ⟨⟨h₁, h₃⟩, h₂, h₄⟩
        exact ⟨⟨h₁, h₂⟩, h₃, h₄⟩

theorem makeCapabilityReport_of
    (hne : report.decisions ≠ []) (hnodup : (report.decisions.map (·.requirement)).Nodup)
    (hkeys : (report.degradations.map Degradation.key).Nodup)
    (hused : usedKeys report.decisions = (report.degradations.map Degradation.key).toFinset)
    (hallowed : report.allowDegraded = false →
      ∀ d ∈ report.decisions, d.classification ≠ .degraded)
    (hfingerprint : report.fingerprint =
      fingerprintOf sha256 report.decisions report.allowDegraded report.degradations) :
    makeCapabilityReport sha256 report = .ok report := by
  unfold makeCapabilityReport
  rw [ensure_of (isEmpty_eq_false_iff.2 hne), ok_bind, ensure_of hnodup, ok_bind,
    ensure_of hkeys, ok_bind, ensure_of hused, ok_bind, ensure_of hallowed, ok_bind,
    ensure_of hfingerprint, ok_bind]
  rfl

theorem uniqueKeys_sortedRequest : (sortedRequest cells allowDegraded degradations).UniqueKeys ↔
    (degradations.map Degradation.key).Nodup :=
  ((perm_sortBy Degradation.sortKey degradations).map Degradation.key).nodup_iff

theorem reportOf_requirements :
    (reportOf sha256 requirements cells allowDegraded degradations).decisions.map (·.requirement) =
      sortBy PreflightRequirement.sortKey requirements := by
  rw [reportOf, map_map]
  exact (map_congr_left fun r _ => decisionOf_requirement).trans (map_id _)

theorem makeCapabilityReport_reportOf (hne : requirements ≠ []) (hnodup : requirements.Nodup)
    (hkeys : (sortedRequest cells allowDegraded degradations).UniqueKeys)
    (hused : AllUsed sha256 (sortedRequest cells allowDegraded degradations) requirements) :
    makeCapabilityReport sha256
        (reportOf sha256 requirements cells allowDegraded degradations) =
      .ok (reportOf sha256 requirements cells allowDegraded degradations) := by
  have hperm := perm_sortBy PreflightRequirement.sortKey requirements
  refine makeCapabilityReport_of ?_ ?_ hkeys (Finset.Subset.antisymm ?_ ?_) ?_ rfl
  · rw [reportOf, Ne, map_eq_nil_iff]
    intro hnil
    rw [hnil] at hperm
    exact hne (nil_perm.1 hperm)
  · rw [reportOf_requirements]
    exact hperm.nodup_iff.2 hnodup
  · intro k hk
    obtain ⟨d, hd, x, hx, rfl⟩ := mem_usedKeys.1 hk
    obtain ⟨r, -, rfl⟩ := mem_map.1 hd
    exact mem_toFinset.2 (mem_map_of_mem (decisionOf_subset hx))
  · exact Finset.sdiff_eq_empty_iff_subset.1 ((allUsed_iff hkeys hperm).2 hused)
  · intro hallowed d hd hdegraded
    obtain ⟨r, -, rfl⟩ := mem_map.1 hd
    have h : allowDegraded = true := decisionOf_allowed hdegraded
    have hallowed : allowDegraded = false := hallowed
    rw [hallowed] at h
    exact absurd h (by decide)

/-- **The preflight returns** exactly where its inputs are unique, every best cell supports what
    it replaces and all degradations are used; and then its report is that of the inputs. -/
theorem preflightCapabilities_eq_ok :
    preflightCapabilities fromisoformat sha256 requirements cells allowDegraded degradations =
        .ok report ↔
      requirements ≠ [] ∧ requirements.Nodup ∧ (degradations.map Degradation.key).Nodup ∧
        (∀ r ∈ requirements, Fits fromisoformat sha256
          (sortedRequest cells allowDegraded degradations) r) ∧
        AllUsed sha256 (sortedRequest cells allowDegraded degradations) requirements ∧
        report = reportOf sha256 requirements cells allowDegraded degradations := by
  have hperm := perm_sortBy PreflightRequirement.sortKey requirements
  unfold preflightCapabilities
  simp only [bind_eq_ok, ensure_eq_ok, exists_const]
  refine and_congr_right fun hne => and_congr_right fun hnodup => ?_
  change (sortedRequest cells allowDegraded degradations).UniqueKeys ∧ _ ↔ _
  rw [← uniqueKeys_sortedRequest]
  refine and_congr_right fun hunique => ?_
  constructor
  · rintro ⟨decisions, hdecisions, hunused, hreport⟩
    obtain ⟨hfits, rfl⟩ := (collect_decideRequirement hunique).1 hdecisions
    have hused := (allUsed_iff hunique hperm).1 hunused
    refine ⟨fun r hr => hfits r (hperm.mem_iff.2 hr), hused, ?_⟩
    have hok := makeCapabilityReport_reportOf hne hnodup hunique hused
    exact (Except.ok.inj (hok.symm.trans hreport)).symm
  · rintro ⟨hfits, hused, rfl⟩
    exact ⟨_, (collect_decideRequirement hunique).2
      ⟨fun r hr => hfits r (hperm.mem_iff.1 hr), rfl⟩, (allUsed_iff hunique hperm).2 hused,
      makeCapabilityReport_reportOf hne hnodup hunique hused⟩

end ChartingPlatform
