/-
  Soundness and completeness of the preflight (`preflight_capabilities`).
-/
import ChartingPlatform.Snapshots.PreflightReports

namespace ChartingPlatform

open Lib List Function

variable {fromisoformat : String → Except PyError PyDateTime} {sha256 : String → Digest}
  {q : PreflightRequest} {r : PreflightRequirement} {c : CapabilityCell}
  {requirements : List PreflightRequirement} {cells : List CapabilityCell} {allowDegraded : Bool}
  {degradations : List Degradation} {field : DegradedField} {v : String} {d : Degradation}
  {detail : String}

/-! ## Fields -/

def PreflightRequirement.value (r : PreflightRequirement) : DegradedField → Option String
  | .eventGranularity => some r.eventGranularity.text
  | .eventType => some r.eventType
  | .timeframe => some r.timeframe
  | .historyStart => none
  | .historyEnd => none
  | .adjustment => some r.adjustment.text
  | .session => some r.session
  | .feed => some r.feed
  | .executionModel => some r.executionModel
  | .accountModel => some r.accountModel
  | .corporateActionSemantics => some r.corporateActionSemantics

def CapabilityCell.values (c : CapabilityCell) : DegradedField → Finset String
  | .eventGranularity => c.eventGranularities.image EventGranularity.text
  | .eventType => c.eventTypes
  | .timeframe => c.timeframes
  | .historyStart => ∅
  | .historyEnd => ∅
  | .adjustment => c.adjustments.image AdjustmentMode.text
  | .session => c.sessions
  | .feed => c.feeds
  | .executionModel => c.executionModels
  | .accountModel => c.accountModels
  | .corporateActionSemantics => c.corporateActionSemantics

theorem mem_capabilityGaps (hv : r.value field = some v) :
    field ∈ capabilityGaps r c ↔ v ∉ c.values field := by
  cases field <;> simp only [PreflightRequirement.value, Option.some.injEq, reduceCtorEq] at hv <;>
    subst hv <;> simp [capabilityGaps, CapabilityCell.values,
      EventGranularity.text_injective.eq_iff, AdjustmentMode.text_injective.eq_iff]

theorem start_mem_capabilityGaps :
    DegradedField.historyStart ∈ capabilityGaps r c ↔ r.start < c.historyStart := by
  simp [capabilityGaps]

theorem end_mem_capabilityGaps :
    DegradedField.historyEnd ∈ capabilityGaps r c ↔ c.historyEnd < r.stop := by
  simp [capabilityGaps]

theorem substitutionIsSupported_iff (hv : r.value d.field = some v) :
    substitutionIsSupported fromisoformat c d = true ↔ d.substitutedValue ∈ c.values d.field := by
  rw [substitutionIsSupported]
  cases hd : d.field <;> rw [hd] at hv <;>
    simp only [PreflightRequirement.value, reduceCtorEq] at hv <;> simp [CapabilityCell.values]

/-! ## Effective requirements -/

namespace PreflightDecision

variable (d : PreflightDecision)

def replacement (field : DegradedField) : Option String :=
  (rowWith (·.field) field d.degradations).map (·.substitutedValue)

/-- What the decision leaves of the requirement's value of a field. -/
def effectiveValue (field : DegradedField) : Option String :=
  (d.requirement.value field).map fun v => (d.replacement field).getD v

/-- The bound of the history that the decision leaves, none where its date is not read. -/
def effectiveMoment (fromisoformat : String → Except PyError PyDateTime) (field : DegradedField)
    (bound : Instant) : Option ℤ :=
  match d.replacement field with
  | some text => replacementMoment fromisoformat text
  | none => some bound.val

/-- **A sound decision**: with its substitutions the requirement is a non-empty interval and
    has no gap against a matching cell with the decision's evidence. -/
def Sound (fromisoformat : String → Except PyError PyDateTime) (cells : List CapabilityCell) :
    Prop :=
  ∃ start stop, d.effectiveMoment fromisoformat .historyStart d.requirement.start = some start ∧
    d.effectiveMoment fromisoformat .historyEnd d.requirement.stop = some stop ∧ start < stop ∧
    ∃ c ∈ cells, c.instrumentId = d.requirement.instrumentId ∧
      c.productClass = d.requirement.productClass ∧ d.evidenceDigest = some c.evidenceDigest ∧
      (∀ field v, d.effectiveValue field = some v → v ∈ c.values field) ∧
      (c.historyStart.val : ℤ) ≤ start ∧ stop ≤ c.historyEnd.val

end PreflightDecision

def Overlaps (r : PreflightRequirement) (c : CapabilityCell) : Prop :=
  r.start < c.historyEnd ∧ c.historyStart < r.stop

/-- The declared degradations replace exactly the gaps. -/
def CompleteCell (q : PreflightRequest) (r : PreflightRequirement) (c : CapabilityCell) : Prop :=
  ∀ field, field ∈ capabilityGaps r c ↔ ∃ d ∈ q.declared r c, d.field = field

theorem complete_of_classify (h : q.classify r c ≠ .unsupported) : CompleteCell q r c := by
  intro field
  rw [PreflightRequest.classify] at h
  split_ifs at h with hgaps hall
  · rw [hgaps]
    constructor
    · exact fun hmem => absurd hmem not_mem_nil
    · rintro ⟨d, hd, rfl⟩
      have := (mem_declared.1 hd).2.2
      rwa [hgaps] at this
  · rw [← mem_toFinset, ← hall.2, mem_toFinset, mem_map]
  · exact absurd rfl h

theorem replacement_eq_some (hkeys : q.UniqueKeys) (hd : d ∈ q.declared r c) :
    (decisionBy q r c).replacement d.field = some d.substitutedValue := by
  have hrow : rowWith (·.field) d.field (decisionBy q r c).degradations = some d :=
    (rowWith_eq_some (nodup_declared hkeys)).2 ⟨hd, rfl⟩
  rw [PreflightDecision.replacement, hrow, Option.map_some]

theorem replacement_eq_none (h : field ∉ capabilityGaps r c) :
    (decisionBy q r c).replacement field = none := by
  rw [PreflightDecision.replacement, Option.map_eq_none_iff, rowWith_eq_none]
  intro hmem
  obtain ⟨d, hd, rfl⟩ := mem_map.1 hmem
  exact h (mem_declared.1 hd).2.2

theorem effectiveValue_supported (hkeys : q.UniqueKeys) (hcomplete : CompleteCell q r c)
    (hfits : ∀ d ∈ q.declared r c, substitutionIsSupported fromisoformat c d = true)
    (hv : (decisionBy q r c).effectiveValue field = some v) : v ∈ c.values field := by
  obtain ⟨w, hw, rfl⟩ := Option.map_eq_some_iff.1 hv
  by_cases hgap : field ∈ capabilityGaps r c
  · obtain ⟨d, hd, rfl⟩ := (hcomplete field).1 hgap
    rw [replacement_eq_some hkeys hd, Option.getD_some]
    exact (substitutionIsSupported_iff hw).1 (hfits d hd)
  · rw [replacement_eq_none hgap, Option.getD_none]
    by_contra hmem
    exact hgap ((mem_capabilityGaps hw).2 hmem)

theorem effectiveMoment_eq (hkeys : q.UniqueKeys) (hcomplete : CompleteCell q r c)
    (hfits : ∀ d ∈ q.declared r c, substitutionIsSupported fromisoformat c d = true) :
    (decisionBy q r c).effectiveMoment fromisoformat .historyStart r.start =
        some ((max r.start c.historyStart).val : ℤ) ∧
      (decisionBy q r c).effectiveMoment fromisoformat .historyEnd r.stop =
        some ((min r.stop c.historyEnd).val : ℤ) := by
  constructor
  · by_cases hgap : DegradedField.historyStart ∈ capabilityGaps r c
    · obtain ⟨d, hd, hfield⟩ := (hcomplete _).1 hgap
      have hfit := hfits d hd
      rw [substitutionIsSupported, hfield] at hfit
      rw [PreflightDecision.effectiveMoment, ← hfield, replacement_eq_some hkeys hd,
        max_eq_right (start_mem_capabilityGaps.1 hgap).le]
      exact of_decide_eq_true hfit
    · rw [PreflightDecision.effectiveMoment, replacement_eq_none hgap]
      rw [start_mem_capabilityGaps, not_lt] at hgap
      rw [max_eq_left hgap]
  · by_cases hgap : DegradedField.historyEnd ∈ capabilityGaps r c
    · obtain ⟨d, hd, hfield⟩ := (hcomplete _).1 hgap
      have hfit := hfits d hd
      rw [substitutionIsSupported, hfield] at hfit
      rw [PreflightDecision.effectiveMoment, ← hfield, replacement_eq_some hkeys hd,
        min_eq_right (end_mem_capabilityGaps.1 hgap).le]
      exact of_decide_eq_true hfit
    · rw [PreflightDecision.effectiveMoment, replacement_eq_none hgap]
      rw [end_mem_capabilityGaps, not_lt] at hgap
      rw [min_eq_left hgap]

theorem sound_decisionBy_iff (hkeys : q.UniqueKeys) (hc : c ∈ q.matchingCells r)
    (hcomplete : CompleteCell q r c)
    (hfits : ∀ d ∈ q.declared r c, substitutionIsSupported fromisoformat c d = true) :
    (decisionBy q r c).Sound fromisoformat q.cells ↔ Overlaps r c := by
  obtain ⟨hstart, hstop⟩ := effectiveMoment_eq hkeys hcomplete hfits
  obtain ⟨hmem, hinstrument, hclass⟩ := mem_matchingCells.1 hc
  have hlt : (((max r.start c.historyStart).val : ℕ) : ℤ) < (min r.stop c.historyEnd).val ↔
      Overlaps r c := by
    rw [Int.ofNat_lt, ← Fin.lt_def, max_lt_iff, lt_min_iff, lt_min_iff, Overlaps]
    constructor
    · rintro ⟨⟨-, h₁⟩, h₂, -⟩
      exact ⟨h₁, h₂⟩
    · rintro ⟨h₁, h₂⟩
      exact ⟨⟨r.start_lt_stop, h₁⟩, h₂, c.start_lt_end⟩
  constructor
  · rintro ⟨start, stop, h₁, h₂, h, -⟩
    obtain rfl := Option.some.inj (hstart.symm.trans h₁)
    obtain rfl := Option.some.inj (hstop.symm.trans h₂)
    exact hlt.1 h
  · intro h
    refine ⟨_, _, hstart, hstop, hlt.2 h, c, hmem, hinstrument, hclass, rfl, ?_, ?_, ?_⟩
    · exact fun field v hv => effectiveValue_supported hkeys hcomplete hfits hv
    · exact Int.ofNat_le.2 (Fin.le_def.1 (le_max_right _ _))
    · exact Int.ofNat_le.2 (Fin.le_def.1 (min_le_right _ _))

/-! ## Best cells -/

theorem sameRequest_sorted : SameRequest (sortedRequest cells allowDegraded degradations)
    ⟨cells, allowDegraded, degradations⟩ :=
  ⟨List.Perm.refl _, rfl, perm_sortBy _ _⟩

/-- The inputs pass the checks that come before the cells are looked at. -/
def WellFormed (requirements : List PreflightRequirement) (degradations : List Degradation) :
    Prop :=
  requirements ≠ [] ∧ requirements.Nodup ∧ (degradations.map Degradation.key).Nodup

def DeclaredFor (d : Degradation) (r : PreflightRequirement) (c : CapabilityCell) : Prop :=
  d.instrumentId = r.instrumentId ∧ d.field ∈ capabilityGaps r c

/-- The best cells support what is declared for their gaps. -/
def BestFit (fromisoformat : String → Except PyError PyDateTime) (sha256 : String → Digest)
    (q : PreflightRequest) (requirements : List PreflightRequirement) : Prop :=
  ∀ r ∈ requirements, ∀ c, IsBest sha256 q r c → ∀ d ∈ q.degradations, DeclaredFor d r c →
    substitutionIsSupported fromisoformat c d = true

/-- Every degradation is declared for a gap of a best cell. -/
def BestUse (sha256 : String → Digest) (q : PreflightRequest)
    (requirements : List PreflightRequirement) : Prop :=
  ∀ d ∈ q.degradations, ∃ r ∈ requirements, ∃ c, IsBest sha256 q r c ∧ DeclaredFor d r c

theorem fits_iff_bestFit (hsha : Injective sha256) :
    (∀ r ∈ requirements, Fits fromisoformat sha256
        (sortedRequest cells allowDegraded degradations) r) ↔
      BestFit fromisoformat sha256 ⟨cells, allowDegraded, degradations⟩ requirements := by
  refine forall₂_congr fun r _ => forall_congr' fun c => ?_
  rw [mem_argmin_iff_isBest hsha, sameRequest_sorted.isBest]
  refine imp_congr_right fun _ => ?_
  simp only [mem_declared, sortedRequest, mem_sortBy, and_imp, DeclaredFor]

theorem allUsed_iff_bestUse (hsha : Injective sha256) :
    AllUsed sha256 (sortedRequest cells allowDegraded degradations) requirements ↔
      BestUse sha256 ⟨cells, allowDegraded, degradations⟩ requirements := by
  have hmem : ∀ d, d ∈ (sortedRequest cells allowDegraded degradations).degradations ↔
      d ∈ degradations := fun d => mem_sortBy _
  constructor
  · intro h d hd
    obtain ⟨r, hr, hused⟩ := h d ((hmem d).2 hd)
    obtain ⟨c, hc, hdeclared⟩ := mem_decisionOf_degradations.1 hused
    exact ⟨r, hr, c, sameRequest_sorted.isBest.1 ((mem_argmin_iff_isBest hsha).1 hc),
      (mem_declared.1 hdeclared).2⟩
  · intro h d hd
    obtain ⟨r, hr, c, hbest, hdeclared⟩ := h d ((hmem d).1 hd)
    refine ⟨r, hr, mem_decisionOf_degradations.2 ⟨c, ?_, mem_declared.2 ⟨hd, hdeclared⟩⟩⟩
    exact (mem_argmin_iff_isBest hsha).2 (sameRequest_sorted.isBest.2 hbest)

theorem preflightCapabilities_eq_ok_iff (hsha : Injective sha256)
    {report : CapabilityReport} :
    preflightCapabilities fromisoformat sha256 requirements cells allowDegraded degradations =
        .ok report ↔
      WellFormed requirements degradations ∧
        BestFit fromisoformat sha256 ⟨cells, allowDegraded, degradations⟩ requirements ∧
        BestUse sha256 ⟨cells, allowDegraded, degradations⟩ requirements ∧
        report = reportOf sha256 requirements cells allowDegraded degradations := by
  rw [preflightCapabilities_eq_ok, fits_iff_bestFit hsha, allUsed_iff_bestUse hsha, WellFormed]
  simp only [and_assoc]

theorem isBest_iff_eq (h : q.matchingCells r = [c]) {c' : CapabilityCell} :
    IsBest sha256 q r c' ↔ c' = c := by
  rw [IsBest, h, mem_singleton]
  constructor
  · exact And.left
  · rintro rfl
    exact ⟨rfl, fun c hc => (mem_singleton.1 hc) ▸ le_rfl⟩

/-! ## Sound reports -/

structure SoundReport (fromisoformat : String → Except PyError PyDateTime)
    (sha256 : String → Digest) (requirements : List PreflightRequirement)
    (cells : List CapabilityCell) (allowDegraded : Bool) (degradations : List Degradation)
    (report : CapabilityReport) : Prop where
  decided : report.decisions.map (·.requirement) ~ requirements
  rigorous : ∀ d ∈ report.decisions, d.classification = .rigorous ↔
    ∃ c ∈ cells, c.instrumentId = d.requirement.instrumentId ∧
      c.productClass = d.requirement.productClass ∧ capabilityGaps d.requirement c = []
  sound : ∀ d ∈ report.decisions, d.classification ≠ .unsupported → d.Sound fromisoformat cells
  allowed : ∀ d ∈ report.decisions, d.classification = .degraded → allowDegraded = true
  perm : ∀ requirements' cells' degradations', requirements ~ requirements' → cells ~ cells' →
    degradations ~ degradations' →
    preflightCapabilities fromisoformat sha256 requirements' cells' allowDegraded degradations' =
      .ok report

theorem decisionOf_rigorous_iff : (decisionOf sha256 q r).classification = .rigorous ↔
    ∃ c ∈ q.matchingCells r, capabilityGaps r c = [] := by
  have hclassify : ∀ c, q.classify r c = .rigorous ↔ capabilityGaps r c = [] := by
    intro c
    rw [PreflightRequest.classify]
    split_ifs with hgaps <;> simp [hgaps]
  rw [decisionOf]
  cases hbest : (q.matchingCells r).argmin (q.candidateKey sha256 r) with
  | none =>
    rw [argmin_eq_none.1 hbest]
    simp
  | some best =>
    change q.classify r best = .rigorous ↔ _
    constructor
    · intro h
      exact ⟨best, argmin_mem hbest, (hclassify best).1 h⟩
    · rintro ⟨c, hc, hgaps⟩
      -- no class ranks below the rigorous one
      have hle := le_of_mem_argmin hc hbest
      have hrank := (hclassify c).2 hgaps
      rcases Prod.Lex.toLex_le_toLex.1 hle with hlt | ⟨heq, -⟩
      · rw [hrank] at hlt
        exact absurd hlt (Nat.not_lt_zero _)
      · rw [hrank] at heq
        cases hcls : q.classify r best <;> rw [hcls] at heq <;> first | rfl | cases heq

theorem decisionOf_of_best (h : c ∈ (q.matchingCells r).argmin (q.candidateKey sha256 r)) :
    decisionOf sha256 q r = decisionBy q r c := by
  rw [decisionOf, Option.mem_def.1 h]

theorem exists_best (h : (decisionOf sha256 q r).classification ≠ .unsupported) :
    ∃ c ∈ (q.matchingCells r).argmin (q.candidateKey sha256 r),
      decisionOf sha256 q r = decisionBy q r c ∧ q.classify r c ≠ .unsupported := by
  cases hbest : (q.matchingCells r).argmin (q.candidateKey sha256 r) with
  | none =>
    rw [decisionOf, hbest] at h
    exact absurd rfl h
  | some c =>
    have hdecision := decisionOf_of_best (Option.mem_def.2 hbest)
    rw [hdecision] at h
    exact ⟨c, rfl, hdecision, h⟩

/-- **A preflight is sound** exactly where every best cell that degrades a requirement overlaps
    it in time. -/
theorem preflightCapabilities_sound_iff (fromisoformat : String → Except PyError PyDateTime)
    (sha256 : String → Digest) (hsha : Injective sha256)
    (requirements : List PreflightRequirement) (cells : List CapabilityCell)
    (allowDegraded : Bool) (degradations : List Degradation) (report : CapabilityReport)
    (h : preflightCapabilities fromisoformat sha256 requirements cells allowDegraded
      degradations = .ok report) :
    SoundReport fromisoformat sha256 requirements cells allowDegraded degradations report ↔
      ∀ r ∈ requirements, ∀ c, IsBest sha256 ⟨cells, allowDegraded, degradations⟩ r c →
        PreflightRequest.classify ⟨cells, allowDegraded, degradations⟩ r c = .degraded →
        Overlaps r c := by
  obtain ⟨-, -, hkeys, hfits, -, hreport⟩ := preflightCapabilities_eq_ok.1 h
  set q := sortedRequest cells allowDegraded degradations with hq
  have hsame : SameRequest q ⟨cells, allowDegraded, degradations⟩ := sameRequest_sorted
  have hunique : q.UniqueKeys := uniqueKeys_sortedRequest.2 hkeys
  have hperm := perm_sortBy PreflightRequirement.sortKey requirements
  have hmem : ∀ d, d ∈ report.decisions ↔ ∃ r ∈ requirements, decisionOf sha256 q r = d := by
    intro d
    rw [hreport, reportOf, mem_map]
    exact exists_congr fun r => and_congr_left fun _ => hperm.mem_iff
  constructor
  · intro hsound r hr c hbest hdegraded
    have hc := (mem_argmin_iff_isBest hsha).2 (hsame.isBest.2 hbest)
    rw [← hsame.classify] at hdegraded
    have hne : q.classify r c ≠ .unsupported := by rw [hdegraded]; decide
    have hd := hsound.sound _ ((hmem _).2 ⟨r, hr, rfl⟩)
      (by rw [decisionOf_of_best hc]; exact hne)
    rw [decisionOf_of_best hc] at hd
    exact (sound_decisionBy_iff hunique (hsame.isBest.2 hbest).1 (complete_of_classify hne)
      (hfits r hr c hc)).1 hd
  · intro hoverlap
    constructor
    · rw [hreport, reportOf_requirements]
      exact hperm
    · intro d hd
      obtain ⟨r, -, rfl⟩ := (hmem d).1 hd
      rw [decisionOf_rigorous_iff, decisionOf_requirement]
      simp only [mem_matchingCells, and_assoc]
      rfl
    · intro d hd hne
      obtain ⟨r, hr, rfl⟩ := (hmem d).1 hd
      obtain ⟨c, hc, hdecision, hclass⟩ := exists_best hne
      have hbest := (mem_argmin_iff_isBest hsha).1 hc
      rw [hdecision]
      refine (sound_decisionBy_iff hunique hbest.1 (complete_of_classify hclass)
        (hfits r hr c hc)).2 ?_
      cases hcls : q.classify r c with
      | rigorous =>
        -- without a gap the cell covers the requirement
        have hgaps := capabilityGaps_of_classify hcls
        have hstart := (not_iff_not.2 (start_mem_capabilityGaps (r := r) (c := c))).1
          (by rw [hgaps]; exact not_mem_nil)
        have hstop := (not_iff_not.2 (end_mem_capabilityGaps (r := r) (c := c))).1
          (by rw [hgaps]; exact not_mem_nil)
        rw [not_lt] at hstart hstop
        exact ⟨r.start_lt_stop.trans_le hstop, hstart.trans_lt r.start_lt_stop⟩
      | degraded =>
        exact hoverlap r hr c (hsame.isBest.1 hbest) (by rw [← hsame.classify, hcls])
      | unsupported => exact absurd hcls hclass
    · intro d hd hdegraded
      obtain ⟨r, -, rfl⟩ := (hmem d).1 hd
      exact decisionOf_allowed hdegraded
    · intro requirements' cells' degradations' hr hc hd
      rw [← preflightCapabilities_perm hsha hr hc hd, h]

def oneDay : PreflightRequirement where
  instrumentId := "AAPL"
  productClass := .equity
  eventGranularity := .bar
  eventType := "bar"
  timeframe := "1D"
  start := nthMidnight 0
  stop := nthMidnight 1
  adjustment := .raw
  session := "regular"
  feed := "sip"
  executionModel := "market"
  accountModel := "cash"
  corporateActionSemantics := "raw"
  texts_notBlank := by decide
  start_lt_stop := dailySeries.start_lt_stop

def cellOf (session feed : String) (start stop : Instant) (evidence : String)
    (h : start < stop) (hs : notBlank session = true) (hf : notBlank feed = true) :
    CapabilityCell where
  instrumentId := "AAPL"
  productClass := .equity
  eventGranularities := {.bar}
  eventTypes := {"bar"}
  timeframes := {"1D"}
  adjustments := {.raw}
  sessions := {session}
  feeds := {feed}
  executionModels := {"market"}
  accountModels := {"cash"}
  corporateActionSemantics := {"raw"}
  historyStart := start
  historyEnd := stop
  evidenceDigest := ⟨evidence⟩
  instrument_notBlank := Eq.refl true
  start_lt_end := h
  nonempty := by
    have hbar : notBlank "bar" = true ∧ notBlank "1D" = true ∧ notBlank "market" = true ∧
      notBlank "cash" = true ∧ notBlank "raw" = true := by decide
    simp [hs, hf, hbar]

def lateCell : CapabilityCell :=
  cellOf "regular" "sip" (nthMidnight 2) (nthMidnight 3) "late" (by decide) (Eq.refl true) (Eq.refl true)

def otcCell : CapabilityCell :=
  cellOf "regular" "otc" (nthMidnight 0) (nthMidnight 1) "otc" dailySeries.start_lt_stop (Eq.refl true) (Eq.refl true)

/-- The declared start of the late cell's history. -/
def lateStart : Degradation :=
  ⟨"AAPL", .historyStart, "0001-01-03T00:00:00Z", "late", Eq.refl true, Eq.refl true, Eq.refl true⟩

def otcFeed : Degradation := ⟨"AAPL", .feed, "otc", "feed", Eq.refl true, Eq.refl true, Eq.refl true⟩

theorem preflightCapabilities_single (hsha : Injective sha256)
    (hmatching : PreflightRequest.matchingCells ⟨[c], allowDegraded, [d]⟩ r = [c])
    (hdeclared : DeclaredFor d r c) (hfit : substitutionIsSupported fromisoformat c d = true) :
    preflightCapabilities fromisoformat sha256 [r] [c] allowDegraded [d] =
      .ok (reportOf sha256 [r] [c] allowDegraded [d]) := by
  refine (preflightCapabilities_eq_ok_iff hsha).2
    ⟨⟨cons_ne_nil _ _, nodup_singleton _, nodup_singleton _⟩, ?_, ?_, rfl⟩
  · intro r' hr c' hbest d' hd _
    obtain rfl := mem_singleton.1 hr
    obtain rfl := (isBest_iff_eq hmatching).1 hbest
    obtain rfl := mem_singleton.1 hd
    exact hfit
  · intro d' hd
    obtain rfl := mem_singleton.1 hd
    exact ⟨r, mem_singleton_self r, c, (isBest_iff_eq hmatching).2 rfl, hdeclared⟩

/-- A day on another feed. -/
theorem preflightCapabilities_sound_otc :
    SoundReport readThird Digest.mk [oneDay] [otcCell] true [otcFeed]
      (reportOf Digest.mk [oneDay] [otcCell] true [otcFeed]) := by
  have hmatching : PreflightRequest.matchingCells ⟨[otcCell], true, [otcFeed]⟩ oneDay =
      [otcCell] := by decide +kernel
  refine (preflightCapabilities_sound_iff readThird Digest.mk
    digestMk_injective [oneDay] [otcCell] true [otcFeed] _
    (preflightCapabilities_single digestMk_injective hmatching ⟨rfl, by decide +kernel⟩
      (by decide +kernel))).2 ?_
  intro r hr c hbest _
  obtain rfl := mem_singleton.1 hr
  obtain rfl := (isBest_iff_eq hmatching).1 hbest
  exact ⟨by decide +kernel, by decide +kernel⟩

/-- A cell whose history starts after the day degrades it to an interval that ends before it
    starts. -/
theorem preflightCapabilities_late :
    ∃ report, preflightCapabilities readThird Digest.mk [oneDay] [lateCell] true [lateStart] =
        .ok report ∧
      ¬ SoundReport readThird Digest.mk [oneDay] [lateCell] true [lateStart] report := by
  have hmatching : PreflightRequest.matchingCells ⟨[lateCell], true, [lateStart]⟩ oneDay =
      [lateCell] := by decide +kernel
  have hclass : PreflightRequest.classify ⟨[lateCell], true, [lateStart]⟩ oneDay lateCell =
      .degraded := by decide +kernel
  refine ⟨_, preflightCapabilities_single digestMk_injective hmatching ⟨rfl, by decide +kernel⟩
    (by decide +kernel), fun hsound => ?_⟩
  have hdecision : decisionOf Digest.mk (sortedRequest [lateCell] true [lateStart]) oneDay =
      decisionBy ⟨[lateCell], true, [lateStart]⟩ oneDay lateCell :=
    decisionOf_of_best ((mem_argmin_iff_isBest digestMk_injective).2
      ((isBest_iff_eq hmatching).2 rfl))
  have hd := hsound.sound (decisionOf Digest.mk (sortedRequest [lateCell] true [lateStart]) oneDay)
    (mem_map_of_mem (mem_singleton_self _))
  rw [hdecision] at hd
  obtain ⟨start, stop, hstart, hstop, hlt, -⟩ := hd (by rw [decisionBy, hclass]; decide)
  have hlate : start = 172800000000 := (Option.some.inj hstart).symm
  have hend : stop = 86400000000 := (Option.some.inj hstop).symm
  omega

/-! ## Feasible requests -/

/-- Every requirement has a matching cell that supports a declared substitution for each of its
    gaps, and every declared degradation is used by such a choice of cells. -/
def Feasible (fromisoformat : String → Except PyError PyDateTime)
    (requirements : List PreflightRequirement) (cells : List CapabilityCell)
    (degradations : List Degradation) : Prop :=
  ∃ choice : PreflightRequirement → CapabilityCell,
    (∀ r ∈ requirements, choice r ∈ cells ∧ (choice r).instrumentId = r.instrumentId ∧
      (choice r).productClass = r.productClass ∧
      ∀ field ∈ capabilityGaps r (choice r), ∃ d ∈ degradations,
        d.instrumentId = r.instrumentId ∧ d.field = field ∧
          substitutionIsSupported fromisoformat (choice r) d = true) ∧
    ∀ d ∈ degradations, ∃ r ∈ requirements, DeclaredFor d r (choice r)

/-- How the exception for unsupported substitutions begins. -/
def substitutionError : String :=
  "degradation substitutions must match values supported by the selected cell: "

/-- What a preflight is expected to find: with degradation allowed, a decision for every
    requirement of a feasible request; without, no exception about substitutions. -/
structure FindsFeasible (fromisoformat : String → Except PyError PyDateTime)
    (sha256 : String → Digest) (requirements : List PreflightRequirement)
    (cells : List CapabilityCell) (allowDegraded : Bool) (degradations : List Degradation) :
    Prop where
  feasible : allowDegraded = true → WellFormed requirements degradations →
    Feasible fromisoformat requirements cells degradations →
    ∃ report, preflightCapabilities fromisoformat sha256 requirements cells allowDegraded
        degradations = .ok report ∧
      ∀ r ∈ requirements, ∃ d ∈ report.decisions, d.requirement = r ∧
        d.classification ≠ .unsupported
  closed : allowDegraded = false → ∀ detail,
    preflightCapabilities fromisoformat sha256 requirements cells allowDegraded degradations ≠
      .error (valueError (substitutionError ++ detail))

theorem classify_ne_unsupported (hallow : q.allowDegraded = true)
    (hcover : ∀ field ∈ capabilityGaps r c, ∃ d ∈ q.degradations,
      d.instrumentId = r.instrumentId ∧ d.field = field) : q.classify r c ≠ .unsupported := by
  rw [PreflightRequest.classify]
  split_ifs with hgaps hall
  · decide
  · decide
  · refine absurd ⟨hallow, ?_⟩ hall
    ext field
    rw [mem_toFinset, mem_toFinset, mem_map]
    constructor
    · rintro ⟨d, hd, rfl⟩
      exact (mem_declared.1 hd).2.2
    · intro hfield
      obtain ⟨d, hd, hinstrument, rfl⟩ := hcover field hfield
      exact ⟨d, mem_declared.2 ⟨hd, hinstrument, hfield⟩, rfl⟩

theorem decisionOf_ne_unsupported (hc : c ∈ q.matchingCells r)
    (hclass : q.classify r c ≠ .unsupported) :
    (decisionOf sha256 q r).classification ≠ .unsupported := by
  cases hbest : (q.matchingCells r).argmin (q.candidateKey sha256 r) with
  | none =>
    rw [argmin_eq_none.1 hbest] at hc
    exact absurd hc not_mem_nil
  | some best =>
    rw [decisionOf_of_best (Option.mem_def.2 hbest)]
    intro h
    have h : q.classify r best = .unsupported := h
    rcases Prod.Lex.toLex_le_toLex.1 (le_of_mem_argmin hc hbest) with hlt | ⟨heq, -⟩
    all_goals
      rw [h] at *
      cases hcls : q.classify r c <;> simp_all [PreflightClass.rank]

/-! ## Exceptions -/

theorem append_ne_append {a b x y : String} (n : ℕ) (ha : n ≤ a.toList.length)
    (hb : n ≤ b.toList.length) (h : a.toList.take n ≠ b.toList.take n) : a ++ x ≠ b ++ y := by
  intro heq
  have := congrArg (fun s : String => s.toList.take n) heq
  simp only [String.toList_append, take_append_of_le_length ha,
    take_append_of_le_length hb] at this
  exact h this

theorem decideRequirement_eq_error (hkeys : q.UniqueKeys) {e : PyError}
    (h : decideRequirement fromisoformat sha256 q r = .error e) :
    ∃ detail, e = valueError (substitutionError ++ detail) := by
  by_cases hfits : Fits fromisoformat sha256 q r
  · rw [(decideRequirement_eq_ok hkeys).2 ⟨hfits, rfl⟩] at h
    cases h
  · rw [decideRequirement] at h
    rw [Fits] at hfits
    cases hbest : (q.matchingCells r).argmin (q.candidateKey sha256 r) with
    | none =>
      rw [hbest] at hfits
      exact absurd (fun c hc => absurd hc (by simp)) hfits
    | some c =>
      rw [hbest] at h hfits
      dsimp only at h
      rw [ensure_of_not] at h
      · obtain rfl := Except.error.inj h
        exact ⟨_, rfl⟩
      · rw [List.isEmpty_iff, filter_eq_nil_iff]
        intro hall
        refine hfits fun c' hc' d hd => ?_
        obtain rfl := Option.some.inj hc'
        simpa using hall d hd

theorem error_ne_substitutionError {text x : String} (hlen : 12 ≤ text.toList.length)
    (hne : substitutionError.toList.take 12 ≠ text.toList.take 12) :
    (.error (valueError (text ++ x)) : Except PyError CapabilityReport) ≠
      .error (valueError (substitutionError ++ detail)) := by
  intro h
  exact append_ne_append 12 (by decide +kernel) hlen hne
    (PyError.mk.inj (Except.error.inj h)).2.symm

theorem preflightCapabilities_of_not_wellFormed (h : ¬ WellFormed requirements degradations) :
    preflightCapabilities fromisoformat sha256 requirements cells allowDegraded degradations ≠
      .error (valueError (substitutionError ++ detail)) := by
  unfold preflightCapabilities
  by_cases hne : requirements ≠ []
  · rw [ensure_of hne, ok_bind]
    by_cases hnodup : requirements.Nodup
    · have hkeys : ¬ ((sortBy Degradation.sortKey degradations).map Degradation.key).Nodup :=
        fun hkeys => h ⟨hne, hnodup,
          ((perm_sortBy Degradation.sortKey degradations).map Degradation.key).nodup_iff.1 hkeys⟩
      rw [ensure_of hnodup, ok_bind]
      dsimp only
      rw [ensure_of_not hkeys, error_bind, ← String.append_empty
        (s := "only one degradation may be declared for an instrument field")]
      exact error_ne_substitutionError (by decide +kernel) (by decide +kernel)
    · rw [ensure_of_not hnodup, error_bind, ← String.append_empty
        (s := "capability requirements must not contain duplicates")]
      exact error_ne_substitutionError (by decide +kernel) (by decide +kernel)
  · rw [ensure_of_not hne, error_bind, ← String.append_empty
      (s := "preflight requires at least one capability requirement")]
    exact error_ne_substitutionError (by decide +kernel) (by decide +kernel)

theorem preflightCapabilities_of_fits (hwf : WellFormed requirements degradations)
    (hfits : ∀ r ∈ requirements, Fits fromisoformat sha256
      (sortedRequest cells allowDegraded degradations) r) :
    preflightCapabilities fromisoformat sha256 requirements cells allowDegraded degradations ≠
      .error (valueError (substitutionError ++ detail)) := by
  have hperm := perm_sortBy PreflightRequirement.sortKey requirements
  have hunique : (sortedRequest cells allowDegraded degradations).UniqueKeys :=
    uniqueKeys_sortedRequest.2 hwf.2.2
  have hkeys : ((sortBy Degradation.sortKey degradations).map Degradation.key).Nodup := hunique
  have hcollect := (collect_decideRequirement hunique).2
    ⟨fun r hr => hfits r (hperm.mem_iff.1 hr), rfl⟩
  unfold preflightCapabilities
  rw [ensure_of hwf.1, ok_bind, ensure_of hwf.2.1, ok_bind]
  dsimp only
  rw [ensure_of hkeys, ok_bind]
  change (collect ((sortBy PreflightRequirement.sortKey requirements).map
    (decideRequirement fromisoformat sha256
      (sortedRequest cells allowDegraded degradations))) >>= _) ≠ _
  rw [hcollect, ok_bind]
  have hunused : ((sortBy Degradation.sortKey degradations).map Degradation.key).toFinset \
      usedKeys ((sortBy PreflightRequirement.sortKey requirements).map
        (decisionOf sha256 (sortedRequest cells allowDegraded degradations))) = ∅ ↔
      AllUsed sha256 (sortedRequest cells allowDegraded degradations) requirements :=
    allUsed_iff hunique hperm
  by_cases hused : AllUsed sha256 (sortedRequest cells allowDegraded degradations) requirements
  · rw [ensure_of (hunused.2 hused), ok_bind]
    intro h
    cases (makeCapabilityReport_reportOf hwf.1 hwf.2.1 hunique hused).symm.trans h
  · rw [ensure_of_not (mt hunused.1 hused), error_bind, String.append_assoc]
    exact error_ne_substitutionError (by decide +kernel) (by decide +kernel)

theorem preflightCapabilities_substitution_iff (hsha : Injective sha256) :
    (∃ detail, preflightCapabilities fromisoformat sha256 requirements cells allowDegraded
        degradations = .error (valueError (substitutionError ++ detail))) ↔
      WellFormed requirements degradations ∧
        ¬ BestFit fromisoformat sha256 ⟨cells, allowDegraded, degradations⟩ requirements := by
  rw [← fits_iff_bestFit hsha]
  constructor
  · rintro ⟨detail, h⟩
    have hwf : WellFormed requirements degradations :=
      not_not.1 fun hwf => preflightCapabilities_of_not_wellFormed hwf h
    exact ⟨hwf, fun hfits => preflightCapabilities_of_fits hwf hfits h⟩
  · rintro ⟨hwf, hfits⟩
    have hperm := perm_sortBy PreflightRequirement.sortKey requirements
    have hunique : (sortedRequest cells allowDegraded degradations).UniqueKeys :=
      uniqueKeys_sortedRequest.2 hwf.2.2
    have hkeys : ((sortBy Degradation.sortKey degradations).map Degradation.key).Nodup := hunique
    unfold preflightCapabilities
    rw [ensure_of hwf.1, ok_bind, ensure_of hwf.2.1, ok_bind]
    dsimp only
    rw [ensure_of hkeys, ok_bind]
    change ∃ detail, (collect ((sortBy PreflightRequirement.sortKey requirements).map
      (decideRequirement fromisoformat sha256
        (sortedRequest cells allowDegraded degradations))) >>= _) = _
    cases hcollect : collect ((sortBy PreflightRequirement.sortKey requirements).map
        (decideRequirement fromisoformat sha256
          (sortedRequest cells allowDegraded degradations))) with
    | error e =>
      -- only a substitution stops the loop
      obtain ⟨r, -, hr⟩ := mem_map.1 (mem_of_collect_eq_error hcollect)
      obtain ⟨detail, rfl⟩ := decideRequirement_eq_error hunique hr
      exact ⟨detail, rfl⟩
    | ok decisions =>
      obtain ⟨hfit, -⟩ := (collect_decideRequirement hunique).1 hcollect
      exact absurd (fun r hr => hfit r (hperm.mem_iff.2 hr)) hfits

/-- **A preflight finds what is feasible** exactly where the best cells support what is declared
    for them and use all of it. -/
theorem preflightCapabilities_feasible_iff (fromisoformat : String → Except PyError PyDateTime)
    (sha256 : String → Digest) (hsha : Injective sha256)
    (requirements : List PreflightRequirement) (cells : List CapabilityCell)
    (allowDegraded : Bool) (degradations : List Degradation) :
    FindsFeasible fromisoformat sha256 requirements cells allowDegraded degradations ↔
      WellFormed requirements degradations →
        (allowDegraded = true → Feasible fromisoformat requirements cells degradations →
          BestFit fromisoformat sha256 ⟨cells, allowDegraded, degradations⟩ requirements ∧
            BestUse sha256 ⟨cells, allowDegraded, degradations⟩ requirements) ∧
        (allowDegraded = false →
          BestFit fromisoformat sha256 ⟨cells, allowDegraded, degradations⟩ requirements) := by
  constructor
  · intro h hwf
    constructor
    · intro hallow hfeasible
      obtain ⟨report, hreport, -⟩ := h.feasible hallow hwf hfeasible
      obtain ⟨-, hfit, huse, -⟩ := (preflightCapabilities_eq_ok_iff hsha).1 hreport
      exact ⟨hfit, huse⟩
    · intro hallow
      by_contra hfit
      obtain ⟨detail, herror⟩ := (preflightCapabilities_substitution_iff hsha).2 ⟨hwf, hfit⟩
      exact h.closed hallow detail herror
  · intro h
    constructor
    · intro hallow hwf hfeasible
      obtain ⟨hfit, huse⟩ := (h hwf).1 hallow hfeasible
      refine ⟨_, (preflightCapabilities_eq_ok_iff hsha).2 ⟨hwf, hfit, huse, rfl⟩, fun r hr => ?_⟩
      obtain ⟨choice, hchoice, -⟩ := hfeasible
      obtain ⟨hmem, hinstrument, hclass, hcover⟩ := hchoice r hr
      refine ⟨decisionOf sha256 (sortedRequest cells allowDegraded degradations) r,
        mem_map_of_mem ((perm_sortBy _ _).mem_iff.2 hr), decisionOf_requirement, ?_⟩
      have hcell : choice r ∈ (sortedRequest cells allowDegraded degradations).matchingCells r :=
        mem_matchingCells.2 ⟨hmem, hinstrument, hclass⟩
      refine decisionOf_ne_unsupported hcell (classify_ne_unsupported hallow ?_)
      intro field hfield
      obtain ⟨d, hd, hdinstrument, hdfield, -⟩ := hcover field hfield
      exact ⟨d, (mem_sortBy _).2 hd, hdinstrument, hdfield⟩
    · intro hallow detail herror
      obtain ⟨hwf, hfit⟩ := (preflightCapabilities_substitution_iff hsha).1 ⟨detail, herror⟩
      exact hfit ((h hwf).2 hallow)

/-- The other feed is feasible, and found. -/
theorem preflightCapabilities_feasible_otc :
    Feasible readThird [oneDay] [otcCell] [otcFeed] ∧
      FindsFeasible readThird Digest.mk [oneDay] [otcCell] true [otcFeed] := by
  have hmatching : PreflightRequest.matchingCells ⟨[otcCell], true, [otcFeed]⟩ oneDay =
      [otcCell] := by decide +kernel
  have hgaps : capabilityGaps oneDay otcCell = [.feed] := by decide +kernel
  have hfit : substitutionIsSupported readThird otcCell otcFeed = true := by decide +kernel
  constructor
  · refine ⟨fun _ => otcCell, fun r hr => ?_, fun d hd => ?_⟩
    · obtain rfl := mem_singleton.1 hr
      refine ⟨mem_singleton_self _, rfl, rfl, fun field hfield => ?_⟩
      rw [hgaps, mem_singleton] at hfield
      exact ⟨otcFeed, mem_singleton_self _, rfl, hfield.symm, hfit⟩
    · obtain rfl := mem_singleton.1 hd
      exact ⟨oneDay, mem_singleton_self _, rfl, by rw [hgaps]; exact mem_cons_self⟩
  · refine (preflightCapabilities_feasible_iff readThird Digest.mk
      digestMk_injective [oneDay] [otcCell] true [otcFeed]).2 fun _ =>
        ⟨fun _ _ => ⟨?_, ?_⟩, fun h => absurd h (by decide)⟩
    · intro r hr c hbest d hd _
      obtain rfl := mem_singleton.1 hr
      obtain rfl := (isBest_iff_eq hmatching).1 hbest
      obtain rfl := mem_singleton.1 hd
      exact hfit
    · intro d hd
      obtain rfl := mem_singleton.1 hd
      exact ⟨oneDay, mem_singleton_self _, otcCell, (isBest_iff_eq hmatching).2 rfl, rfl,
        by rw [hgaps]; exact mem_cons_self⟩

/-- A cell with another feed that is not the declared one. -/
def iexCell : CapabilityCell :=
  cellOf "regular" "iex" (nthMidnight 0) (nthMidnight 1) "iex" dailySeries.start_lt_stop (Eq.refl true) (Eq.refl true)

def extendedCell : CapabilityCell :=
  cellOf "extended" "otc" (nthMidnight 0) (nthMidnight 1) "extended" dailySeries.start_lt_stop
    (Eq.refl true) (Eq.refl true)

def extendedSession : Degradation :=
  ⟨"AAPL", .session, "extended", "session", Eq.refl true, Eq.refl true, Eq.refl true⟩

theorem isBest_iexCell : IsBest sha256
    ⟨[iexCell, extendedCell], allowDegraded, [otcFeed, extendedSession]⟩ oneDay iexCell := by
  have hrank : PreflightRequest.classify
        ⟨[iexCell, extendedCell], allowDegraded, [otcFeed, extendedSession]⟩ oneDay iexCell =
      PreflightRequest.classify
        ⟨[iexCell, extendedCell], allowDegraded, [otcFeed, extendedSession]⟩ oneDay
          extendedCell := by
    cases allowDegraded <;> decide +kernel
  refine ⟨mem_matchingCells.2 ⟨mem_cons_self, rfl, rfl⟩, fun c hc => ?_⟩
  rcases mem_pair.1 (mem_matchingCells.1 hc).1 with rfl | rfl
  · exact le_rfl
  · have hfewer : (capabilityGaps oneDay iexCell).length <
        (capabilityGaps oneDay extendedCell).length := by decide +kernel
    refine Prod.Lex.toLex_le_toLex.2 (.inr ⟨by rw [hrank], ?_⟩)
    exact Prod.Lex.toLex_le_toLex.2 (.inl hfewer)

/-- The cell with fewer gaps wins although what is declared fits the other one; and so also
    where degradation is not allowed. -/
theorem preflightCapabilities_misfit :
    ¬ FindsFeasible readThird Digest.mk [oneDay] [iexCell, extendedCell] true
        [otcFeed, extendedSession] ∧
      ¬ FindsFeasible readThird Digest.mk [oneDay] [iexCell, extendedCell] false
        [otcFeed, extendedSession] := by
  have hwf : WellFormed [oneDay] [otcFeed, extendedSession] :=
    ⟨cons_ne_nil _ _, nodup_singleton _, by decide +kernel⟩
  have hmisfit {allowDegraded : Bool} : ¬ BestFit readThird Digest.mk
      ⟨[iexCell, extendedCell], allowDegraded, [otcFeed, extendedSession]⟩ [oneDay] := by
    intro h
    have hfit := h oneDay (mem_singleton_self _) iexCell isBest_iexCell otcFeed
      mem_cons_self ⟨rfl, by decide +kernel⟩
    exact absurd hfit (by decide +kernel)
  have hgaps : capabilityGaps oneDay extendedCell = [.session, .feed] := by decide +kernel
  constructor
  · intro h
    have hfeasible : Feasible readThird [oneDay] [iexCell, extendedCell]
        [otcFeed, extendedSession] := by
      refine ⟨fun _ => extendedCell, fun r hr => ?_, fun d hd => ?_⟩
      · obtain rfl := mem_singleton.1 hr
        refine ⟨by simp, rfl, rfl, fun field hfield => ?_⟩
        rw [hgaps] at hfield
        rcases mem_pair.1 hfield with rfl | rfl
        · exact ⟨extendedSession, by simp, rfl, rfl, by decide +kernel⟩
        · exact ⟨otcFeed, by simp, rfl, rfl, by decide +kernel⟩
      · refine ⟨oneDay, mem_singleton_self _, ?_⟩
        rcases mem_pair.1 hd with rfl | rfl
        · exact ⟨rfl, by rw [hgaps]; exact mem_cons_of_mem _ mem_cons_self⟩
        · exact ⟨rfl, by rw [hgaps]; exact mem_cons_self⟩
    obtain ⟨report, hreport, -⟩ := h.feasible rfl hwf hfeasible
    exact hmisfit ((preflightCapabilities_eq_ok_iff digestMk_injective).1 hreport).2.1
  · intro h
    obtain ⟨detail, herror⟩ :=
      (preflightCapabilities_substitution_iff digestMk_injective).2 ⟨hwf, hmisfit⟩
    exact h.closed rfl detail herror

end ChartingPlatform
