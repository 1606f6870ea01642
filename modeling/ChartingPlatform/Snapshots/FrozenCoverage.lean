/-
  Frozen data snapshots (`contracts.py`, `capabilities.py`): the series of a snapshot and the
  requirements of its preflight report.

  Texts of dates are read by a parameter (`datetime.fromisoformat`).  Of requirements and decisions
  the model has what series are matched with.  The dates of series and requirements are at fixed
  offsets from UTC: Python compares, hashes and writes these by their moments, also where a
  constructor keeps them as they are.
-/
import ChartingPlatform.Lib.Covers
import ChartingPlatform.Lib.Table
import ChartingPlatform.Ranking.Results

namespace ChartingPlatform

open Lib

open scoped List

/-! ## Series -/

/-- `EventGranularity`. -/
inductive EventGranularity where
  | tick | trade | quote | bar
  deriving DecidableEq, Repr

def EventGranularity.text : EventGranularity → String
  | .tick => "tick"
  | .trade => "trade"
  | .quote => "quote"
  | .bar => "bar"

/-- `AdjustmentMode`. -/
inductive AdjustmentMode where
  | raw | splitAdjusted | totalReturn
  deriving DecidableEq, Repr

def AdjustmentMode.text : AdjustmentMode → String
  | .raw => "raw"
  | .splitAdjusted => "split_adjusted"
  | .totalReturn => "total_return"

theorem EventGranularity.text_injective : Function.Injective EventGranularity.text := by
  intro a b h
  cases a <;> cases b <;> first | rfl | exact absurd h (by decide)

theorem AdjustmentMode.text_injective : Function.Injective AdjustmentMode.text := by
  intro a b h
  cases a <;> cases b <;> first | rfl | exact absurd h (by decide)

/-- `DataSeriesManifest`, with the moments of its dates. -/
@[ext]
structure DataSeriesManifest where
  instrumentId : String
  eventType : String
  eventGranularity : EventGranularity
  timeframe : String
  session : String
  feed : String
  start : Instant
  stop : Instant
  adjustment : AdjustmentMode
  corporateActionSemantics : String
  coverageEvidenceDigest : Digest
  contentDigest : Digest
  rowCount : ℕ
  texts_notBlank : ∀ text ∈ [instrumentId, eventType, timeframe, session, feed,
    corporateActionSemantics], notBlank text = true
  start_lt_stop : start < stop
  rowCount_pos : 0 < rowCount

/-- The tuple of fields that no two series of a snapshot share. -/
structure SeriesKey where
  instrumentId : String
  eventType : String
  eventGranularity : EventGranularity
  timeframe : String
  session : String
  feed : String
  adjustment : AdjustmentMode
  corporateActionSemantics : String
  coverageEvidenceDigest : Digest
  start : Instant
  stop : Instant
  deriving DecidableEq

namespace DataSeriesManifest

def toPy (s : DataSeriesManifest) : PyValue :=
  .dataclass "app.strategy_lab_v2.contracts.DataSeriesManifest"
    [({ name := "instrument_id" }, .str s.instrumentId),
      ({ name := "event_type" }, .str s.eventType),
      ({ name := "event_granularity" }, .enum "app.strategy_lab_v2.contracts.EventGranularity"
        (.str s.eventGranularity.text)),
      ({ name := "timeframe" }, .str s.timeframe), ({ name := "session" }, .str s.session),
      ({ name := "feed" }, .str s.feed), ({ name := "start" }, .datetime (.utc s.start)),
      ({ name := "end" }, .datetime (.utc s.stop)),
      ({ name := "adjustment" }, .enum "app.strategy_lab_v2.contracts.AdjustmentMode"
        (.str s.adjustment.text)),
      ({ name := "corporate_action_semantics" }, .str s.corporateActionSemantics),
      ({ name := "coverage_evidence_digest" }, .str s.coverageEvidenceDigest.text),
      ({ name := "content_digest" }, .str s.contentDigest.text),
      ({ name := "row_count" }, .int s.rowCount)]

def key (s : DataSeriesManifest) : SeriesKey :=
  ⟨s.instrumentId, s.eventType, s.eventGranularity, s.timeframe, s.session, s.feed, s.adjustment,
    s.corporateActionSemantics, s.coverageEvidenceDigest, s.start, s.stop⟩

def sortKey (s : DataSeriesManifest) :=
  toLex (s.instrumentId, toLex (s.eventType, toLex (s.eventGranularity.text, toLex (s.timeframe,
    toLex (s.session, toLex (s.feed, toLex (s.corporateActionSemantics, toLex (s.adjustment.text,
      toLex (s.start, toLex (s.stop, toLex (s.coverageEvidenceDigest.text,
        toLex (s.contentDigest.text, s.rowCount))))))))))))

def startAt (s : DataSeriesManifest) : ℤ := s.start.val

def stopAt (s : DataSeriesManifest) : ℤ := s.stop.val

theorem startAt_lt_stopAt (s : DataSeriesManifest) : s.startAt < s.stopAt :=
  Int.ofNat_lt.2 s.start_lt_stop

theorem sortKey_injective : Function.Injective sortKey := by
  intro s t h
  simp only [sortKey, EmbeddingLike.apply_eq_iff_eq, Prod.mk.injEq] at h
  obtain ⟨h1, h2, h3, h4, h5, h6, h7, h8, h9, h10, h11, h12, h13⟩ := h
  have h3 := EventGranularity.text_injective h3
  have h8 := AdjustmentMode.text_injective h8
  obtain ⟨i, e, g, tf, se, f, a, b, ad, c, ⟨cd⟩, ⟨d⟩, n, _, _, _⟩ := s
  obtain ⟨i', e', g', tf', se', f', a', b', ad', c', ⟨cd'⟩, ⟨d'⟩, n', _, _, _⟩ := t
  dsimp only at *
  subst h1 h2 h3 h4 h5 h6 h7 h8 h9 h10 h11 h12 h13
  rfl

end DataSeriesManifest

/-- `ETFMembershipReference`. -/
@[ext]
structure ETFMembershipReference where
  etfInstrumentId : String
  decisionTime : Instant
  snapshotId : ℕ
  contentDigest : Digest
  instrument_notBlank : notBlank etfInstrumentId = true
  snapshotId_pos : 0 < snapshotId

namespace ETFMembershipReference

def key (m : ETFMembershipReference) := toLex (m.etfInstrumentId, m.decisionTime)

def toPy (m : ETFMembershipReference) : PyValue :=
  .dataclass "app.strategy_lab_v2.contracts.ETFMembershipReference"
    [({ name := "etf_instrument_id" }, .str m.etfInstrumentId),
      ({ name := "decision_time" }, .datetime (.utc m.decisionTime)),
      ({ name := "snapshot_id" }, .int m.snapshotId),
      ({ name := "content_digest" }, .str m.contentDigest.text)]

end ETFMembershipReference

/-! ## Preflight decisions -/

/-- The fields of a requirement that may be replaced. -/
inductive DegradedField where
  | eventGranularity | eventType | timeframe | historyStart | historyEnd | adjustment | session
  | feed | executionModel | accountModel | corporateActionSemantics
  deriving DecidableEq, Repr

/-- `Degradation`. -/
structure Degradation where
  instrumentId : String
  field : DegradedField
  substitutedValue : String
  reason : String
  instrument_notBlank : notBlank instrumentId = true
  value_notBlank : notBlank substitutedValue = true
  reason_notBlank : notBlank reason = true

/-- The fields of `CapabilityRequirement` that series are matched with. -/
structure SeriesRequirement where
  instrumentId : String
  eventGranularity : EventGranularity
  eventType : String
  timeframe : String
  start : Instant
  stop : Instant
  adjustment : AdjustmentMode
  session : String
  feed : String
  corporateActionSemantics : String
  start_lt_stop : start < stop

/-- `CapabilityDecision`. -/
structure SeriesDecision where
  requirement : SeriesRequirement
  classification : PreflightClass
  degradations : List Degradation
  unique_fields : (degradations.map (·.field)).Nodup
  own_instrument : ∀ d ∈ degradations, d.instrumentId = requirement.instrumentId

/-- `PreflightReport`. -/
structure SeriesReport where
  decisions : List SeriesDecision
  fingerprint : Digest
  decisions_ne_nil : decisions ≠ []

/-- `PreflightReport.classification`. -/
def SeriesReport.classification (p : SeriesReport) : PreflightClass :=
  if .unsupported ∈ p.decisions.map (·.classification) then .unsupported
  else if .degraded ∈ p.decisions.map (·.classification) then .degraded
  else .rigorous

/-- The moment of an aware `datetime`, in microseconds. -/
def PyDateTime.moment (d : PyDateTime) : Option ℤ :=
  d.utcoffset.map fun offset => (d.wall.val : ℤ) - offset

/-- `_aware`. -/
def aware (fieldName : String) (d : PyDateTime) : Except PyError ℤ :=
  match d.moment with
  | none => .error (valueError (fieldName ++ " must be timezone-aware"))
  | some m => .ok m

namespace SeriesDecision

variable (d : SeriesDecision)

/-- `replacements.get(field)`. -/
def replacement (field : DegradedField) : Option String :=
  (rowWith (·.field) field d.degradations).map (·.substitutedValue)

/-- The series agrees with the requirement, or with what replaces its fields. -/
def matchesSeries (s : DataSeriesManifest) : Bool :=
  decide (s.instrumentId = d.requirement.instrumentId ∧
    s.eventGranularity.text =
      (d.replacement .eventGranularity).getD d.requirement.eventGranularity.text ∧
    s.eventType = (d.replacement .eventType).getD d.requirement.eventType ∧
    s.timeframe = (d.replacement .timeframe).getD d.requirement.timeframe ∧
    s.adjustment.text = (d.replacement .adjustment).getD d.requirement.adjustment.text ∧
    s.session = (d.replacement .session).getD d.requirement.session ∧
    s.feed = (d.replacement .feed).getD d.requirement.feed ∧
    s.corporateActionSemantics =
      (d.replacement .corporateActionSemantics).getD d.requirement.corporateActionSemantics)

/-- The series that match and intersect an interval. -/
def needs (a b : ℤ) (s : DataSeriesManifest) : Bool :=
  d.matchesSeries s && decide (s.startAt < b ∧ a < s.stopAt)

variable (fromisoformat : String → Except PyError PyDateTime)

/-- A replaced bound of the history, or the one of the requirement. -/
def effectiveBound (field : DegradedField) (bound : Instant) : Except PyError PyDateTime :=
  match d.replacement field with
  | some text => fromisoformat (text.replace "Z" "+00:00")
  | none => .ok (PyDateTime.utc bound)

/-- `effective_start` and `effective_end`. -/
def effectiveInterval : Except PyError (ℤ × ℤ) := do
  let start ← d.effectiveBound fromisoformat .historyStart d.requirement.start
  let stop ← d.effectiveBound fromisoformat .historyEnd d.requirement.stop
  let a ← aware "effective_start" start
  let b ← aware "effective_end" stop
  return (a, b)

end SeriesDecision

/-! ## Snapshots -/

/-- `DataSnapshot`. -/
structure DataSnapshot where
  snapshotId : String
  providerSnapshotId : String
  preflightReport : SeriesReport
  series : List DataSeriesManifest
  createdAt : Instant
  etfMemberships : List ETFMembershipReference

/-- `DataSnapshot.fingerprint`. -/
def DataSnapshot.fingerprint (sha256 : String → Digest) (s : DataSnapshot) : Digest :=
  digest sha256 (.mapping <|
    [(.str "capability_contract_digest", .str s.preflightReport.fingerprint.text),
      (.str "series", .tuple (s.series.map DataSeriesManifest.toPy))] ++
    if s.etfMemberships = [] then []
    else [(.str "etf_memberships", .tuple (s.etfMemberships.map ETFMembershipReference.toPy))])

section
variable (fromisoformat : String → Except PyError PyDateTime)

/-- `candidates`: series with their index. -/
def seriesCandidates (series : List DataSeriesManifest) (d : SeriesDecision) (a b : ℤ) :
    List (DataSeriesManifest × ℕ) := series.zipIdx.filter fun e => d.needs a b e.1

/-- `ordered_candidates`. -/
def orderedCandidates (series : List DataSeriesManifest) (d : SeriesDecision) (a b : ℤ) :
    List (DataSeriesManifest × ℕ) :=
  sortBy (fun e => toLex (e.1.start, e.1.stop)) (seriesCandidates series d a b)

/-- One decision of the loop, which adds to `matched_series`. -/
def checkDecision (series : List DataSeriesManifest) (found : Finset ℕ) (d : SeriesDecision) :
    Except PyError (Finset ℕ) := do
  let (a, b) ← d.effectiveInterval fromisoformat
  ensure (a < b) (valueError "effective preflight history must be a positive interval")
  let ordered := orderedCandidates series d a b
  ensure (ordered.IsChain (Follows (·.1.startAt) (·.1.stopAt)))
    (valueError "frozen snapshot contains overlapping series coverage")
  let walked := walk (·.1.startAt) (·.1.stopAt) b a ordered
  ensure (b ≤ walked.1)
    (valueError ("frozen snapshot does not cover preflight requirement for " ++
      d.requirement.instrumentId ++ " " ++
      (d.replacement .timeframe).getD d.requirement.timeframe))
  return found ∪ (walked.2.map Prod.snd).toFinset

/-- `DataSnapshot.__post_init__`. -/
def makeDataSnapshot (snapshotId providerSnapshotId : String) (report : SeriesReport)
    (series : List DataSeriesManifest) (createdAt : Instant)
    (etfMemberships : List ETFMembershipReference) : Except PyError DataSnapshot := do
  ensure (notBlank snapshotId = true) (valueError "snapshot_id must not be empty")
  ensure (notBlank providerSnapshotId = true) (valueError "provider_snapshot_id must not be empty")
  ensure (report.classification ≠ .unsupported)
    (valueError "unsupported preflight reports cannot freeze a data snapshot")
  ensure (series ≠ []) (valueError "a frozen data snapshot must contain at least one series")
  ensure (etfMemberships.map (·.key)).Nodup
    (valueError "ETF membership selectors must be unique in a frozen snapshot")
  ensure (series.map (·.key)).Nodup (valueError "data snapshot series keys must be unique")
  let sorted := sortBy DataSeriesManifest.sortKey series
  let found ← report.decisions.foldlM (checkDecision fromisoformat sorted) ∅
  ensure (found.card = sorted.length)
    (valueError "frozen snapshot contains series outside its preflight requirements")
  return ⟨snapshotId, providerSnapshotId, report, sorted, createdAt,
    sortBy ETFMembershipReference.key etfMemberships⟩

end

/-! ## Coverage -/

def DataSeriesManifest.span (s : DataSeriesManifest) : Set ℤ := spanSet startAt stopAt s

/-- **What a decision asks of series**: its interval is positive, the series that match and
    intersect it are disjoint, and together they cover it. -/
def CoversDecision (fromisoformat : String → Except PyError PyDateTime)
    (series : List DataSeriesManifest) (d : SeriesDecision) (a b : ℤ) : Prop :=
  d.effectiveInterval fromisoformat = .ok (a, b) ∧ a < b ∧
    (series.filter (d.needs a b)).Pairwise (fun s t => Disjoint s.span t.span) ∧
    Set.Ico a b ⊆ ⋃ s ∈ series.filter (d.needs a b), s.span

def NeededBy (fromisoformat : String → Except PyError PyDateTime) (s : DataSeriesManifest)
    (d : SeriesDecision) : Prop :=
  ∃ a b, d.effectiveInterval fromisoformat = .ok (a, b) ∧ d.needs a b s = true

section
variable {fromisoformat : String → Except PyError PyDateTime}
  {series series' : List DataSeriesManifest} {d : SeriesDecision} {a b : ℤ}
  {found found' : Finset ℕ} {ds : List SeriesDecision}

theorem map_fst_seriesCandidates :
    (seriesCandidates series d a b).map Prod.fst = series.filter (d.needs a b) := by
  unfold seriesCandidates
  conv_rhs => rw [← List.zipIdx_map_fst 0 series]
  rw [List.filter_map]
  rfl

theorem perm_orderedCandidates :
    orderedCandidates series d a b ~ seriesCandidates series d a b := perm_sortBy _ _

theorem needs_eq_true {s : DataSeriesManifest} : d.needs a b s = true ↔
    d.matchesSeries s = true ∧ s.startAt < b ∧ a < s.stopAt := by
  unfold SeriesDecision.needs
  rw [Bool.and_eq_true, decide_eq_true_eq]

theorem mem_orderedCandidates {e : DataSeriesManifest × ℕ} :
    e ∈ orderedCandidates series d a b ↔ series[e.2]? = some e.1 ∧ d.needs a b e.1 = true := by
  rw [perm_orderedCandidates.mem_iff, seriesCandidates, List.mem_filter,
    List.mem_zipIdx_iff_getElem?]

theorem pairwise_orderedCandidates :
    (orderedCandidates series d a b).Pairwise fun e e' => e.1.startAt ≤ e'.1.startAt := by
  refine (pairwise_sortBy _ _).imp fun {e e'} h => ?_
  rcases Prod.Lex.toLex_le_toLex.1 h with hlt | ⟨heq, -⟩
  · exact Int.ofNat_le.2 (Fin.le_def.1 (le_of_lt hlt))
  · exact (congrArg (fun t : Instant => (t.val : ℤ)) heq).le

theorem isChain_orderedCandidates :
    (orderedCandidates series d a b).IsChain (Follows (·.1.startAt) (·.1.stopAt)) ↔
      (series.filter (d.needs a b)).Pairwise fun s t => Disjoint s.span t.span := by
  rw [← pairwise_disjoint_iff (fun e _ => e.1.startAt_lt_stopAt) pairwise_orderedCandidates,
    perm_orderedCandidates.pairwise_iff fun h => h.symm, ← map_fst_seriesCandidates,
    List.pairwise_map]
  rfl

theorem iUnion_orderedCandidates :
    (⋃ e ∈ orderedCandidates series d a b, spanSet (fun e : DataSeriesManifest × ℕ => e.1.startAt)
      (fun e => e.1.stopAt) e) = ⋃ s ∈ series.filter (d.needs a b), s.span := by
  rw [← map_fst_seriesCandidates]
  ext t
  simp only [Set.mem_iUnion₂, perm_orderedCandidates.mem_iff, List.mem_map, exists_prop]
  constructor
  · rintro ⟨e, he, ht⟩
    exact ⟨e.1, ⟨e, he, rfl⟩, ht⟩
  · rintro ⟨s, ⟨e, he, rfl⟩, ht⟩
    exact ⟨e, he, ht⟩

theorem walk_orderedCandidates (hlt : a < b)
    (hdisjoint : (series.filter (d.needs a b)).Pairwise fun s t => Disjoint s.span t.span) :
    (b ≤ (walk (·.1.startAt) (·.1.stopAt) b a (orderedCandidates series d a b)).1 ↔
      Set.Ico a b ⊆ ⋃ s ∈ series.filter (d.needs a b), s.span) ∧
    (b ≤ (walk (·.1.startAt) (·.1.stopAt) b a (orderedCandidates series d a b)).1 →
      (walk (·.1.startAt) (·.1.stopAt) b a (orderedCandidates series d a b)).2 =
        orderedCandidates series d a b) := by
  have hpos : ∀ e ∈ orderedCandidates series d a b, e.1.startAt < e.1.stopAt :=
    fun e _ => e.1.startAt_lt_stopAt
  have hneeds : ∀ e ∈ orderedCandidates series d a b, e.1.startAt < b ∧ a < e.1.stopAt :=
    fun e he => (needs_eq_true.1 (mem_orderedCandidates.1 he).2).2
  rw [← iUnion_orderedCandidates]
  exact walk_covers hlt hpos (fun e he => (hneeds e he).2) (fun e he => (hneeds e he).1)
    (pairwise_follows hpos (isChain_orderedCandidates.2 hdisjoint))

theorem checkDecision_eq_ok : checkDecision fromisoformat series found d = .ok found' ↔
    ∃ a b, CoversDecision fromisoformat series d a b ∧
      found' = found ∪ ((orderedCandidates series d a b).map Prod.snd).toFinset := by
  unfold checkDecision CoversDecision
  simp only [bind_eq_ok, ensure_eq_ok, pure_eq_ok, Except.ok.injEq, Prod.exists,
    isChain_orderedCandidates]
  refine exists_congr fun a => exists_congr fun b => ?_
  constructor
  · rintro ⟨hinterval, -, hlt, -, hdisjoint, -, hreach, rfl⟩
    obtain ⟨hiff, hall⟩ := walk_orderedCandidates hlt hdisjoint
    rw [hall hreach]
    exact ⟨⟨hinterval, hlt, hdisjoint, hiff.1 hreach⟩, rfl⟩
  · rintro ⟨⟨hinterval, hlt, hdisjoint, hcovers⟩, rfl⟩
    obtain ⟨hiff, hall⟩ := walk_orderedCandidates hlt hdisjoint
    have hreach := hiff.2 hcovers
    refine ⟨hinterval, (), hlt, (), hdisjoint, (), hreach, ?_⟩
    rw [hall hreach]

theorem mem_indices (h : d.effectiveInterval fromisoformat = .ok (a, b)) {i : ℕ} :
    i ∈ ((orderedCandidates series d a b).map Prod.snd).toFinset ↔
      ∃ s, series[i]? = some s ∧ NeededBy fromisoformat s d := by
  rw [List.mem_toFinset, List.mem_map]
  constructor
  · rintro ⟨e, he, rfl⟩
    obtain ⟨hget, hneeds⟩ := mem_orderedCandidates.1 he
    exact ⟨e.1, hget, a, b, h, hneeds⟩
  · rintro ⟨s, hget, a', b', h', hneeds⟩
    cases h.symm.trans h'
    exact ⟨(s, i), mem_orderedCandidates.2 ⟨hget, hneeds⟩, rfl⟩

theorem checkDecisions_eq_ok :
    ds.foldlM (checkDecision fromisoformat series) found = .ok found' ↔
      (∀ d ∈ ds, ∃ a b, CoversDecision fromisoformat series d a b) ∧
      ∀ i, i ∈ found' ↔ i ∈ found ∨
        ∃ s, series[i]? = some s ∧ ∃ d ∈ ds, NeededBy fromisoformat s d := by
  induction ds generalizing found with
  | nil =>
    rw [List.foldlM_nil, pure_eq_ok, Except.ok.injEq, eq_comm, Finset.ext_iff]
    simp
  | cons d ds ih =>
    -- what the first decision adds comes before what the others add
    have hsplit {a b : ℤ} (h : d.effectiveInterval fromisoformat = .ok (a, b)) (i : ℕ) :
        (i ∈ found ∪ ((orderedCandidates series d a b).map Prod.snd).toFinset ∨
          ∃ s, series[i]? = some s ∧ ∃ d ∈ ds, NeededBy fromisoformat s d) ↔
        i ∈ found ∨ ∃ s, series[i]? = some s ∧ ∃ d' ∈ d :: ds, NeededBy fromisoformat s d' := by
      rw [Finset.mem_union, mem_indices h, or_assoc, ← exists_or]
      simp only [List.exists_mem_cons_iff, ← and_or_left]
    rw [List.foldlM_cons, bind_eq_ok]
    simp only [checkDecision_eq_ok, ih]
    constructor
    · rintro ⟨_, ⟨a, b, hcovers, rfl⟩, hrest, hmem⟩
      exact ⟨List.forall_mem_cons.2 ⟨⟨a, b, hcovers⟩, hrest⟩,
        fun i => (hmem i).trans (hsplit hcovers.1 i)⟩
    · rintro ⟨hcovers, hmem⟩
      obtain ⟨⟨a, b, hd⟩, hrest⟩ := List.forall_mem_cons.1 hcovers
      exact ⟨_, ⟨a, b, hd, rfl⟩, hrest, fun i => (hmem i).trans (hsplit hd.1 i).symm⟩

theorem card_found_iff
    (h : ∀ i, i ∈ found ↔ ∃ s, series[i]? = some s ∧ ∃ d ∈ ds, NeededBy fromisoformat s d) :
    found.card = series.length ↔ ∀ s ∈ series, ∃ d ∈ ds, NeededBy fromisoformat s d := by
  have hsub : found ⊆ Finset.range series.length := fun i hi => by
    obtain ⟨s, hs, -⟩ := (h i).1 hi
    exact Finset.mem_range.2 (List.getElem?_eq_some_iff.1 hs).1
  constructor
  · intro hcard s hs
    have heq := Finset.eq_of_subset_of_card_le hsub (by rw [Finset.card_range, hcard])
    obtain ⟨i, hi, rfl⟩ := List.getElem_of_mem hs
    obtain ⟨s', hs', hneeded⟩ := (h i).1 (heq ▸ Finset.mem_range.2 hi)
    cases (List.getElem?_eq_getElem hi).symm.trans hs'
    exact hneeded
  · intro hneeded
    rw [← Finset.card_range series.length]
    refine congrArg _ (hsub.antisymm fun i hi => ?_)
    have hi := Finset.mem_range.1 hi
    exact (h i).2 ⟨_, List.getElem?_eq_getElem hi, hneeded _ (List.getElem_mem hi)⟩

theorem CoversDecision.perm (h : CoversDecision fromisoformat series d a b)
    (hp : series ~ series') : CoversDecision fromisoformat series' d a b := by
  refine ⟨h.1, h.2.1, ((hp.filter _).pairwise_iff fun hst => hst.symm).1 h.2.2.1,
    h.2.2.2.trans (Set.iUnion₂_subset fun s hs => ?_)⟩
  exact Set.subset_iUnion₂_of_subset s ((hp.filter _).mem_iff.1 hs) subset_rfl

theorem nodup_keys (hcovers : ∀ d ∈ ds, ∃ a b, CoversDecision fromisoformat series d a b)
    (hneeded : ∀ s ∈ series, ∃ d ∈ ds, NeededBy fromisoformat s d) :
    (series.map (·.key)).Nodup := by
  unfold List.Nodup
  rw [List.pairwise_map, List.pairwise_iff_forall_sublist]
  intro s t hst hkey
  obtain ⟨d, hd, a, b, hinterval, hs⟩ := hneeded s (hst.subset List.mem_cons_self)
  obtain ⟨a', b', hinterval', -, hdisjoint, -⟩ := hcovers d hd
  cases hinterval.symm.trans hinterval'
  simp only [DataSeriesManifest.key, SeriesKey.mk.injEq] at hkey
  obtain ⟨h1, h2, h3, h4, h5, h6, h7, h8, -, h10, h11⟩ := hkey
  have hstart : s.startAt = t.startAt := congrArg (fun i : Instant => (i.val : ℤ)) h10
  have hstop : s.stopAt = t.stopAt := congrArg (fun i : Instant => (i.val : ℤ)) h11
  have ht : d.needs a b t = true := by
    rw [needs_eq_true, SeriesDecision.matchesSeries, decide_eq_true_eq] at hs ⊢
    rwa [← h1, ← h2, ← h3, ← h4, ← h5, ← h6, ← h7, ← h8, ← hstart, ← hstop]
  have hsub := hst.filter (d.needs a b)
  rw [List.filter_cons_of_pos hs, List.filter_cons_of_pos ht, List.filter_nil] at hsub
  have hdis := List.pairwise_iff_forall_sublist.1 hdisjoint hsub
  exact Set.disjoint_left.1 hdis (mem_spanSet.2 ⟨le_rfl, s.startAt_lt_stopAt⟩)
    (mem_spanSet.2 ⟨hstart.ge, s.startAt_lt_stopAt.trans_le hstop.le⟩)

end

/-! ## Acceptance -/

/-- **Frozen coverage**: for each decision the series that match and intersect its interval are
    disjoint and cover it, and every series is needed by some decision. -/
structure FrozenCoverage (fromisoformat : String → Except PyError PyDateTime)
    (report : SeriesReport) (series : List DataSeriesManifest) : Prop where
  disjoint : ∀ d ∈ report.decisions, ∀ a b, d.effectiveInterval fromisoformat = .ok (a, b) →
    (series.filter (d.needs a b)).Pairwise fun s t => Disjoint s.span t.span
  covered : ∀ d ∈ report.decisions, ∀ a b, d.effectiveInterval fromisoformat = .ok (a, b) →
    Set.Ico a b ⊆ ⋃ s ∈ series.filter (d.needs a b), s.span
  needed : ∀ s ∈ series, ∃ d ∈ report.decisions, NeededBy fromisoformat s d

/-- A report that can freeze snapshots: no decision is unsupported, and the intervals are dates in
    their order. -/
structure Freezable (fromisoformat : String → Except PyError PyDateTime) (report : SeriesReport) :
    Prop where
  supported : report.classification ≠ .unsupported
  positive : ∀ d ∈ report.decisions, ∃ a b,
    d.effectiveInterval fromisoformat = .ok (a, b) ∧ a < b

section
variable {fromisoformat : String → Except PyError PyDateTime} {report : SeriesReport}
  {series series' : List DataSeriesManifest} {snapshotId providerSnapshotId : String}
  {createdAt : Instant} {etfMemberships : List ETFMembershipReference}

theorem coversDecisions_iff {ds : List SeriesDecision} :
    (∀ d ∈ ds, ∃ a b, CoversDecision fromisoformat series d a b) ↔
      (∀ d ∈ ds, ∃ a b, d.effectiveInterval fromisoformat = .ok (a, b) ∧ a < b) ∧
      ∀ d ∈ ds, ∀ a b, d.effectiveInterval fromisoformat = .ok (a, b) →
        (series.filter (d.needs a b)).Pairwise (fun s t => Disjoint s.span t.span) ∧
        Set.Ico a b ⊆ ⋃ s ∈ series.filter (d.needs a b), s.span := by
  constructor
  · intro h
    refine ⟨fun d hd => ?_, fun d hd a b hinterval => ?_⟩
    · obtain ⟨a, b, hinterval, hlt, -⟩ := h d hd
      exact ⟨a, b, hinterval, hlt⟩
    · obtain ⟨a', b', hinterval', -, hcovers⟩ := h d hd
      cases hinterval.symm.trans hinterval'
      exact hcovers
  · rintro ⟨hpositive, hcovers⟩ d hd
    obtain ⟨a, b, hinterval, hlt⟩ := hpositive d hd
    exact ⟨a, b, hinterval, hlt, hcovers d hd a b hinterval⟩

theorem exists_dataSnapshot_iff :
    (∃ s, makeDataSnapshot fromisoformat snapshotId providerSnapshotId report series createdAt
      etfMemberships = .ok s) ↔
      (notBlank snapshotId = true ∧ notBlank providerSnapshotId = true ∧
        (etfMemberships.map (·.key)).Nodup ∧ Freezable fromisoformat report) ∧
      FrozenCoverage fromisoformat report series := by
  have hp : sortBy DataSeriesManifest.sortKey series ~ series := perm_sortBy _ _
  constructor
  · rintro ⟨s, h⟩
    simp only [makeDataSnapshot, bind_eq_ok, ensure_eq_ok] at h
    obtain ⟨-, hid, -, hprovider, -, hsupported, -, -, -, hmemberships, -, -, found, hfound, -,
      hcard, -⟩ := h
    obtain ⟨hcovers, hmem⟩ := checkDecisions_eq_ok.1 hfound
    simp only [Finset.notMem_empty, false_or] at hmem
    have hneeded := (card_found_iff hmem).1 hcard
    obtain ⟨hpositive, hall⟩ := coversDecisions_iff.1 fun d hd =>
      (hcovers d hd).imp fun a hb => hb.imp fun b hcovers => hcovers.perm hp
    exact ⟨⟨hid, hprovider, hmemberships, hsupported, hpositive⟩,
      fun d hd a b h => (hall d hd a b h).1, fun d hd a b h => (hall d hd a b h).2,
      fun s hs => hneeded s (hp.mem_iff.2 hs)⟩
  · rintro ⟨⟨hid, hprovider, hmemberships, hsupported, hpositive⟩, hdisjoint, hcovered, hneeded⟩
    have hcovers := coversDecisions_iff.2 ⟨hpositive, fun d hd a b h =>
      ⟨hdisjoint d hd a b h, hcovered d hd a b h⟩⟩
    have hne : series ≠ [] := by
      rintro rfl
      obtain ⟨d, hd⟩ := List.exists_mem_of_ne_nil _ report.decisions_ne_nil
      obtain ⟨a, b, -, hlt, -, hsub⟩ := hcovers d hd
      simpa using hsub ⟨le_rfl, hlt⟩
    have hfound : report.decisions.foldlM (checkDecision fromisoformat
        (sortBy DataSeriesManifest.sortKey series)) ∅ =
        .ok (Finset.range (sortBy DataSeriesManifest.sortKey series).length) := by
      refine checkDecisions_eq_ok.2 ⟨fun d hd => (hcovers d hd).imp fun a hb =>
        hb.imp fun b h => h.perm hp.symm, fun i => ?_⟩
      rw [Finset.mem_range]
      constructor
      · intro hi
        have hmem := List.getElem_mem hi
        exact .inr ⟨_, List.getElem?_eq_getElem hi, hneeded _ (hp.mem_iff.1 hmem)⟩
      · rintro (hbad | ⟨s, hs, -⟩)
        · exact absurd hbad (Finset.notMem_empty _)
        · exact (List.getElem?_eq_some_iff.1 hs).1
    unfold makeDataSnapshot
    rw [ensure_of hid, ok_bind, ensure_of hprovider, ok_bind, ensure_of hsupported, ok_bind,
      ensure_of hne, ok_bind, ensure_of hmemberships, ok_bind,
      ensure_of (nodup_keys hcovers hneeded), ok_bind]
    dsimp only
    rw [hfound, ok_bind, ensure_of (Finset.card_range _), ok_bind]
    exact ⟨_, rfl⟩

/-- **The order of the series** does not matter. -/
theorem makeDataSnapshot_perm (hp : series ~ series') :
    makeDataSnapshot fromisoformat snapshotId providerSnapshotId report series createdAt
        etfMemberships =
      makeDataSnapshot fromisoformat snapshotId providerSnapshotId report series' createdAt
        etfMemberships := by
  have hsorted : sortBy DataSeriesManifest.sortKey series =
      sortBy DataSeriesManifest.sortKey series' :=
    sortBy_eq_of_perm hp fun s _ t _ h => DataSeriesManifest.sortKey_injective h
  have hnil : (series ≠ []) = (series' ≠ []) := by
    rw [ne_eq, ne_eq, ← List.perm_nil, ← List.perm_nil]
    exact propext (not_congr ⟨fun h => hp.symm.trans h, fun h => hp.trans h⟩)
  have hkeys : (series.map (·.key)).Nodup = (series'.map (·.key)).Nodup :=
    propext (hp.map _).nodup_iff
  unfold makeDataSnapshot
  simp only [hsorted, hnil, hkeys]

end

/-- **Frozen snapshots.**  Series are accepted exactly when they cover the decisions of a report
    that can freeze them and each of them is needed, and neither this nor the fingerprint depends
    on their order. -/
theorem frozen_snapshot (sha256 : String → Digest)
    (fromisoformat : String → Except PyError PyDateTime) (snapshotId providerSnapshotId : String)
    (report : SeriesReport) (series : List DataSeriesManifest) (createdAt : Instant)
    (etfMemberships : List ETFMembershipReference) :
    ((∃ s, makeDataSnapshot fromisoformat snapshotId providerSnapshotId report series createdAt
        etfMemberships = .ok s) ↔
      (notBlank snapshotId = true ∧ notBlank providerSnapshotId = true ∧
        (etfMemberships.map (·.key)).Nodup ∧ Freezable fromisoformat report) ∧
      FrozenCoverage fromisoformat report series) ∧
    ∀ series', series ~ series' →
      makeDataSnapshot fromisoformat snapshotId providerSnapshotId report series createdAt
          etfMemberships =
        makeDataSnapshot fromisoformat snapshotId providerSnapshotId report series' createdAt
          etfMemberships ∧
      (makeDataSnapshot fromisoformat snapshotId providerSnapshotId report series createdAt
          etfMemberships).map (DataSnapshot.fingerprint sha256) =
        (makeDataSnapshot fromisoformat snapshotId providerSnapshotId report series' createdAt
          etfMemberships).map (DataSnapshot.fingerprint sha256) := by
  refine ⟨exists_dataSnapshot_iff, fun series' hp => ⟨makeDataSnapshot_perm hp, ?_⟩⟩
  rw [makeDataSnapshot_perm hp]

/-! ## Reports that freeze nothing -/

def nthMidnight (n : Fin 7) : Instant :=
  ⟨n.val * 86400000000, by
    have := n.isLt
    unfold instantLimit maxOrdinal
    omega⟩

def dailySeries : DataSeriesManifest where
  instrumentId := "AAPL"
  eventType := "bar"
  eventGranularity := .bar
  timeframe := "1D"
  session := "regular"
  feed := "sip"
  start := nthMidnight 0
  stop := nthMidnight 1
  adjustment := .raw
  corporateActionSemantics := "raw"
  coverageEvidenceDigest := ⟨"coverage"⟩
  contentDigest := ⟨"content"⟩
  rowCount := 1
  texts_notBlank := by decide
  start_lt_stop := by decide
  rowCount_pos := Nat.one_pos

def dayRequirement (timeframe : String) : SeriesRequirement where
  instrumentId := "AAPL"
  eventGranularity := .bar
  eventType := "bar"
  timeframe := timeframe
  start := nthMidnight 0
  stop := nthMidnight 1
  adjustment := .raw
  session := "regular"
  feed := "sip"
  corporateActionSemantics := "raw"
  start_lt_stop := by decide

def dayDecision (classification : PreflightClass) : SeriesDecision where
  requirement := dayRequirement "1D"
  classification := classification
  degradations := []
  unique_fields := List.nodup_nil
  own_instrument := fun _ h => absurd h List.not_mem_nil

/-- A decision about hourly bars whose history starts two days later, after its end. -/
def lateDecision : SeriesDecision where
  requirement := dayRequirement "1h"
  classification := .degraded
  degradations := [⟨"AAPL", .historyStart, "0001-01-03T00:00:00Z", "late", Eq.refl true,
    Eq.refl true, Eq.refl true⟩]
  unique_fields := by decide
  own_instrument := by
    intro d hd
    rw [List.mem_singleton.1 hd]
    rfl

def unsupportedReport : SeriesReport where
  decisions := [dayDecision .unsupported]
  fingerprint := ⟨"report"⟩
  decisions_ne_nil := List.cons_ne_nil _ _

def lateReport : SeriesReport where
  decisions := [dayDecision .rigorous, lateDecision]
  fingerprint := ⟨"report"⟩
  decisions_ne_nil := List.cons_ne_nil _ _

def readThird : String → Except PyError PyDateTime := fun _ => .ok (PyDateTime.utc (nthMidnight 2))

theorem dayDecision_interval (c : PreflightClass) :
    (dayDecision c).effectiveInterval readThird = .ok (0, 86400000000) := rfl

theorem lateDecision_interval :
    lateDecision.effectiveInterval readThird = .ok (172800000000, 86400000000) := rfl

theorem dayDecision_needs (c : PreflightClass) :
    (dayDecision c).needs 0 86400000000 dailySeries = true := by
  cases c <;> decide +kernel

theorem day_covers (c : PreflightClass) :
    CoversDecision readThird [dailySeries] (dayDecision c) 0 86400000000 := by
  refine ⟨dayDecision_interval c, by decide, ?_, fun t ht => ?_⟩
  · rw [List.filter_cons_of_pos (dayDecision_needs c)]
    exact List.pairwise_singleton _ _
  · rw [List.filter_cons_of_pos (dayDecision_needs c), Set.mem_iUnion₂]
    exact ⟨dailySeries, List.mem_cons_self, ht⟩

/-- A report with an unsupported decision, and one whose second decision has an interval that ends
    before it starts, freeze nothing, although the series cover what is to be covered. -/
theorem covered_without_snapshot :
    (FrozenCoverage readThird unsupportedReport [dailySeries] ∧
      ¬ ∃ s, makeDataSnapshot readThird "s" "p" unsupportedReport [dailySeries] (nthMidnight 3) [] =
        .ok s) ∧
    (FrozenCoverage readThird lateReport [dailySeries] ∧
      ¬ ∃ s, makeDataSnapshot readThird "s" "p" lateReport [dailySeries] (nthMidnight 3) [] =
        .ok s) := by
  have hneeded (c : PreflightClass) : NeededBy readThird dailySeries (dayDecision c) :=
    ⟨_, _, dayDecision_interval c, dayDecision_needs c⟩
  have hday {c : PreflightClass} {a b : ℤ}
      (h : (dayDecision c).effectiveInterval readThird = .ok (a, b)) :
      CoversDecision readThird [dailySeries] (dayDecision c) a b := by
    cases (dayDecision_interval c).symm.trans h
    exact day_covers c
  have hlate {a b : ℤ} (h : lateDecision.effectiveInterval readThird = .ok (a, b)) :
      [dailySeries].filter (lateDecision.needs a b) = [] ∧ b < a := by
    cases lateDecision_interval.symm.trans h
    exact ⟨by decide +kernel, by decide⟩
  refine ⟨⟨⟨?_, ?_, ?_⟩, ?_⟩, ⟨?_, ?_, ?_⟩, ?_⟩
  · intro d hd a b h
    obtain rfl := List.mem_singleton.1 hd
    exact (hday h).2.2.1
  · intro d hd a b h
    obtain rfl := List.mem_singleton.1 hd
    exact (hday h).2.2.2
  · intro s hs
    rw [List.mem_singleton.1 hs]
    exact ⟨_, List.mem_cons_self, hneeded _⟩
  · rw [exists_dataSnapshot_iff]
    exact fun h => h.1.2.2.2.supported rfl
  · intro d hd a b h
    rcases List.mem_pair.1 hd with rfl | rfl
    · exact (hday h).2.2.1
    · rw [(hlate h).1]
      exact List.Pairwise.nil
  · intro d hd a b h
    rcases List.mem_pair.1 hd with rfl | rfl
    · exact (hday h).2.2.2
    · rw [Set.Ico_eq_empty (hlate h).2.le.not_gt]
      exact Set.empty_subset _
  · intro s hs
    rw [List.mem_singleton.1 hs]
    exact ⟨_, List.mem_cons_self, hneeded _⟩
  · rw [exists_dataSnapshot_iff]
    intro h
    obtain ⟨a, b, hinterval, hlt⟩ := h.1.2.2.2.positive lateDecision
      (List.mem_cons_of_mem _ List.mem_cons_self)
    exact absurd (hlate hinterval).2 hlt.asymm

end ChartingPlatform
