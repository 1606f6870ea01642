/-
  The strategy SDK (`sdk.py`): manifests, market events and the contexts that a
  strategy sees.
-/
import ChartingPlatform.Canonical.Frozen
import ChartingPlatform.Lib.Table
import ChartingPlatform.Search.State

namespace ChartingPlatform

open Lib List

/-! ## Manifests -/

/-- The fields of `CapabilityRequirement` that contexts are checked with. -/
@[ext]
structure CapabilityRequirement where
  instrumentId : String
  start : Instant
  stop : Instant
  instrumentId_notBlank : notBlank instrumentId = true
  start_lt : start < stop

/-- `StrategyDataDependency`. -/
structure StrategyDataDependency where
  dependencyId : String
  requirement : CapabilityRequirement
  fields : List String
  lookbackPeriods : ℕ := 0
  dependencyId_notBlank : notBlank dependencyId = true
  fields_nonempty : fields ≠ []
  fields_notBlank : ∀ f ∈ fields, notBlank f = true
  fields_sorted : fields.Pairwise (· < ·)

/-- `SelectedStudyArtifactReference`. -/
@[ext]
structure SelectedStudyArtifactReference where
  researchRunId : ℕ
  codeVersionId : ℕ
  artifactId : ℕ
  artifactName : String
  artifactType : String
  outputContract : String
  runReproducibilityHash : String
  codeVersionDigest : Digest
  datasetManifestDigest : Digest
  artifactContentDigest : Digest
  artifactName_notBlank : notBlank artifactName = true

instance : DecidableEq SelectedStudyArtifactReference := fun _ _ =>
  decidable_of_iff' _ SelectedStudyArtifactReference.ext_iff

def SelectedStudyArtifactReference.toPy (r : SelectedStudyArtifactReference) : PyValue :=
  .dataclass "app.strategy_lab_v2.contracts.SelectedStudyArtifactReference"
    [({ name := "research_run_id" }, .int r.researchRunId),
      ({ name := "code_version_id" }, .int r.codeVersionId),
      ({ name := "artifact_id" }, .int r.artifactId),
      ({ name := "artifact_name" }, .str r.artifactName),
      ({ name := "artifact_type" }, .str r.artifactType),
      ({ name := "output_contract" }, .str r.outputContract),
      ({ name := "run_reproducibility_hash" }, .str r.runReproducibilityHash),
      ({ name := "code_version_digest" }, .str r.codeVersionDigest.text),
      ({ name := "dataset_manifest_digest" }, .str r.datasetManifestDigest.text),
      ({ name := "artifact_content_digest" }, .str r.artifactContentDigest.text)]

/-- `ResolvedStudyArtifactOutput`; its payload is frozen. -/
structure ResolvedStudyArtifactOutput where
  reference : SelectedStudyArtifactReference
  payload : List (PyKey × PyValue)
  payload_accepted : Accepted (.mapping payload)

def ResolvedStudyArtifactOutput.toPy (o : ResolvedStudyArtifactOutput) : PyValue :=
  .dataclass "app.strategy_lab_v2.contracts.ResolvedStudyArtifactOutput"
    [({ name := "reference" }, o.reference.toPy), ({ name := "payload" }, .mapping o.payload)]

/-- `StrategySdkManifest`, with the fingerprint of its content. -/
structure StrategySdkManifest where
  fingerprint : Digest
  selectedStudyArtifact : Option SelectedStudyArtifactReference := none
  dataDependencies : List StrategyDataDependency
  nonempty : dataDependencies ≠ []
  sorted : dataDependencies.Pairwise fun a b => a.dependencyId < b.dependencyId

def StrategySdkManifest.dependency (m : StrategySdkManifest) (id : String) :
    Option StrategyDataDependency :=
  rowWith StrategyDataDependency.dependencyId id m.dataDependencies

def StrategySdkManifest.bound (m : StrategySdkManifest) (id : String) : ℕ :=
  match m.dependency id with
  | some d => d.lookbackPeriods + 1
  | none => 0

def StrategySdkManifest.dependencyIds (m : StrategySdkManifest) : List String :=
  m.dataDependencies.map StrategyDataDependency.dependencyId

/-! ## Market events -/

/-- `MarketEvent`. -/
structure MarketEvent where
  dependencyId : String
  eventId : String
  instrumentId : String
  eventTime : Instant
  sequence : ℕ
  values : List (PyKey × PyValue)
  dependencyId_notBlank : notBlank dependencyId = true
  eventId_notBlank : notBlank eventId = true
  instrumentId_notBlank : notBlank instrumentId = true
  values_accepted : Accepted (.mapping values)
  values_frozen : Frozen (.mapping values)

namespace MarketEvent

def toPy (e : MarketEvent) : PyValue :=
  .dataclass "app.strategy_lab_v2.sdk.MarketEvent"
    [({ name := "dependency_id" }, .str e.dependencyId),
      ({ name := "event_id" }, .str e.eventId),
      ({ name := "instrument_id" }, .str e.instrumentId),
      ({ name := "event_time" }, .datetime (.utc e.eventTime)),
      ({ name := "sequence" }, .int e.sequence),
      ({ name := "values" }, .mapping e.values)]

/-- `(event_time, sequence)`. -/
def key (e : MarketEvent) : Instant ×ₗ ℕ := toLex (e.eventTime, e.sequence)

/-- `set(event.values)`. -/
def fieldNames (e : MarketEvent) : List String := e.values.map fun i => i.1.text

end MarketEvent

abbrev ContextEvents := String → List MarketEvent

structure StrategyDataDependency.Declares (d : StrategyDataDependency) (e : MarketEvent) : Prop where
  instrument : e.instrumentId = d.requirement.instrumentId
  interval : d.requirement.start ≤ e.eventTime ∧ e.eventTime < d.requirement.stop
  extra : ∀ f ∈ e.fieldNames, f ∈ d.fields
  missing : ∀ f ∈ d.fields, f ∈ e.fieldNames

/-! ## Contexts -/

/-- `PositionSnapshot`, with its decimals as they are written. -/
structure SdkPositionSnapshot where
  instrumentId : String
  quantity : PyDecimal
  averagePrice : Option PyDecimal
  marketValue : Option PyDecimal
  instrumentId_notBlank : notBlank instrumentId = true
  quantity_finite : quantity.isFinite = true
  averagePrice_finite : ∀ d ∈ averagePrice, d.isFinite = true
  marketValue_finite : ∀ d ∈ marketValue, d.isFinite = true

/-- `Decimal | None`. -/
def optionPyDecimal : Option PyDecimal → PyValue
  | some d => .decimal d
  | none => .none

def SdkPositionSnapshot.toPy (p : SdkPositionSnapshot) : PyValue :=
  .dataclass "app.strategy_lab_v2.sdk.PositionSnapshot"
    [({ name := "instrument_id" }, .str p.instrumentId),
      ({ name := "quantity" }, .decimal p.quantity),
      ({ name := "average_price" }, optionPyDecimal p.averagePrice),
      ({ name := "market_value" }, optionPyDecimal p.marketValue)]

abbrev StudyArtifacts := List (String × ResolvedStudyArtifactOutput)

def textDict {α : Type} (toPy : α → PyValue) (items : List (String × α)) : PyValue :=
  .mapping (items.map fun i => (.str i.1, toPy i.2))

/-- A series that a context at `t` and `n` may show. -/
structure VisibleSeries (t : Instant) (n : ℕ) (i : String × List MarketEvent) : Prop where
  notBlank : notBlank i.1 = true
  dependency : ∀ e ∈ i.2, e.dependencyId = i.1
  no_lookahead : ∀ e ∈ i.2, e.key ≤ toLex (t, n)
  chronological : i.2.Pairwise fun a b => a.key ≤ b.key

/-- `StrategyContext`. -/
structure StrategyContext where
  eventTime : Instant
  eventSequence : ℕ
  randomSeed : ℤ
  parameters : List (PyKey × PyValue)
  marketEvents : List (String × List MarketEvent)
  positions : List (String × SdkPositionSnapshot)
  studyArtifacts : Option StudyArtifacts
  visible : ∀ i ∈ marketEvents, VisibleSeries eventTime eventSequence i
  position_keys : ∀ i ∈ positions, i.1 = i.2.instrumentId

def StrategyContext.toPy (c : StrategyContext) : PyValue :=
  .dataclass "app.strategy_lab_v2.sdk.StrategyContext"
    [({ name := "event_time" }, .datetime (.utc c.eventTime)),
      ({ name := "event_sequence" }, .int c.eventSequence),
      ({ name := "random_seed" }, .int c.randomSeed),
      ({ name := "parameters" }, .mapping c.parameters),
      ({ name := "market_events" },
        textDict (fun es => .tuple (es.map MarketEvent.toPy)) c.marketEvents),
      ({ name := "positions" }, textDict SdkPositionSnapshot.toPy c.positions),
      ({ name := "study_artifacts", omitNone := true },
        (c.studyArtifacts.map (textDict ResolvedStudyArtifactOutput.toPy)).getD .none)]

/-- `freeze_json` of a mapping. -/
def freezeMapping (items : List (PyKey × PyValue)) : Except PyError (List (PyKey × PyValue)) := do
  let _ ← canonicalValue (.mapping items)
  return freezeEntries items

/-- The checks of `StrategyContext.__post_init__` on one series. -/
def checkSeries (t : Instant) (n : ℕ) (i : String × List MarketEvent) :
    Except PyError {i // VisibleSeries t n i} :=
  if h₁ : notBlank i.1 = true then
    if h₂ : ∀ e ∈ i.2, e.dependencyId = i.1 then
      if h₃ : ∀ e ∈ i.2, e.key ≤ toLex (t, n) then
        if h₄ : i.2.Pairwise fun a b => a.key ≤ b.key then .ok ⟨i, h₁, h₂, h₃, h₄⟩
        else .error (valueError "market data events must be chronological")
      else
        .error (valueError "strategy context cannot expose events after its current event time")
    else .error (valueError "market event does not match its declared dependency key")
  else .error (valueError "market data dependency ids must not be empty")

/-- `StrategyContext.__post_init__`. -/
def makeStrategyContext (eventTime : Instant) (eventSequence : ℕ) (randomSeed : ℤ)
    (parameters : List (PyKey × PyValue)) (marketEvents : List (String × List MarketEvent))
    (positions : List (String × SdkPositionSnapshot)) (studyArtifacts : Option StudyArtifacts) :
    Except PyError StrategyContext := do
  let frozen ← freezeMapping parameters
  let series ← collect (marketEvents.map (checkSeries eventTime eventSequence))
  if h : ∀ i ∈ positions, i.1 = i.2.instrumentId then do
    ensure (∀ i ∈ studyArtifacts.getD [], notBlank i.1 = true)
      (typeError "strategy Study artifacts must map names to resolved outputs")
    ensure (∀ i ∈ studyArtifacts.getD [], i.1 = i.2.reference.artifactName)
      (valueError "strategy Study artifact keys must match immutable artifact names")
    return {
      eventTime := eventTime
      eventSequence := eventSequence
      randomSeed := randomSeed
      parameters := frozen
      marketEvents := series.map Subtype.val
      positions := positions
      studyArtifacts := if studyArtifacts.getD [] = [] then none else studyArtifacts
      visible := fun i hi => by
        obtain ⟨x, -, rfl⟩ := mem_map.1 hi
        exact x.2
      position_keys := h }
  else .error (valueError "position map keys must match position instrument ids")

/-! ## Building contexts -/

def pinnedStudyArtifacts (m : StrategySdkManifest) (artifacts : Option StudyArtifacts) :
    Except PyError (Option StudyArtifacts) :=
  match m.selectedStudyArtifact with
  | none => do
    ensure (artifacts.getD [] = [])
      (valueError "strategy context cannot contain unpinned Study artifacts")
    return none
  | some selected =>
    match artifacts with
    | some [(name, output)] => do
      ensure (name = selected.artifactName ∧ output.reference = selected)
        (valueError "strategy context Study output differs from its immutable reference")
      return some [(name, output)]
    | _ =>
      .error (valueError "strategy context Study output differs from its immutable reference")

/-- `repr` of a text without quotes and escapes. -/
def reprText (s : String) : String := "'" ++ s ++ "'"

/-- `repr` of a list of texts. -/
def reprTexts (l : List String) : String := "[" ++ ", ".intercalate (l.map reprText) ++ "]"

/-- The checks of `build_strategy_context` on one event. -/
def checkContextEvent (d : StrategyDataDependency) (e : MarketEvent) : Except PyError Unit := do
  let name := "dependency " ++ reprText d.dependencyId
  ensure (e.instrumentId = d.requirement.instrumentId)
    (valueError (name ++ " contains an undeclared instrument"))
  ensure (d.requirement.start ≤ e.eventTime ∧ e.eventTime < d.requirement.stop)
    (valueError (name ++ " event falls outside its declared interval"))
  let extra := sortBy id (e.fieldNames.filter fun f => decide (f ∉ d.fields)).dedup
  ensure (extra = []) (valueError (name ++ " contains undeclared fields: " ++ reprTexts extra))
  let missing := sortBy id (d.fields.filter fun f => decide (f ∉ e.fieldNames))
  ensure (missing = []) (valueError (name ++ " is missing required fields: " ++ reprTexts missing))

/-- The checks of `build_strategy_context` on the events of a dependency. -/
def checkContextEvents (m : StrategySdkManifest) (i : String × List MarketEvent) :
    Except PyError Unit :=
  match m.dependency i.1 with
  | none => .error (keyError i.1)
  | some d => do
    ensure (i.2.length ≤ d.lookbackPeriods + 1)
      (valueError ("dependency " ++ reprText i.1 ++ " exceeds its declared lookback"))
    let _ ← collect (i.2.map (checkContextEvent d))
    return ()

/-- `build_strategy_context`. -/
def buildStrategyContext (m : StrategySdkManifest) (eventTime : Instant) (eventSequence : ℕ)
    (randomSeed : ℤ) (parameters : List (PyKey × PyValue))
    (marketEvents : List (String × List MarketEvent))
    (positions : Option (List (String × SdkPositionSnapshot)))
    (studyArtifacts : Option StudyArtifacts) :
    Except PyError StrategyContext := do
  let artifacts ← pinnedStudyArtifacts m studyArtifacts
  let provided := marketEvents.map Prod.fst
  let missing := sortBy id (m.dependencyIds.filter fun id => decide (id ∉ provided))
  let extra := sortBy id (provided.filter fun id => decide (id ∉ m.dependencyIds))
  ensure (missing = [] ∧ extra = []) (valueError ("market-data dependency mismatch; missing=" ++
    reprTexts missing ++ ", extra=" ++ reprTexts extra))
  ensure (∀ i ∈ positions.getD [], i.1 ∈ m.dataDependencies.map fun d => d.requirement.instrumentId)
    (valueError "strategy context contains an undeclared portfolio instrument")
  let _ ← collect (marketEvents.map (checkContextEvents m))
  makeStrategyContext eventTime eventSequence randomSeed parameters marketEvents
    (positions.getD []) artifacts

/-! ## What is built -/

section
variable {m : StrategySdkManifest} {d : StrategyDataDependency} {e : MarketEvent} {id : String}
  {t : Instant} {n : ℕ} {seed : ℤ} {parameters frozen : List (PyKey × PyValue)}
  {events : List (String × List MarketEvent)} {w : String → List MarketEvent}
  {positions : Option (List (String × SdkPositionSnapshot))}
  {artifacts pinned : Option StudyArtifacts} {c : StrategyContext} {i : String × List MarketEvent}

theorem StrategySdkManifest.nodup_ids (m : StrategySdkManifest) : m.dependencyIds.Nodup :=
  nodup_map_of_pairwise_lt m.sorted

theorem dependency_eq_some : m.dependency id = some d ↔
    d ∈ m.dataDependencies ∧ d.dependencyId = id := rowWith_eq_some m.nodup_ids

theorem dependency_of_mem (h : d ∈ m.dataDependencies) : m.dependency d.dependencyId = some d :=
  dependency_eq_some.2 ⟨h, rfl⟩

theorem StrategySdkManifest.bound_of_mem (h : d ∈ m.dataDependencies) :
    m.bound d.dependencyId = d.lookbackPeriods + 1 := by
  rw [bound, dependency_of_mem h]

def StrategySdkManifest.series (m : StrategySdkManifest) (w : String → List MarketEvent) :
    List (String × List MarketEvent) :=
  m.dataDependencies.map fun d => (d.dependencyId, w d.dependencyId)

theorem collect_unit_eq_ok {α : Type} {f : α → Except PyError Unit} {as : List α} :
    (∃ us, collect (as.map f) = .ok us) ↔ ∀ a ∈ as, f a = .ok () := by
  constructor
  · rintro ⟨us, hus⟩ a ha
    obtain ⟨u, -, hu⟩ := mem_map.1 (collect_eq_ok.1 hus ▸ mem_map_of_mem ha)
    exact hu.symm
  · intro h
    obtain ⟨us, hus⟩ := exists_map_ok fun a ha => ⟨(), h a ha⟩
    exact ⟨us, collect_eq_ok.2 hus⟩

theorem sortBy_eq_nil {α κ : Type} [LinearOrder κ] {key : α → κ} {l : List α} :
    sortBy key l = [] ↔ l = [] := by
  rw [← length_eq_zero_iff, (perm_sortBy key l).length_eq, length_eq_zero_iff]

theorem checkContextEvent_eq_ok : checkContextEvent d e = .ok () ↔ d.Declares e := by
  have hextra : (e.fieldNames.filter fun f => decide (f ∉ d.fields)).dedup = [] ↔
      ∀ f ∈ e.fieldNames, f ∈ d.fields := by
    rw [dedup_eq_nil, filter_eq_nil_iff]
    simp
  have hmissing : (d.fields.filter fun f => decide (f ∉ e.fieldNames)) = [] ↔
      ∀ f ∈ d.fields, f ∈ e.fieldNames := by
    rw [filter_eq_nil_iff]
    simp
  unfold checkContextEvent
  simp only [bind_eq_ok, ensure_eq_ok, sortBy_eq_nil, hextra, hmissing]
  constructor
  · rintro ⟨_, hinstrument, _, hinterval, _, hextra, hmissing⟩
    exact ⟨hinstrument, hinterval, hextra, hmissing⟩
  · intro h
    exact ⟨(), h.instrument, (), h.interval, (), h.extra, h.missing⟩

theorem checkSeries_eq_ok {x : {i // VisibleSeries t n i}}
    (h : checkSeries t n i = .ok x) : x.1 = i := by
  unfold checkSeries at h
  split_ifs at h
  exact congrArg Subtype.val (Except.ok.inj h).symm

theorem checkSeries_of (h : VisibleSeries t n i) :
    checkSeries t n i = .ok ⟨i, h⟩ := by
  unfold checkSeries
  rw [dif_pos h.notBlank, dif_pos h.dependency, dif_pos h.no_lookahead, dif_pos h.chronological]

theorem collect_checkSeries_eq_ok {xs : List {i // VisibleSeries t n i}}
    (h : collect (events.map (checkSeries t n)) = .ok xs) : xs.map Subtype.val = events := by
  replace h := collect_eq_ok.1 h
  induction events generalizing xs with
  | nil =>
    rw [map_nil, eq_comm, map_eq_nil_iff] at h
    rw [h, map_nil]
  | cons i events ih =>
    cases xs with
    | nil => cases h
    | cons x xs =>
      rw [map_cons, map_cons, List.cons.injEq] at h
      rw [map_cons, checkSeries_eq_ok h.1, ih h.2]

/-- **What a context shows**: what it was given. -/
theorem buildStrategyContext_eq_ok
    (h : buildStrategyContext m t n seed parameters events positions artifacts = .ok c) :
    c.eventTime = t ∧ c.eventSequence = n ∧ c.randomSeed = seed ∧ c.marketEvents = events ∧
      c.positions = positions.getD [] ∧ freezeMapping parameters = .ok c.parameters := by
  obtain ⟨pinned, -, h⟩ := bind_eq_ok.1 h
  obtain ⟨_, -, h⟩ := bind_eq_ok.1 h
  obtain ⟨_, -, h⟩ := bind_eq_ok.1 h
  obtain ⟨_, -, h⟩ := bind_eq_ok.1 h
  obtain ⟨frozen, hfrozen, h⟩ := bind_eq_ok.1 h
  obtain ⟨xs, hxs, h⟩ := bind_eq_ok.1 h
  by_cases hpos : ∀ i ∈ positions.getD [], i.1 = i.2.instrumentId
  · rw [dif_pos hpos] at h
    obtain ⟨_, -, h⟩ := bind_eq_ok.1 h
    obtain ⟨_, -, h⟩ := bind_eq_ok.1 h
    obtain rfl := Except.ok.inj h
    exact ⟨rfl, rfl, rfl, collect_checkSeries_eq_ok hxs, rfl, hfrozen⟩
  · rw [dif_neg hpos] at h
    cases h

theorem buildStrategyContext_checked
    (h : buildStrategyContext m t n seed parameters events positions artifacts = .ok c) :
    (∀ i ∈ events, ∀ d, m.dependency i.1 = some d → ∀ e ∈ i.2, d.Declares e) ∧
      (∀ i ∈ positions.getD [], i.1 ∈ m.dataDependencies.map fun d => d.requirement.instrumentId) ∧
      ∀ i ∈ positions.getD [], i.1 = i.2.instrumentId := by
  obtain ⟨_, -, h⟩ := bind_eq_ok.1 h
  obtain ⟨_, -, h⟩ := bind_eq_ok.1 h
  obtain ⟨_, hinstruments, h⟩ := bind_eq_ok.1 h
  obtain ⟨us, hus, h⟩ := bind_eq_ok.1 h
  obtain ⟨_, -, h⟩ := bind_eq_ok.1 h
  obtain ⟨_, -, h⟩ := bind_eq_ok.1 h
  refine ⟨fun i hi d hd e he => ?_, ensure_eq_ok.1 hinstruments, ?_⟩
  · have hi := collect_unit_eq_ok.1 ⟨us, hus⟩ i hi
    unfold checkContextEvents at hi
    simp only [hd] at hi
    obtain ⟨_, -, hi⟩ := bind_eq_ok.1 hi
    obtain ⟨us', hus', -⟩ := bind_eq_ok.1 hi
    exact checkContextEvent_eq_ok.1 (collect_unit_eq_ok.1 ⟨us', hus'⟩ e he)
  · by_contra hpos
    rw [dif_neg hpos] at h
    cases h

/-- The window of a declared dependency at `t` and `n`. -/
structure DeclaredWindow (d : StrategyDataDependency) (t : Instant) (n : ℕ)
    (es : List MarketEvent) : Prop where
  length_le : es.length ≤ d.lookbackPeriods + 1
  declared : ∀ e ∈ es, d.Declares e
  dependency : ∀ e ∈ es, e.dependencyId = d.dependencyId
  no_lookahead : ∀ e ∈ es, e.key ≤ toLex (t, n)
  chronological : es.Pairwise fun a b => a.key ≤ b.key

theorem pinnedStudyArtifacts_names (h : pinnedStudyArtifacts m artifacts = .ok pinned) :
    ∀ i ∈ pinned.getD [], notBlank i.1 = true ∧ i.1 = i.2.reference.artifactName := by
  intro i hi
  unfold pinnedStudyArtifacts at h
  cases hselected : m.selectedStudyArtifact with
  | none =>
    simp only [hselected] at h
    obtain ⟨_, -, h⟩ := bind_eq_ok.1 h
    rw [← Except.ok.inj h] at hi
    cases hi
  | some selected =>
    simp only [hselected] at h
    split at h
    · obtain ⟨_, hpin, h⟩ := bind_eq_ok.1 h
      obtain ⟨hname, href⟩ := ensure_eq_ok.1 hpin
      rw [← Except.ok.inj h] at hi
      rw [mem_singleton.1 hi]
      exact ⟨hname ▸ selected.artifactName_notBlank, hname.trans (href ▸ rfl)⟩
    · cases h

theorem buildStrategyContext_of (hpinned : pinnedStudyArtifacts m artifacts = .ok pinned)
    (hfrozen : freezeMapping parameters = .ok frozen)
    (hinstruments : ∀ i ∈ positions.getD [],
      i.1 ∈ m.dataDependencies.map fun d => d.requirement.instrumentId)
    (hpositions : ∀ i ∈ positions.getD [], i.1 = i.2.instrumentId)
    (hw : ∀ d ∈ m.dataDependencies, DeclaredWindow d t n (w d.dependencyId)) :
    ∃ c, buildStrategyContext m t n seed parameters (m.series w) positions artifacts = .ok c := by
  have hids : (m.series w).map Prod.fst = m.dependencyIds := by
    rw [StrategySdkManifest.series, map_map]
    rfl
  have hmatch : sortBy id (m.dependencyIds.filter fun id =>
        decide (id ∉ (m.series w).map Prod.fst)) = [] ∧
      sortBy id (((m.series w).map Prod.fst).filter fun id => decide (id ∉ m.dependencyIds)) =
        [] := by
    have hnil : (m.dependencyIds.filter fun id => decide (id ∉ m.dependencyIds)) = [] :=
      filter_eq_nil_iff.2 fun f hf => by simpa using hf
    rw [hids, hnil]
    exact ⟨rfl, rfl⟩
  have hcheck : ∀ i ∈ m.series w, checkContextEvents m i = .ok () := by
    intro i hi
    obtain ⟨d, hd, rfl⟩ := mem_map.1 hi
    obtain ⟨us, hus⟩ := collect_unit_eq_ok.2 fun e he =>
      checkContextEvent_eq_ok.2 ((hw d hd).declared e he)
    unfold checkContextEvents
    simp only [dependency_of_mem hd]
    rw [ensure_of (hw d hd).length_le, ok_bind, hus]
    rfl
  have hvisible : ∀ i ∈ m.series w, ∃ x, checkSeries t n i = .ok x := by
    intro i hi
    obtain ⟨d, hd, rfl⟩ := mem_map.1 hi
    exact ⟨_, checkSeries_of ⟨d.dependencyId_notBlank, (hw d hd).dependency,
      (hw d hd).no_lookahead, (hw d hd).chronological⟩⟩
  obtain ⟨us, hus⟩ := collect_unit_eq_ok.2 hcheck
  obtain ⟨xs, hxs⟩ := exists_map_ok hvisible
  have hnames := pinnedStudyArtifacts_names hpinned
  unfold buildStrategyContext makeStrategyContext
  rw [hpinned, ok_bind]
  dsimp only
  rw [ensure_of hmatch, ok_bind, ensure_of hinstruments, ok_bind, hus, ok_bind, hfrozen, ok_bind,
    collect_eq_ok.2 hxs, ok_bind, dif_pos hpositions, ensure_of fun i hi => (hnames i hi).1, ok_bind,
    ensure_of fun i hi => (hnames i hi).2, ok_bind]
  exact ⟨_, rfl⟩

theorem StrategyContext.no_lookahead {es : List MarketEvent} (h : (id, es) ∈ c.marketEvents)
    (he : e ∈ es) : e.key ≤ toLex (c.eventTime, c.eventSequence) :=
  (c.visible _ h).no_lookahead e he

theorem freezeMapping_of_frozen (ha : Accepted (.mapping parameters))
    (hf : Frozen (.mapping parameters)) : freezeMapping parameters = .ok parameters := by
  obtain ⟨j, hj⟩ := ha
  have h := PyValue.mapping.inj (freezeValue_of_frozen hf)
  rw [freezeMapping, hj, ok_bind, h]
  rfl

theorem freezeMapping_eq_ok (h : freezeMapping parameters = .ok frozen) :
    Accepted (.mapping frozen) ∧ Frozen (.mapping frozen) := by
  obtain ⟨j, hj, h⟩ := bind_eq_ok.1 h
  obtain rfl := Except.ok.inj h
  have hfreeze : freezeValue (.mapping parameters) = .mapping (freezeEntries parameters) := rfl
  exact ⟨hfreeze ▸ accepted_freezeValue _ ⟨j, hj⟩, hfreeze ▸ frozen_freezeValue _ ⟨j, hj⟩⟩

end

end ChartingPlatform
