/-
  Point-in-time membership of ETFs (`etf_pit.py`): `resolve_etf_pit_membership` and
  `freeze_etf_pit_membership`.

  The tables are lists of rows with unique primary keys, as far as the queries read them;
  datetimes of rows are UTC instants, the decision time keeps its zone.  The JSON of a
  snapshot is a Python value.
-/
import ChartingPlatform.Bars.CoverageGaps
import ChartingPlatform.Lib.Newest
import ChartingPlatform.Quota.Contracts
import ChartingPlatform.Search.State
import ChartingPlatform.Snapshots.FrozenCoverage

namespace ChartingPlatform

open Lib

/-! ## Rows -/

/-- `Instrument`. -/
structure EtfInstrument where
  id : ℤ
  domainKey : Option String
  identityStatus : String
  isActive : Bool
  isSynthetic : Bool

/-- `ETFProfile`. -/
structure EtfProfile where
  id : ℤ
  instrumentId : ℤ

/-- `ETFHoldingsSnapshot`; ids are taken from a sequence. -/
structure EtfHoldingsSnapshot where
  id : ℤ
  etfProfileId : ℤ
  sourceArtifactId : Option ℤ
  compositionDate : Day
  knownAt : Option Instant
  publishedAt : Option Instant
  provenance : String
  sourceProvider : String
  sourceQuality : String
  completenessStatus : String
  rowCount : ℤ
  resolvedCount : ℤ
  unresolvedCount : ℤ
  snapshotHash : String
  extraData : PyValue
  id_pos : 0 < id

/-- `ETFHolding`. -/
structure EtfHolding where
  id : ℤ
  snapshotId : ℤ
  constituentInstrumentId : Option ℤ
  position : ℤ
  weight : Option PyDecimal
  holdingType : String
  rowType : String
  sourceRowHash : String
  isResolved : Bool

structure EtfTables where
  instruments : List EtfInstrument
  profiles : List EtfProfile
  snapshots : List EtfHoldingsSnapshot
  holdings : List EtfHolding
  instruments_ids : (instruments.map (·.id)).Nodup
  snapshots_ids : (snapshots.map (·.id)).Nodup
  holdings_ids : (holdings.map (·.id)).Nodup

/-! ## Memberships -/

/-- `ETFConstituentIdentity`. -/
structure EtfConstituentIdentity where
  instrumentId : ℤ
  domainKey : String
  sourceRowHash : String
  position : ℤ
  weight : PyDecimal

/-- `ETFPointInTimeMembership`. -/
structure EtfPointInTimeMembership where
  etfInstrumentId : String
  etfDatabaseId : ℤ
  profileId : ℤ
  snapshotId : ℤ
  compositionDate : Day
  knownAt : Instant
  publishedAt : Option Instant
  sourceArtifactId : Option ℤ
  provenance : String
  sourceProvider : String
  sourceQuality : String
  completenessStatus : String
  snapshotHash : String
  constituents : List EtfConstituentIdentity
  contentDigest : Digest

def EtfConstituentIdentity.toPy (c : EtfConstituentIdentity) : PyValue :=
  .dataclass "app.strategy_lab_v2.etf_pit.ETFConstituentIdentity"
    [({ name := "instrument_id" }, .int c.instrumentId),
      ({ name := "domain_key" }, .str c.domainKey),
      ({ name := "source_row_hash" }, .str c.sourceRowHash),
      ({ name := "position" }, .int c.position), ({ name := "weight" }, .decimal c.weight)]

/-- `lineage`. -/
def EtfPointInTimeMembership.lineage (m : EtfPointInTimeMembership) : PyValue :=
  .mapping [(.str "etf_instrument_id", .str m.etfInstrumentId),
    (.str "etf_database_id", .int m.etfDatabaseId), (.str "profile_id", .int m.profileId),
    (.str "snapshot_id", .int m.snapshotId), (.str "composition_date", .date m.compositionDate),
    (.str "known_at", .datetime (.utc m.knownAt)),
    (.str "published_at", optionInstant m.publishedAt),
    (.str "source_artifact_id", m.sourceArtifactId.elim .none .int),
    (.str "provenance", .str m.provenance), (.str "source_provider", .str m.sourceProvider),
    (.str "source_quality", .str m.sourceQuality),
    (.str "completeness_status", .str m.completenessStatus),
    (.str "snapshot_hash", .str m.snapshotHash),
    (.str "constituents", .tuple (m.constituents.map EtfConstituentIdentity.toPy))]

/-! ## The JSON of a snapshot -/

/-- `value if isinstance(value, dict) else {}`. -/
def dictOf : PyValue → List (PyKey × PyValue)
  | .mapping items => items
  | _ => []

/-- `items.get(key)`. -/
def getItem (items : List (PyKey × PyValue)) (key : String) : PyValue :=
  (rowWith Prod.fst (.str key) items).elim .none Prod.snd

/-- `bool(value)` of a JSON value. -/
def truthy : PyValue → Bool
  | .none => false
  | .bool b => b
  | .int z => z ≠ 0
  | .float x => ¬ (x.exponent.val = 0 ∧ x.fraction.val = 0)
  | .str s => s ≠ ""
  | .list items => !items.isEmpty
  | .mapping items => !items.isEmpty
  | _ => true

/-- `value in texts` of a JSON value and a set of texts. -/
def memberOf (texts : List String) : PyValue → Except PyError Bool
  | .str s => .ok (s ∈ texts)
  | .list _ => .error (typeError "unhashable type: 'list'")
  | .mapping _ => .error (typeError "unhashable type: 'dict'")
  | _ => .ok false

namespace EtfHoldingsSnapshot

variable (s : EtfHoldingsSnapshot)

/-- `metadata`. -/
def metadata : List (PyKey × PyValue) := dictOf s.extraData

/-- `legal_metadata`. -/
def legalMetadata : List (PyKey × PyValue) := dictOf (getItem s.metadata "legal_metadata")

def identityStatus : PyValue :=
  let validation := getItem s.metadata "artifact_identity_validation"
  getItem (dictOf (if truthy validation then validation
    else getItem s.legalMetadata "artifact_identity_validation")) "status"

/-- `source_tier`. -/
def sourceTier : PyValue :=
  let tier := getItem s.metadata "source_tier"
  if truthy tier then tier else getItem s.legalMetadata "source_tier"

/-- `quality`. -/
def quality : String := lower (strip s.sourceQuality)

end EtfHoldingsSnapshot

/-! ## Freezing -/

def constituentOf (s : EtfHoldingsSnapshot) (row : EtfHolding × Option EtfInstrument) :
    Option EtfConstituentIdentity :=
  match row.2, row.1.weight with
  | some instrument, some weight =>
    match instrument.domainKey with
    | some domainKey =>
      if row.1.snapshotId = s.id ∧ row.1.rowType = "security" ∧ row.1.holdingType = "equity" ∧
          row.1.isResolved = true ∧ row.1.constituentInstrumentId = some instrument.id ∧
          domainKey ≠ "" ∧ instrument.identityStatus = "resolved" ∧ instrument.isActive = true ∧
          instrument.isSynthetic = false ∧ row.1.sourceRowHash ≠ "" ∧ weight.isFinite = true ∧
          0 ≤ weight.value ∧ weight.value ≤ 1 then
        some ⟨instrument.id, domainKey, row.1.sourceRowHash, row.1.position, weight⟩
      else none
    | none => none
  | _, _ => none

def SeenBefore (seen : List EtfConstituentIdentity) (c : EtfConstituentIdentity) : Prop :=
  c.instrumentId ∈ seen.map (·.instrumentId) ∨ c.domainKey ∈ seen.map (·.domainKey) ∨
    c.sourceRowHash ∈ seen.map (·.sourceRowHash)

instance (seen : List EtfConstituentIdentity) (c : EtfConstituentIdentity) :
    Decidable (SeenBefore seen c) :=
  inferInstanceAs (Decidable (_ ∨ _ ∨ _))

def freezeRows (s : EtfHoldingsSnapshot) (constituents : List EtfConstituentIdentity) :
    List (EtfHolding × Option EtfInstrument) → Except PyError (List EtfConstituentIdentity)
  | [] => .ok constituents
  | row :: rows =>
    match constituentOf s row with
    | none => .error (valueError "ETF constituent identity or row evidence is invalid")
    | some c => do
      ensure (¬ SeenBefore constituents c)
        (valueError "ETF membership contains ambiguous duplicate constituents")
      freezeRows s (constituents ++ [c]) rows

section
variable (sha256 : String → Digest) (etfInstrument : EtfInstrument) (profile : EtfProfile)
  (s : EtfHoldingsSnapshot) (rows : List (EtfHolding × Option EtfInstrument))

def membershipOf (domainKey : String) (knownAt : Instant)
    (constituents : List EtfConstituentIdentity) : EtfPointInTimeMembership :=
  let m : EtfPointInTimeMembership :=
    { etfInstrumentId := domainKey
      etfDatabaseId := etfInstrument.id
      profileId := profile.id
      snapshotId := s.id
      compositionDate := s.compositionDate
      knownAt := knownAt
      publishedAt := s.publishedAt
      sourceArtifactId := s.sourceArtifactId
      provenance := s.provenance
      sourceProvider := s.sourceProvider
      sourceQuality := s.sourceQuality
      completenessStatus := s.completenessStatus
      snapshotHash := s.snapshotHash
      constituents := sortBy (fun c => toLex (c.position, c.domainKey)) constituents
      contentDigest := ⟨""⟩ }
  { m with contentDigest := digest sha256 m.lineage }

/-- `freeze_etf_pit_membership` at a UTC instant. -/
def freezeAt (decisionTime : Instant) : Except PyError EtfPointInTimeMembership := do
  ensure (etfInstrument.domainKey.getD "" ≠ "" ∧ etfInstrument.identityStatus = "resolved" ∧
      etfInstrument.isActive = true ∧ etfInstrument.isSynthetic = false)
    (valueError "ETF identity is not canonical and active")
  ensure (profile.instrumentId = etfInstrument.id)
    (valueError "ETF profile does not match canonical identity")
  ensure (s.etfProfileId = profile.id) (valueError "snapshot does not match ETF profile")
  ensure (s.compositionDate ≤ dateOf decisionTime)
    (valueError "ETF composition is later than decision time")
  match s.knownAt with
  | none => .error (valueError "ETF snapshot known_at is required for point-in-time use")
  | some knownAt =>
    ensure (knownAt ≤ decisionTime) (valueError "ETF snapshot was not known at decision time")
    ensure (s.completenessStatus ∈ ["complete", "issuer_current", "issuer_reported",
      "self_snapshotted"]) (valueError "ETF snapshot is not complete")
    ensure (s.provenance ≠ "" ∧ s.sourceProvider ≠ "" ∧ s.snapshotHash ≠ "")
      (valueError "ETF snapshot provenance is incomplete")
    let matched ← memberOf ["matched", "matched_inferred"] s.identityStatus
    ensure (matched = true)
      (valueError "ETF snapshot lacks producer-verified artifact identity")
    let native ← memberOf ["issuer_native", "successor_native", "licensed_vendor"] s.sourceTier
    ensure (native = true)
      (valueError "ETF snapshot source tier is denied for Strategy inputs")
    ensure (∃ start ∈ ["issuer_", "successor_", "licensed_", "self_snapshotted_"],
        start.toList.isPrefixOf s.quality.toList = true)
      (valueError "ETF snapshot source quality is unknown or denied")
    ensure (0 < s.rowCount ∧ rows.length = s.rowCount)
      (valueError "ETF membership row count is partial")
    ensure (s.unresolvedCount = 0 ∧ s.resolvedCount = s.rowCount)
      (valueError "ETF membership contains unresolved rows")
    let constituents ← freezeRows s [] rows
    ensure (s.publishedAt.all (fun t => decide (t ≤ decisionTime)) = true)
      (valueError "ETF snapshot publication is later than decision time")
    return membershipOf sha256 etfInstrument profile s (etfInstrument.domainKey.getD "") knownAt
      constituents

/-- `freeze_etf_pit_membership`. -/
def freezeEtfPitMembership (decisionTime : PyDateTime) : Except PyError EtfPointInTimeMembership :=
  match decisionTime.utcoffset with
  | none => .error (valueError "ETF decision_time must be timezone-aware")
  | some offset => do
    freezeAt sha256 etfInstrument profile s rows (← decisionTime.astimezone offset)

end

/-! ## Resolving -/

namespace EtfTables

variable (db : EtfTables)

def knownSnapshots (profile : EtfProfile) (now : ℤ) (day : Day) (snapshotId : Option ℤ) :
    List EtfHoldingsSnapshot :=
  db.snapshots.filter fun s => decide (s.etfProfileId = profile.id) &&
    s.knownAt.any (fun k => decide ((k.val : ℤ) ≤ now)) &&
    match snapshotId with
    | none => decide (s.compositionDate ≤ day)
    | some id => decide (s.id = id)

def holdingRows (s : EtfHoldingsSnapshot) : List (EtfHolding × Option EtfInstrument) :=
  (sortBy (fun h => toLex (h.position, h.id)) (db.holdings.filter fun h => h.snapshotId = s.id)).map
    fun h => (h, h.constituentInstrumentId.bind fun id => rowWith (·.id) id db.instruments)

end EtfTables

def EtfHoldingsSnapshot.recency (s : EtfHoldingsSnapshot) : Day ×ₗ WithBot Instant :=
  toLex (s.compositionDate, s.knownAt)

/-- `resolve_etf_pit_membership`. -/
def resolveEtfPitMembership (sha256 : String → Digest) (db : EtfTables) (etfInstrumentId : String)
    (decisionTime : PyDateTime) (snapshotId : Option ℤ) :
    Except PyError EtfPointInTimeMembership := do
  ensure (notBlank etfInstrumentId = true)
    (valueError "etf_instrument_id must be a canonical domain key")
  match decisionTime.moment with
  | none => .error (valueError "ETF decision_time must be timezone-aware")
  | some now =>
    match onlyRow (db.instruments.filter fun i => i.domainKey = some etfInstrumentId) with
    | none => .error (valueError "ETF canonical identity is missing or ambiguous")
    | some instrument =>
      match onlyRow (db.profiles.filter fun p => p.instrumentId = instrument.id) with
      | none => .error (valueError "ETF profile is missing or ambiguous")
      | some profile =>
        ensure (∀ id ∈ snapshotId, 0 < id)
          (valueError "pinned ETF snapshot_id must be a positive integer")
        let snapshots := db.knownSnapshots profile now (dateOf decisionTime.wall) snapshotId
        ensure (snapshots ≠ [])
          (valueError "pinned ETF snapshot is missing or was not known at decision time")
        ensure (snapshotId.isSome = true → snapshots.length = 1)
          (valueError "pinned ETF snapshot identity is ambiguous")
        match onlyRow (newest EtfHoldingsSnapshot.recency snapshots) with
        | none => .error (valueError "latest ETF point-in-time snapshot is ambiguous")
        | some snapshot =>
          freezeEtfPitMembership sha256 instrument profile snapshot (db.holdingRows snapshot)
            decisionTime

end ChartingPlatform
