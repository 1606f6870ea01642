/-
  The identity of a scientific trial (`contracts.py`, `ScientificTrial.create`).

  `create` digests the parameter set and the scenario as the caller wrote them;
  the constructor freezes both and compares the trial id with the digest of the
  frozen ones.

  The format of the given fingerprints is not checked.
-/
import ChartingPlatform.Canonical.Frozen
import ChartingPlatform.Forward.Fingerprints
import ChartingPlatform.Ranking.Results
import ChartingPlatform.Search.State

namespace ChartingPlatform

open Lib List

/-! ## Seeds and windows -/

/-- `TrialSeedPolicy`. -/
inductive TrialSeedPolicy where
  | perCandidate | sharedPerScenarioReplicate
  deriving DecidableEq, Repr

def TrialSeedPolicy.text : TrialSeedPolicy → String
  | .perCandidate => "per_candidate"
  | .sharedPerScenarioReplicate => "shared_per_scenario_replicate"

/-- `TRIAL_SEED_DERIVATION_VERSION`. -/
def trialSeedDerivationVersion : String := "strategy-lab.trial-seed.sha256-canonical-63.v1"

/-- `EXPLICIT_SEED_DERIVATION_VERSION`. -/
def explicitSeedDerivationVersion : String := "explicit-seed.v1"

def hexValue (c : Char) : ℕ :=
  if c.isDigit then c.toNat - '0'.toNat else c.toNat - 'a'.toNat + 10

/-- `int(fingerprint.split(":", 1)[1][:16], 16) & ((1 << 63) - 1)`. -/
def Digest.derivedSeed (d : Digest) : ℕ :=
  (((d.text.toList.dropWhile (· != ':')).drop 1).take 16).foldl
    (fun n c => 16 * n + hexValue c) 0 % 2 ^ 63

/-- `TrialRandomization`. -/
structure TrialRandomization where
  masterSeed : ℤ
  seed : ℤ
  policy : TrialSeedPolicy
  replicateIndex : ℕ
  scopeFingerprint : Option Digest
  seedGroupFingerprint : Option Digest
  replicateCount : ℕ
  derivationVersion : String
  index_lt : replicateIndex < replicateCount
  shared : policy = .sharedPerScenarioReplicate →
    scopeFingerprint.isSome = true ∧ seedGroupFingerprint.isSome = true
  version : derivationVersion = explicitSeedDerivationVersion ∨
    derivationVersion = trialSeedDerivationVersion
  explicit : derivationVersion = explicitSeedDerivationVersion →
    seedGroupFingerprint = none ∧ scopeFingerprint = none ∧ policy = .perCandidate ∧
      replicateIndex = 0 ∧ replicateCount = 1 ∧ masterSeed = seed
  derived : derivationVersion = trialSeedDerivationVersion →
    ∃ group, seedGroupFingerprint = some group ∧ seed = group.derivedSeed

namespace TrialRandomization

/-- `has_schedule_provenance`. -/
def hasScheduleProvenance (r : TrialRandomization) : Bool :=
  r.scopeFingerprint.isSome || r.policy != .perCandidate || r.replicateIndex != 0 ||
    r.replicateCount != 1

def toPy (r : TrialRandomization) : PyValue :=
  .dataclass "app.strategy_lab_v2.contracts.TrialRandomization"
    [({ name := "master_seed" }, .int r.masterSeed),
      ({ name := "seed" }, .int r.seed),
      ({ name := "policy" },
        .enum "app.strategy_lab_v2.contracts.TrialSeedPolicy" (.str r.policy.text)),
      ({ name := "replicate_index" }, .int r.replicateIndex),
      ({ name := "scope_fingerprint" }, optionDigest r.scopeFingerprint),
      ({ name := "seed_group_fingerprint" }, optionDigest r.seedGroupFingerprint),
      ({ name := "replicate_count" }, .int r.replicateCount),
      ({ name := "derivation_version" }, .str r.derivationVersion)]

def ofSeed (seed : ℤ) : TrialRandomization where
  masterSeed := seed
  seed := seed
  policy := .perCandidate
  replicateIndex := 0
  scopeFingerprint := none
  seedGroupFingerprint := none
  replicateCount := 1
  derivationVersion := explicitSeedDerivationVersion
  index_lt := Nat.one_pos
  shared := nofun
  version := .inl rfl
  explicit _ := ⟨rfl, rfl, rfl, rfl, rfl, rfl⟩
  derived h := absurd h (by decide)

end TrialRandomization

/-- `EvaluationWindow`; its instants are in UTC. -/
structure EvaluationWindow where
  start : Instant
  stop : Instant
  purpose : String
  warmupStart : Option Instant
  start_lt : start < stop
  warmup_le : ∀ w ∈ warmupStart, w ≤ start
  purpose_nonempty : notBlank purpose = true

def EvaluationWindow.toPy (w : EvaluationWindow) : PyValue :=
  .dataclass "app.strategy_lab_v2.contracts.EvaluationWindow"
    [({ name := "start" }, .datetime (.utc w.start)),
      ({ name := "end" }, .datetime (.utc w.stop)),
      ({ name := "purpose" }, .str w.purpose),
      ({ name := "warmup_start" }, optionInstant w.warmupStart)]

/-! ## Trials -/

/-- A `PreflightReport` with its fingerprint. -/
structure FingerprintedReport extends PreflightReport where
  fingerprint : Digest

structure TrialIdentity where
  experimentFingerprint : Digest
  snapshotFingerprint : Digest
  preflightFingerprint : Digest
  parameterSet : PyValue
  scenario : PyValue
  seed : ℤ
  randomization : TrialRandomization
  evaluationWindow : Option EvaluationWindow

namespace TrialIdentity

def optional (i : TrialIdentity) : List (PyKey × PyValue) :=
  (if i.randomization.hasScheduleProvenance then
      [(.str "randomization", i.randomization.toPy)] else []) ++
    (i.evaluationWindow.map fun w => (PyKey.str "evaluation_window", w.toPy)).toList

/-- `_identity_payload`. -/
def entries (i : TrialIdentity) : List (PyKey × PyValue) :=
  [(.str "experiment_fingerprint", .str i.experimentFingerprint.text),
    (.str "snapshot_fingerprint", .str i.snapshotFingerprint.text),
    (.str "preflight_fingerprint", .str i.preflightFingerprint.text),
    (.str "parameter_set", i.parameterSet), (.str "scenario", i.scenario),
    (.str "seed", .int i.seed)] ++ i.optional

def withData (i : TrialIdentity) (parameterSet scenario : PyValue) : TrialIdentity :=
  { i with parameterSet := parameterSet, scenario := scenario }

def frozen (i : TrialIdentity) : TrialIdentity :=
  i.withData (freezeValue i.parameterSet) (freezeValue i.scenario)

end TrialIdentity

/-- `ScientificTrial` with everything its identity is made of. -/
structure IdentifiedTrial extends ScientificTrial where
  preflightFingerprint : Digest
  parameterSet : PyValue
  scenario : PyValue
  seed : ℤ
  randomization : TrialRandomization
  evaluationWindow : Option EvaluationWindow
  seed_eq : randomization.seed = seed
  scope : randomization.scopeFingerprint = none ∨
    randomization.scopeFingerprint = some experimentFingerprint

/-- The arguments of `ScientificTrial.create`. -/
structure TrialArguments where
  experimentFingerprint : Digest
  snapshotFingerprint : Digest
  preflightReport : FingerprintedReport
  parameterSet : List (PyKey × PyValue)
  scenario : Option (List (PyKey × PyValue)) := none
  seed : Option ℤ := none
  randomization : Option TrialRandomization := none
  evaluationWindow : Option EvaluationWindow := none

namespace TrialArguments

/-- `trial_seed`. -/
def trialSeed (a : TrialArguments) : ℤ :=
  match a.seed, a.randomization with
  | none, none => 0
  | none, some r => r.seed
  | some seed, _ => seed

/-- The given assignment, or that of the seed alone. -/
def assignment (a : TrialArguments) : TrialRandomization :=
  a.randomization.getD (.ofSeed a.trialSeed)

/-- The identity with the data as the caller wrote it. -/
def identity (a : TrialArguments) : TrialIdentity where
  experimentFingerprint := a.experimentFingerprint
  snapshotFingerprint := a.snapshotFingerprint
  preflightFingerprint := a.preflightReport.fingerprint
  parameterSet := .mapping a.parameterSet
  scenario := .mapping (a.scenario.getD [])
  seed := a.trialSeed
  randomization := a.assignment
  evaluationWindow := a.evaluationWindow

/-- The seed and the scope of the assignment agree with the trial's. -/
def Coherent (a : TrialArguments) : Prop :=
  a.assignment.seed = a.trialSeed ∧
    (a.assignment.scopeFingerprint = none ∨
      a.assignment.scopeFingerprint = some a.experimentFingerprint)

instance (a : TrialArguments) : Decidable a.Coherent := inferInstanceAs (Decidable (_ ∧ _))

end TrialArguments

namespace ScientificTrial

/-- `ScientificTrial.__post_init__`. -/
def postInit (sha256 : String → Digest) (trialId : Digest) (report : FingerprintedReport)
    (i : TrialIdentity) : Except PyError IdentifiedTrial :=
  if hx : report.executable = true then
    if hseed : i.randomization.seed = i.seed then
      if hscope : i.randomization.scopeFingerprint = none ∨
          i.randomization.scopeFingerprint = some i.experimentFingerprint then do
        let parameterSet ← freezeJson i.parameterSet
        let scenario ← freezeJson i.scenario
        let expected ← contentDigest sha256 (.mapping (i.withData parameterSet scenario).entries)
        ensure (trialId = expected)
          (valueError "trial_id does not match the immutable scientific trial identity")
        return {
          trialId := trialId
          experimentFingerprint := i.experimentFingerprint
          snapshotFingerprint := i.snapshotFingerprint
          preflightReport := report.toPreflightReport
          executable := hx
          preflightFingerprint := i.preflightFingerprint
          parameterSet := parameterSet
          scenario := scenario
          seed := i.seed
          randomization := i.randomization
          evaluationWindow := i.evaluationWindow
          seed_eq := hseed
          scope := hscope }
      else .error (valueError "trial randomization scope must match its experiment")
    else .error (valueError "trial seed must match its randomization assignment")
  else .error (valueError "unsupported preflight reports cannot create executable trials")

/-- `ScientificTrial.create`. -/
def create (sha256 : String → Digest) (a : TrialArguments) : Except PyError IdentifiedTrial := do
  ensure (a.assignment.seed = a.trialSeed)
    (valueError "trial seed must match its randomization assignment")
  let trialId ← contentDigest sha256 (.mapping a.identity.entries)
  postInit sha256 trialId a.preflightReport a.identity

end ScientificTrial

/-! ## What is digested -/

variable {v : PyValue}

theorem contentDigest_of_accepted (sha256 : String → Digest) (h : Accepted v) :
    contentDigest sha256 v = .ok (digest sha256 v) := by
  obtain ⟨j, hj⟩ := h
  simp only [digest, contentDigest, canonicalJson, hj, Except.map]

theorem freezeJson_of_accepted (h : Accepted v) :
    freezeJson v = .ok (freezeValue v) := by
  obtain ⟨j, hj⟩ := h
  rw [freezeJson, hj]
  rfl

theorem accepted_optionDigest (d : Option Digest) : Accepted (optionDigest d) :=
  accepted_optionText _

theorem accepted_trialRandomization (r : TrialRandomization) : Accepted r.toPy := by
  refine accepted_dataclass fun f hf => ?_
  simp only [mem_cons, not_mem_nil, or_false] at hf
  rcases hf with rfl | rfl | rfl | rfl | rfl | rfl | rfl | rfl
  · exact accepted_int _
  · exact accepted_int _
  · exact accepted_enum _ (accepted_str _)
  · exact accepted_int _
  · exact accepted_optionDigest _
  · exact accepted_optionDigest _
  · exact accepted_int _
  · exact accepted_str _

theorem accepted_evaluationWindow (w : EvaluationWindow) : Accepted w.toPy := by
  refine accepted_dataclass fun f hf => ?_
  simp only [mem_cons, not_mem_nil, or_false] at hf
  rcases hf with rfl | rfl | rfl | rfl
  · exact accepted_utc _
  · exact accepted_utc _
  · exact accepted_str _
  · exact accepted_optionInstant _

namespace TrialIdentity

variable {i : TrialIdentity}

theorem mem_optional {e : PyKey × PyValue} (h : e ∈ i.optional) :
    e = (.str "randomization", i.randomization.toPy) ∨
      ∃ w, e = (.str "evaluation_window", EvaluationWindow.toPy w) := by
  rw [optional, mem_append] at h
  rcases h with h | h
  · split at h
    · exact .inl (mem_singleton.1 h)
    · cases h
  · cases hw : i.evaluationWindow with
    | none =>
      rw [hw] at h
      cases h
    | some w =>
      rw [hw] at h
      exact .inr ⟨w, mem_singleton.1 h⟩

theorem accepted_entries (hp : Accepted i.parameterSet)
    (hs : Accepted i.scenario) : Accepted (.mapping i.entries) := by
  refine accepted_mapping fun e he => ?_
  rcases mem_append.1 he with he | he
  · simp only [mem_cons, not_mem_nil, or_false] at he
    rcases he with rfl | rfl | rfl | rfl | rfl | rfl
    · exact ⟨PyKey.noConfusion, accepted_str _⟩
    · exact ⟨PyKey.noConfusion, accepted_str _⟩
    · exact ⟨PyKey.noConfusion, accepted_str _⟩
    · exact ⟨PyKey.noConfusion, hp⟩
    · exact ⟨PyKey.noConfusion, hs⟩
    · exact ⟨PyKey.noConfusion, accepted_int _⟩
  · rcases mem_optional he with rfl | ⟨w, rfl⟩
    · exact ⟨PyKey.noConfusion, accepted_trialRandomization _⟩
    · exact ⟨PyKey.noConfusion, accepted_evaluationWindow w⟩

theorem accepted_frozen (i : TrialIdentity) (hp : Accepted i.parameterSet)
    (hs : Accepted i.scenario) : Accepted (.mapping i.frozen.entries) :=
  accepted_entries (accepted_freezeValue _ hp) (accepted_freezeValue _ hs)

theorem nodup_keys (i : TrialIdentity) : (i.entries.map Prod.fst).Nodup := by
  cases hw : i.evaluationWindow with
  | none | some w =>
    by_cases hr : i.randomization.hasScheduleProvenance = true
    · simp [entries, optional, hr, hw]
    · simp [entries, optional, hr, hw]

theorem parameterSet_mem (i : TrialIdentity) :
    (PyKey.str "parameter_set", i.parameterSet) ∈ i.entries :=
  mem_append_left _ (by simp)

theorem scenario_mem (i : TrialIdentity) : (PyKey.str "scenario", i.scenario) ∈ i.entries :=
  mem_append_left _ (by simp)

theorem same_of_entries {j : TrialIdentity} (h : Same (.mapping i.entries) (.mapping j.entries))
    {k : PyKey} {v w : PyValue} (hv : (k, v) ∈ i.entries) (hw : (k, w) ∈ j.entries) : Same v w := by
  obtain ⟨w', hw', hsame⟩ := same_of_mem_mapping h hv
  have heq : (k, w') = (k, w) := inj_on_of_nodup_map j.nodup_keys hw' hw rfl
  rwa [(Prod.mk.inj heq).2] at hsame

end TrialIdentity

/-! ## Which trials are created -/

theorem postInit_eq_ok_iff (sha256 : String → Digest) (trialId : Digest)
    (report : FingerprintedReport) {i : TrialIdentity} (hp : Accepted i.parameterSet)
    (hs : Accepted i.scenario) :
    (∃ t, ScientificTrial.postInit sha256 trialId report i = .ok t) ↔
      report.executable = true ∧ i.randomization.seed = i.seed ∧
        (i.randomization.scopeFingerprint = none ∨
          i.randomization.scopeFingerprint = some i.experimentFingerprint) ∧
        trialId = digest sha256 (.mapping i.frozen.entries) := by
  have hdigest := contentDigest_of_accepted sha256 (i.accepted_frozen hp hs)
  unfold ScientificTrial.postInit
  split_ifs with hx hseed hscope
  · rw [freezeJson_of_accepted hp, ok_bind, freezeJson_of_accepted hs, ok_bind]
    change (∃ t, (contentDigest sha256 (.mapping i.frozen.entries) >>= _) = _) ↔ _
    rw [hdigest, ok_bind]
    constructor
    · rintro ⟨t, h⟩
      obtain ⟨_, h, -⟩ := bind_eq_ok.1 h
      exact ⟨hx, hseed, hscope, ensure_eq_ok.1 h⟩
    · rintro ⟨-, -, -, h⟩
      rw [ensure_of h, ok_bind]
      exact ⟨_, rfl⟩
  · exact ⟨fun ⟨_, h⟩ => (nomatch h), fun h => absurd h.2.2.1 hscope⟩
  · exact ⟨fun ⟨_, h⟩ => (nomatch h), fun h => absurd h.2.1 hseed⟩
  · exact ⟨fun ⟨_, h⟩ => (nomatch h), fun h => absurd h.1 hx⟩

theorem postInit_spec {sha256 : String → Digest} {trialId : Digest} {report : FingerprintedReport}
    {i : TrialIdentity} {t : IdentifiedTrial} (hp : Accepted i.parameterSet)
    (hs : Accepted i.scenario) (h : ScientificTrial.postInit sha256 trialId report i = .ok t) :
    t.trialId = digest sha256 (.mapping i.frozen.entries) ∧
      t.parameterSet = freezeValue i.parameterSet ∧ t.scenario = freezeValue i.scenario := by
  have hid := ((postInit_eq_ok_iff _ _ _ hp hs).1 ⟨t, h⟩).2.2.2
  unfold ScientificTrial.postInit at h
  split_ifs at h with hx hseed hscope
  rw [freezeJson_of_accepted hp, ok_bind, freezeJson_of_accepted hs, ok_bind] at h
  obtain ⟨_, -, h⟩ := bind_eq_ok.1 h
  obtain ⟨_, -, h⟩ := bind_eq_ok.1 h
  cases h
  exact ⟨hid, rfl, rfl⟩

/-- The parameter set and the scenario are ones that `freeze_json` accepts. -/
structure TrialArguments.Admissible (a : TrialArguments) : Prop where
  proper : Proper (.mapping a.parameterSet)
  accepted : Accepted (.mapping a.parameterSet)
  scenario_proper : Proper (.mapping (a.scenario.getD []))
  scenario_accepted : Accepted (.mapping (a.scenario.getD []))

theorem same_of_accepted (h : Accepted v) : Same v v := by
  obtain ⟨j, hj⟩ := h
  exact same_of_canonicalValue v v j hj hj

theorem sameEntries_refl {es : List (PyKey × PyValue)} (h : ∀ e ∈ es, Accepted e.2) :
    SameEntries es es := by
  induction es with
  | nil => exact .nil
  | cons e es ih =>
    exact .cons (same_of_accepted (h e mem_cons_self))
      (ih fun e' he' => h e' (mem_cons_of_mem _ he'))

namespace TrialIdentity

theorem wf_entries {i : TrialIdentity} (hp : Wf i.parameterSet) (hs : Wf i.scenario) :
    Wf (.mapping i.entries) := by
  have htext : ∀ s : Option String, Wf (optionText s) := fun s => by
    cases s
    · exact .none
    · exact .str
  have hinstant : ∀ t : Option Instant, Wf (optionInstant t) := fun t => by
    cases t
    · exact .none
    · exact .datetime
  refine .mapping i.nodup_keys fun e he => ?_
  rcases mem_append.1 he with he | he
  · simp only [mem_cons, not_mem_nil, or_false] at he
    rcases he with rfl | rfl | rfl | rfl | rfl | rfl
    · exact .str
    · exact .str
    · exact .str
    · exact hp
    · exact hs
    · exact .int
  · rcases mem_optional he with rfl | ⟨w, rfl⟩
    · refine .dataclass fun f hf => ?_
      simp only [mem_cons, not_mem_nil, or_false] at hf
      rcases hf with rfl | rfl | rfl | rfl | rfl | rfl | rfl | rfl
      · exact .int
      · exact .int
      · exact .enum .str
      · exact .int
      · exact htext _
      · exact htext _
      · exact .int
      · exact .str
    · refine .dataclass fun f hf => ?_
      simp only [mem_cons, not_mem_nil, or_false] at hf
      rcases hf with rfl | rfl | rfl | rfl
      · exact .datetime
      · exact .datetime
      · exact .str
      · exact hinstant _

theorem same_withData {i : TrialIdentity} {p q s : PyValue} (hs : Accepted s) (h : Same p q) :
    Same (.mapping (i.withData p s).entries) (.mapping (i.withData q s).entries) := by
  refine .mapping (.cons .str (.cons .str (.cons .str (.cons h (.cons (same_of_accepted hs)
    (.cons .int (sameEntries_refl fun e he => ?_))))))) (.refl _)
  rcases mem_optional (i := i) he with rfl | ⟨w, rfl⟩
  · exact accepted_trialRandomization _
  · exact accepted_evaluationWindow w

end TrialIdentity

section
variable {sha256 : String → Digest} (hsha : Function.Injective sha256) {a : TrialArguments}

include hsha

theorem digest_frozen_iff (ha : a.Admissible) :
    digest sha256 (.mapping a.identity.entries) =
        digest sha256 (.mapping a.identity.frozen.entries) ↔
      Frozen (.mapping a.parameterSet) ∧ Frozen (.mapping (a.scenario.getD [])) := by
  constructor
  · intro h
    have hsame : Same (.mapping a.identity.entries) (.mapping a.identity.frozen.entries) :=
      same_of_digest hsha (TrialIdentity.accepted_entries ha.accepted ha.scenario_accepted)
        (a.identity.accepted_frozen ha.accepted ha.scenario_accepted) h
    constructor
    · exact (same_freezeValue_iff ha.proper ha.accepted).1 (TrialIdentity.same_of_entries hsame
        a.identity.parameterSet_mem a.identity.frozen.parameterSet_mem)
    · exact (same_freezeValue_iff ha.scenario_proper ha.scenario_accepted).1
        (TrialIdentity.same_of_entries hsame a.identity.scenario_mem a.identity.frozen.scenario_mem)
  · rintro ⟨hp, hs⟩
    have hfrozen : a.identity.frozen = a.identity := by
      rw [TrialIdentity.frozen, show a.identity.parameterSet = .mapping a.parameterSet from rfl,
        show a.identity.scenario = .mapping (a.scenario.getD []) from rfl,
        freezeValue_of_frozen hp, freezeValue_of_frozen hs]
      rfl
    rw [hfrozen]

/-- **Equal frozen parameter sets, equal trial ids**, and conversely. -/
theorem trialId_eq_iff {ps : List (PyKey × PyValue)} {t t' : IdentifiedTrial} (ha : a.Admissible)
    (hps : Accepted (.mapping ps)) (ht : ScientificTrial.create sha256 a = .ok t)
    (ht' : ScientificTrial.create sha256 { a with parameterSet := ps } = .ok t') :
    t.trialId = t'.trialId ↔
      Same (freezeValue (.mapping a.parameterSet)) (freezeValue (.mapping ps)) := by
  set a' : TrialArguments := { a with parameterSet := ps } with ha'
  have hscenario := accepted_freezeValue _ ha.scenario_accepted
  have hid : t.trialId = digest sha256 (.mapping a.identity.frozen.entries) := by
    obtain ⟨_, -, ht⟩ := bind_eq_ok.1 ht
    obtain ⟨_, -, ht⟩ := bind_eq_ok.1 ht
    exact (postInit_spec ha.accepted ha.scenario_accepted ht).1
  have hid' : t'.trialId = digest sha256 (.mapping a'.identity.frozen.entries) := by
    obtain ⟨_, -, ht'⟩ := bind_eq_ok.1 ht'
    obtain ⟨_, -, ht'⟩ := bind_eq_ok.1 ht'
    exact (postInit_spec hps ha.scenario_accepted ht').1
  rw [hid, hid', digest_eq_iff hsha
    (TrialIdentity.wf_entries (wf_freezeValue ha.proper) (wf_freezeValue ha.scenario_proper))
    (a.identity.accepted_frozen ha.accepted ha.scenario_accepted)
    (a'.identity.accepted_frozen hps ha.scenario_accepted)]
  constructor
  · intro h
    exact TrialIdentity.same_of_entries h a.identity.frozen.parameterSet_mem
      a'.identity.frozen.parameterSet_mem
  · intro h
    exact TrialIdentity.same_withData hscenario h

theorem created_iff (ha : a.Admissible) :
    (∃ t, ScientificTrial.create sha256 a = .ok t) ↔
      a.preflightReport.executable = true ∧ a.Coherent ∧
        Frozen (.mapping a.parameterSet) ∧ Frozen (.mapping (a.scenario.getD [])) := by
  have hpost := postInit_eq_ok_iff sha256 (digest sha256 (.mapping a.identity.entries)) a.preflightReport
    (i := a.identity) ha.accepted ha.scenario_accepted
  rw [ScientificTrial.create, contentDigest_of_accepted sha256
    (TrialIdentity.accepted_entries ha.accepted ha.scenario_accepted), ok_bind]
  by_cases hseed : a.assignment.seed = a.trialSeed
  · rw [ensure_of hseed, ok_bind, hpost, digest_frozen_iff hsha ha]
    constructor
    · rintro ⟨hx, -, hscope, hfrozen⟩
      exact ⟨hx, ⟨hseed, hscope⟩, hfrozen⟩
    · rintro ⟨hx, ⟨-, hscope⟩, hfrozen⟩
      exact ⟨hx, hseed, hscope, hfrozen⟩
  · rw [ensure_of_not hseed]
    exact ⟨fun ⟨_, h⟩ => (nomatch h), fun h => absurd h.2.1.1 hseed⟩

/-- **Trial identity under freezing.**  A trial is created exactly if its
    parameter set and scenario are frozen already, its report is executable and
    its seed and scope agree; created trials that differ in their parameter sets
    have one trial id exactly if the frozen sets have the same content. -/
theorem trial_identity_under_freezing {ps : List (PyKey × PyValue)} (ha : a.Admissible)
    (hps : Accepted (.mapping ps)) :
    ((∃ t, ScientificTrial.create sha256 a = .ok t) ↔
      a.preflightReport.executable = true ∧ a.Coherent ∧
        Frozen (.mapping a.parameterSet) ∧ Frozen (.mapping (a.scenario.getD []))) ∧
    ∀ t t', ScientificTrial.create sha256 a = .ok t →
      ScientificTrial.create sha256 { a with parameterSet := ps } = .ok t' →
      (t.trialId = t'.trialId ↔
        Same (freezeValue (.mapping a.parameterSet)) (freezeValue (.mapping ps))) :=
  ⟨created_iff hsha ha, fun _ _ ht ht' => trialId_eq_iff hsha ha hps ht ht'⟩

end

/-! ## A list of window lengths -/

def rigorousReport : FingerprintedReport where
  toPreflightReport := rigorousPreflight
  fingerprint := ⟨"sha256:report"⟩

def windowArguments (windows : PyValue) : TrialArguments where
  experimentFingerprint := ⟨"sha256:experiment"⟩
  snapshotFingerprint := ⟨"sha256:snapshot"⟩
  preflightReport := rigorousReport
  parameterSet := [(.str "windows", windows)]

theorem admissible_windowArguments {windows : PyValue} (hp : Proper windows)
    (ha : Accepted windows) : (windowArguments windows).Admissible where
  proper := .mapping (nodup_singleton _) fun i hi => by
    rw [mem_singleton.1 hi]
    exact hp
  accepted := accepted_mapping fun i hi => by
    rw [mem_singleton.1 hi]
    exact ⟨PyKey.noConfusion, ha⟩
  scenario_proper := .mapping nodup_nil fun i hi => absurd hi not_mem_nil
  scenario_accepted := accepted_mapping fun i hi => absurd hi not_mem_nil

theorem accepted_lengths (lengths : List ℤ) : Accepted (.tuple (lengths.map .int)) ∧
    Accepted (.list (lengths.map .int)) := by
  have hall : ∀ x ∈ lengths.map PyValue.int, Accepted x := fun x hx => by
    obtain ⟨n, -, rfl⟩ := mem_map.1 hx
    exact accepted_int n
  refine ⟨accepted_tuple hall, ?_⟩
  obtain ⟨js, hjs⟩ := exists_map_ok hall
  exact ⟨_, canonicalValue_list.2 ⟨js, hjs, rfl⟩⟩

theorem trial_identity_windows :
    ∃ t, ScientificTrial.create Digest.mk (windowArguments (.tuple ([5, 20].map .int))) =
      .ok t := by
  have ha : (windowArguments (.tuple ([5, 20].map .int))).Admissible :=
    admissible_windowArguments (.tuple fun x hx => by
      obtain ⟨n, -, rfl⟩ := mem_map.1 hx
      exact .int) (accepted_lengths [5, 20]).1
  refine (trial_identity_under_freezing (fun _ _ h => Digest.mk.inj h) ha ha.accepted).1.2
    ⟨rfl, ⟨rfl, .inl rfl⟩, .mapping fun i hi => ?_, .mapping fun i hi => absurd hi not_mem_nil⟩
  rw [mem_singleton.1 hi]
  refine .tuple fun x hx => ?_
  obtain ⟨n, -, rfl⟩ := mem_map.1 hx
  exact .int

/-- **A list of window lengths** is accepted by `freeze_json`, yet no trial can
    be created with it. -/
theorem trial_with_list_refused :
    (windowArguments (.list ([5, 20].map .int))).Admissible ∧
      rigorousReport.executable = true ∧
      ScientificTrial.create Digest.mk (windowArguments (.list ([5, 20].map .int))) =
        .error (valueError "trial_id does not match the immutable scientific trial identity") := by
  refine ⟨admissible_windowArguments (.list fun x hx => ?_) (accepted_lengths [5, 20]).2, rfl, ?_⟩
  · obtain ⟨n, -, rfl⟩ := mem_map.1 hx
    exact .int
  · have hmap : (ScientificTrial.create Digest.mk
        (windowArguments (.list ([5, 20].map .int)))).map (·.trialId) =
          .error (valueError "trial_id does not match the immutable scientific trial identity") := by
      decide +kernel
    generalize ScientificTrial.create Digest.mk _ = x at hmap
    cases x with
    | error e => exact congrArg Except.error (Except.error.inj hmap)
    | ok t => cases hmap

end ChartingPlatform
