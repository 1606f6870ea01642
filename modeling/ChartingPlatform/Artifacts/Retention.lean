/-
  Retention of artifacts (`artifact_retention.py`, `postgres_artifact_retention.py`) and
  the collection of their bytes, which belong to every manifest with the same digest.
-/
import ChartingPlatform.Artifacts.Cleanup
import ChartingPlatform.Lib.Table

namespace ChartingPlatform

open Lib List

/-! ## Pins and states -/

/-- `ArtifactRetentionPin`. -/
structure ArtifactRetentionPin (D : Type) where
  pinId : D
  artifactManifestFingerprint : D
  ownerType : String
  ownerId : String
  createdAt : Instant
  expiresAt : Option Instant := none
  releasedAt : Option Instant := none
  expires : ∀ e ∈ expiresAt, createdAt ≤ e
  released : ∀ e ∈ releasedAt, createdAt ≤ e
  deriving DecidableEq

/-- `active_at`. -/
def ArtifactRetentionPin.activeAt {D : Type} (p : ArtifactRetentionPin D) (observedAt : Instant) :
    Bool :=
  decide (p.createdAt ≤ observedAt) && p.expiresAt.all (fun e => decide (observedAt < e)) &&
    p.releasedAt.all fun r => decide (observedAt < r)

/-- The classes that need `retention_eligible_at`. -/
def ArtifactRetention.timed : ArtifactRetention → Bool
  | .tieredResult | .ephemeral => true
  | _ => false

/-- `ArtifactRetentionState`. -/
structure ArtifactRetentionState (D : Type) [LinearOrder D] where
  manifestFingerprint : D
  contentDigest : D
  retentionClass : ArtifactRetention
  retentionEligibleAt : Option Instant
  pins : List (ArtifactRetentionPin D)
  eligible_set : retentionClass.timed = true → retentionEligibleAt.isSome = true
  pins_bound : ∀ p ∈ pins, p.artifactManifestFingerprint = manifestFingerprint
  pins_sorted : pins.Pairwise fun p q => p.pinId < q.pinId
  deriving DecidableEq

/-- `RetentionDecision`. -/
inductive RetentionDecision where
  | retainPermanent | retainPinned | pinRequired | retainTiered | tierEligible
  | retainEphemeral | expireEligible
  deriving DecidableEq, Repr

section
variable {D : Type} [LinearOrder D]

/-- `ArtifactRetentionState.__post_init__`. -/
def makeRetentionState (manifestFingerprint contentDigest : D) (retentionClass : ArtifactRetention)
    (retentionEligibleAt : Option Instant) (pins : List (ArtifactRetentionPin D)) :
    Except PyError (ArtifactRetentionState D) :=
  if h₁ : retentionClass.timed = true → retentionEligibleAt.isSome = true then
    if h₂ : ∀ p ∈ pins, p.artifactManifestFingerprint = manifestFingerprint then
      if h₃ : (pins.map (·.pinId)).Nodup then
        .ok ⟨manifestFingerprint, contentDigest, retentionClass, retentionEligibleAt,
          sortBy (·.pinId) pins, h₁, fun p hp => h₂ p ((mem_sortBy _).1 hp), pairwise_lt_sortBy h₃⟩
      else .error (valueError "retention pin ids must be unique")
    else .error (valueError "retention pins must reference this manifest")
  else .error (valueError "tiered and ephemeral artifacts require retention_eligible_at")

/-- `resolve_artifact_retention`. -/
def resolveArtifactRetention (s : ArtifactRetentionState D) (observedAt : Instant) :
    RetentionDecision :=
  if s.pins.any (·.activeAt observedAt) then .retainPinned
  else
    match s.retentionClass with
    | .permanentManifest => .retainPermanent
    | .pinnedInput | .pinnedResult => .pinRequired
    | .tieredResult =>
      if s.retentionEligibleAt.any fun e => decide (e ≤ observedAt) then .tierEligible
      else .retainTiered
    | .ephemeral =>
      if s.retentionEligibleAt.any fun e => decide (e ≤ observedAt) then .expireEligible
      else .retainEphemeral

def ArtifactRetentionState.eligible (s : ArtifactRetentionState D) (observedAt : Instant) : Bool :=
  match resolveArtifactRetention s observedAt with
  | .tierEligible | .expireEligible => true
  | _ => false

/-- `add_retention_pin`: the state after the pin is added, or none where it is there. -/
def addRetentionPin (s : ArtifactRetentionState D) (pin : ArtifactRetentionPin D) :
    Except PyError (Option (ArtifactRetentionState D)) :=
  if pin.artifactManifestFingerprint = s.manifestFingerprint then
    if s.pins.any fun p => decide (p.pinId = pin.pinId) then .ok none
    else do
      let next ← makeRetentionState s.manifestFingerprint s.contentDigest s.retentionClass
        s.retentionEligibleAt (s.pins ++ [pin])
      return some next
  else .error (valueError "retention pin must reference the state manifest")

/-- `replace(pin, released_at=released_at)`. -/
def releasedPin (p : ArtifactRetentionPin D) (releasedAt : Instant) :
    Except PyError (ArtifactRetentionPin D) :=
  if h : p.createdAt ≤ releasedAt then
    .ok { p with releasedAt := some releasedAt, released := fun _ he => Option.some.inj he ▸ h }
  else .error (valueError "released_at must not precede created_at")

/-- `release_retention_pin`: the state after the release, or none where nothing changes. -/
def releaseRetentionPin (s : ArtifactRetentionState D) (pinId : D) (releasedAt : Instant) :
    Except PyError (Option (ArtifactRetentionState D)) :=
  match rowWith (·.pinId) pinId s.pins with
  | none => .error (valueError "pin_id is not present in retention state")
  | some pin =>
    if pin.releasedAt.isSome then .ok none
    else do
      let updated ← releasedPin pin releasedAt
      let next ← makeRetentionState s.manifestFingerprint s.contentDigest s.retentionClass
        s.retentionEligibleAt (s.pins.map fun p => if p.pinId = pinId then updated else p)
      return some next

/-! ## Registered states -/

/-- The rows of `strategy_lab_v2_artifact_retention` with their pins: one state for a manifest. -/
structure RetentionTable (D : Type) [LinearOrder D] where
  states : List (ArtifactRetentionState D)
  manifests : (states.map (·.manifestFingerprint)).Nodup

namespace RetentionTable

variable (T : RetentionTable D)

/-- `read_state`. -/
def readState (manifestFingerprint : D) : Option (ArtifactRetentionState D) :=
  rowWith (·.manifestFingerprint) manifestFingerprint T.states

def hasPin (pinId : D) : Bool := T.states.any fun s => s.pins.any fun p => decide (p.pinId = pinId)

def put (s : ArtifactRetentionState D) : RetentionTable D :=
  ⟨upsert (·.manifestFingerprint) s T.states, nodup_upsert T.manifests⟩

/-- `ensure_state`. -/
def ensureState (s : ArtifactRetentionState D) : Except PyError (RetentionTable D) :=
  match T.readState s.manifestFingerprint with
  | none =>
    if s.pins.all fun p => !T.hasPin p.pinId then .ok (T.put s)
    else .error (valueError "PostgreSQL retention pin insert lost a uniqueness race")
  | some persisted =>
    if persisted = s then .ok T
    else .error (valueError "PostgreSQL retention state identity is already bound")

/-- `add_pin`. -/
def addPin (pin : ArtifactRetentionPin D) : Except PyError (RetentionTable D) :=
  match T.readState pin.artifactManifestFingerprint with
  | none => .error (valueError "retention state is not registered")
  | some s =>
    match addRetentionPin s pin with
    | .error e => .error e
    | .ok none => .ok T
    | .ok (some next) =>
      if T.hasPin pin.pinId then
        .error (valueError "PostgreSQL retention pin insert lost a uniqueness race")
      else .ok (T.put next)

/-- `release_pin`. -/
def releasePin (manifestFingerprint pinId : D) (releasedAt : Instant) :
    Except PyError (RetentionTable D) :=
  match T.readState manifestFingerprint with
  | none => .error (valueError "retention state is not registered")
  | some s =>
    match releaseRetentionPin s pinId releasedAt with
    | .error e => .error e
    | .ok none => .ok T
    | .ok (some next) => .ok (T.put next)

end RetentionTable

/-! ## Collecting bytes -/

/-- `ArtifactByteDecision`. -/
inductive ArtifactByteDecision where
  | deleted | retained | notFound
  deriving DecidableEq, Repr

namespace ArtifactDigests

variable (H : ArtifactDigests D)

/-- `LocalArtifactStore.collect`. -/
def collectBytes (files : ArtifactFiles D) (manifest : ArtifactManifest D)
    (s : ArtifactRetentionState D) (observedAt : Instant) :
    Except StoreError (ArtifactByteDecision × ArtifactFiles D) :=
  if s.manifestFingerprint ≠ H.manifestFingerprint manifest then
    .error (.raised (valueError "retention resolution references a different manifest"))
  else if s.contentDigest ≠ manifest.contentDigest then
    .error (.raised (valueError "retention resolution references different artifact bytes"))
  else
    match H.readExisting files manifest.storageKey with
    | .error e => .error e
    | .ok none => .ok (.notFound, files)
    | .ok (some existing) =>
      if H.verified manifest existing then
        if s.eligible observedAt then
          .ok (.deleted, Function.update files manifest.storageKey none)
        else .ok (.retained, files)
      else .error (.corruption "artifact bytes do not match the manifest")

/-- `LocalArtifactRetentionService.collect`. -/
def collect (files : ArtifactFiles D) (T : RetentionTable D) (manifest : ArtifactManifest D)
    (observedAt : Instant) : Except StoreError (ArtifactByteDecision × ArtifactFiles D) :=
  match T.readState (H.manifestFingerprint manifest) with
  | none => .error (.raised (valueError "retention state is not registered"))
  | some s => H.collectBytes files manifest s observedAt

def Readable (files : ArtifactFiles D) (manifest : ArtifactManifest D) : Prop :=
  ∃ file, files manifest.storageKey = some file ∧
    H.artifactContentDigest file.payload = manifest.storageKey ∧
      H.verified manifest file.payload = true

end ArtifactDigests

/-! ## Runs -/

/-- The files, the commit ledger and the registered states. -/
structure RetentionWorld (H : ArtifactDigests D) where
  files : ArtifactFiles D
  ledger : ArtifactCommitLedger H
  table : RetentionTable D

inductive RetentionStep (D : Type) [LinearOrder D] where
  | publish (manifest : ArtifactManifest D) (payload : Bytes) (now : Instant)
  | ensureState (state : ArtifactRetentionState D)
  | addPin (pin : ArtifactRetentionPin D)
  | releasePin (manifestFingerprint pinId : D) (releasedAt : Instant)
  | collect (manifest : ArtifactManifest D) (observedAt : Instant)

namespace RetentionWorld

variable {H : ArtifactDigests D}

/-- `LocalArtifactPublicationService.publish`. -/
def publish (w : RetentionWorld H) (manifest : ArtifactManifest D) (payload : Bytes)
    (now : Instant) : RetentionWorld H :=
  let already := w.ledger.records.any fun r => decide (r.storageKey = manifest.storageKey)
  match H.publishBytes w.files manifest payload now with
  | .error _ => w
  | .ok (.reject, _) => w
  | .ok (_, files) =>
    match finalizeArtifactCommit w.ledger (planArtifactPublication H manifest already) now with
    | .ok (_, ledger) => { w with files := files, ledger := ledger }
    | .error _ => { w with files := files }

def withTable (w : RetentionWorld H) : Except PyError (RetentionTable D) → RetentionWorld H
  | .ok table => { w with table := table }
  | .error _ => w

def step (w : RetentionWorld H) : RetentionStep D → RetentionWorld H
  | .publish manifest payload now => w.publish manifest payload now
  | .ensureState s => w.withTable (w.table.ensureState s)
  | .addPin pin => w.withTable (w.table.addPin pin)
  | .releasePin manifestFingerprint pinId releasedAt =>
    w.withTable (w.table.releasePin manifestFingerprint pinId releasedAt)
  | .collect manifest observedAt =>
    match H.collect w.files w.table manifest observedAt with
    | .ok (_, files) => { w with files := files }
    | .error _ => w

def empty (H : ArtifactDigests D) : RetentionWorld H where
  files := fun _ => none
  ledger := ⟨[], sorted_nil H, nodup_nil⟩
  table := ⟨[], nodup_nil⟩

def after (H : ArtifactDigests D) (steps : List (RetentionStep D)) : RetentionWorld H :=
  steps.foldl step (empty H)

/-- A collection deletes bytes only where every state of their digest is eligible. -/
def Collects (w : RetentionWorld H) (manifest : ArtifactManifest D) (observedAt : Instant) : Prop :=
  ∀ files, H.collect w.files w.table manifest observedAt = .ok (.deleted, files) →
    ∀ s ∈ w.table.states, s.contentDigest = manifest.storageKey → s.eligible observedAt = true

def OthersEligible (w : RetentionWorld H) (manifest : ArtifactManifest D) (observedAt : Instant) :
    Prop :=
  ∀ own ∈ w.table.states, own.manifestFingerprint = H.manifestFingerprint manifest →
    own.contentDigest = manifest.contentDigest → own.eligible observedAt = true →
      H.Readable w.files manifest →
        ∀ s ∈ w.table.states, s.contentDigest = manifest.contentDigest →
          s.manifestFingerprint ≠ H.manifestFingerprint manifest → s.eligible observedAt = true

def MustKeep (w : RetentionWorld H) (storageKey : D) (observedAt : Instant) : Prop :=
  ∃ s ∈ w.table.states, s.contentDigest = storageKey ∧ s.eligible observedAt = false

end RetentionWorld

end

/-! ## What a collection deletes -/

section
variable {D : Type} [LinearOrder D] {H : ArtifactDigests D} {w : RetentionWorld H}
  {manifest : ArtifactManifest D} {observedAt : Instant} {files : ArtifactFiles D}
  {decision : ArtifactByteDecision} {s : ArtifactRetentionState D}

theorem readState_eq_some {T : RetentionTable D} {k : D} :
    T.readState k = some s ↔ s ∈ T.states ∧ s.manifestFingerprint = k :=
  rowWith_eq_some T.manifests

theorem collect_deleted_iff :
    H.collect w.files w.table manifest observedAt = .ok (.deleted, files) ↔
      (∃ own ∈ w.table.states, own.manifestFingerprint = H.manifestFingerprint manifest ∧
        own.contentDigest = manifest.contentDigest ∧ own.eligible observedAt = true) ∧
      H.Readable w.files manifest ∧ files = Function.update w.files manifest.storageKey none := by
  constructor
  · intro h
    unfold ArtifactDigests.collect at h
    cases hstate : w.table.readState (H.manifestFingerprint manifest) with
    | none =>
      rw [hstate] at h
      cases h
    | some own =>
      rw [hstate] at h
      obtain ⟨hmem, hfingerprint⟩ := readState_eq_some.1 hstate
      dsimp only [ArtifactDigests.collectBytes] at h
      rw [if_neg (not_not.2 hfingerprint)] at h
      split at h
      · cases h
      · rename_i hdigest
        unfold ArtifactDigests.readExisting at h
        cases hfile : w.files manifest.storageKey with
        | none =>
          rw [hfile] at h
          cases h
        | some file =>
          rw [hfile] at h
          dsimp only at h
          by_cases hkey : H.artifactContentDigest file.payload = manifest.storageKey
          · rw [if_pos hkey] at h
            dsimp only at h
            split at h
            · rename_i hverified
              split at h
              · rename_i heligible
                cases h
                exact ⟨⟨own, hmem, hfingerprint, not_not.1 hdigest, heligible⟩,
                  ⟨file, hfile, hkey, hverified⟩, rfl⟩
              · cases h
            · cases h
          · rw [if_neg hkey] at h
            cases h
  · rintro ⟨⟨own, hmem, hfingerprint, hdigest, heligible⟩, ⟨file, hfile, hkey, hverified⟩, rfl⟩
    unfold ArtifactDigests.collect
    rw [readState_eq_some.2 ⟨hmem, hfingerprint⟩]
    dsimp only [ArtifactDigests.collectBytes]
    rw [if_neg (not_not.2 hfingerprint), if_neg (not_not.2 hdigest)]
    unfold ArtifactDigests.readExisting
    rw [hfile]
    dsimp only
    rw [if_pos hkey]
    dsimp only
    rw [if_pos hverified, if_pos heligible]

theorem collects_iff : w.Collects manifest observedAt ↔ w.OthersEligible manifest observedAt := by
  constructor
  · intro h own hown hfingerprint hdigest heligible hreadable s hs hsdigest _
    exact h _ (collect_deleted_iff.2 ⟨⟨own, hown, hfingerprint, hdigest, heligible⟩, hreadable, rfl⟩)
      s hs (hsdigest.trans manifest.storage_key.symm)
  · intro h files hcollect s hs hsdigest
    obtain ⟨⟨own, hown, hfingerprint, hdigest, heligible⟩, hreadable, -⟩ :=
      collect_deleted_iff.1 hcollect
    by_cases hsame : s.manifestFingerprint = H.manifestFingerprint manifest
    · have : s = own :=
        inj_on_of_nodup_map w.table.manifests hs hown (hsame.trans hfingerprint.symm)
      rw [this]
      exact heligible
    · exact h own hown hfingerprint hdigest heligible hreadable s hs
        (hsdigest.trans manifest.storage_key) hsame

theorem collect_files (h : H.collect w.files w.table manifest observedAt = .ok (decision, files))
    (hdecision : decision ≠ .deleted) : files = w.files := by
  unfold ArtifactDigests.collect at h
  split at h
  · cases h
  · unfold ArtifactDigests.collectBytes at h
    split at h
    · cases h
    · split at h
      · cases h
      · split at h
        · cases h
        · cases h
          rfl
        · split at h
          · split at h
            · cases h
              exact absurd rfl hdecision
            · cases h
              rfl
          · cases h

/-- **One operation** keeps a file, unless it collects bytes that need not be kept. -/
theorem file_step {step : RetentionStep D} {key : D} {file : StoredFile}
    (hfile : w.files key = some file)
    (hstep : ∀ manifest observedAt, step = .collect manifest observedAt →
      w.OthersEligible manifest observedAt ∧
        (manifest.storageKey = key → w.MustKeep key observedAt)) :
    (w.step step).files key = some file := by
  have hwith : ∀ r, (w.withTable r).files key = some file := by
    intro r
    cases r <;> exact hfile
  cases step with
  | publish manifest payload now =>
    change (w.publish manifest payload now).files key = some file
    unfold RetentionWorld.publish
    dsimp only
    cases hpublish : H.publishBytes w.files manifest payload now with
    | error e => exact hfile
    | ok result =>
      obtain ⟨decision, files⟩ := result
      have hkeep := (publishBytes_spec hpublish).1 key file hfile
      cases decision <;> dsimp only
      · exact hfile
      all_goals
        split
        · exact hkeep
        · exact hkeep
  | ensureState s | addPin pin | releasePin manifestFingerprint pinId releasedAt => exact hwith _
  | collect manifest observedAt =>
    obtain ⟨hothers, hkeep⟩ := hstep manifest observedAt rfl
    simp only [RetentionWorld.step]
    cases hcollect : H.collect w.files w.table manifest observedAt with
    | error e => exact hfile
    | ok result =>
      obtain ⟨decision, files⟩ := result
      dsimp only
      by_cases hdeleted : decision = .deleted
      · subst hdeleted
        obtain ⟨-, -, rfl⟩ := collect_deleted_iff.1 hcollect
        rw [Function.update_of_ne, hfile]
        rintro rfl
        obtain ⟨s, hs, hdigest, hineligible⟩ := hkeep rfl
        have := collects_iff.2 hothers _ hcollect s hs hdigest
        rw [hineligible] at this
        cases this
      · rw [collect_files hcollect hdeleted]
        exact hfile

end

/-- **Retained bytes.**  After any run, a collection deletes only bytes all of whose manifests
are eligible exactly when the manifests beside its own are; and bytes that some manifest must
keep at every collection of their key stay, where every collection is such. -/
theorem retained_bytes {D : Type} [LinearOrder D] (H : ArtifactDigests D)
    (steps : List (RetentionStep D)) :
    (∀ manifest observedAt, (RetentionWorld.after H steps).Collects manifest observedAt ↔
      (RetentionWorld.after H steps).OthersEligible manifest observedAt) ∧
    ∀ key file more, (RetentionWorld.after H steps).files key = some file →
      (∀ pre manifest observedAt post, more = pre ++ .collect manifest observedAt :: post →
        (RetentionWorld.after H (steps ++ pre)).OthersEligible manifest observedAt ∧
          (manifest.storageKey = key →
            (RetentionWorld.after H (steps ++ pre)).MustKeep key observedAt)) →
        (RetentionWorld.after H (steps ++ more)).files key = some file := by
  refine ⟨fun manifest observedAt => collects_iff, ?_⟩
  intro key file more hfile hmore
  induction more using List.reverseRecOn with
  | nil =>
    rw [append_nil]
    exact hfile
  | append_singleton more a ih =>
    have hbefore : (RetentionWorld.after H (steps ++ more)).files key = some file := by
      refine ih fun pre manifest observedAt post hl => ?_
      exact hmore pre manifest observedAt (post ++ [a])
        (by rw [hl, append_assoc, cons_append])
    rw [← append_assoc, RetentionWorld.after, foldl_append]
    refine file_step hbefore ?_
    rintro manifest observedAt rfl
    exact hmore more manifest observedAt [] rfl

/-! ## Two manifests of the same bytes -/

/-- Digests of bytes by their length and of manifests by their media type. -/
def mediaDigests : ArtifactDigests ℕ where
  artifactContentDigest := List.length
  manifestFingerprint m := m.mediaType.length
  commitKey manifestFingerprint _ _ _ := manifestFingerprint

def threeBytesAs (mediaType : String) (retentionClass : ArtifactRetention) : ArtifactManifest ℕ where
  contentDigest := 3
  byteLength := 3
  mediaType := mediaType
  schemaVersion := "v1"
  storageKey := 3
  retentionClass := retentionClass
  storage_key := threeBytes.storage_key

/-- The permanent state of the manifest with media type `a`. -/
def permanentState : ArtifactRetentionState ℕ where
  manifestFingerprint := 1
  contentDigest := 3
  retentionClass := .permanentManifest
  retentionEligibleAt := none
  pins := []
  eligible_set := by decide
  pins_bound := by decide
  pins_sorted := List.Pairwise.nil

/-- The ephemeral state of the manifest with media type `ab`, eligible from the start. -/
def ephemeralState : ArtifactRetentionState ℕ where
  manifestFingerprint := 2
  contentDigest := 3
  retentionClass := .ephemeral
  retentionEligibleAt := some 0
  pins := []
  eligible_set := by decide
  pins_bound := by decide
  pins_sorted := List.Pairwise.nil

/-- The bytes of a permanent manifest, and an ephemeral manifest of the same bytes. -/
def sharedBytes : List (RetentionStep ℕ) :=
  [.publish (threeBytesAs "a" .permanentManifest) [1, 2, 3] 0, .ensureState permanentState,
   .ensureState ephemeralState]

theorem collects_shared_bytes : ¬ ∀ (steps : List (RetentionStep ℕ)) manifest observedAt,
    (RetentionWorld.after mediaDigests steps).Collects manifest observedAt := by
  intro h
  have hstates : (RetentionWorld.after mediaDigests sharedBytes).table.states =
      [permanentState, ephemeralState] := by decide
  have hfile : (RetentionWorld.after mediaDigests sharedBytes).files 3 = some ⟨[1, 2, 3], 0⟩ := by
    decide
  have hdeleted : (mediaDigests.collect (RetentionWorld.after mediaDigests sharedBytes).files
      (RetentionWorld.after mediaDigests sharedBytes).table (threeBytesAs "ab" .ephemeral) 5) =
        .ok (.deleted, Function.update (RetentionWorld.after mediaDigests sharedBytes).files 3
          none) :=
    collect_deleted_iff.2 ⟨⟨ephemeralState, by rw [hstates]; decide, rfl, rfl, by decide⟩,
      ⟨⟨[1, 2, 3], 0⟩, hfile, rfl, by decide⟩, rfl⟩
  have := h sharedBytes _ 5 _ hdeleted permanentState (by rw [hstates]; decide) rfl
  exact absurd this (by decide)

theorem retained_bytes_permanent :
    (RetentionWorld.after mediaDigests
      ([.publish (threeBytesAs "a" .permanentManifest) [1, 2, 3] 0, .ensureState permanentState] ++
        [.collect (threeBytesAs "a" .permanentManifest) 5])).files 3 = some ⟨[1, 2, 3], 0⟩ := by
  refine (retained_bytes mediaDigests
    [.publish (threeBytesAs "a" .permanentManifest) [1, 2, 3] 0, .ensureState permanentState]).2
      3 ⟨[1, 2, 3], 0⟩ _ (by decide) ?_
  intro pre manifest observedAt post hl
  have hpre : pre = [] := by
    cases pre with
    | nil => rfl
    | cons a pre => simp at hl
  subst hpre
  rw [append_nil]
  have hstates : (RetentionWorld.after mediaDigests
      [.publish (threeBytesAs "a" .permanentManifest) [1, 2, 3] 0,
        .ensureState permanentState]).table.states = [permanentState] := by decide
  have hineligible : ∀ t, permanentState.eligible t = false := fun _ => rfl
  refine ⟨?_, ?_⟩
  · intro own hown _ _ heligible
    rw [hstates, mem_singleton] at hown
    rw [hown, hineligible] at heligible
    cases heligible
  · intro _
    exact ⟨permanentState, by rw [hstates]; exact mem_cons_self, rfl, hineligible _⟩

end ChartingPlatform
