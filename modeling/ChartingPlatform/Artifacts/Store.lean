/-
  Artifacts (`artifact_store.py`, `artifact_publication.py`, `artifact_commit.py`): the
  content-addressed files, the ledger of committed publications, and the three steps of a
  publication.

  Digests are functions of the bytes and the contracts.  A manifest, a record and a ledger
  carry the proofs of their own checks.
-/
import ChartingPlatform.Lib.Gregorian
import ChartingPlatform.Lib.Outcome
import ChartingPlatform.Lib.Sorting

namespace ChartingPlatform

open Lib

/-! ## Manifests and files -/

abbrev Bytes := List UInt8

/-- `ArtifactRetention`. -/
inductive ArtifactRetention where
  | permanentManifest | pinnedInput | pinnedResult | tieredResult | ephemeral
  deriving DecidableEq, Repr

/-- `ArtifactManifest`. -/
structure ArtifactManifest (D : Type) where
  contentDigest : D
  byteLength : ℕ
  mediaType : String
  schemaVersion : String
  storageKey : D
  retentionClass : ArtifactRetention := .permanentManifest
  storage_key : storageKey = contentDigest
  deriving DecidableEq

/-- The digests of bytes, of manifests and of the identities of publications. -/
structure ArtifactDigests (D : Type) where
  artifactContentDigest : Bytes → D
  manifestFingerprint : ArtifactManifest D → D
  commitKey : (manifestFingerprint contentDigest storageKey : D) → ℕ → D

structure StoredFile where
  payload : Bytes
  modifiedAt : Instant
  deriving DecidableEq

/-- The content files of `LocalArtifactStore`. -/
abbrev ArtifactFiles (D : Type) := D → Option StoredFile

/-- `ArtifactStoreCorruptionError`, or another exception. -/
inductive StoreError where
  | corruption (message : String)
  | raised (error : PyError)
  deriving DecidableEq

/-- `ArtifactStoreDecision`. -/
inductive ArtifactStoreDecision where
  | reject | written | reused
  deriving DecidableEq, Repr

namespace ArtifactDigests

variable {D : Type} [DecidableEq D] (H : ArtifactDigests D)

/-- `verify_artifact_payload(...).verified`. -/
def verified (manifest : ArtifactManifest D) (payload : Bytes) : Bool :=
  decide (H.artifactContentDigest payload = manifest.contentDigest ∧
    payload.length = manifest.byteLength)

/-- `_read_existing`. -/
def readExisting (files : ArtifactFiles D) (storageKey : D) : Except StoreError (Option Bytes) :=
  match files storageKey with
  | none => .ok none
  | some file =>
    if H.artifactContentDigest file.payload = storageKey then .ok (some file.payload)
    else .error (.corruption "existing artifact bytes have the wrong digest")

/-- `LocalArtifactStore.publish`. -/
def publishBytes (files : ArtifactFiles D) (manifest : ArtifactManifest D) (payload : Bytes)
    (now : Instant) : Except StoreError (ArtifactStoreDecision × ArtifactFiles D) :=
  if H.verified manifest payload then
    match H.readExisting files manifest.storageKey with
    | .error e => .error e
    | .ok (some existing) =>
      if H.verified manifest existing then .ok (.reused, files)
      else .error (.corruption "existing artifact bytes do not match the requested manifest")
    | .ok none =>
      .ok (.written, Function.update files manifest.storageKey (some ⟨payload, now⟩))
  else .ok (.reject, files)

def HasBytes (files : ArtifactFiles D) (storageKey : D) : Prop :=
  ∃ file, files storageKey = some file ∧ H.artifactContentDigest file.payload = storageKey

end ArtifactDigests

/-! ## The commit ledger -/

/-- `ArtifactCommitRecord`. -/
structure ArtifactCommitRecord (D : Type) where
  manifestFingerprint : D
  contentDigest : D
  storageKey : D
  byteLength : ℕ
  committedAt : Instant
  storage_key : storageKey = contentDigest
  deriving DecidableEq

/-- `commit_key`. -/
def ArtifactCommitRecord.commitKey {D : Type} (H : ArtifactDigests D) (r : ArtifactCommitRecord D) :
    D := H.commitKey r.manifestFingerprint r.contentDigest r.storageKey r.byteLength

/-- `ArtifactCommitLedger`. -/
structure ArtifactCommitLedger {D : Type} [LinearOrder D] (H : ArtifactDigests D) where
  records : List (ArtifactCommitRecord D)
  sorted : records.Pairwise fun r s => r.commitKey H < s.commitKey H
  storage_keys : (records.map (·.storageKey)).Nodup

theorem sorted_nil {D : Type} [LinearOrder D] (H : ArtifactDigests D) :
    ([] : List (ArtifactCommitRecord D)).Pairwise fun r s => r.commitKey H < s.commitKey H := .nil

/-- `ArtifactPublicationAction`. -/
inductive ArtifactPublicationAction where
  | createIfAbsent | reuseExisting
  deriving DecidableEq, Repr

/-- `ArtifactPublicationPlan`. -/
structure ArtifactPublicationPlan (D : Type) where
  manifestFingerprint : D
  contentDigest : D
  storageKey : D
  byteLength : ℕ
  retentionClass : ArtifactRetention
  action : ArtifactPublicationAction
  deriving DecidableEq

/-- `ArtifactCommitDecision`. -/
inductive ArtifactCommitDecision where
  | commit | replayExisting | conflict | reject
  deriving DecidableEq, Repr

section
variable {D : Type} [LinearOrder D] (H : ArtifactDigests D)

/-- `plan_artifact_publication`, after the integrity of the payload. -/
def planArtifactPublication (manifest : ArtifactManifest D) (alreadyPresent : Bool) :
    ArtifactPublicationPlan D where
  manifestFingerprint := H.manifestFingerprint manifest
  contentDigest := manifest.contentDigest
  storageKey := manifest.storageKey
  byteLength := manifest.byteLength
  retentionClass := manifest.retentionClass
  action := if alreadyPresent then .reuseExisting else .createIfAbsent

/-- `ArtifactCommitLedger.__post_init__`. -/
def makeArtifactCommitLedger (records : List (ArtifactCommitRecord D)) :
    Except PyError (ArtifactCommitLedger H) :=
  if h₁ : (records.map (·.commitKey H)).Nodup then
    if h₂ : (records.map (·.storageKey)).Nodup then
      .ok ⟨sortBy (·.commitKey H) records, pairwise_lt_sortBy h₁,
        ((perm_sortBy _ records).map _).nodup_iff.2 h₂⟩
    else .error (valueError "artifact storage keys must be unique")
  else .error (valueError "artifact commit keys must be unique")

variable {H}

/-- `finalize_artifact_commit`. -/
def finalizeArtifactCommit (ledger : ArtifactCommitLedger H) (plan : ArtifactPublicationPlan D)
    (committedAt : Instant) :
    Except PyError (ArtifactCommitDecision × ArtifactCommitLedger H) :=
  if hkey : plan.storageKey = plan.contentDigest then
    let commitKey := H.commitKey plan.manifestFingerprint plan.contentDigest plan.storageKey
      plan.byteLength
    if ledger.records.any fun r => decide (r.commitKey H = commitKey) then
      .ok (.replayExisting, ledger)
    else if ledger.records.any fun r => decide (r.storageKey = plan.storageKey) then
      .ok (.conflict, ledger)
    else if plan.action = .reuseExisting then .ok (.reject, ledger)
    else do
      let next ← makeArtifactCommitLedger H (ledger.records ++
        [⟨plan.manifestFingerprint, plan.contentDigest, plan.storageKey, plan.byteLength,
          committedAt, hkey⟩])
      return (.commit, next)
  else .ok (.reject, ledger)

theorem finalizeArtifactCommit_cases {ledger ledger' : ArtifactCommitLedger H}
    {plan : ArtifactPublicationPlan D} {committedAt : Instant} {decision : ArtifactCommitDecision}
    (h : finalizeArtifactCommit ledger plan committedAt = .ok (decision, ledger')) :
    ledger' = ledger ∨ (decision = .commit ∧ ∀ r ∈ ledger'.records,
      r ∈ ledger.records ∨ r.storageKey = plan.storageKey) := by
  unfold finalizeArtifactCommit at h
  split at h
  · dsimp only at h
    split at h
    · cases h
      exact .inl rfl
    · split at h
      · cases h
        exact .inl rfl
      · split at h
        · cases h
          exact .inl rfl
        · obtain ⟨next, hnext, hret⟩ := bind_eq_ok.1 h
          cases hret
          refine .inr ⟨rfl, ?_⟩
          unfold makeArtifactCommitLedger at hnext
          split at hnext
          · split at hnext
            · cases hnext
              intro r hr
              rw [mem_sortBy, List.mem_append, List.mem_singleton] at hr
              refine hr.imp id ?_
              rintro rfl
              rfl
            · cases hnext
          · cases hnext
  · cases h
    exact .inl rfl

end

/-! ## Writing and reusing bytes -/

section
variable {D : Type} [DecidableEq D] {H : ArtifactDigests D} {files files' : ArtifactFiles D}
  {manifest : ArtifactManifest D} {payload : Bytes} {now : Instant} {key : D}
  {decision : ArtifactStoreDecision}

theorem publishBytes_spec (h : H.publishBytes files manifest payload now = .ok (decision, files')) :
    (∀ key file, files key = some file → files' key = some file) ∧
      (decision ≠ .reject → H.HasBytes files' manifest.storageKey) := by
  unfold ArtifactDigests.publishBytes at h
  split at h
  · rename_i hverified
    have hpayload := (of_decide_eq_true hverified).1
    unfold ArtifactDigests.readExisting at h
    cases hfile : files manifest.storageKey with
    | none =>
      rw [hfile] at h
      cases h
      refine ⟨?_, fun _ => ⟨⟨payload, now⟩, Function.update_self _ _ _, ?_⟩⟩
      · intro key file hkey
        rw [Function.update_of_ne]
        · exact hkey
        · rintro rfl
          rw [hfile] at hkey
          cases hkey
      · exact hpayload.trans manifest.storage_key.symm
    | some file =>
      rw [hfile] at h
      dsimp only at h
      by_cases hdigest : H.artifactContentDigest file.payload = manifest.storageKey
      · rw [if_pos hdigest] at h
        dsimp only at h
        split at h
        · cases h
          exact ⟨fun _ _ hk => hk, fun _ => ⟨file, hfile, hdigest⟩⟩
        · cases h
      · rw [if_neg hdigest] at h
        cases h
  · cases h
    exact ⟨fun _ _ hk => hk, fun hne => absurd rfl hne⟩

end

end ChartingPlatform
