/-
  Publications and cleanups of artifacts (`artifact_application.py`) as processes of
  separate steps: load the ledger, write or reuse the bytes, finalize; load the ledger,
  then examine file by file.
-/
import ChartingPlatform.Artifacts.Store
import ChartingPlatform.Lib.Scans

namespace ChartingPlatform

open Lib List

/-! ## Processes -/

inductive PublicationPhase where
  /-- The ledger is loaded; whether it has the storage key. -/
  | loaded (alreadyCommitted : Bool)
  /-- The bytes are written or reused. -/
  | stored (alreadyCommitted : Bool)
  deriving DecidableEq

/-- A run of `LocalArtifactPublicationService.publish`. -/
structure Publication (D : Type) where
  manifest : ArtifactManifest D
  payload : Bytes
  phase : PublicationPhase
  deriving DecidableEq

/-- A run of `LocalArtifactCleanupService.cleanup_uncommitted`. -/
structure Cleanup (D : Type) where
  observedAt : Instant
  minimumAge : ℕ
  committed : List D
  positive : 0 < minimumAge

/-- The files, the ledger, the clock, and the processes. -/
structure ArtifactWorld {D : Type} [LinearOrder D] (H : ArtifactDigests D) where
  files : ArtifactFiles D
  ledger : ArtifactCommitLedger H
  now : Instant
  publications : ℕ → Option (Publication D)
  cleanups : ℕ → Option (Cleanup D)

inductive ArtifactStep (D : Type) where
  | tick (now : Instant)
  | load (publication : ℕ) (manifest : ArtifactManifest D) (payload : Bytes)
  | store (publication : ℕ)
  | finalize (publication : ℕ)
  | stop (publication : ℕ)
  | beginCleanup (cleanup : ℕ) (minimumAge : ℕ) (positive : 0 < minimumAge)
  | examine (cleanup : ℕ) (storageKey : D)
  | endCleanup (cleanup : ℕ)

/-- `ArtifactPublicationDecision`. -/
inductive ArtifactPublicationDecision where
  | committed | replayExisting | reject
  deriving DecidableEq, Repr

section
variable {D : Type} [LinearOrder D] {H : ArtifactDigests D}

def ArtifactCommitDecision.publication : ArtifactCommitDecision → ArtifactPublicationDecision
  | .commit => .committed
  | .replayExisting => .replayExisting
  | .conflict => .reject
  | .reject => .reject

def Cleanup.deletes (c : Cleanup D) (storageKey : D) (file : StoredFile) : Bool :=
  decide (storageKey ∉ c.committed ∧ file.modifiedAt.val + c.minimumAge ≤ c.observedAt.val)

namespace ArtifactWorld

def finalization (w : ArtifactWorld H) (i : ℕ) :
    Option (Except PyError (ArtifactCommitDecision × ArtifactCommitLedger H)) :=
  (w.publications i).bind fun p =>
    match p.phase with
    | .loaded _ => none
    | .stored already =>
      some (finalizeArtifactCommit w.ledger (planArtifactPublication H p.manifest already) w.now)

def step (w : ArtifactWorld H) : ArtifactStep D → Option (ArtifactWorld H)
  | .tick now => if w.now ≤ now then some { w with now := now } else none
  | .load i manifest payload =>
    if (w.publications i).isNone then
      let already := w.ledger.records.any fun r => decide (r.storageKey = manifest.storageKey)
      let begun := some ⟨manifest, payload, .loaded already⟩
      some { w with publications := Function.update w.publications i begun }
    else none
  | .store i =>
    match w.publications i with
    | some ⟨manifest, payload, .loaded already⟩ =>
      match H.publishBytes w.files manifest payload w.now with
      | .ok (decision, files) =>
        let next := if decision = .reject then none
          else some (Publication.mk manifest payload (.stored already))
        some { w with files := files, publications := Function.update w.publications i next }
      | .error _ => some { w with publications := Function.update w.publications i none }
    | _ => none
  | .finalize i =>
    match w.finalization i with
    | some (.ok (_, ledger)) =>
      some { w with ledger := ledger, publications := Function.update w.publications i none }
    | some (.error _) => some { w with publications := Function.update w.publications i none }
    | none => none
  | .stop i => some { w with publications := Function.update w.publications i none }
  | .beginCleanup j minimumAge positive =>
    if (w.cleanups j).isNone then
      let committed := w.ledger.records.map (·.storageKey)
      let begun := some ⟨w.now, minimumAge, committed, positive⟩
      some { w with cleanups := Function.update w.cleanups j begun }
    else none
  | .examine j storageKey =>
    match w.cleanups j, w.files storageKey with
    | some c, some file =>
      match H.readExisting w.files storageKey with
      | .error _ => some { w with cleanups := Function.update w.cleanups j none }
      | .ok _ =>
        if c.deletes storageKey file then
          some { w with files := Function.update w.files storageKey none }
        else some w
    | _, _ => none
  | .endCleanup j => some { w with cleanups := Function.update w.cleanups j none }

/-- A publication has written or reused the bytes of a key, and is not yet finalized. -/
def Storing (w : ArtifactWorld H) (storageKey : D) : Prop :=
  ∃ i p already, w.publications i = some p ∧ p.phase = .stored already ∧
    p.manifest.storageKey = storageKey

def Spares (w : ArtifactWorld H) : ArtifactStep D → Prop
  | .examine j storageKey => ∀ c file, w.cleanups j = some c → w.files storageKey = some file →
      c.deletes storageKey file = true →
        storageKey ∉ w.ledger.records.map (·.storageKey) ∧ ¬ w.Storing storageKey
  | _ => True

/-- The bytes of the committed and of the stored publications are there. -/
def Backed (w : ArtifactWorld H) : Prop :=
  (∀ r ∈ w.ledger.records, H.HasBytes w.files r.storageKey) ∧
    ∀ storageKey, w.Storing storageKey → H.HasBytes w.files storageKey

/-- Before the first publication; there may be files of earlier ones. -/
def start (H : ArtifactDigests D) (files : ArtifactFiles D) (now : Instant) : ArtifactWorld H where
  files := files
  ledger := ⟨[], sorted_nil H, nodup_nil⟩
  now := now
  publications := fun _ => none
  cleanups := fun _ => none

variable {w w' : ArtifactWorld H} {a : ArtifactStep D} {i : ℕ} {storageKey : D}
  {next : Option (Publication D)}

/-! ## What a step keeps -/

theorem storing_update (h : { w with publications := Function.update w.publications i next }.Storing
      storageKey) :
    w.Storing storageKey ∨ ∃ p already, next = some p ∧ p.phase = .stored already ∧
      p.manifest.storageKey = storageKey := by
  obtain ⟨j, p, already, hp, hphase, hkey⟩ := h
  change Function.update w.publications i next j = some p at hp
  by_cases hj : j = i
  · rw [hj, Function.update_self] at hp
    exact .inr ⟨p, already, hp, hphase, hkey⟩
  · rw [Function.update_of_ne hj] at hp
    exact .inl ⟨j, p, already, hp, hphase, hkey⟩

theorem Backed.mono (h : w.Backed)
    (hfiles : ∀ k file, w.files k = some file → w'.files k = some file)
    (hrecords : ∀ r ∈ w'.ledger.records,
      r ∈ w.ledger.records ∨ H.HasBytes w'.files r.storageKey)
    (hstoring : ∀ k, w'.Storing k → w.Storing k ∨ H.HasBytes w'.files k) : w'.Backed := by
  have hkeep : ∀ k, H.HasBytes w.files k → H.HasBytes w'.files k := by
    rintro k ⟨file, hfile, hdigest⟩
    exact ⟨file, hfiles k file hfile, hdigest⟩
  refine ⟨?_, ?_⟩
  · intro r hr
    rcases hrecords r hr with hr | hr
    · exact hkeep _ (h.1 r hr)
    · exact hr
  · intro k hk
    rcases hstoring k hk with hk | hk
    · exact hkeep k (h.2 k hk)
    · exact hk

theorem Backed.update (h : w.Backed)
    (hnext : ∀ p already, next = some p → p.phase = .stored already →
      H.HasBytes w.files p.manifest.storageKey) :
    { w with publications := Function.update w.publications i next }.Backed := by
  refine h.mono (fun _ _ hf => hf) (fun r hr => .inl hr) ?_
  intro k hk
  refine (storing_update hk).imp id ?_
  rintro ⟨p, already, hp, hphase, rfl⟩
  exact hnext p already hp hphase

theorem backed_store (h : w.Backed) (hstep : w.step (.store i) = some w') : w'.Backed := by
  simp only [step] at hstep
  split at hstep
  · rename_i manifest payload already hp
    cases hpublish : H.publishBytes w.files manifest payload w.now with
    | error e =>
      rw [hpublish] at hstep
      cases hstep
      exact h.update fun _ _ hnone => nomatch hnone
    | ok result =>
      obtain ⟨decision, files⟩ := result
      rw [hpublish] at hstep
      cases hstep
      obtain ⟨hkeep, hbytes⟩ := publishBytes_spec hpublish
      refine h.mono hkeep (fun r hr => .inl hr) ?_
      intro k hk
      refine (storing_update (w := { w with files := files }) hk).imp id ?_
      rintro ⟨p, already', hnext, hphase, rfl⟩
      by_cases hreject : decision = .reject
      · rw [if_pos hreject] at hnext
        cases hnext
      · rw [if_neg hreject] at hnext
        cases hnext
        exact hbytes hreject
  · cases hstep

theorem finalization_eq_some
    {r : Except PyError (ArtifactCommitDecision × ArtifactCommitLedger H)}
    (h : w.finalization i = some r) : ∃ p already, w.publications i = some p ∧
      p.phase = .stored already ∧
        finalizeArtifactCommit w.ledger (planArtifactPublication H p.manifest already) w.now = r := by
  obtain ⟨p, hp, hr⟩ := Option.bind_eq_some_iff.1 h
  cases hphase : p.phase with
  | loaded already =>
    rw [hphase] at hr
    cases hr
  | stored already =>
    rw [hphase] at hr
    exact ⟨p, already, hp, hphase, Option.some.inj hr⟩

theorem backed_finalize (h : w.Backed) (hstep : w.step (.finalize i) = some w') : w'.Backed := by
  simp only [step] at hstep
  cases hfinal : w.finalization i with
  | none =>
    rw [hfinal] at hstep
    cases hstep
  | some r =>
    rw [hfinal] at hstep
    cases r with
    | error e =>
      cases hstep
      exact h.update fun _ _ hnone => nomatch hnone
    | ok result =>
      obtain ⟨decision, ledger⟩ := result
      cases hstep
      obtain ⟨p, already, hp, hphase, hcommit⟩ := finalization_eq_some hfinal
      refine h.mono (fun _ _ hf => hf) ?_ ?_
      · intro r hr
        rcases finalizeArtifactCommit_cases hcommit with hsame | ⟨-, hnew⟩
        · exact .inl (hsame ▸ hr)
        · refine (hnew r hr).imp id fun hkey => ?_
          rw [hkey]
          exact h.2 _ ⟨i, p, already, hp, hphase, rfl⟩
      · intro k hk
        refine (storing_update (w := { w with ledger := ledger }) hk).imp id ?_
        rintro ⟨_, _, hnone, -⟩
        cases hnone

theorem backed_examine {j : ℕ} (h : w.Backed) (hspares : w.Spares (.examine j storageKey))
    (hstep : w.step (.examine j storageKey) = some w') : w'.Backed := by
  simp only [step] at hstep
  split at hstep
  · rename_i c file hc hfile
    split at hstep
    · cases hstep
      exact h.mono (fun _ _ hf => hf) (fun r hr => .inl hr) fun k hk => .inl hk
    · split at hstep
      · rename_i hdeletes
        cases hstep
        obtain ⟨hledger, hstoring⟩ := hspares c file hc hfile hdeletes
        have hkeep : ∀ k, k ≠ storageKey → H.HasBytes w.files k →
            H.HasBytes (Function.update w.files storageKey none) k := by
          rintro k hk ⟨f, hf, hdigest⟩
          exact ⟨f, by rwa [Function.update_of_ne hk], hdigest⟩
        refine ⟨?_, ?_⟩
        · intro r hr
          refine hkeep _ ?_ (h.1 r hr)
          rintro rfl
          exact hledger (mem_map_of_mem hr)
        · intro k hk
          refine hkeep _ ?_ (h.2 k hk)
          rintro rfl
          exact hstoring hk
      · cases hstep
        exact h
  · cases hstep

theorem backed_step (h : w.Backed) (hspares : w.Spares a) (hstep : w.step a = some w') :
    w'.Backed := by
  cases a with
  | tick now =>
    simp only [step] at hstep
    split at hstep
    · cases hstep
      exact h
    · cases hstep
  | load i manifest payload =>
    simp only [step] at hstep
    split at hstep
    · cases hstep
      refine h.update ?_
      rintro p already hp hphase
      cases hp
      cases hphase
    · cases hstep
  | store i => exact backed_store h hstep
  | finalize i => exact backed_finalize h hstep
  | stop i =>
    cases hstep
    exact h.update fun _ _ hnone => nomatch hnone
  | beginCleanup j minimumAge positive =>
    simp only [step] at hstep
    split at hstep
    · cases hstep
      exact h
    · cases hstep
  | examine j storageKey => exact backed_examine h hspares hstep
  | endCleanup j =>
    cases hstep
    exact h

theorem backed_start (files : ArtifactFiles D) (now : Instant) : (start H files now).Backed := by
  refine ⟨?_, ?_⟩
  · intro r hr
    exact absurd hr not_mem_nil
  · rintro k ⟨i, p, already, hp, -⟩
    cases hp

/-! ## Runs -/

abbrev Steps (w : ArtifactWorld H) (labels : List (ArtifactStep D)) (w' : ArtifactWorld H) : Prop :=
  Run (fun u a v => u.step a = some v) w labels w'

/-- Every cleanup of a run spares the files that are committed or being committed. -/
def SparingRun (w : ArtifactWorld H) (labels : List (ArtifactStep D)) : Prop :=
  ∀ pre a post u, labels = pre ++ a :: post → Steps w pre u → u.Spares a

theorem backed_run {labels : List (ArtifactStep D)} (h : w.Backed) (hrun : Steps w labels w')
    (hspares : SparingRun w labels) : w'.Backed := by
  induction hrun with
  | nil => exact h
  | @snoc u v labels a hu ha ih =>
    have hu' : u.Backed := by
      refine ih fun pre b post x hl hx => ?_
      exact hspares pre b (post ++ [a]) x (by rw [hl, append_assoc, cons_append]) hx
    exact backed_step hu' (hspares labels a [] u rfl hu) ha

end ArtifactWorld

end

/-- **Committed artifacts have their bytes** in every run whose cleanups delete no file of a
record or of a publication between its bytes and its commit. -/
theorem committed_bytes {D : Type} [LinearOrder D] (H : ArtifactDigests D) (files : ArtifactFiles D)
    (now : Instant) (labels : List (ArtifactStep D)) (w : ArtifactWorld H)
    (hrun : (ArtifactWorld.start H files now).Steps labels w)
    (hspares : (ArtifactWorld.start H files now).SparingRun labels) :
    (∀ r ∈ w.ledger.records, H.HasBytes w.files r.storageKey) ∧
    ∀ i p decision ledger w', w.publications i = some p →
      w.finalization i = some (.ok (decision, ledger)) → w.step (.finalize i) = some w' →
        decision.publication ≠ .reject → H.HasBytes w'.files p.manifest.storageKey := by
  have hbacked := ArtifactWorld.backed_run (ArtifactWorld.backed_start files now) hrun hspares
  refine ⟨hbacked.1, ?_⟩
  intro i p decision ledger w' hp hfinal hstep _
  obtain ⟨p', already, hp', hphase, -⟩ := ArtifactWorld.finalization_eq_some hfinal
  have hfiles : w'.files = w.files := by
    simp only [ArtifactWorld.step, hfinal] at hstep
    cases hstep
    rfl
  rw [hfiles]
  exact hbacked.2 _ ⟨i, p, already, hp, (Option.some.inj (hp.symm.trans hp')) ▸ hphase, rfl⟩

/-! ## A file that is deleted under its publication -/

def lengthDigests : ArtifactDigests ℕ where
  artifactContentDigest := List.length
  manifestFingerprint m := m.contentDigest
  commitKey _ contentDigest _ _ := contentDigest

def threeBytes : ArtifactManifest ℕ where
  contentDigest := 3
  byteLength := 3
  mediaType := "application/json"
  schemaVersion := "v1"
  storageKey := 3
  storage_key := rfl

/-- A publication stops before its commit; a cleanup loads the ledger; the retry reuses the file
    and commits; then the cleanup comes to the file. -/
def retriedUnderCleanup : List (ArtifactStep ℕ) :=
  [.load 0 threeBytes [1, 2, 3], .store 0, .stop 0, .tick 5, .load 1 threeBytes [1, 2, 3], .store 1,
   .beginCleanup 0 1 Nat.one_pos, .finalize 1, .examine 0 3]

theorem committed_bytes_deleted : ¬ ∀ (labels : List (ArtifactStep ℕ)) (w : ArtifactWorld lengthDigests),
    (ArtifactWorld.start lengthDigests (fun _ => none) 0).Steps labels w →
      ∀ r ∈ w.ledger.records, lengthDigests.HasBytes w.files r.storageKey := by
  intro h
  have hend : (retriedUnderCleanup.foldlM ArtifactWorld.step
      (ArtifactWorld.start lengthDigests (fun _ => none) 0)).map
        (fun w => (w.ledger.records.map (·.storageKey), w.files 3)) = some ([3], none) := by decide
  obtain ⟨w, hw, hfields⟩ := Option.map_eq_some_iff.1 hend
  obtain ⟨hrecords, hfile⟩ := Prod.mk.inj hfields
  have hmem : 3 ∈ w.ledger.records.map (·.storageKey) := hrecords ▸ mem_cons_self
  obtain ⟨r, hr, hkey⟩ := mem_map.1 hmem
  obtain ⟨file, hsome, -⟩ := h retriedUnderCleanup w (run_of_foldlM hw) r hr
  rw [hkey, hfile] at hsome
  cases hsome

def twoBytes : ArtifactManifest ℕ where
  contentDigest := 2
  byteLength := 2
  mediaType := "application/json"
  schemaVersion := "v1"
  storageKey := 2
  storage_key := rfl

/-- One publication commits and another stops after its bytes. -/
def stoppedAfterBytes : List (ArtifactStep ℕ) :=
  [.load 0 threeBytes [1, 2, 3], .store 0, .finalize 0, .load 1 twoBytes [1, 2], .store 1, .stop 1,
   .tick 5, .beginCleanup 0 1 Nat.one_pos]

/-- Then a cleanup comes to the file of the second and to that of the first. -/
def cleanedUp : List (ArtifactStep ℕ) := stoppedAfterBytes ++ [.examine 0 2, .examine 0 3]

def emptyWorld : ArtifactWorld lengthDigests := .start lengthDigests (fun _ => none) 0

/-- What a run of the first steps of the clean-up has led to. -/
theorem observed_cleanedUp {α : Type} (f : ArtifactWorld lengthDigests → α) {n : ℕ} {a : α}
    {u : ArtifactWorld lengthDigests} (hu : emptyWorld.Steps (cleanedUp.take n) u)
    (h : ((cleanedUp.take n).foldlM ArtifactWorld.step emptyWorld).map f = some a) : f u = a := by
  rw [foldlM_of_run hu] at h
  exact Option.some.inj h

theorem sparing_cleanedUp : emptyWorld.SparingRun cleanedUp := by
  intro pre a post u hl hu
  have hpre : pre = cleanedUp.take pre.length := by rw [hl, take_left]
  have hget : cleanedUp[pre.length]? = some a := by
    rw [hl, getElem?_append_right le_rfl]
    simp
  rw [hpre] at hu
  generalize pre.length = n at hu hget
  match n with
  | 0 | 1 | 2 | 3 | 4 | 5 | 6 | 7 =>
    obtain rfl := Option.some.inj hget
    trivial
  | 8 =>
    -- the stopped publication is in no record, and none is under way
    obtain rfl := Option.some.inj hget
    have hrecords := observed_cleanedUp (fun w => w.ledger.records.map (·.storageKey)) hu
      (a := [3]) (by decide)
    have hnone : ∀ i, u.publications i = none := fun i =>
      observed_cleanedUp (fun w => w.publications i) hu (by match i with | 0 | 1 | i + 2 => rfl)
    rintro c file - - -
    refine ⟨by rw [hrecords]; decide, ?_⟩
    rintro ⟨i, p, already, hp, -⟩
    rw [hnone] at hp
    cases hp
  | 9 =>
    -- the other one is committed, so its file stays
    obtain rfl := Option.some.inj hget
    have hcommitted := observed_cleanedUp (fun w => (w.cleanups 0).map (·.committed)) hu
      (a := some [3]) (by decide)
    rintro c file hc - hdeletes
    rw [hc] at hcommitted
    have hkeys : c.committed = [3] := Option.some.inj hcommitted
    have hnot := (of_decide_eq_true hdeletes).1
    rw [hkeys] at hnot
    exact absurd (mem_singleton_self 3) hnot
  | n + 10 => cases hget

theorem committed_bytes_three : ∃ w : ArtifactWorld lengthDigests,
    (∀ r ∈ w.ledger.records, lengthDigests.HasBytes w.files r.storageKey) ∧
      w.ledger.records.map (·.storageKey) = [3] ∧ w.files 2 = none := by
  have hend : (cleanedUp.foldlM ArtifactWorld.step emptyWorld).map
      (fun w => (w.ledger.records.map (·.storageKey), w.files 2)) = some ([3], none) := by decide
  obtain ⟨w, hw, hfields⟩ := Option.map_eq_some_iff.1 hend
  obtain ⟨hrecords, hfile⟩ := Prod.mk.inj hfields
  exact ⟨w, (committed_bytes lengthDigests (fun _ => none) 0 cleanedUp w (run_of_foldlM hw)
    sparing_cleanedUp).1, hrecords, hfile⟩

end ChartingPlatform
