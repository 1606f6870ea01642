/-
  Which membership is resolved (`resolve_etf_pit_membership`), and when it stays the same.
-/
import ChartingPlatform.Lib.Faults
import ChartingPlatform.Snapshots.EtfMembership

namespace ChartingPlatform

open Lib List

/-! ## What is at fault with a snapshot -/

/-- The messages about values of a JSON text that are not among those that are allowed. -/
def memberFaults (texts : List String) (v : PyValue) (error : PyError) : List PyError :=
  match memberOf texts v with
  | .error e => [e]
  | .ok found => failing (found = true) error

def rowFaults (s : EtfHoldingsSnapshot) (earlier : List (EtfHolding × Option EtfInstrument)) :
    List (EtfHolding × Option EtfInstrument) → List PyError
  | [] => []
  | row :: rows =>
    failing ((constituentOf s row).isSome = true)
        (valueError "ETF constituent identity or row evidence is invalid") ++
      failing (∀ c ∈ constituentOf s row, ¬ SeenBefore (earlier.filterMap (constituentOf s)) c)
        (valueError "ETF membership contains ambiguous duplicate constituents") ++
      rowFaults s (earlier ++ [row]) rows

def membershipFaults (etfInstrument : EtfInstrument) (profile : EtfProfile)
    (s : EtfHoldingsSnapshot) (rows : List (EtfHolding × Option EtfInstrument)) (t : Instant) :
    List PyError :=
  failing (etfInstrument.domainKey.getD "" ≠ "" ∧ etfInstrument.identityStatus = "resolved" ∧
      etfInstrument.isActive = true ∧ etfInstrument.isSynthetic = false)
    (valueError "ETF identity is not canonical and active") ++
  (failing (profile.instrumentId = etfInstrument.id)
    (valueError "ETF profile does not match canonical identity") ++
  (failing (s.etfProfileId = profile.id) (valueError "snapshot does not match ETF profile") ++
  (failing (s.compositionDate ≤ dateOf t)
    (valueError "ETF composition is later than decision time") ++
  (failing (s.knownAt.isSome = true)
    (valueError "ETF snapshot known_at is required for point-in-time use") ++
  (failing (s.knownAt.all (fun k => decide (k ≤ t)) = true)
    (valueError "ETF snapshot was not known at decision time") ++
  (failing (s.completenessStatus ∈ ["complete", "issuer_current", "issuer_reported",
      "self_snapshotted"]) (valueError "ETF snapshot is not complete") ++
  (failing (s.provenance ≠ "" ∧ s.sourceProvider ≠ "" ∧ s.snapshotHash ≠ "")
    (valueError "ETF snapshot provenance is incomplete") ++
  (memberFaults ["matched", "matched_inferred"] s.identityStatus
    (valueError "ETF snapshot lacks producer-verified artifact identity") ++
  (memberFaults ["issuer_native", "successor_native", "licensed_vendor"] s.sourceTier
    (valueError "ETF snapshot source tier is denied for Strategy inputs") ++
  (failing (∃ start ∈ ["issuer_", "successor_", "licensed_", "self_snapshotted_"],
      start.toList.isPrefixOf s.quality.toList = true)
    (valueError "ETF snapshot source quality is unknown or denied") ++
  (failing (0 < s.rowCount ∧ rows.length = s.rowCount)
    (valueError "ETF membership row count is partial") ++
  (failing (s.unresolvedCount = 0 ∧ s.resolvedCount = s.rowCount)
    (valueError "ETF membership contains unresolved rows") ++
  (rowFaults s [] rows ++
  failing (s.publishedAt.all (fun t' => decide (t' ≤ t)) = true)
    (valueError "ETF snapshot publication is later than decision time"))))))))))))))

variable {sha256 : String → Digest} {instrument : EtfInstrument} {profile : EtfProfile}
  {s : EtfHoldingsSnapshot} {rows : List (EtfHolding × Option EtfInstrument)} {t : Instant}

theorem freezeRows_eq (earlier : List (EtfHolding × Option EtfInstrument)) :
    freezeRows s (earlier.filterMap (constituentOf s)) rows =
      answer (rowFaults s earlier rows) ((earlier ++ rows).filterMap (constituentOf s)) := by
  induction rows generalizing earlier with
  | nil =>
    rw [freezeRows, rowFaults, append_nil]
    rfl
  | cons row rows ih =>
    have hrest := ih (earlier ++ [row])
    rw [append_assoc, singleton_append] at hrest
    rw [freezeRows, rowFaults]
    cases hc : constituentOf s row with
    | none => rfl
    | some c =>
      have hfound : failing ((some c).isSome = true)
          (valueError "ETF constituent identity or row evidence is invalid") = [] := if_pos rfl
      have hseen : earlier.filterMap (constituentOf s) ++ [c] =
          (earlier ++ [row]).filterMap (constituentOf s) := by
        rw [filterMap_append, filterMap_cons_some hc]
        rfl
      dsimp only
      rw [hfound, nil_append, ← ensure_bind_answer, hseen, hrest]
      exact congrArg (· >>= _) (ensure_congr (by simp) _)

theorem memberFaults_append {α : Type} {texts : List String} {v : PyValue} {error : PyError}
    {faults : List PyError} {a : α} :
    (memberOf texts v >>= fun found => ensure (found = true) error >>= fun _ => answer faults a) =
      answer (memberFaults texts v error ++ faults) a :=
  bind_ensure_bind_answer error

theorem freezeAt_eq : freezeAt sha256 instrument profile s rows t =
    answer (membershipFaults instrument profile s rows t)
      (membershipOf sha256 instrument profile s (instrument.domainKey.getD "")
        (s.knownAt.getD 0) (rows.filterMap (constituentOf s))) := by
  have hrows : freezeRows s [] rows =
      answer (rowFaults s [] rows) (rows.filterMap (constituentOf s)) := freezeRows_eq []
  have hlast (k : Instant) : (freezeRows s [] rows >>= fun constituents =>
      ensure (s.publishedAt.all (fun t' => decide (t' ≤ t)) = true)
        (valueError "ETF snapshot publication is later than decision time") >>= fun _ =>
      pure (membershipOf sha256 instrument profile s (instrument.domainKey.getD "") k
        constituents)) =
      answer (rowFaults s [] rows ++ failing (s.publishedAt.all (fun t' => decide (t' ≤ t)) = true)
        (valueError "ETF snapshot publication is later than decision time"))
        (membershipOf sha256 instrument profile s (instrument.domainKey.getD "") k
          (rows.filterMap (constituentOf s))) := by
    rw [hrows, ← answer_bind_answer]
    refine congrArg (_ >>= ·) (funext fun constituents => ?_)
    rw [← append_nil (failing _ _), ← ensure_bind_answer]
    rfl
  unfold freezeAt membershipFaults
  simp only [hlast, ← ensure_bind_answer, ← memberFaults_append]
  cases hknown : s.knownAt with
  | none => rfl
  | some k =>
    have hknows : (some k).all (fun k => decide (k ≤ t)) = true ↔ k ≤ t := by simp
    simp only [ensure_of (show (some k).isSome = true from rfl), ok_bind, Option.getD_some,
      ensure_congr hknows]

/-! ## Selection -/

variable {db db' : EtfTables} {key : String} {now : ℤ} {day day' : Day} {pin : Option ℤ}
  {d d₁ d₂ : PyDateTime} {m : EtfPointInTimeMembership} {e : PyError}

structure Identified (db : EtfTables) (key : String) (instrument : EtfInstrument)
    (profile : EtfProfile) : Prop where
  named : notBlank key = true
  identity : onlyRow (db.instruments.filter fun i => i.domainKey = some key) = some instrument
  hasProfile : onlyRow (db.profiles.filter fun p => p.instrumentId = instrument.id) = some profile

def instantAt (now : ℤ) : Except PyError Instant :=
  if h : 0 ≤ now ∧ now < instantLimit then .ok ⟨now.toNat, by omega⟩
  else .error ⟨.overflowError, "date value out of range"⟩

theorem freezeEtfPitMembership_eq (h : d.moment = some now) :
    freezeEtfPitMembership sha256 instrument profile s rows d =
      instantAt now >>= fun t => freezeAt sha256 instrument profile s rows t := by
  obtain ⟨offset, hoffset, rfl⟩ := Option.map_eq_some_iff.1 h
  rw [freezeEtfPitMembership, hoffset]
  rfl

def selectMembership (sha256 : String → Digest) (db : EtfTables) (instrument : EtfInstrument)
    (profile : EtfProfile) (now : ℤ) (day : Day) (pin : Option ℤ) :
    Except PyError EtfPointInTimeMembership := do
  ensure (∀ id ∈ pin, 0 < id) (valueError "pinned ETF snapshot_id must be a positive integer")
  ensure (db.knownSnapshots profile now day pin ≠ [])
    (valueError "pinned ETF snapshot is missing or was not known at decision time")
  ensure (pin.isSome = true → (db.knownSnapshots profile now day pin).length = 1)
    (valueError "pinned ETF snapshot identity is ambiguous")
  match onlyRow (newest EtfHoldingsSnapshot.recency (db.knownSnapshots profile now day pin)) with
  | none => .error (valueError "latest ETF point-in-time snapshot is ambiguous")
  | some s => instantAt now >>= fun t => freezeAt sha256 instrument profile s (db.holdingRows s) t

theorem resolve_identified (h : Identified db key instrument profile) (hd : d.moment = some now) :
    resolveEtfPitMembership sha256 db key d pin =
      selectMembership sha256 db instrument profile now (dateOf d.wall) pin := by
  unfold resolveEtfPitMembership
  rw [ensure_of h.named, ok_bind, hd]
  dsimp only
  rw [h.identity]
  dsimp only
  rw [h.hasProfile]
  dsimp only
  simp only [freezeEtfPitMembership_eq hd]
  rfl

theorem resolve_unidentified (sha256 : String → Digest)
    (h : ¬ ∃ instrument profile, Identified db key instrument profile)
    (hi : db.instruments ~ db'.instruments) (hp : db.profiles ~ db'.profiles)
    (h₁ : d₁.moment = some now) (h₂ : d₂.moment = some now) (pin pin' : Option ℤ) :
    ∃ e, resolveEtfPitMembership sha256 db key d₁ pin = .error e ∧
      resolveEtfPitMembership sha256 db' key d₂ pin' = .error e := by
  unfold resolveEtfPitMembership
  rw [h₁, h₂, ← onlyRow_perm (hi.filter _)]
  simp only [← onlyRow_perm (hp.filter _)]
  by_cases hkey : notBlank key = true
  · rw [ensure_of hkey, ok_bind, ok_bind]
    cases hinstrument : onlyRow (db.instruments.filter fun i => i.domainKey = some key) with
    | none => exact ⟨_, rfl, rfl⟩
    | some instrument =>
      dsimp only
      cases hprofile : onlyRow (db.profiles.filter fun p => p.instrumentId = instrument.id) with
      | none => exact ⟨_, rfl, rfl⟩
      | some profile => exact absurd ⟨instrument, profile, hkey, hinstrument, hprofile⟩ h
  · rw [ensure_of_not hkey]
    exact ⟨_, rfl, rfl⟩

theorem mem_knownSnapshots : s ∈ db.knownSnapshots profile now day none ↔
    s ∈ db.snapshots ∧ s.etfProfileId = profile.id ∧ (∃ k ∈ s.knownAt, (k.val : ℤ) ≤ now) ∧
      s.compositionDate ≤ day := by
  simp [EtfTables.knownSnapshots, Option.any_eq_true, and_assoc]

theorem mem_knownSnapshots_pinned {id : ℤ} : s ∈ db.knownSnapshots profile now day (some id) ↔
    s ∈ db.snapshots ∧ s.etfProfileId = profile.id ∧ (∃ k ∈ s.knownAt, (k.val : ℤ) ≤ now) ∧
      s.id = id := by
  simp [EtfTables.knownSnapshots, Option.any_eq_true, and_assoc]

theorem mem_snapshots_of_known (h : s ∈ db.knownSnapshots profile now day pin) :
    s ∈ db.snapshots ∧ s.etfProfileId = profile.id ∧ ∃ k ∈ s.knownAt, (k.val : ℤ) ≤ now := by
  cases pin with
  | none =>
    obtain ⟨hs, hprofile, hknown, -⟩ := mem_knownSnapshots.1 h
    exact ⟨hs, hprofile, hknown⟩
  | some id =>
    obtain ⟨hs, hprofile, hknown, -⟩ := mem_knownSnapshots_pinned.1 h
    exact ⟨hs, hprofile, hknown⟩

theorem selectMembership_eq_ok
    (h : selectMembership sha256 db instrument profile now day pin = .ok m) :
    ∃ s t, newest EtfHoldingsSnapshot.recency (db.knownSnapshots profile now day pin) = [s] ∧
      instantAt now = .ok t ∧
      freezeAt sha256 instrument profile s (db.holdingRows s) t = .ok m ∧
      m.snapshotId = s.id ∧ m.compositionDate = s.compositionDate := by
  obtain ⟨_, -, h⟩ := bind_eq_ok.1 h
  obtain ⟨_, -, h⟩ := bind_eq_ok.1 h
  obtain ⟨_, -, h⟩ := bind_eq_ok.1 h
  cases hs : onlyRow (newest EtfHoldingsSnapshot.recency
      (db.knownSnapshots profile now day pin)) with
  | none =>
    rw [hs] at h
    cases h
  | some s =>
    rw [hs] at h
    obtain ⟨t, ht, h⟩ := bind_eq_ok.1 h
    have hm := h
    rw [freezeAt_eq, answer_eq_ok] at hm
    exact ⟨s, t, onlyRow_eq_some.1 hs, ht, h, by rw [← hm.2]; rfl, by rw [← hm.2]; rfl⟩

/-- What is at fault with the newest known snapshot up to a day. -/
def selectionFaults (db : EtfTables) (instrument : EtfInstrument) (profile : EtfProfile) (now : ℤ)
    (day : Day) : List PyError :=
  if db.knownSnapshots profile now day none = [] then
    [valueError "pinned ETF snapshot is missing or was not known at decision time"]
  else
    match onlyRow (newest EtfHoldingsSnapshot.recency
        (db.knownSnapshots profile now day none)), instantAt now with
    | none, _ => [valueError "latest ETF point-in-time snapshot is ambiguous"]
    | some _, .error e => [e]
    | some s, .ok t => membershipFaults instrument profile s (db.holdingRows s) t

theorem selectMembership_eq_error :
    selectMembership sha256 db instrument profile now day none = .error e ↔
      (selectionFaults db instrument profile now day).head? = some e := by
  unfold selectMembership selectionFaults
  rw [ensure_of (show ∀ id ∈ none, (0 : ℤ) < id from nofun), ok_bind]
  by_cases hnil : db.knownSnapshots profile now day none = []
  · rw [ensure_of_not (not_not.2 hnil), if_pos hnil, error_bind]
    simp
  · rw [ensure_of hnil, ok_bind, ensure_of (show none.isSome = true → _ from nofun), ok_bind,
      if_neg hnil]
    cases onlyRow (newest EtfHoldingsSnapshot.recency
      (db.knownSnapshots profile now day none)) with
    | none => simp
    | some s =>
      cases instantAt now with
      | error e' =>
        dsimp only
        rw [error_bind]
        simp
      | ok t =>
        dsimp only
        rw [ok_bind, freezeAt_eq, answer_eq_error]

/-! ## One instant in two zones -/

/-- No known snapshot is dated between the days, or the newest ones up to both days are refused
    for the same reason. -/
def SameSelection (db : EtfTables) (key : String) (now : ℤ) (day day' : Day) : Prop :=
  ∀ instrument profile, Identified db key instrument profile →
    (∀ s ∈ db.snapshots, s.etfProfileId = profile.id →
      (∃ k ∈ s.knownAt, (k.val : ℤ) ≤ now) →
      (s.compositionDate ≤ day ↔ s.compositionDate ≤ day')) ∨
    ∃ e, (selectionFaults db instrument profile now day).head? = some e ∧
      (selectionFaults db instrument profile now day').head? = some e

theorem knownSnapshots_congr (h : ∀ s ∈ db.snapshots, s.etfProfileId = profile.id →
      (∃ k ∈ s.knownAt, (k.val : ℤ) ≤ now) →
      (s.compositionDate ≤ day ↔ s.compositionDate ≤ day')) :
    db.knownSnapshots profile now day none = db.knownSnapshots profile now day' none := by
  refine filter_congr fun s hs => ?_
  by_cases hprofile : s.etfProfileId = profile.id
  · by_cases hknown : s.knownAt.any (fun k => decide ((k.val : ℤ) ≤ now)) = true
    · have hday := h s hs hprofile (by simpa [Option.any_eq_true] using hknown)
      simp only [hday]
    · simp only [Bool.not_eq_true] at hknown
      simp only [hknown, Bool.and_false, Bool.false_and]
  · simp only [hprofile, decide_false, Bool.false_and]

theorem compositionDate_of_newest
    (h : newest EtfHoldingsSnapshot.recency (db.knownSnapshots profile now day none) = [s]) :
    s.compositionDate ≤ day ∧ ∀ x ∈ db.knownSnapshots profile now day none,
      x.compositionDate ≤ s.compositionDate := by
  have hs : s ∈ newest EtfHoldingsSnapshot.recency (db.knownSnapshots profile now day none) := by
    rw [h]
    exact mem_singleton_self s
  obtain ⟨hmem, hall⟩ := mem_newest.1 hs
  refine ⟨(mem_knownSnapshots.1 hmem).2.2.2, fun x hx => ?_⟩
  rcases Prod.Lex.toLex_le_toLex.1 (hall x hx) with hlt | ⟨heq, -⟩
  · exact hlt.le
  · exact heq.le

theorem between_of_ok (hle : day ≤ day')
    (h : selectMembership sha256 db instrument profile now day none = .ok m)
    (h' : selectMembership sha256 db instrument profile now day' none = .ok m) :
    ∀ s ∈ db.snapshots, s.etfProfileId = profile.id →
      (∃ k ∈ s.knownAt, (k.val : ℤ) ≤ now) →
      (s.compositionDate ≤ day ↔ s.compositionDate ≤ day') := by
  intro s hs hprofile hknown
  refine ⟨fun hday => hday.trans hle, fun hday => ?_⟩
  obtain ⟨x, _, hx, -, -, -, hdate⟩ := selectMembership_eq_ok h
  obtain ⟨x', _, hx', -, -, -, hdate'⟩ := selectMembership_eq_ok h'
  have hnewest := (compositionDate_of_newest hx').2 s
    (mem_knownSnapshots.2 ⟨hs, hprofile, hknown, hday⟩)
  rw [← hdate', hdate] at hnewest
  exact hnewest.trans (compositionDate_of_newest hx).1

theorem selectMembership_days :
    selectMembership sha256 db instrument profile now day none =
        selectMembership sha256 db instrument profile now day' none ↔
      (∀ s ∈ db.snapshots, s.etfProfileId = profile.id →
        (∃ k ∈ s.knownAt, (k.val : ℤ) ≤ now) →
        (s.compositionDate ≤ day ↔ s.compositionDate ≤ day')) ∨
      ∃ e, (selectionFaults db instrument profile now day).head? = some e ∧
        (selectionFaults db instrument profile now day').head? = some e := by
  constructor
  · intro heq
    cases h : selectMembership sha256 db instrument profile now day none with
    | error e =>
      exact .inr ⟨e, selectMembership_eq_error.1 h, selectMembership_eq_error.1 (heq ▸ h)⟩
    | ok m =>
      have h' := heq ▸ h
      rcases le_total day day' with hle | hle
      · exact .inl (between_of_ok hle h h')
      · exact .inl fun s hs hprofile hknown => (between_of_ok hle h' h s hs hprofile hknown).symm
  · rintro (hsame | ⟨e, he, he'⟩)
    · unfold selectMembership
      rw [knownSnapshots_congr hsame]
    · rw [selectMembership_eq_error.2 he, selectMembership_eq_error.2 he']

/-! ## Tables that grow -/

/-- The tables with further snapshots and with holdings of theirs; nothing is said of the order
    of the rows. -/
structure GrownBy (db : EtfTables) (news : List EtfHoldingsSnapshot) (db' : EtfTables) : Prop where
  instruments : db.instruments ~ db'.instruments
  profiles : db.profiles ~ db'.profiles
  snapshots : db.snapshots ++ news ~ db'.snapshots
  holdings : ∃ newHoldings : List EtfHolding, db.holdings ++ newHoldings ~ db'.holdings ∧
    ∀ h ∈ newHoldings, ∃ s ∈ news, h.snapshotId = s.id

section
variable {news : List EtfHoldingsSnapshot}

theorem GrownBy.identified (h : GrownBy db news db') (hid : Identified db key instrument profile) :
    Identified db' key instrument profile where
  named := hid.named
  identity := by rw [← onlyRow_perm (h.instruments.filter _)]; exact hid.identity
  hasProfile := by rw [← onlyRow_perm (h.profiles.filter _)]; exact hid.hasProfile

theorem GrownBy.id_ne (h : GrownBy db news db') (hs : s ∈ db.snapshots) {s' : EtfHoldingsSnapshot}
    (hs' : s' ∈ news) : s'.id ≠ s.id := by
  have hnodup := ((h.snapshots.map (·.id)).nodup_iff).2 db'.snapshots_ids
  rw [map_append, nodup_append] at hnodup
  exact fun heq => hnodup.2.2 _ (mem_map_of_mem hs) _ (mem_map_of_mem hs') heq.symm

theorem GrownBy.holdingRows (h : GrownBy db news db') (hs : s ∈ db.snapshots) :
    db'.holdingRows s = db.holdingRows s := by
  obtain ⟨newHoldings, hperm, hnew⟩ := h.holdings
  have hfilter : db.holdings.filter (fun x => x.snapshotId = s.id) ~
      db'.holdings.filter (fun x => x.snapshotId = s.id) := by
    have hnone : newHoldings.filter (fun x => decide (x.snapshotId = s.id)) = [] := by
      rw [filter_eq_nil_iff]
      intro x hx
      obtain ⟨s', hs', hid⟩ := hnew x hx
      rw [hid, decide_eq_true_eq]
      exact h.id_ne hs hs'
    have := hperm.filter fun x => decide (x.snapshotId = s.id)
    rwa [filter_append, hnone, append_nil] at this
  have hsort : sortBy (fun x => toLex (x.position, x.id))
        (db.holdings.filter fun x => x.snapshotId = s.id) =
      sortBy (fun x => toLex (x.position, x.id))
        (db'.holdings.filter fun x => x.snapshotId = s.id) := by
    refine sortBy_eq_of_perm hfilter fun a ha b hb hkey => ?_
    exact inj_on_of_nodup_map db.holdings_ids (mem_filter.1 ha).1
      (mem_filter.1 hb).1 (congrArg (fun k => (ofLex k).2) hkey)
  rw [EtfTables.holdingRows, EtfTables.holdingRows, hsort]
  refine map_congr_left fun x _ => ?_
  have hrow : ∀ id, rowWith (·.id) id db'.instruments = rowWith (·.id) id db.instruments :=
    fun id => (rowWith_perm h.instruments db.instruments_ids).symm
  simp only [hrow]

theorem selectMembership_congr
    (hknown : db.knownSnapshots profile now day pin ~ db'.knownSnapshots profile now day' pin)
    (hrows : ∀ s ∈ db.knownSnapshots profile now day pin,
      db'.holdingRows s = db.holdingRows s) :
    selectMembership sha256 db instrument profile now day pin =
      selectMembership sha256 db' instrument profile now day' pin := by
  have hnil : db.knownSnapshots profile now day pin ≠ [] ↔
      db'.knownSnapshots profile now day' pin ≠ [] := by
    rw [Ne, Ne, ← length_eq_zero_iff, ← length_eq_zero_iff, hknown.length_eq]
  unfold selectMembership
  rw [ensure_congr hnil, hknown.length_eq, ← onlyRow_perm (newest_perm hknown)]
  cases hs : onlyRow (newest EtfHoldingsSnapshot.recency
      (db.knownSnapshots profile now day pin)) with
  | none => rfl
  | some s =>
    have hmem : s ∈ newest EtfHoldingsSnapshot.recency
        (db.knownSnapshots profile now day pin) := by
      rw [onlyRow_eq_some.1 hs]
      exact mem_singleton_self s
    dsimp only
    rw [hrows s (mem_newest.1 hmem).1]

/-- **Snapshots that are known later** change nothing. -/
theorem resolve_later (h : GrownBy db news db') (hd : d.moment = some now)
    (hlater : ∀ s ∈ news, ∀ k ∈ s.knownAt, now < (k.val : ℤ)) :
    resolveEtfPitMembership sha256 db' key d pin = resolveEtfPitMembership sha256 db key d pin := by
  by_cases hid : ∃ instrument profile, Identified db key instrument profile
  · obtain ⟨instrument, profile, hid⟩ := hid
    rw [resolve_identified hid hd, resolve_identified (h.identified hid) hd]
    refine (selectMembership_congr ?_ fun s hs => h.holdingRows (mem_snapshots_of_known hs).1).symm
    obtain ⟨f, hdb, hdb', hf⟩ : ∃ f, db.knownSnapshots profile now (dateOf d.wall) pin =
          db.snapshots.filter f ∧
        db'.knownSnapshots profile now (dateOf d.wall) pin = db'.snapshots.filter f ∧
        ∀ s, f s = true → ∃ k ∈ s.knownAt, (k.val : ℤ) ≤ now := by
      refine ⟨_, rfl, rfl, fun s hs => ?_⟩
      rw [Bool.and_eq_true, Bool.and_eq_true, Option.any_eq_true] at hs
      obtain ⟨⟨-, k, hk, hle⟩, -⟩ := hs
      exact ⟨k, hk, of_decide_eq_true hle⟩
    have hnone : news.filter f = [] := by
      rw [filter_eq_nil_iff]
      intro s hs hknown
      obtain ⟨k, hk, hle⟩ := hf s hknown
      exact absurd hle (not_le.2 (hlater s hs k hk))
    have hperm := h.snapshots.filter f
    rw [filter_append, hnone, append_nil] at hperm
    rwa [hdb, hdb']
  · obtain ⟨e, he, he'⟩ := resolve_unidentified sha256 hid h.instruments h.profiles hd
      hd pin pin
    rw [he, he']

/-- **A pinned snapshot** keeps its membership. -/
theorem resolve_pinned (h : GrownBy db news db') (hd : d.moment = some now)
    (hm : resolveEtfPitMembership sha256 db key d pin = .ok m) :
    resolveEtfPitMembership sha256 db' key d (some m.snapshotId) = .ok m := by
  by_cases hid : ∃ instrument profile, Identified db key instrument profile
  · obtain ⟨instrument, profile, hid⟩ := hid
    rw [resolve_identified hid hd] at hm
    rw [resolve_identified (h.identified hid) hd]
    obtain ⟨s, t, hs, ht, hfreeze, hsid, -⟩ := selectMembership_eq_ok hm
    have hmem : s ∈ newest EtfHoldingsSnapshot.recency
        (db.knownSnapshots profile now (dateOf d.wall) pin) := by
      rw [hs]
      exact mem_singleton_self s
    obtain ⟨hin, hprofile, hknown⟩ := mem_snapshots_of_known (mem_newest.1 hmem).1
    have hin' : s ∈ db'.snapshots := h.snapshots.mem_iff.1 (mem_append_left _ hin)
    -- the id is that of no other snapshot
    have honly : db'.knownSnapshots profile now (dateOf d.wall) (some s.id) = [s] := by
      have hone := filter_key_eq db'.snapshots_ids hin'
      have hsub : db'.knownSnapshots profile now (dateOf d.wall) (some s.id) =
          (db'.snapshots.filter fun x => decide (x.id = s.id)).filter fun x =>
            decide (x.etfProfileId = profile.id) &&
              x.knownAt.any (fun k => decide ((k.val : ℤ) ≤ now)) := by
        rw [filter_filter]
        rfl
      rw [hsub, hone, filter_cons_of_pos]
      · rfl
      · rw [Bool.and_eq_true, Option.any_eq_true]
        obtain ⟨k, hk, hle⟩ := hknown
        exact ⟨decide_eq_true hprofile, k, hk, decide_eq_true hle⟩
    unfold selectMembership
    rw [hsid, honly, ensure_of (show ∀ id ∈ some s.id, 0 < id from fun id hid =>
      Option.some.inj hid ▸ s.id_pos), ok_bind, ensure_of (cons_ne_nil s []), ok_bind,
      ensure_of (show (some s.id).isSome = true → [s].length = 1 from fun _ => rfl), ok_bind,
      newest_singleton, onlyRow_eq_some.2 rfl]
    dsimp only
    rw [ht, ok_bind, h.holdingRows hin, hfreeze]
  · obtain ⟨e, he, -⟩ := resolve_unidentified sha256 hid (List.Perm.refl _)
      (List.Perm.refl _) hd hd pin pin
    rw [he] at hm
    cases hm

end

/-! ## Point in time -/

/-- What is expected of the membership at a decision time that is given in two zones. -/
structure PointInTime (sha256 : String → Digest) (db : EtfTables) (key : String)
    (d₁ d₂ : PyDateTime) (now : ℤ) : Prop where
  sameInstant : ∀ pin, resolveEtfPitMembership sha256 db key d₁ pin =
    resolveEtfPitMembership sha256 db key d₂ pin
  later : ∀ news db', GrownBy db news db' → (∀ s ∈ news, ∀ k ∈ s.knownAt, now < (k.val : ℤ)) →
    ∀ pin, resolveEtfPitMembership sha256 db' key d₁ pin =
      resolveEtfPitMembership sha256 db key d₁ pin
  pinned : ∀ pin m, resolveEtfPitMembership sha256 db key d₁ pin = .ok m →
    ∀ news db', GrownBy db news db' →
      resolveEtfPitMembership sha256 db' key d₁ (some m.snapshotId) = .ok m

theorem resolve_pin_congr (h₁ : d₁.moment = some now) (h₂ : d₂.moment = some now) (id : ℤ) :
    resolveEtfPitMembership sha256 db key d₁ (some id) =
      resolveEtfPitMembership sha256 db key d₂ (some id) := by
  by_cases hid : ∃ instrument profile, Identified db key instrument profile
  · obtain ⟨instrument, profile, hid⟩ := hid
    rw [resolve_identified hid h₁, resolve_identified hid h₂]
    rfl
  · obtain ⟨e, he, he'⟩ := resolve_unidentified sha256 hid (List.Perm.refl _) (List.Perm.refl _)
      h₁ h₂ (some id) (some id)
    rw [he, he']

/-- **Membership is point-in-time** exactly where the two local dates of the instant make the same
    selection. -/
theorem resolveEtfPitMembership_pointInTime_iff (sha256 : String → Digest) (db : EtfTables)
    (key : String) (d₁ d₂ : PyDateTime) (now : ℤ) (h₁ : d₁.moment = some now)
    (h₂ : d₂.moment = some now) :
    PointInTime sha256 db key d₁ d₂ now ↔
      SameSelection db key now (dateOf d₁.wall) (dateOf d₂.wall) := by
  constructor
  · intro h instrument profile hid
    have hsame := h.sameInstant none
    rw [resolve_identified hid h₁, resolve_identified hid h₂] at hsame
    exact selectMembership_days.1 hsame
  · intro h
    refine ⟨fun pin => ?_, fun news db' hadds hlater pin => resolve_later hadds h₁ hlater,
      fun pin m hm news db' hadds => resolve_pinned hadds h₁ hm⟩
    cases pin with
    | some id => exact resolve_pin_congr h₁ h₂ id
    | none =>
      by_cases hid : ∃ instrument profile, Identified db key instrument profile
      · obtain ⟨instrument, profile, hid⟩ := hid
        rw [resolve_identified hid h₁, resolve_identified hid h₂]
        exact selectMembership_days.2 (h instrument profile hid)
      · obtain ⟨e, he, he'⟩ := resolve_unidentified sha256 hid (List.Perm.refl _)
          (List.Perm.refl _) h₁ h₂ none none
        rw [he, he']

def sampleEtf : EtfInstrument := ⟨1, some "US:ETF:SPY", "resolved", true, false⟩

/-- Its composition of the second day, known since midnight. -/
def secondDay : EtfHoldingsSnapshot where
  id := 3
  etfProfileId := 2
  sourceArtifactId := none
  compositionDate := dateOf (nthMidnight 1)
  knownAt := some (nthMidnight 1)
  publishedAt := none
  provenance := "issuer"
  sourceProvider := "local"
  sourceQuality := "issuer_reported"
  completenessStatus := "complete"
  rowCount := 1
  resolvedCount := 1
  unresolvedCount := 0
  snapshotHash := "hash"
  extraData := .mapping [(.str "source_tier", .str "issuer_native"),
    (.str "artifact_identity_validation", .mapping [(.str "status", .str "matched")])]
  id_pos := by decide

def etfTables : EtfTables where
  instruments := [sampleEtf, ⟨5, some "US:EQ:ABC", "resolved", true, false⟩]
  profiles := [⟨2, 1⟩]
  snapshots := [secondDay]
  holdings := [⟨6, 3, some 5, 1, some (.finite false 25 (-2)), "equity", "security", "row", true⟩]
  instruments_ids := by decide
  snapshots_ids := by decide
  holdings_ids := by decide

/-- Two hours after midnight in UTC, and in New York on the evening before. -/
def earlyUtc : PyDateTime := ⟨93600000000, some 0, none⟩

def eveningBefore : PyDateTime := ⟨75600000000, some (-18000000000), none⟩

def earlyEast : PyDateTime := ⟨97200000000, some 3600000000, none⟩

theorem earlyUtc_moment : earlyUtc.moment = some 93600000000 := by decide +kernel

theorem eveningBefore_moment : eveningBefore.moment = some 93600000000 := by decide +kernel

theorem earlyEast_moment : earlyEast.moment = some 93600000000 := by decide +kernel

theorem etfTables_identified : Identified etfTables "US:ETF:SPY" sampleEtf ⟨2, 1⟩ :=
  ⟨by decide, rfl, rfl⟩

theorem etfTables_unknown :
    etfTables.knownSnapshots ⟨2, 1⟩ 93600000000 (dateOf eveningBefore.wall) none = [] := rfl

theorem secondDay_faults : selectionFaults etfTables sampleEtf ⟨2, 1⟩ 93600000000
    (dateOf earlyUtc.wall) = [] := by
  decide +kernel

/-- One instant in two zones of one date. -/
theorem resolveEtfPitMembership_pointInTime_east :
    (∃ m, resolveEtfPitMembership Digest.mk etfTables "US:ETF:SPY" earlyUtc none = .ok m) ∧
      PointInTime Digest.mk etfTables "US:ETF:SPY" earlyUtc earlyEast 93600000000 := by
  constructor
  · rw [resolve_identified etfTables_identified earlyUtc_moment]
    cases h : selectMembership Digest.mk etfTables sampleEtf ⟨2, 1⟩ 93600000000
        (dateOf earlyUtc.wall) none with
    | ok m => exact ⟨m, rfl⟩
    | error e =>
      have he := selectMembership_eq_error.1 h
      rw [secondDay_faults] at he
      cases he
  · have hdate : dateOf earlyUtc.wall = dateOf earlyEast.wall := by decide +kernel
    refine (resolveEtfPitMembership_pointInTime_iff Digest.mk etfTables "US:ETF:SPY" earlyUtc
      earlyEast 93600000000 earlyUtc_moment earlyEast_moment).2 fun _ _ _ => .inl fun _ _ _ _ => ?_
    rw [hdate]

/-- **One instant in two zones of two dates**: in UTC the composition of the day is found, in New
    York it is still the evening before. -/
theorem resolveEtfPitMembership_evening :
    earlyUtc.moment = some 93600000000 ∧ eveningBefore.moment = some 93600000000 ∧
      ¬ PointInTime Digest.mk etfTables "US:ETF:SPY" earlyUtc eveningBefore 93600000000 := by
  refine ⟨earlyUtc_moment, eveningBefore_moment, fun h => ?_⟩
  have hsame := h.sameInstant none
  rw [resolve_identified etfTables_identified earlyUtc_moment,
    resolve_identified etfTables_identified eveningBefore_moment] at hsame
  have hmissing : selectMembership Digest.mk etfTables sampleEtf ⟨2, 1⟩ 93600000000
      (dateOf eveningBefore.wall) none =
      .error (valueError "pinned ETF snapshot is missing or was not known at decision time") := by
    rw [selectMembership_eq_error, selectionFaults, if_pos etfTables_unknown]
    rfl
  have hfault := selectMembership_eq_error.1 (hsame.trans hmissing)
  rw [secondDay_faults] at hfault
  cases hfault

end ChartingPlatform
