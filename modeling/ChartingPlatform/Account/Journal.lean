/-
  Runs of the account adapter: the history of an account is a journal of its
  applied events (`Journal`), and replaying it rebuilds the stored state.
-/
import ChartingPlatform.Account.History

namespace ChartingPlatform

open Lib List Function

variable {enc : AccountEncoding}

/-! ## Applied events -/

abbrev AccountInput := ForwardAccountEvent × Option ForwardRuntimeExecutionReceipt

/-- The input is applied, and `t` is the next state. -/
def Settles (enc : AccountEncoding) (s : ForwardAccountState) (e : AccountInput)
    (t : ForwardAccountState) : Prop :=
  ∃ r, applyForwardAccountEvent unrounded enc s e.1 e.2 = .ok r ∧ r.decision = .applied ∧ r.state = t

section
variable {s t start : ForwardAccountState} {e : AccountInput}

theorem Settles.spec (h : Settles enc s e t) :
    (∀ r ∈ e.2, r.Binds e.1) ∧ e.1.instanceId = s.instanceId ∧ t.instanceId = s.instanceId ∧
      t.lastEventId = some e.1.eventId ∧ t.lastEventSequence = e.1.sequence ∧
      e.1.eventId ∉ s.appliedEvents.map (·.eventId) ∧
      ∀ id, id ∈ t.appliedEvents.map (·.eventId) ↔
        id ∈ s.appliedEvents.map (·.eventId) ∨ id = e.1.eventId := by
  obtain ⟨r, happly, hd, rfl⟩ := h
  cases applyForwardAccountEvent_cases happly with
  | failed hfailed =>
    rw [hd] at hfailed
    cases hfailed
  | replay _ _ _ _ hd' =>
    rw [hd] at hd'
    cases hd'
  | applied hr hinstance hnew _ _ _ hnext _ =>
    obtain ⟨hid, hseq, hlast, -, -, -, -, hrecords⟩ := settled_fields hnext
    refine ⟨hr, hinstance, hid, hlast, hseq, rowWith_eq_none.1 hnew, ?_⟩
    intro id
    rw [hrecords, ((perm_sortBy _ _).map _).mem_iff, map_append, mem_append,
      map_singleton, mem_singleton]
    exact Iff.rfl

theorem Settles.reapply (h : Settles enc s e t) (message : String) :
    reapply enc message s e.1 e.2 (t.fingerprint enc) = .ok t := by
  obtain ⟨r, happly, hd, rfl⟩ := h
  unfold ChartingPlatform.reapply
  rw [happly, ok_bind, ensure_of ⟨hd, rfl⟩]
  rfl

/-! ## Journals -/

inductive Journal (start : ForwardAccountState) (admission : Option ForwardLiveAdmissionState) :
    List AccountInput → ForwardAccountState → List (ForwardAccountHistoryEntry enc) → Prop
  | root {x} : x.toHistoryFields = rootFields enc start admission →
      Journal start admission [] start [x]
  | snoc {events s t xs e x} : Journal start admission events s xs → Settles enc s e t →
      x.toHistoryFields = transitionFields enc xs.length s t e.1 e.2 →
      Journal start admission (events ++ [e]) t (xs ++ [x])

variable {admission : Option ForwardLiveAdmissionState} {events : List AccountInput}
  {xs : List (ForwardAccountHistoryEntry enc)}

theorem Journal.exists_cons (h : Journal start admission events s xs) :
    ∃ root ts, xs = root :: ts ∧ root.toHistoryFields = rootFields enc start admission ∧
      ts.map (·.event) = events.map fun e => some e.1 := by
  induction h with
  | root hx => exact ⟨_, [], rfl, hx, rfl⟩
  | @snoc events s t xs e x _ _ hx ih =>
    obtain ⟨root, ts, rfl, hroot, hts⟩ := ih
    have hevent : x.event = some e.1 := by rw [hx]; rfl
    exact ⟨root, ts ++ [x], rfl, hroot, by
      rw [map_append, map_append, hts, map_singleton, map_singleton, hevent]⟩

theorem Journal.length_eq (h : Journal start admission events s xs) :
    xs.length = events.length + 1 := by
  induction h with
  | root => rfl
  | snoc _ _ _ ih => rw [length_append, ih, length_append]; rfl

theorem Journal.revisions (h : Journal start admission events s xs) :
    xs.map (·.revision) = List.range xs.length := by
  induction h with
  | @root x hx =>
    have hrevision : x.revision = 0 := by rw [hx]; rfl
    rw [map_singleton, hrevision]
    rfl
  | @snoc events s t xs e x _ _ hx ih =>
    have hrevision : x.revision = xs.length := by rw [hx]; rfl
    rw [map_append, map_singleton, ih, length_append, length_singleton,
      range_succ, hrevision]

theorem Journal.events_spec (h : Journal start admission events s xs) :
    s.instanceId = start.instanceId ∧
      (∀ e ∈ events, e.1.eventId ∈ s.appliedEvents.map (·.eventId)) ∧
      (events.map fun e => e.1.eventId).Nodup := by
  induction h with
  | root => exact ⟨rfl, by simp, nodup_nil⟩
  | @snoc events s t xs e x _ hsettles _ ih =>
    obtain ⟨hid, hrecorded, hnodup⟩ := ih
    obtain ⟨-, -, hinstance, -, -, hnew, hids⟩ := hsettles.spec
    refine ⟨hinstance.trans hid, ?_, ?_⟩
    · intro y hy
      rw [hids]
      rcases mem_append.1 hy with hy | hy
      · exact .inl (hrecorded y hy)
      · rw [mem_singleton.1 hy]
        exact .inr rfl
    · rw [map_append, map_singleton, nodup_append]
      refine ⟨hnodup, nodup_singleton _, ?_⟩
      intro id hmem id' hid' heq
      obtain ⟨y, hy, rfl⟩ := mem_map.1 hmem
      rw [mem_singleton] at hid'
      exact hnew (hid' ▸ heq ▸ hrecorded y hy)

theorem replayTransitions_append (n : ℕ) (s : ForwardAccountState)
    (xs ys : List (ForwardAccountHistoryEntry enc)) :
    replayTransitions n s (xs ++ ys) =
      replayTransitions n s xs >>= fun t => replayTransitions (n + xs.length) t ys := by
  induction xs generalizing n s with
  | nil => rfl
  | cons x xs ih =>
    rw [cons_append, replayTransitions, replayTransitions]
    by_cases hx : x.revision = n ∧ x.previousStateFingerprint = some (s.fingerprint enc)
    · rw [ensure_of hx, ok_bind, ok_bind]
      cases x.event with
      | none => rfl
      | some e =>
        dsimp only
        cases reapply enc "PostgreSQL forward account history replay is inconsistent" s e
            x.executionReceipt x.stateFingerprint with
        | error e => rfl
        | ok t =>
          rw [ok_bind, ok_bind, ih, length_cons, Nat.add_right_comm, Nat.add_assoc]
    · rw [ensure_of_not hx]
      rfl

/-- **Replaying a journal** rebuilds the state. -/
theorem Journal.replays (h : Journal start admission events s xs) :
    replayHistory xs = .ok s := by
  induction h with
  | @root x hx =>
    have hsnapshot : x.snapshot = some start := by rw [hx]; rfl
    have hrevision : x.revision = 0 := by rw [hx]; rfl
    rw [replayHistory, hsnapshot]
    dsimp only
    rw [if_neg (not_not.2 hrevision)]
    rfl
  | @snoc events s t xs e x hxs hsettles hx ih =>
    obtain ⟨root, ts, rfl, hroot, -⟩ := hxs.exists_cons
    have hsnapshot : root.snapshot = some start := by rw [hroot]; rfl
    have hrevision : root.revision = 0 := by rw [hroot]; rfl
    rw [replayHistory, hsnapshot] at ih
    dsimp only at ih
    rw [if_neg (not_not.2 hrevision)] at ih
    rw [cons_append, replayHistory, hsnapshot]
    dsimp only
    rw [if_neg (not_not.2 hrevision), replayTransitions_append, ih, ok_bind, replayTransitions,
      ensure_of ⟨by rw [hx, length_cons, Nat.add_comm]; rfl, by rw [hx]; rfl⟩, ok_bind, hx]
    simp only [transitionFields]
    rw [hsettles.reapply, ok_bind]
    rfl

/-! ## Stored journals -/

def historyRow (ownerId instanceId : String) (x : ForwardAccountHistoryEntry enc) :
    AccountHistoryRow enc :=
  ⟨ownerId, instanceId, x.revision, x, x.fingerprint⟩

def storedRows (ownerId instanceId : String) (s : ForwardAccountState)
    (xs : List (ForwardAccountHistoryEntry enc)) : AccountRows enc where
  account := some ⟨ownerId, instanceId, s, s.fingerprint enc⟩
  history := xs.map (historyRow ownerId instanceId)

variable {ownerId instanceId : String} {db : AccountDb enc}

theorem readHistory_map {n : ℕ} (h : xs.map (·.revision) = List.range' n xs.length) :
    readHistory ownerId instanceId n (xs.map (historyRow ownerId instanceId)) = .ok xs := by
  induction xs generalizing n with
  | nil => rfl
  | cons x xs ih =>
    rw [map_cons, length_cons, range'_succ, List.cons.injEq] at h
    rw [map_cons, readHistory, ensure_of ⟨rfl, rfl, h.1, h.1, rfl⟩, ok_bind, ih h.2, ok_bind]
    rfl

theorem loadAccount_stored (hdb : db (ownerId, instanceId) = storedRows ownerId instanceId s xs)
    (hid : s.instanceId = instanceId) : loadAccount db ownerId instanceId = .ok (some s) := by
  unfold loadAccount
  rw [hdb]
  dsimp only [storedRows]
  rw [ensure_of ⟨rfl, hid.symm⟩, ok_bind, ensure_of rfl, ok_bind]
  rfl

theorem Journal.loads (h : Journal start admission events s xs)
    (hdb : db (ownerId, instanceId) = storedRows ownerId instanceId s xs) :
    loadAccountHistory db ownerId instanceId = .ok xs := by
  have hrevisions : (xs.map (historyRow ownerId instanceId)).map (·.revision) =
      List.range xs.length := by
    rw [map_map]
    exact h.revisions
  have hsorted : (xs.map (historyRow ownerId instanceId)).Pairwise
      fun a b => a.revision < b.revision := by
    refine List.Pairwise.of_map (·.revision) (fun _ _ hab => hab) ?_
    rw [hrevisions]
    exact pairwise_lt_range
  unfold loadAccountHistory
  rw [hdb]
  simp only [storedRows]
  rw [sortBy_of_pairwise hsorted]
  exact readHistory_map (by rw [h.revisions, range_eq_range'])

theorem Journal.rooted (h : Journal start admission events s xs)
    (hdb : db (ownerId, instanceId) = storedRows ownerId instanceId s xs) :
    rootedHistory db ownerId instanceId s = .ok (db, xs) := by
  obtain ⟨root, ts, rfl, -, -⟩ := h.exists_cons
  unfold rootedHistory
  rw [h.loads hdb, ok_bind]
  rfl

/-! ## Filing an entry -/

theorem makeHistoryEntry_of {f : HistoryFields} (h : f.check enc = .ok ()) :
    makeHistoryEntry enc f = .ok ⟨f, h⟩ := by
  unfold makeHistoryEntry
  split
  · next herror => rw [h] at herror; cases herror
  · rfl

theorem check_rootFields
    (h : ∀ a ∈ admission, a.checkpoint.instance_.instanceId = s.instanceId) :
    (rootFields enc s admission).check enc = .ok () := by
  have hrevision : (rootFields enc s admission).revision = 0 := rfl
  have hpaired : (rootFields enc s admission).baselineCheckpoint = none ↔
      (rootFields enc s admission).baselineWarmupReceiptFingerprint = none := by
    cases admission with
    | none => exact iff_of_true rfl rfl
    | some a => exact iff_of_false nofun nofun
  rw [HistoryFields.check, if_pos hrevision, HistoryFields.checkRoot]
  refine bind_eq_ok.2 ⟨(), ensure_of rfl _, ?_⟩
  refine bind_eq_ok.2 ⟨(), ensure_of ⟨rfl, rfl⟩ _, ?_⟩
  refine bind_eq_ok.2 ⟨(), ensure_of rfl _, ?_⟩
  refine bind_eq_ok.2 ⟨(), ensure_of ?_ _, ensure_of hpaired _⟩
  intro c hc
  obtain ⟨a, ha, rfl⟩ := Option.map_eq_some_iff.1 hc
  exact h a ha

theorem check_transitionFields {n : ℕ} (hn : n ≠ 0) (hr : ∀ r ∈ e.2, r.Binds e.1) :
    (transitionFields enc n s t e.1 e.2).check enc = .ok () := by
  have hrevision : (transitionFields enc n s t e.1 e.2).revision ≠ 0 := hn
  rw [HistoryFields.check, if_neg hrevision, HistoryFields.checkTransition]
  refine bind_eq_ok.2 ⟨(), ensure_of nofun _, ?_⟩
  refine bind_eq_ok.2 ⟨(), ensure_of ⟨rfl, rfl⟩ _, ?_⟩
  exact bind_eq_ok.2 ⟨(), ensure_of rfl _, ensure_of hr _⟩

theorem fileHistory_new {f : HistoryFields} {rows : AccountRows enc} (h : f.check enc = .ok ())
    (hfiled : (⟨f, h⟩ : ForwardAccountHistoryEntry enc).filedUnder = some instanceId)
    (hdb : db (ownerId, instanceId) = rows)
    (hnew : f.revision ∉ rows.history.map (·.revision)) :
    fileHistory db ownerId f = .ok (update db (ownerId, instanceId)
      { rows with history := rows.history ++ [historyRow ownerId instanceId ⟨f, h⟩] }) := by
  unfold fileHistory
  rw [makeHistoryEntry_of h, ok_bind, insertHistory, hfiled]
  dsimp only
  rw [hdb, insertNew, if_neg hnew]
  rfl

theorem Journal.stores (h : Journal start admission events s xs)
    (hdb : db (ownerId, instanceId) = storedRows ownerId instanceId s xs)
    (hid : s.instanceId = instanceId) (hsettles : Settles enc s e t) :
    ∃ x, Journal start admission (events ++ [e]) t (xs ++ [x]) ∧
      storeApplied db ownerId s t e.1 e.2 = .ok (update db (ownerId, instanceId)
        (storedRows ownerId instanceId t (xs ++ [x]))) := by
  obtain ⟨hr, heid, htid, -⟩ := hsettles.spec
  have hkey : e.1.instanceId = instanceId := heid.trans hid
  have hlength : xs.length ≠ 0 := by rw [h.length_eq]; exact Nat.succ_ne_zero _
  have hcheck := @check_transitionFields enc s t e xs.length hlength hr
  refine ⟨⟨_, hcheck⟩, h.snoc hsettles rfl, ?_⟩
  have hrevision : xs.length ∉ (xs.map (historyRow ownerId instanceId)).map (·.revision) := by
    rw [map_map]
    intro hmem
    have hrange : xs.length ∈ xs.map (·.revision) := hmem
    rw [h.revisions, mem_range] at hrange
    exact lt_irrefl _ hrange
  have hupdate : updateAccount db ownerId t (s.fingerprint enc) =
      .ok (update db (ownerId, instanceId)
        { account := some ⟨ownerId, instanceId, t, t.fingerprint enc⟩
          history := xs.map (historyRow ownerId instanceId) }) := by
    unfold updateAccount
    rw [htid, hid, hdb]
    dsimp only [storedRows]
    rw [if_pos rfl]
  unfold storeApplied
  rw [hkey, h.rooted hdb, ok_bind]
  dsimp only
  rw [h.replays, ok_bind, ensure_of rfl, ok_bind, hupdate, ok_bind,
    fileHistory_new hcheck (congrArg some hkey) (update_self _ _ _) hrevision,
    update_idem, storedRows, map_append, map_singleton]

end

/-! ## Runs -/

inductive AccountCall where
  | initializeAccount (ownerId : String) (state : ForwardAccountState)
      (admission : Option ForwardLiveAdmissionState)
  | applyEvent (ownerId : String) (event : ForwardAccountEvent)
      (receipt : Option ForwardRuntimeExecutionReceipt)

structure AccountAnswer where
  call : AccountCall
  answer : Except PyError ForwardAccountStateResolution

def serveAccount (db : AccountDb enc) :
    AccountCall → Except PyError (ForwardAccountStateResolution × AccountDb enc)
  | .initializeAccount ownerId s admission => initializeAccount db ownerId s admission
  | .applyEvent ownerId e receipt => applyAccount db ownerId e receipt

/-- One call: the tables that it commits, or the same tables where it raises. -/
def AccountServes (db : AccountDb enc) (a : AccountAnswer) (db' : AccountDb enc) : Prop :=
  match serveAccount db a.call with
  | .ok (r, next) => a.answer = .ok r ∧ db' = next
  | .error e => a.answer = .error e ∧ db' = db

def AccountAnswer.appliedTo (ownerId instanceId : String) (a : AccountAnswer) :
    Option AccountInput :=
  match a.call, a.answer with
  | .applyEvent owner e receipt, .ok r =>
    if (owner = ownerId ∧ e.instanceId = instanceId) ∧ r.decision = .applied then some (e, receipt)
    else none
  | _, _ => none

def AccountAnswer.registered (ownerId instanceId : String) (a : AccountAnswer) :
    Option (ForwardAccountState × Option ForwardLiveAdmissionState) :=
  match a.call, a.answer with
  | .initializeAccount owner s admission, .ok r =>
    if (owner = ownerId ∧ s.instanceId = instanceId) ∧ r.decision = .registered then
      some (s, admission)
    else none
  | _, _ => none

def appliedInputs (ownerId instanceId : String) (as : List AccountAnswer) : List AccountInput :=
  as.filterMap (AccountAnswer.appliedTo ownerId instanceId)

def registrations (ownerId instanceId : String) (as : List AccountAnswer) :
    List (ForwardAccountState × Option ForwardLiveAdmissionState) :=
  as.filterMap (AccountAnswer.registered ownerId instanceId)

/-- **What the tables hold** of an account after the calls. -/
inductive Recorded (ownerId instanceId : String) (as : List AccountAnswer) (rows : AccountRows enc) :
    Prop
  | absent : registrations ownerId instanceId as = [] → appliedInputs ownerId instanceId as = [] →
      rows = {} → Recorded ownerId instanceId as rows
  | journal {start admission s xs} : registrations ownerId instanceId as = [(start, admission)] →
      start.lastEventSequence = -1 →
      (∀ a ∈ admission, a.checkpoint.instance_.instanceId = start.instanceId) →
      Journal start admission (appliedInputs ownerId instanceId as) s xs →
      s.instanceId = instanceId → rows = storedRows ownerId instanceId s xs →
      Recorded ownerId instanceId as rows

section
variable {ownerId instanceId : String} {db db' : AccountDb enc} {as : List AccountAnswer}
  {a : AccountAnswer} {rows : AccountRows enc} {s : ForwardAccountState}
  {admission : Option ForwardLiveAdmissionState} {r : ForwardAccountStateResolution}

theorem Recorded.unchanged (h : Recorded ownerId instanceId as rows)
    (hregistered : a.registered ownerId instanceId = none)
    (happlied : a.appliedTo ownerId instanceId = none) :
    Recorded ownerId instanceId (as ++ [a]) rows := by
  have hr : registrations ownerId instanceId (as ++ [a]) = registrations ownerId instanceId as := by
    simp [registrations, hregistered]
  have ha : appliedInputs ownerId instanceId (as ++ [a]) = appliedInputs ownerId instanceId as := by
    simp [appliedInputs, happlied]
  cases h with
  | absent h₁ h₂ h₃ => exact .absent (hr.trans h₁) (ha.trans h₂) h₃
  | journal h₁ h₂ h₃ h₄ h₅ h₆ =>
    exact .journal (hr.trans h₁) h₂ h₃ (by rw [ha]; exact h₄) h₅ h₆

theorem Recorded.load (h : Recorded ownerId instanceId as (db (ownerId, instanceId))) :
    (db (ownerId, instanceId) = {} ∧ loadAccount db ownerId instanceId = .ok none) ∨
      ∃ start admission s xs, registrations ownerId instanceId as = [(start, admission)] ∧
        start.lastEventSequence = -1 ∧
        (∀ a ∈ admission, a.checkpoint.instance_.instanceId = start.instanceId) ∧
        Journal start admission (appliedInputs ownerId instanceId as) s xs ∧
        s.instanceId = instanceId ∧
        db (ownerId, instanceId) = storedRows ownerId instanceId s xs ∧
        loadAccount db ownerId instanceId = .ok (some s) := by
  cases h with
  | absent _ _ hrows =>
    refine .inl ⟨hrows, ?_⟩
    unfold loadAccount
    rw [hrows]
  | journal h₁ h₂ h₃ h₄ h₅ h₆ =>
    exact .inr ⟨_, _, _, _, h₁, h₂, h₃, h₄, h₅, h₆, loadAccount_stored h₆ h₅⟩

theorem initializeAccount_spec (h : Recorded ownerId s.instanceId as (db (ownerId, s.instanceId)))
    (hcall : initializeAccount db ownerId s admission = .ok (r, db')) :
    (r.decision ≠ .registered ∧ db' = db) ∨
      r.decision = .registered ∧ db (ownerId, s.instanceId) = {} ∧ s.lastEventSequence = -1 ∧
        (∀ a ∈ admission, a.checkpoint.instance_.instanceId = s.instanceId) ∧
        ∃ x : ForwardAccountHistoryEntry enc, x.toHistoryFields = rootFields enc s admission ∧
          db' = update db (ownerId, s.instanceId)
            (storedRows ownerId s.instanceId s [x]) := by
  obtain ⟨_, hempty, hcall⟩ := bind_eq_ok.1 hcall
  obtain ⟨_, hadmission, hcall⟩ := bind_eq_ok.1 hcall
  rw [ensure_eq_ok] at hempty hadmission
  rcases h.load with ⟨hrows, hload⟩ | ⟨_, _, current, xs, _, _, _, hjournal, _, hrows, hload⟩
  · rw [hload, ok_bind] at hcall
    dsimp only at hcall
    have hinsert : insertAccount db ownerId s = .ok (update db (ownerId, s.instanceId)
        { account := some ⟨ownerId, s.instanceId, s, s.fingerprint enc⟩, history := [] }) := by
      unfold insertAccount
      rw [hrows]
    have hcheck := @check_rootFields enc s admission hadmission
    rw [hinsert, ok_bind, fileHistory_new hcheck rfl (update_self _ _ _) (by simp),
      update_idem] at hcall
    cases hcall
    exact .inr ⟨rfl, hrows, hempty, hadmission, ⟨_, hcheck⟩, rfl, rfl⟩
  · rw [hload, ok_bind] at hcall
    dsimp only at hcall
    by_cases hsame : current = s
    · rw [if_pos hsame, hjournal.loads hrows, ok_bind] at hcall
      obtain ⟨root, ts, rfl, -⟩ := hjournal.exists_cons
      cases hcall
      exact .inl ⟨nofun, rfl⟩
    · rw [if_neg hsame] at hcall
      cases hcall
      exact .inl ⟨nofun, rfl⟩

theorem applyAccount_spec {e : ForwardAccountEvent}
    {receipt : Option ForwardRuntimeExecutionReceipt}
    (h : Recorded ownerId e.instanceId as (db (ownerId, e.instanceId)))
    (hcall : applyAccount db ownerId e receipt = .ok (r, db')) :
    (r.decision ≠ .applied ∧ db' = db) ∨
      r.decision = .applied ∧ ∃ start admission s t xs x,
        registrations ownerId e.instanceId as = [(start, admission)] ∧
        start.lastEventSequence = -1 ∧
        (∀ a ∈ admission, a.checkpoint.instance_.instanceId = start.instanceId) ∧
        Journal start admission (appliedInputs ownerId e.instanceId as ++ [(e, receipt)]) t
          (xs ++ [x]) ∧
        loadAccount db ownerId e.instanceId = .ok (some s) ∧ Settles enc s (e, receipt) t ∧
        t.instanceId = e.instanceId ∧
        db' = update db (ownerId, e.instanceId)
          (storedRows ownerId e.instanceId t (xs ++ [x])) := by
  obtain ⟨_, -, hcall⟩ := bind_eq_ok.1 hcall
  rcases h.load with ⟨-, hload⟩ | ⟨start, admission, s, xs, hregistered, hempty, hadmission,
      hjournal, hid, hrows, hload⟩
  · rw [hload, ok_bind] at hcall
    cases hcall
    exact .inl ⟨nofun, rfl⟩
  · rw [hload, ok_bind] at hcall
    obtain ⟨q, hq, hcall⟩ := bind_eq_ok.1 hcall
    by_cases hd : q.decision = .applied
    · have hsettles : Settles enc s (e, receipt) q.state := ⟨q, hq, hd, rfl⟩
      obtain ⟨x, hnext, hstore⟩ := hjournal.stores hrows hid hsettles
      rw [if_pos hd, hstore, ok_bind] at hcall
      cases hcall
      refine .inr ⟨congrArg ForwardAccountDecision.stored hd, start, admission, s, q.state, xs, x, hregistered, hempty,
        hadmission, hnext, hload, hsettles, ?_, rfl⟩
      obtain ⟨-, -, htid, -⟩ := hsettles.spec
      exact htid.trans hid
    · rw [if_neg hd, ok_bind] at hcall
      cases hcall
      refine .inl ⟨?_, rfl⟩
      intro hstored
      have hstored : q.decision.stored = .applied := hstored
      cases hq' : q.decision with
      | applied => exact hd hq'
      | _ => rw [hq'] at hstored; cases hstored

theorem initializeAccount_of (hrows : db (ownerId, s.instanceId) = {})
    (hempty : s.lastEventSequence = -1)
    (hadmission : ∀ a ∈ admission, a.checkpoint.instance_.instanceId = s.instanceId) :
    ∃ r db', initializeAccount db ownerId s admission = .ok (r, db') ∧ r.decision = .registered := by
  have hload : loadAccount db ownerId s.instanceId = .ok none := by
    rw [loadAccount, hrows]
  have hinsert : insertAccount db ownerId s = .ok (update db (ownerId, s.instanceId)
      { account := some ⟨ownerId, s.instanceId, s, s.fingerprint enc⟩, history := [] }) := by
    rw [insertAccount, hrows]
  have hcheck := @check_rootFields enc s admission hadmission
  unfold initializeAccount
  rw [ensure_of hempty, ok_bind, ensure_of hadmission, ok_bind, hload, ok_bind]
  dsimp only
  rw [hinsert, ok_bind, fileHistory_new hcheck rfl (update_self _ _ _) (by simp)]
  exact ⟨_, _, rfl, rfl⟩

theorem applyAccount_of {t : ForwardAccountState} {e : AccountInput}
    (h : Recorded ownerId e.1.instanceId as (db (ownerId, e.1.instanceId)))
    (hload : loadAccount db ownerId e.1.instanceId = .ok (some s)) (hsettles : Settles enc s e t) :
    ∃ r db', applyAccount db ownerId e.1 e.2 = .ok (r, db') ∧ r.decision = .applied ∧
      loadAccount db' ownerId e.1.instanceId = .ok (some t) := by
  rcases h.load with ⟨-, hnone⟩ | ⟨start, admission, s', xs, -, -, -, hjournal, hid, hrows, hload'⟩
  · rw [hload] at hnone
    cases hnone
  · rw [hload] at hload'
    cases hload'
    obtain ⟨x, -, hstore⟩ := hjournal.stores hrows hid hsettles
    obtain ⟨hr, -, htid, -⟩ := hsettles.spec
    obtain ⟨q, hq, hd, rfl⟩ := hsettles
    unfold applyAccount
    rw [ensure_of hr, ok_bind, hload, ok_bind]
    dsimp only
    rw [hq, ok_bind, if_pos hd, hstore, ok_bind]
    exact ⟨_, _, rfl, congrArg ForwardAccountDecision.stored hd,
      loadAccount_stored (update_self _ _ _) (htid.trans hid)⟩

/-- **One call keeps the record** of every account. -/
theorem Recorded.step (h : ∀ o i, Recorded o i as (db (o, i))) (ha : AccountServes db a db') :
    ∀ o i, Recorded o i (as ++ [a]) (db' (o, i)) := by
  intro o i
  obtain ⟨call, answer⟩ := a
  unfold AccountServes at ha
  cases hserve : serveAccount db call with
  | error e =>
    simp only [hserve] at ha
    obtain ⟨rfl, rfl⟩ := ha
    refine (h o i).unchanged ?_ ?_ <;> cases call <;> rfl
  | ok p =>
    obtain ⟨r, next⟩ := p
    simp only [hserve] at ha
    obtain ⟨rfl, rfl⟩ := ha
    cases call with
    | initializeAccount owner s admission =>
      rcases initializeAccount_spec (h owner s.instanceId) hserve with
        ⟨hd, rfl⟩ | ⟨hd, hrows, hempty, hadmission, x, hx, rfl⟩
      · exact (h o i).unchanged (if_neg fun hc => hd hc.2) rfl
      · by_cases hkey : owner = o ∧ s.instanceId = i
        · obtain ⟨rfl, rfl⟩ := hkey
          rw [update_self]
          have hnone : registrations owner s.instanceId as = [] ∧
              appliedInputs owner s.instanceId as = [] := by
            cases h owner s.instanceId with
            | absent h₁ h₂ => exact ⟨h₁, h₂⟩
            | journal _ _ _ _ _ hstored => rw [hrows] at hstored; cases hstored
          have hnew : (⟨.initializeAccount owner s admission, .ok r⟩ : AccountAnswer).registered owner
              s.instanceId = some (s, admission) := if_pos ⟨⟨rfl, rfl⟩, hd⟩
          have hinputs : appliedInputs owner s.instanceId
              (as ++ [⟨.initializeAccount owner s admission, .ok r⟩]) = [] := by
            rw [appliedInputs, filterMap_append, ← appliedInputs, hnone.2]
            rfl
          refine .journal ?_ hempty hadmission ?_ rfl rfl
          · rw [registrations, filterMap_append, ← registrations, hnone.1, nil_append,
              filterMap_cons_some hnew, filterMap_nil]
          · rw [hinputs]
            exact .root hx
        · rw [update_of_ne fun heq => hkey ⟨(Prod.mk.inj heq).1.symm,
            (Prod.mk.inj heq).2.symm⟩]
          exact (h o i).unchanged (if_neg fun hc => hkey hc.1) rfl
    | applyEvent owner e receipt =>
      rcases applyAccount_spec (h owner e.instanceId) hserve with
        ⟨hd, rfl⟩ | ⟨hd, start, admission, s, t, xs, x, hregistered, hempty, hadmission, hjournal,
          -, -, hid, rfl⟩
      · exact (h o i).unchanged rfl (if_neg fun hc => hd hc.2)
      · by_cases hkey : owner = o ∧ e.instanceId = i
        · obtain ⟨rfl, rfl⟩ := hkey
          rw [update_self]
          have hnew : (⟨.applyEvent owner e receipt, .ok r⟩ : AccountAnswer).appliedTo owner
              e.instanceId = some (e, receipt) := if_pos ⟨⟨rfl, rfl⟩, hd⟩
          have hinputs : appliedInputs owner e.instanceId (as ++ [⟨.applyEvent owner e receipt, .ok r⟩]) =
              appliedInputs owner e.instanceId as ++ [(e, receipt)] := by
            rw [appliedInputs, filterMap_append, filterMap_cons_some hnew,
              filterMap_nil, appliedInputs]
          refine .journal ?_ hempty hadmission ?_ hid rfl
          · rw [registrations, filterMap_append, ← registrations, hregistered]
            rfl
          · rw [hinputs]
            exact hjournal
        · rw [update_of_ne fun heq => hkey ⟨(Prod.mk.inj heq).1.symm,
            (Prod.mk.inj heq).2.symm⟩]
          exact (h o i).unchanged rfl (if_neg fun hc => hkey hc.1)

/-- **Every run keeps the record** of every account. -/
theorem recorded_run (h : Run AccountServes (emptyAccounts : AccountDb enc) as db) :
    ∀ o i, Recorded o i as (db (o, i)) := by
  induction h with
  | nil => exact fun _ _ => .absent rfl rfl rfl
  | snoc _ ha ih => exact Recorded.step ih ha

end

end ChartingPlatform
