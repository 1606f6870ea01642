/-
  The writer and the verifier of the trace of account marks agree.
-/
import ChartingPlatform.Nautilus.EquityTrace
import ChartingPlatform.Strategy.History

namespace ChartingPlatform

open Lib List

/-! ## Decimals -/

section
variable {fieldName : String} {nonNegative : Bool} {p : PyDecimal} {d : TraceDecimal}
  {x : Decimal128} {gross net : Option PyDecimal} {exposures : Option (TraceDecimal × TraceDecimal)}

theorem Decimal128.value_eq (x : Decimal128) : x.value = x.unscaled * 10 ^ (-18 : ℤ) := by
  unfold Decimal128.value Decimal128.toDecimal PyDecimal.value
  rcases lt_or_ge x.unscaled 0 with h | h
  · have hcast : ((x.unscaled.natAbs : ℤ) : ℚ) = ((-x.unscaled : ℤ) : ℚ) := by
      rw [Int.ofNat_natAbs_of_nonpos h.le]
    rw [Int.cast_natCast] at hcast
    simp only [decide_eq_true h, if_true, hcast]
    push_cast
    ring
  · have hcast : ((x.unscaled.natAbs : ℤ) : ℚ) = (x.unscaled : ℚ) := by
      rw [Int.natAbs_of_nonneg h]
    rw [Int.cast_natCast] at hcast
    simp only [decide_eq_false h.not_gt, hcast]
    simp

theorem TraceDecimal.toArrow_value (d : TraceDecimal) : d.toArrow.value = d.value := by
  obtain ⟨negative, c, e, hscale, hprecision⟩ := d
  have hpow : ((10 : ℚ) ^ (e + 18).toNat) * 10 ^ (-18 : ℤ) = 10 ^ e := by
    rw [← zpow_natCast, Int.toNat_of_nonneg (by omega), ← zpow_add₀ (by norm_num)]
    congr 1
    ring
  rw [Decimal128.value_eq]
  change (((if negative then -1 else 1) * (c * 10 ^ (e + 18).toNat : ℕ) : ℤ) : ℚ) * 10 ^ (-18 : ℤ) =
    (if negative then -1 else 1) * c * 10 ^ e
  rw [← hpow]
  push_cast
  ring

theorem checkedDecimal_eq_ok (h : checkedDecimal fieldName nonNegative p = .ok d) :
    nonNegative = true → 0 ≤ d.value := by
  cases p with
  | special => cases h
  | finite negative c e =>
    unfold checkedDecimal at h
    dsimp only at h
    split_ifs at h with hneg hfits
    cases h
    intro hnonneg
    by_contra hlt
    exact hneg ⟨hnonneg, not_le.1 hlt⟩

theorem checkedDecimal_toDecimal (h : nonNegative = true → 0 ≤ x.value) :
    ∃ d, checkedDecimal fieldName nonNegative x.toDecimal = .ok d ∧ d.value = x.value := by
  have hlength : (natText x.unscaled.natAbs).length ≤ 38 :=
    (natText_length_le_iff (by decide)).2 x.bounded
  unfold Decimal128.toDecimal checkedDecimal
  dsimp only
  rw [if_neg fun hneg => absurd (h hneg.1) (not_le.2 hneg.2), dif_pos ⟨le_rfl, by omega⟩]
  exact ⟨_, rfl, rfl⟩

theorem checkedExposures_eq_ok (h : checkedExposures gross net = .ok exposures) :
    ∀ e ∈ exposures, 0 ≤ e.1.value ∧ decimalAbs e.2.value ≤ e.1.value := by
  cases gross with
  | none =>
    cases net with
    | none =>
      cases h
      nofun
    | some net => cases h
  | some gross =>
    cases net with
    | none => cases h
    | some net =>
      simp only [checkedExposures, bind_eq_ok, ensure_eq_ok, pure_eq_ok, Except.ok.injEq] at h
      obtain ⟨g, hg, n, -, -, hle, rfl⟩ := h
      rintro e ⟨⟩
      exact ⟨checkedDecimal_eq_ok hg rfl, hle⟩

theorem checkedExposures_toDecimal {gross net : Option Decimal128}
    (h : checkRowExposures gross net = .ok ()) :
    ∃ e, checkedExposures (gross.map Decimal128.toDecimal) (net.map Decimal128.toDecimal) =
      .ok e := by
  cases gross with
  | none =>
    cases net with
    | none => exact ⟨none, rfl⟩
    | some net => cases h
  | some gross =>
    cases net with
    | none => cases h
    | some net =>
      obtain ⟨hgross, hle⟩ := ensure_eq_ok.1 h
      obtain ⟨g, hg, hgvalue⟩ : ∃ g, checkedDecimal "gross_base_exposure" true gross.toDecimal =
        .ok g ∧ g.value = gross.value := checkedDecimal_toDecimal fun _ => hgross
      obtain ⟨n, hn, hnvalue⟩ : ∃ n, checkedDecimal "signed_net_base_exposure" false net.toDecimal =
        .ok n ∧ n.value = net.value := checkedDecimal_toDecimal fun h => absurd h Bool.false_ne_true
      refine ⟨some (g, n), ?_⟩
      simp only [checkedExposures, Option.map_some, hg, hn, ok_bind]
      rw [hgvalue, hnvalue, ensure_of hle]
      rfl

theorem checkRowExposures_toArrow (h : checkedExposures gross net = .ok exposures) :
    checkRowExposures ((exposures.map Prod.fst).map TraceDecimal.toArrow)
      ((exposures.map Prod.snd).map TraceDecimal.toArrow) = .ok () := by
  cases exposures with
  | none => rfl
  | some e =>
    have he := checkedExposures_eq_ok h e rfl
    rw [← TraceDecimal.toArrow_value, ← TraceDecimal.toArrow_value] at he
    exact ensure_of he _

end

/-! ## Rows -/

/-- A row that the verifier accepts wherever it may come. -/
structure TraceRow.Sound (row : TraceRow Decimal128) : Prop where
  id_ne : row.eventId ≠ ""
  time_nonneg : 0 ≤ row.eventTimeNs
  index_nonneg : 0 ≤ row.eventIndex
  sequence_nonneg : 0 ≤ row.sourceSequence
  values : checkRowValues row = .ok ()

def scoringMarks (window : Option ScoringWindow) (position : ℕ) (es : List ExpectedEvent) :
    List MarkIdentity :=
  ((es.zipIdx position).map fun p => p.1.identity p.2).filter
    fun id => InScoring window id.eventTimeNs

def Expects (window : Option ScoringWindow) (ids : List MarkIdentity) :
    Option (ℕ × List ExpectedEvent) → Prop
  | none => ∀ id ∈ ids, InScoring window id.eventTimeNs
  | some (position, es) => scoringMarks window position es = ids

section
variable {window : Option ScoringWindow} {row : TraceRow Decimal128} {id : MarkIdentity}
  {ids : List MarkIdentity} {rows : List (TraceRow Decimal128)} {v v' : TraceVerifier}
  {position : ℕ} {es : List ExpectedEvent} {x x' : Option (ℕ × List ExpectedEvent)}

theorem TraceRow.Sound.exists_observation (h : row.Sound) :
    ∃ o, makeEquityObservation row.eventTimeNs row.accountEquity.toDecimal row.eventIndex
      row.accountCashBalance.toDecimal (row.grossBaseExposure.map Decimal128.toDecimal)
      (row.signedNetBaseExposure.map Decimal128.toDecimal) = .ok o := by
  have hvalues := h.values
  unfold checkRowValues at hvalues
  simp only [bind_eq_ok, ensure_eq_ok] at hvalues
  obtain ⟨-, hequity, hrow⟩ := hvalues
  obtain ⟨equity, hequity, -⟩ : ∃ d, checkedDecimal "account_equity" true
    row.accountEquity.toDecimal = .ok d ∧ _ := checkedDecimal_toDecimal fun _ => hequity
  obtain ⟨cash, hcash, -⟩ : ∃ d, checkedDecimal "account_cash_balance" false
    row.accountCashBalance.toDecimal = .ok d ∧ _ := checkedDecimal_toDecimal fun h => absurd h Bool.false_ne_true
  obtain ⟨exposures, hexposures⟩ := checkedExposures_toDecimal hrow
  unfold makeEquityObservation
  rw [ensure_of h.time_nonneg, ensure_of h.index_nonneg, hequity, hcash, hexposures]
  exact ⟨_, rfl⟩

theorem scoringMarks_cons (e : ExpectedEvent) :
    scoringMarks window position (e :: es) =
      if InScoring window e.event.eventTimeNs then
        e.identity position :: scoringMarks window (position + 1) es
      else scoringMarks window (position + 1) es := by
  unfold scoringMarks
  rw [zipIdx_cons, map_cons, filter_cons]
  simp only [decide_eq_true_eq]
  rfl

theorem nextScoring_spec :
    match nextScoring window position es with
    | none => scoringMarks window position es = []
    | some (id, position', es') =>
      scoringMarks window position es = id :: scoringMarks window position' es' := by
  induction es generalizing position with
  | nil => rfl
  | cons e es ih =>
    rw [scoringMarks_cons, nextScoring]
    by_cases h : InScoring window e.event.eventTimeNs
    · rw [if_pos h, if_pos h]
    · rw [if_neg h, if_neg h]
      exact ih

theorem matchExpected_eq_ok (h : matchExpected window id x = .ok x') :
    ∀ ids, Expects window ids x' → Expects window (id :: ids) x := by
  intro ids hids
  cases x with
  | none =>
    simp only [matchExpected, bind_eq_ok, ensure_eq_ok, pure_eq_ok, Except.ok.injEq] at h
    obtain ⟨-, hid, rfl⟩ := h
    exact forall_mem_cons.2 ⟨hid, hids⟩
  | some x =>
    obtain ⟨position, es⟩ := x
    have hnext := @nextScoring_spec window position es
    unfold matchExpected at h
    dsimp only at h
    split at h
    · cases h
    · rename_i expected position' es' heq
      simp only [bind_eq_ok, ensure_eq_ok, pure_eq_ok, Except.ok.injEq] at h
      obtain ⟨-, rfl, rfl⟩ := h
      rw [heq] at hnext
      exact hnext.trans (congrArg _ hids)

theorem exists_matchExpected (h : Expects window (id :: ids) x) :
    ∃ x', matchExpected window id x = .ok x' ∧ Expects window ids x' := by
  cases x with
  | none =>
    obtain ⟨hid, hids⟩ := forall_mem_cons.1 h
    exact ⟨none, by simp only [matchExpected, ensure_of hid, ok_bind, pure_eq_ok], hids⟩
  | some x =>
    obtain ⟨position, es⟩ := x
    have hnext := @nextScoring_spec window position es
    unfold Expects at h
    unfold matchExpected
    dsimp only at h ⊢
    split
    · rename_i heq
      rw [heq, h] at hnext
      cases hnext
    · rename_i expected position' es' heq
      rw [heq] at hnext
      obtain ⟨rfl, hids⟩ := List.cons.inj (h.symm.trans hnext)
      exact ⟨some (position', es'), by rw [ensure_of rfl, ok_bind, pure_eq_ok], hids.symm⟩

theorem scoringMarks_eq_nil : scoringMarks window position es = [] ↔
    ∀ e ∈ es, ¬ InScoring window e.event.eventTimeNs := by
  induction es generalizing position with
  | nil => simp [scoringMarks]
  | cons e es ih =>
    rw [scoringMarks_cons, forall_mem_cons, ← @ih (position + 1)]
    split_ifs with h
    · simp [h]
    · simp [h]

theorem checkLeft_eq_ok : checkLeft window x = .ok () ↔ Expects window [] x := by
  cases x with
  | none => simp [checkLeft, Expects]
  | some y =>
    unfold checkLeft
    rw [ensure_eq_ok, ← scoringMarks_eq_nil]
    rfl

/-! ## The rows of a file -/

theorem verifyRow_eq_ok (h : verifyRow window v row = .ok v') :
    matchExpected window row.toMarkIdentity v.expected = .ok v'.expected ∧
      v'.observations.length = v.observations.length + 1 := by
  simp only [verifyRow, bind_eq_ok, ensure_eq_ok, pure_eq_ok, Except.ok.injEq] at h
  obtain ⟨-, -, x', hx, -, -, -, -, o, -, rfl⟩ := h
  exact ⟨hx, length_append⟩

/-- **An accepted file** has the expected marks, in their order. -/
theorem verifyRows_identities (h : rows.foldlM (verifyRow window) v = .ok v')
    (hids : Expects window ids v'.expected) :
    Expects window (rows.map (·.toMarkIdentity) ++ ids) v.expected := by
  induction rows generalizing v with
  | nil =>
    cases h
    exact hids
  | cons row rows ih =>
    rw [foldlM_cons, bind_eq_ok] at h
    obtain ⟨u, hu, hrows⟩ := h
    exact matchExpected_eq_ok (verifyRow_eq_ok hu).1 _ (ih hrows)

theorem exists_verifyRow (hrow : row.Sound) (hprevious : v.previous.Precedes row.toMarkIdentity)
    (hx : matchExpected window row.toMarkIdentity v.expected = .ok x') :
    ∃ o, verifyRow window v row = .ok ⟨x', row.toMarkIdentity, v.observations ++ [o]⟩ := by
  obtain ⟨o, ho⟩ := hrow.exists_observation
  refine ⟨o, ?_⟩
  unfold verifyRow
  rw [ensure_of ⟨hrow.id_ne, hrow.time_nonneg, hrow.index_nonneg, hrow.sequence_nonneg⟩, ok_bind,
    hx, ok_bind, hrow.values, ok_bind, ensure_of hprevious, ok_bind, ho]
  rfl

theorem exists_verifyRows (hrows : ∀ row ∈ rows, row.Sound)
    (horder : (v.previous :: rows.map (·.toMarkIdentity)).Pairwise MarkIdentity.Precedes)
    (hids : Expects window (rows.map (·.toMarkIdentity)) v.expected) :
    ∃ v', rows.foldlM (verifyRow window) v = .ok v' ∧ checkLeft window v'.expected = .ok () ∧
      v'.observations.length = v.observations.length + rows.length := by
  induction rows generalizing v with
  | nil => exact ⟨v, rfl, checkLeft_eq_ok.2 hids, rfl⟩
  | cons row rows ih =>
    obtain ⟨hrow, hrows⟩ := forall_mem_cons.1 hrows
    rw [map_cons] at horder hids
    obtain ⟨hfirst, horder⟩ := pairwise_cons.1 horder
    obtain ⟨x', hx, hids⟩ := exists_matchExpected hids
    obtain ⟨o, ho⟩ := exists_verifyRow hrow (hfirst _ mem_cons_self) hx
    obtain ⟨v', hv', hleft, hlength⟩ := ih hrows (v := ⟨x', row.toMarkIdentity, v.observations ++ [o]⟩)
      horder hids
    refine ⟨v', ?_, hleft, ?_⟩
    · rw [foldlM_cons, ho]
      exact hv'
    · simp only [length_append, length_cons, length_nil] at hlength ⊢
      omega

end

/-! ## The rows of the writer -/

def TraceWriter.rows (w : TraceWriter) : List (TraceRow Decimal128) :=
  w.written ++ w.buffer.map TraceRow.toArrow

/-- What a writer has of the marks so far: a sound row for each mark of the window. -/
structure Written (w₀ w : TraceWriter) (done : List MarkIdentity) : Prop where
  identity : w.identity = w₀.identity
  maxStreamBytes : w.maxStreamBytes = w₀.maxStreamBytes
  marks : w.rows.map (·.toMarkIdentity) =
    done.filter fun id => InScoring w₀.identity.window id.eventTimeNs
  sound : ∀ row ∈ w.rows, row.Sound
  count : w.observationCount = w.rows.length

section
variable {env : TraceEnv} {w w' w₀ : TraceWriter} {id : MarkIdentity} {values : MarkValues}
  {row : TraceRow TraceDecimal} {done ids : List MarkIdentity}

theorem flush_eq_ok (h : w.flush env = .ok w') :
    w' = { w with written := w.rows, buffer := [] } := by
  unfold TraceWriter.flush at h
  split_ifs at h with hbuffer
  · cases h
    unfold TraceWriter.rows
    rw [hbuffer]
    cases w
    simp_all
  · split at h
    · cases h
    · cases h
      rfl

theorem flush_rows (h : w.flush env = .ok w') : w'.rows = w.rows := by
  rw [flush_eq_ok h]
  exact append_nil _

theorem append_eq_ok (h : w.append env row = .ok w') :
    w'.identity = w.identity ∧ w'.maxStreamBytes = w.maxStreamBytes ∧
      w'.rows = w.rows ++ [row.toArrow] ∧ w'.observationCount = w.observationCount + 1 := by
  unfold TraceWriter.append at h
  dsimp only at h
  split_ifs at h with hfull
  · have hrows := flush_rows h
    have hflush := flush_eq_ok h
    refine ⟨?_, ?_, ?_, ?_⟩
    · rw [hflush]
    · rw [hflush]
    · rw [hrows]
      simp [TraceWriter.rows]
    · rw [hflush]
  · cases h
    exact ⟨rfl, rfl, by simp [TraceWriter.rows], rfl⟩

theorem checkMark_eq_ok : TraceWriter.checkMark id = .ok () ↔
    notBlank id.eventId = true ∧ 0 ≤ id.eventTimeNs ∧ 0 ≤ id.eventIndex ∧ 0 ≤ id.sourceSequence := by
  simp [TraceWriter.checkMark, bind_eq_ok]

theorem makeRow_eq_ok (hid : TraceWriter.checkMark id = .ok ())
    (h : w.makeRow id values = .ok row) :
    row.toMarkIdentity = id ∧ InScoring w.identity.window id.eventTimeNs ∧ row.toArrow.Sound := by
  simp only [TraceWriter.makeRow, bind_eq_ok, ensure_eq_ok, pure_eq_ok, Except.ok.injEq] at h
  obtain ⟨-, hscoring, -, -, equity, hequity, cash, -, exposures, hexposures, rfl⟩ := h
  obtain ⟨hblank, htime, hindex, hsequence⟩ := checkMark_eq_ok.1 hid
  refine ⟨rfl, hscoring, ne_empty_of_notBlank hblank, htime, hindex, hsequence, ?_⟩
  have hvalue := checkedDecimal_eq_ok hequity rfl
  rw [← TraceDecimal.toArrow_value] at hvalue
  unfold checkRowValues
  exact (congrArg (· >>= _) (ensure_of hvalue _)).trans (checkRowExposures_toArrow hexposures)

theorem Written.write (hw : Written w₀ w done) (h : w.write env id values = .ok w') :
    Written w₀ w' (done ++ [id]) := by
  simp only [TraceWriter.write, bind_eq_ok, ensure_eq_ok] at h
  obtain ⟨-, -, ⟨⟩, hid, h⟩ := h
  rw [hw.identity] at h
  split_ifs at h with hbefore
  · obtain ⟨v, hv, hlt⟩ := hbefore
    cases h
    have hout : ¬ InScoring w₀.identity.window id.eventTimeNs := fun hin =>
      absurd (hin v hv).1 (not_le.2 hlt)
    refine ⟨hw.identity, hw.maxStreamBytes, ?_, hw.sound, hw.count⟩
    rw [hw.marks, filter_append]
    simp [hout]
  · obtain ⟨row, hrow, h⟩ := bind_eq_ok.1 h
    obtain ⟨hrowid, hin, hsound⟩ := makeRow_eq_ok hid hrow
    obtain ⟨hidentity, hmax, hrows, hcount⟩ := append_eq_ok h
    rw [hw.identity] at hin
    refine ⟨hidentity.trans hw.identity, hmax.trans hw.maxStreamBytes, ?_, ?_, ?_⟩
    · rw [hrows, map_append, hw.marks, filter_append, map_singleton]
      have harrow : row.toArrow.toMarkIdentity = id := hrowid
      simp [hin, harrow]
    · intro r hr
      rw [hrows, mem_append, mem_singleton] at hr
      rcases hr with hr | rfl
      · exact hw.sound r hr
      · exact hsound
    · rw [hcount, hw.count, hrows, length_append, length_singleton]

theorem Written.writeAll {values : MarkIdentity → MarkValues} (hw : Written w₀ w done)
    (h : ids.foldlM (fun w id => w.write env id (values id)) w = .ok w') :
    Written w₀ w' (done ++ ids) := by
  induction ids generalizing w done with
  | nil =>
    cases h
    rwa [append_nil]
  | cons id ids ih =>
    rw [foldlM_cons, bind_eq_ok] at h
    obtain ⟨u, hu, hids⟩ := h
    have := ih (hw.write hu) hids
    rwa [append_assoc, singleton_append] at this

end

/-! ## Tapes -/

section
variable {env : TraceEnv} {t : FrozenEventTape} {window : Option ScoringWindow} {input : TraceInput}
  {portfolio : TracePortfolio} {maxStreamBytes : ℤ} {r : TraceReference} {file : env.File}
  {values : MarkIdentity → MarkValues}

theorem FrozenEventTape.marks_ordered (t : FrozenEventTape) :
    t.marks.Pairwise MarkIdentity.Precedes := by
  unfold FrozenEventTape.marks
  rw [pairwise_map, pairwise_iff_getElem]
  intro i j hi hj hij
  rw [getElem_zipIdx, getElem_zipIdx]
  have hi' : i < t.events.length := by rwa [length_zipIdx] at hi
  have hj' : j < t.events.length := by rwa [length_zipIdx] at hj
  have hkey : t.events[i].tapeKey ≤ t.events[j].tapeKey :=
    pairwise_iff_getElem.1 t.sorted i j hi' hj' hij
  rcases Prod.Lex.toLex_le_toLex.1 hkey with hlt | ⟨heq, hle⟩
  · have hlt' : (t.events[i].eventTime.val : ℤ) < t.events[j].eventTime.val := by
      exact_mod_cast hlt
    refine ⟨by dsimp only; omega, ?_, ?_⟩
    · dsimp only [eventTimeNs]
      omega
    · intro hsame
      dsimp only [eventTimeNs] at hsame
      omega
  · have hsequence : t.events[i].sequence ≤ t.events[j].sequence := by
      rcases Prod.Lex.toLex_le_toLex.1 hle with hlt | ⟨heq, -⟩
      · exact hlt.le
      · exact heq.le
    refine ⟨by dsimp only; omega, ?_, fun _ => Int.ofNat_le.2 hsequence⟩
    dsimp only [eventTimeNs]
    have : t.events[i].eventTime = t.events[j].eventTime := heq
    rw [this]

theorem FrozenEventTape.scoringMarks_expectedEvents (t : FrozenEventTape) :
    scoringMarks window 0 t.expectedEvents =
      t.marks.filter fun id => InScoring window id.eventTimeNs := by
  unfold scoringMarks
  congr 1
  unfold FrozenEventTape.expectedEvents FrozenEventTape.marks
  refine ext_getElem (by simp) fun i hi hi' => ?_
  simp [ExpectedEvent.identity, MarketEvent.native]

theorem makeTraceWriter_eq_ok
    {w : TraceWriter} (h : makeTraceWriter env input portfolio maxStreamBytes = .ok w) :
    1 ≤ w.maxStreamBytes ∧ w.maxStreamBytes = maxStreamBytes ∧
      w.identity.baseCurrency = env.upper portfolio.baseCurrency ∧ Written w w [] := by
  simp only [makeTraceWriter, bind_eq_ok, ensure_eq_ok, pure_eq_ok, Except.ok.injEq] at h
  obtain ⟨-, hmax, -, -, window, -, -, -, capital, -, -, -, rfl⟩ := h
  exact ⟨hmax, rfl, rfl, rfl, rfl, rfl, forall_mem_nil _, rfl⟩

/-- **The reference** of a finished writer and its file. -/
structure Finished (env : TraceEnv) (w : TraceWriter) (r : TraceReference) (file : env.File) :
    Prop where
  identity : r.toTraceIdentity = w.identity
  count : r.observationCount = w.observationCount
  table : env.readParquet file =
    ⟨traceColumns, w.identity.metadata w.identity.baseCurrency, w.rows⟩
  size : env.size file = r.artifact.byteLength
  bound : env.size file ≤ w.maxStreamBytes
  digest : env.sha256 file = r.artifact.contentDigest
  ascii : w.identity.baseCurrency.toList.all (fun c => c.toNat < 128) = true

theorem finish_eq_ok {w : TraceWriter}
    (h : w.finish env = .ok (r, file)) : Finished env w r file := by
  simp only [TraceWriter.finish, bind_eq_ok, ensure_eq_ok, pure_eq_ok, Except.ok.injEq,
    Prod.mk.injEq] at h
  obtain ⟨-, -, u, hu, -, -, -, -, -, hbound, r, hr, rfl, rfl⟩ := h
  obtain rfl := flush_eq_ok hu
  simp only [makeTraceReference, bind_eq_ok, ensure_eq_ok, pure_eq_ok, Except.ok.injEq] at hr
  obtain ⟨-, -, -, -, -, -, -, ⟨-, hascii, -⟩, -, -, -, -, -, -, rfl⟩ := hr
  exact ⟨rfl, rfl, env.read_parquet _, rfl, hbound, rfl, hascii⟩

theorem writeTrace_eq_ok
    (h : writeTrace env input portfolio maxStreamBytes t values = .ok (r, file)) :
    ∃ w₀ w, 1 ≤ maxStreamBytes ∧ w₀.maxStreamBytes = maxStreamBytes ∧
      w₀.identity.baseCurrency = env.upper portfolio.baseCurrency ∧ Written w₀ w t.marks ∧
      Finished env w r file := by
  simp only [writeTrace, bind_eq_ok] at h
  obtain ⟨w₀, hw₀, w, hw, hfinish⟩ := h
  obtain ⟨hone, hmax, hcurrency, hstart⟩ := makeTraceWriter_eq_ok hw₀
  exact ⟨w₀, w, hmax ▸ hone, hmax, hcurrency, hstart.writeAll hw, finish_eq_ok hfinish⟩

theorem expects_marks (expected : Option (List ExpectedEvent))
    (h : ∀ es ∈ expected, es = t.expectedEvents) :
    Expects window (t.marks.filter fun id => InScoring window id.eventTimeNs)
      (expected.map fun es => (0, es)) := by
  cases expected with
  | none => exact fun id hid => of_decide_eq_true (mem_filter.1 hid).2
  | some es =>
    obtain rfl := h es rfl
    exact t.scoringMarks_expectedEvents

theorem exists_verifyTrace {bound : ℤ} {expected : Option (List ExpectedEvent)}
    (h : writeTrace env input portfolio maxStreamBytes t values = .ok (r, file))
    (hbound : maxStreamBytes ≤ bound) (hexpected : ∀ es ∈ expected, es = t.expectedEvents) :
    ∃ os, verifyTrace env r file expected bound = .ok os ∧ os.length = r.observationCount := by
  obtain ⟨w₀, w, hone, hmax, hcurrency, hw, hr⟩ := writeTrace_eq_ok h
  have hwindow : r.window = w₀.identity.window := by
    rw [← hw.identity, ← hr.identity]
  have hmetadata : r.metadata env = w.identity.metadata w.identity.baseCurrency := by
    have hcurrency' : w.identity.baseCurrency = env.upper portfolio.baseCurrency :=
      hw.identity ▸ hcurrency
    have hascii := hr.ascii
    unfold TraceReference.metadata
    rw [hr.identity]
    rw [hcurrency'] at hascii ⊢
    rw [env.upper_upper _ hascii]
  have hfits : env.size file ≤ bound := by
    have := hr.bound
    rw [hw.maxStreamBytes, hmax] at this
    exact this.trans hbound
  -- the rows are in order, after the state that the verifier starts in
  have horder : ((⟨"", -1, -1, -1⟩ : MarkIdentity) ::
      w.rows.map (·.toMarkIdentity)).Pairwise MarkIdentity.Precedes := by
    refine pairwise_cons.2 ⟨fun id hid => ?_, ?_⟩
    · obtain ⟨row, hrow, rfl⟩ := mem_map.1 hid
      have hsound := hw.sound row hrow
      refine ⟨?_, ?_, fun _ => ?_⟩
      · exact Int.lt_of_lt_of_le (by decide) hsound.index_nonneg
      · exact Int.le_trans (by decide) hsound.time_nonneg
      · exact Int.le_trans (by decide) hsound.sequence_nonneg
    · rw [hw.marks]
      exact t.marks_ordered.filter _
  have hids : Expects r.window (w.rows.map (·.toMarkIdentity))
      (expected.map fun es => (0, es)) := by
    rw [hw.marks, ← hwindow]
    exact expects_marks expected hexpected
  obtain ⟨v, hv, hleft, hlength⟩ := exists_verifyRows
    (v := { expected := expected.map fun es => (0, es) }) hw.sound horder hids
  have hcount : v.observations.length = r.observationCount := by
    rw [hlength, hr.count, hw.count]
    exact Nat.zero_add _
  refine ⟨v.observations, ?_, hcount⟩
  unfold verifyTrace
  rw [ensure_of (hone.trans hbound), ok_bind, ensure_of hr.size, ok_bind, ensure_of hfits, ok_bind,
    ensure_of hr.digest, ok_bind]
  dsimp only
  rw [hr.table]
  dsimp only
  rw [ensure_of rfl, ok_bind, ensure_of rfl, ok_bind, ensure_of (hmetadata ▸ List.Perm.refl _),
    ok_bind, hv, ok_bind, hleft, ok_bind, ensure_of hcount]
  rfl

theorem verifyTrace_eq_ok {es : List ExpectedEvent} {bound : ℤ} {os : List EquityObservation}
    (h : verifyTrace env r file (some es) bound = .ok os) :
    (env.readParquet file).rows.map (·.toMarkIdentity) = scoringMarks r.window 0 es := by
  simp only [verifyTrace, bind_eq_ok, ensure_eq_ok, pure_eq_ok, Except.ok.injEq] at h
  obtain ⟨-, -, -, -, -, -, -, -, -, -, -, -, -, -, v, hv, ⟨⟩, hleft, -, -, rfl⟩ := h
  have hexpected := verifyRows_identities hv (checkLeft_eq_ok.1 hleft)
  rw [append_nil] at hexpected
  exact hexpected.symm

end

/-- **Equity traces.**  The trace that is written for a tape is accepted, with the events of the
tape or without them; and a trace is accepted with the events of a tape only if its rows are those
of the window, one to one and in their order. -/
theorem equity_trace (env : TraceEnv) (input : TraceInput) (portfolio : TracePortfolio)
    (maxStreamBytes bound : ℤ) (hbound : maxStreamBytes ≤ bound) (t : FrozenEventTape)
    (values : MarkIdentity → MarkValues) (r : TraceReference) (file : env.File) :
    (writeTrace env input portfolio maxStreamBytes t values = .ok (r, file) →
      (∃ os, verifyTrace env r file (some t.expectedEvents) bound = .ok os ∧
        os.length = r.observationCount) ∧
      ∃ os, verifyTrace env r file none bound = .ok os ∧ os.length = r.observationCount) ∧
    ∀ es os, verifyTrace env r file (some es) bound = .ok os →
      (env.readParquet file).rows.map (·.toMarkIdentity) = scoringMarks r.window 0 es := by
  refine ⟨fun h => ⟨?_, ?_⟩, fun es os h => verifyTrace_eq_ok h⟩
  · exact exists_verifyTrace h hbound fun es hes => (Option.some.inj hes).symm
  · exact exists_verifyTrace h hbound nofun

def tableEnv : TraceEnv where
  File := TraceTable
  size := fun table => table.rows.length + 1
  sha256 := fun _ => ⟨"table"⟩
  refuses := fun _ => none
  parquet := id
  readParquet := id
  upper := fun _ => "USD"
  isAlpha := fun s => s.toList.all Char.isAlpha
  read_parquet := fun _ => rfl
  upper_upper := fun _ _ => rfl

def epochEvent (id : String) (sequence : ℕ) (h : notBlank id = true := by exact Eq.refl true) : MarketEvent :=
  { sampleMarketEvent "close" id sequence h with
    eventTime := ⟨719162 * 86400000000 + 1000000, by decide⟩ }

theorem epochEvents_follow : Follow MarketEvent.SameInstrument [epochEvent "b" 0, epochEvent "a" 1] ∧
    Follow MarketEvent.Advances [epochEvent "b" 0, epochEvent "a" 1] := by
  simp [Follow, MarketEvent.SameInstrument, MarketEvent.Advances, epochEvent, sampleMarketEvent]

def epochTape : FrozenEventTape where
  snapshotFingerprint := ⟨"snapshot"⟩
  events := [epochEvent "b" 0, epochEvent "a" 1]
  unique_ids := by decide
  one_instrument := epochEvents_follow.1
  sorted := by
    refine pairwise_pair.2 (Prod.Lex.toLex_le_toLex.2 (.inr ⟨rfl, ?_⟩))
    exact Prod.Lex.toLex_le_toLex.2 (.inl Nat.zero_lt_one)
  advance := epochEvents_follow.2

def epochInput : TraceInput :=
  ⟨"trial", "attempt", ⟨"snapshot"⟩, ⟨"tape"⟩, some (⟨"window"⟩, 1000000000, 2000000000)⟩

/-- An account that is worth 1000, with half a unit of debt. -/
def epochValues : MarkValues where
  accountEquity := .finite false 1000 0
  accountCashBalance := .finite true 5 (-1)

def epochTrace : Except PyError (TraceReference × TraceTable) :=
  writeTrace tableEnv epochInput ⟨⟨"portfolio"⟩, "usd", .finite false 1000 0⟩ 4096 epochTape
    fun _ => epochValues

theorem equity_trace_epoch : ∃ r file, epochTrace = .ok (r, file) ∧
    ∃ os, verifyTrace tableEnv r file (some epochTape.expectedEvents) 8192 = .ok os ∧
      os.length = 2 := by
  have hwrite : epochTrace.toOption.map (fun p => p.1.observationCount) = some 2 := by
    decide +kernel
  obtain ⟨⟨r, file⟩, h, hcount⟩ := toOption_map_eq_some.1 hwrite
  obtain ⟨⟨os, hos, hlength⟩, -⟩ :=
    (equity_trace tableEnv _ _ 4096 8192 (by decide) epochTape _ r file).1 h
  exact ⟨r, file, h, os, hos, hlength.trans hcount⟩

end ChartingPlatform
