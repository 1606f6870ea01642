/-
  Conservation in the forward account: positions are the signed sums of the
  applied fills, cash is the initial cash with the applied effects, and fills
  stay within their orders.
-/
import ChartingPlatform.Account.State
import ChartingPlatform.Lib.Runs

namespace ChartingPlatform

open Lib List Function

/-! ## Sums -/

def quantityOf (positions : List PositionSnapshot) (instrument : String) : ℚ :=
  ((rowWith (·.instrumentId) instrument positions).map (·.quantity)).getD 0

def amountOf (cash : List ShadowCashBalance) (code : String) : ℚ :=
  ((rowWith (·.currency) code cash).map (·.amount)).getD 0

def signedFill (orders : List ShadowOrder) (instrument : String) (f : ShadowFill) : ℚ :=
  match rowWith (·.orderId) f.orderId orders with
  | some o => if o.intent.instrumentId = instrument then signedQuantity unrounded o.intent f else 0
  | none => 0

def filledFor (order : Digest) (fills : List ShadowFill) : ℚ :=
  ((fills.filter fun f => f.orderId = order).map (·.quantity)).sum

section
variable {orders orders' os : List ShadowOrder} {fs : List ShadowFill} {book book' : FillBook}
  {positions : List PositionSnapshot} {cash deltas : List ShadowCashBalance} {id : Digest}
  {f : ShadowFill} {instrument code : String} {round : ℚ → ℚ}

theorem quantityOf_applyFill (positions : List PositionSnapshot) (intent : OrderIntent)
    (f : ShadowFill) (instrument : String) :
    quantityOf (applyFill unrounded positions intent f) instrument =
      quantityOf positions instrument +
        if intent.instrumentId = instrument then signedQuantity unrounded intent f else 0 := by
  unfold quantityOf applyFill
  rw [rowWith_upsert]
  by_cases h : intent.instrumentId = instrument
  · rw [if_pos h, if_pos h, ← h]
    rfl
  · rw [if_neg h, if_neg h, add_zero]

theorem amountOf_addCash (cash : List ShadowCashBalance) (delta : ShadowCashBalance)
    (code : String) : amountOf (addCash unrounded cash delta) code =
      amountOf cash code + if delta.currency = code then delta.amount else 0 := by
  unfold amountOf addCash
  rw [rowWith_upsert]
  by_cases h : delta.currency = code
  · rw [if_pos h, if_pos h, ← h]
    rfl
  · rw [if_neg h, if_neg h, add_zero]

def cashEffect (deltas : List ShadowCashBalance) (code : String) : ℚ :=
  (deltas.map fun d => if d.currency = code then d.amount else 0).sum

theorem amountOf_foldl (cash deltas : List ShadowCashBalance) (code : String) :
    amountOf (deltas.foldl (addCash unrounded) cash) code =
      amountOf cash code + cashEffect deltas code := by
  induction deltas generalizing cash with
  | nil => simp [cashEffect]
  | cons d ds ih =>
    rw [foldl_cons, ih, amountOf_addCash, cashEffect, cashEffect, map_cons,
      sum_cons, add_assoc]

theorem filledFor_cons : filledFor id (f :: fs) =
    (if f.orderId = id then f.quantity else 0) + filledFor id fs := by
  unfold filledFor
  by_cases h : f.orderId = id
  · rw [filter_cons_of_pos (by simpa using h), map_cons, sum_cons, if_pos h]
  · rw [filter_cons_of_neg (by simpa using h), if_neg h, zero_add]

theorem filledFor_append (fs gs : List ShadowFill) :
    filledFor id (fs ++ gs) = filledFor id fs + filledFor id gs := by
  simp [filledFor]

theorem filledFor_perm {gs : List ShadowFill} (h : fs ~ gs) : filledFor id fs = filledFor id gs :=
  ((h.filter _).map _).sum_eq

theorem filledFor_eq_zero (h : ∀ f ∈ fs, f.orderId ≠ id) : filledFor id fs = 0 := by
  unfold filledFor
  rw [filter_eq_nil_iff.2 (by simpa using h)]
  rfl

theorem filledQuantities_apply (fs : List ShadowFill) (id : Digest) :
    filledQuantities unrounded fs id = filledFor id fs := by
  have hfold : ∀ (fs : List ShadowFill) (m : Digest → ℚ),
      fs.foldl (fun filled f =>
        update filled f.orderId (unrounded (filled f.orderId + f.quantity))) m id =
        m id + filledFor id fs := by
    intro fs
    induction fs with
    | nil => simp [filledFor]
    | cons f fs ih =>
      intro m
      rw [foldl_cons, ih, filledFor_cons]
      by_cases h : f.orderId = id
      · subst h
        rw [update_self, if_pos rfl, unrounded_apply, add_assoc]
      · rw [update_of_ne (Ne.symm h), if_neg h, zero_add]
  rw [filledQuantities, hfold, zero_add]

/-! ## The loops -/

theorem addOrders_eq_some (h : addOrders orders os = some orders') :
    orders' = orders ++ os ∧
      ((orders.map (·.orderId)).Nodup → (orders'.map (·.orderId)).Nodup) := by
  induction os generalizing orders with
  | nil =>
    cases h
    exact ⟨(append_nil _).symm, id⟩
  | cons o os ih =>
    rw [addOrders] at h
    cases hnew : insertNew (·.orderId) o orders with
    | none => simp only [hnew] at h; cases h
    | some mid =>
      simp only [hnew] at h
      obtain ⟨hrest, hnodup⟩ := ih h
      obtain ⟨-, rfl⟩ := insertNew_eq_some.1 hnew
      exact ⟨by rw [hrest, append_assoc, singleton_append],
        fun hn => hnodup (nodup_insertNew hn hnew)⟩

theorem addFill_eq_ok (h : addFill round orders book f = .ok book') :
    ∃ o, rowWith (·.orderId) f.orderId orders = some o ∧
      round (book.filled f.orderId + f.quantity) ≤ o.intent.quantity ∧
      f.fillId ∉ book.fills.map (·.fillId) ∧
      book' = ⟨book.fills ++ [f], applyFill round book.positions o.intent f,
        update book.filled f.orderId (round (book.filled f.orderId + f.quantity))⟩ := by
  unfold addFill at h
  cases hnew : insertNew (·.fillId) f book.fills with
  | none => simp only [hnew] at h; cases h
  | some fills =>
    simp only [hnew] at h
    obtain ⟨hfresh, rfl⟩ := insertNew_eq_some.1 hnew
    cases ho : rowWith (·.orderId) f.orderId orders with
    | none => simp only [ho] at h; cases h
    | some o =>
      simp only [ho] at h
      by_cases hexceeds : o.intent.quantity < round (book.filled f.orderId + f.quantity)
      · rw [if_pos hexceeds] at h
        cases h
      · rw [if_neg hexceeds] at h
        cases h
        exact ⟨o, rfl, not_lt.1 hexceeds, hfresh, rfl⟩

/-- **What the fills of an event add up to.** -/
theorem addFills_spec (h : addFills unrounded orders book fs = .ok book') :
    book'.fills = book.fills ++ fs ∧
      (∀ f ∈ fs, ∃ o, rowWith (·.orderId) f.orderId orders = some o) ∧
      (∀ i, quantityOf book'.positions i =
        quantityOf book.positions i + (fs.map (signedFill orders i)).sum) ∧
      (∀ id, book'.filled id = book.filled id + filledFor id fs) ∧
      ∀ id o, rowWith (·.orderId) id orders = some o → book.filled id ≤ o.intent.quantity →
        book'.filled id ≤ o.intent.quantity := by
  induction fs generalizing book with
  | nil =>
    cases h
    simp [filledFor]
  | cons f fs ih =>
    rw [addFills] at h
    obtain ⟨mid, hfill, h⟩ := bind_eq_ok.1 h
    obtain ⟨o, ho, hle, -, rfl⟩ := addFill_eq_ok hfill
    obtain ⟨hfills, horders, hquantity, hfilled, hwithin⟩ := ih h
    refine ⟨by rw [hfills, append_assoc, singleton_append], ?_, ?_, ?_, ?_⟩
    · intro g hg
      rcases mem_cons.1 hg with rfl | hg
      · exact ⟨o, ho⟩
      · exact horders g hg
    · intro i
      rw [hquantity, quantityOf_applyFill, map_cons, sum_cons, signedFill, ho, add_assoc]
    · intro id
      rw [hfilled, filledFor_cons]
      dsimp only
      by_cases hid : f.orderId = id
      · subst hid
        rw [update_self, if_pos rfl, unrounded_apply, add_assoc]
      · rw [update_of_ne (Ne.symm hid), if_neg hid, zero_add]
    · intro id o' ho' hle'
      refine hwithin id o' ho' ?_
      dsimp only
      by_cases hid : f.orderId = id
      · subst hid
        obtain rfl := Option.some.inj (ho.symm.trans ho')
        rw [update_self]
        exact hle
      · rw [update_of_ne (Ne.symm hid)]
        exact hle'

end

/-! ## Runs -/

structure AccountAction where
  event : ForwardAccountEvent
  receipt : Option ForwardRuntimeExecutionReceipt
  answer : Except PyError ForwardAccountResolution

/-- One call: the state of its answer, or the same state where it raises. -/
def accountStep (enc : AccountEncoding) (s : ForwardAccountState) (a : AccountAction)
    (t : ForwardAccountState) : Prop :=
  a.answer = applyForwardAccountEvent unrounded enc s a.event a.receipt ∧
    t = match a.answer with
      | .ok r => r.state
      | .error _ => s

def AccountAction.settled (a : AccountAction) :
    Option (ForwardAccountEvent × Option ForwardRuntimeExecutionReceipt) :=
  match a.answer with
  | .ok r => if r.decision = .applied then some (a.event, a.receipt) else none
  | .error _ => none

def settledEvents (as : List AccountAction) :
    List (ForwardAccountEvent × Option ForwardRuntimeExecutionReceipt) :=
  as.filterMap AccountAction.settled

def settledFills (as : List AccountAction) : List ShadowFill :=
  (settledEvents as).flatMap fun e => e.1.fills

def ForwardAppliedAccountEvent.content (a : ForwardAppliedAccountEvent) :
    String × Digest × Digest × ℕ × Option ForwardRuntimeExecutionReceipt :=
  (a.eventId, a.eventFingerprint, a.eventContentFingerprint, a.sequence, a.executionReceipt)

def recordContent (enc : AccountEncoding)
    (e : ForwardAccountEvent × Option ForwardRuntimeExecutionReceipt) :
    String × Digest × Digest × ℕ × Option ForwardRuntimeExecutionReceipt :=
  (e.1.eventId, e.1.eventFingerprint, e.1.fingerprint enc, e.1.sequence, e.2)

/-- **The account is conserved** after the actions, from the start. -/
structure Conserved (enc : AccountEncoding) (start : ForwardAccountState)
    (as : List AccountAction) (s : ForwardAccountState) : Prop where
  instanceId : s.instanceId = start.instanceId
  fills : s.fills ~ settledFills as
  positions : ∀ i, quantityOf s.positions i = ((settledFills as).map (signedFill s.orders i)).sum
  cash : ∀ c, amountOf s.cash c =
    amountOf start.cash c + ((settledEvents as).map fun e => cashEffect e.1.cashDeltas c).sum
  within : ∀ o ∈ s.orders, filledFor o.orderId s.fills ≤ o.intent.quantity
  log : s.appliedEvents.map ForwardAppliedAccountEvent.content =
    (settledEvents as).map (recordContent enc)
  bounded : ∀ e ∈ settledEvents as, (e.1.sequence : ℤ) ≤ s.lastEventSequence
  increasing : ((settledEvents as).map fun e => e.1.sequence).Pairwise (· < ·)
  bound : ∀ e ∈ settledEvents as, e.1.instanceId = start.instanceId ∧ ∀ r ∈ e.2, r.Binds e.1

section
variable {enc : AccountEncoding} {start s t : ForwardAccountState} {as : List AccountAction}
  {a : AccountAction} {orders : List ShadowOrder} {e : ForwardAccountEvent}

theorem settledEvents_snoc : settledEvents (as ++ [a]) = settledEvents as ++ a.settled.toList := by
  rw [settledEvents, filterMap_append]
  cases h : a.settled with
  | none | some e => simp [settledEvents, h]

theorem Conserved.init (henc : start.appliedEvents = []) (horders : start.orders = [])
    (hfills : start.fills = []) (hpositions : start.positions = []) :
    Conserved enc start [] start where
  instanceId := rfl
  fills := by rw [hfills]; exact List.Perm.refl _
  positions i := by rw [hpositions]; rfl
  cash c := by simp [settledEvents]
  within := by simp [horders]
  log := by rw [henc]; rfl
  bounded := by simp [settledEvents]
  increasing := List.Pairwise.nil
  bound := by simp [settledEvents]

theorem Conserved.unchanged (h : Conserved enc start as s) (ha : a.settled = none) :
    Conserved enc start (as ++ [a]) s := by
  have hsettled : settledEvents (as ++ [a]) = settledEvents as := by
    rw [settledEvents_snoc, ha]
    exact append_nil _
  have hfills : settledFills (as ++ [a]) = settledFills as := by rw [settledFills, hsettled]; rfl
  exact
    { instanceId := h.instanceId
      fills := by rw [hfills]; exact h.fills
      positions := by rw [hfills]; exact h.positions
      cash := by rw [hsettled]; exact h.cash
      within := h.within
      log := by rw [hsettled]; exact h.log
      bounded := by rw [hsettled]; exact h.bounded
      increasing := by rw [hsettled]; exact h.increasing
      bound := by rw [hsettled]; exact h.bound }

theorem signedFill_append {os : List ShadowOrder} {f : ShadowFill}
    (h : f.orderId ∈ orders.map (·.orderId)) (i : String) :
    signedFill (orders ++ os) i f = signedFill orders i f := by
  have hfound : ∃ o, rowWith (·.orderId) f.orderId orders = some o := by
    cases ho : rowWith (·.orderId) f.orderId orders with
    | none => exact absurd h (rowWith_eq_none.1 ho)
    | some o => exact ⟨o, rfl⟩
  obtain ⟨o, ho⟩ := hfound
  have happend : rowWith (·.orderId) f.orderId (orders ++ os) = some o := by
    unfold rowWith at ho ⊢
    rw [find?_append, ho]
    rfl
  rw [signedFill, signedFill, ho, happend]

theorem nodup_of_text {α : Type} {l : List α} {f : α → Digest}
    (h : l.Pairwise fun a b => (f a).text < (f b).text) : (l.map f).Nodup := by
  have htext : (l.map fun a => (f a).text).Nodup := nodup_map_of_pairwise_lt h
  refine List.Nodup.of_map Digest.text ?_
  rw [map_map]
  exact htext

theorem settled_fields {rec : ForwardAppliedAccountEvent} {book : FillBook}
    (h : makeForwardAccountState (nextFields unrounded s e rec orders book) = .ok t) :
    t.instanceId = s.instanceId ∧ t.lastEventSequence = e.sequence ∧
      t.lastEventId = some e.eventId ∧ t.orders ~ orders ∧
      t.fills ~ book.fills ∧ (∀ i, quantityOf t.positions i = quantityOf book.positions i) ∧
      (∀ c, amountOf t.cash c = amountOf s.cash c + cashEffect e.cashDeltas c) ∧
      t.appliedEvents = sortBy (·.sequence) (s.appliedEvents ++ [rec]) := by
  obtain ⟨base, -, hfields⟩ := makeForwardAccountState_eq_ok h
  have hpositions : t.positions ~ book.positions := by
    rw [hfields]
    exact perm_sortBy _ _
  have hcash : t.cash ~ e.cashDeltas.foldl (addCash unrounded) s.cash := by
    rw [hfields]
    exact perm_sortBy _ _
  refine ⟨by rw [hfields]; rfl, by rw [hfields]; rfl, by rw [hfields]; rfl, ?_, ?_, ?_, ?_,
    by rw [hfields]; rfl⟩
  · rw [hfields]
    exact perm_sortBy _ _
  · rw [hfields]
    exact perm_sortBy _ _
  · intro i
    rw [quantityOf, rowWith_perm hpositions (nodup_map_of_pairwise_lt t.positions_sorted),
      quantityOf]
  · intro c
    rw [amountOf, rowWith_perm hcash (nodup_map_of_pairwise_lt t.cash_sorted), ← amountOf_foldl,
      amountOf]

theorem Conserved.applied {book : FillBook}
    (h : Conserved enc start as s) (hsettled : a.settled = some (a.event, a.receipt))
    (hr : ∀ r ∈ a.receipt, r.Binds a.event) (hinstance : a.event.instanceId = s.instanceId)
    (hseq : s.lastEventSequence < a.event.sequence)
    (horders : addOrders s.orders a.event.orders = some orders)
    (hfills : addFills unrounded orders ⟨s.fills, s.positions, filledQuantities unrounded s.fills⟩ a.event.fills =
      .ok book)
    (hnext : makeForwardAccountState
      (nextFields unrounded s a.event (a.event.applied enc a.receipt hr) orders book) = .ok t) :
    Conserved enc start (as ++ [a]) t := by
  obtain ⟨hid, hlast, -, hto, htf, htp, htc, hta⟩ := settled_fields hnext
  obtain ⟨rfl, -⟩ := addOrders_eq_some horders
  obtain ⟨hbook, hknown, hquantity, hfilled, hwithin⟩ := addFills_spec hfills
  have hevents : settledEvents (as ++ [a]) = settledEvents as ++ [(a.event, a.receipt)] := by
    rw [settledEvents_snoc, hsettled]
    rfl
  have hsettledFills : settledFills (as ++ [a]) = settledFills as ++ a.event.fills := by
    rw [settledFills, hevents, flatMap_append, settledFills]
    simp
  have hnodup : ((s.orders ++ a.event.orders).map (·.orderId)).Nodup :=
    (hto.map _).nodup_iff.1 (nodup_of_text t.orders_sorted)
  have hsigned : ∀ i f, signedFill t.orders i f = signedFill (s.orders ++ a.event.orders) i f := by
    intro i f
    rw [signedFill, rowWith_perm hto (nodup_of_text t.orders_sorted), signedFill]
  have hretained : ∀ f ∈ settledFills as, f.orderId ∈ s.orders.map (·.orderId) := fun f hf =>
    s.fills_retained f (h.fills.mem_iff.2 hf)
  have hlog : s.appliedEvents.map (·.sequence) = (settledEvents as).map fun e => e.1.sequence := by
    have hcontent := congrArg (List.map fun c => c.2.2.2.1) h.log
    rw [map_map, map_map] at hcontent
    exact hcontent
  have hrecords : t.appliedEvents = s.appliedEvents ++ [a.event.applied enc a.receipt hr] := by
    rw [hta]
    refine sortBy_of_pairwise ?_
    rw [pairwise_append]
    refine ⟨?_, pairwise_singleton _ _, ?_⟩
    · have hpairs : (s.appliedEvents.map (·.sequence)).Pairwise (· < ·) := by
        rw [hlog]
        exact h.increasing
      rwa [pairwise_map] at hpairs
    · intro x hx y hy
      rw [mem_singleton.1 hy]
      have hmem : x.sequence ∈ (settledEvents as).map fun e => e.1.sequence := by
        rw [← hlog]
        exact mem_map_of_mem hx
      obtain ⟨e, he, heq⟩ := mem_map.1 hmem
      have hle := h.bounded e he
      have hlt : (x.sequence : ℤ) < a.event.sequence := by
        rw [← heq]
        exact lt_of_le_of_lt hle hseq
      exact_mod_cast hlt
  exact
    { instanceId := hid.trans h.instanceId
      fills := by
        rw [hsettledFills]
        exact htf.trans (by rw [hbook]; exact h.fills.append_right _)
      positions := by
        intro i
        rw [htp, hquantity, h.positions, hsettledFills, map_append, sum_append]
        congr 1
        · refine congrArg List.sum (map_congr_left fun f hf => ?_)
          rw [hsigned, signedFill_append (hretained f hf)]
        · exact congrArg List.sum (map_congr_left fun f _ => (hsigned i f).symm)
      cash := by
        intro c
        rw [htc, h.cash, hevents, map_append, sum_append, add_assoc]
        simp
      within := by
        intro o ho
        have ho' : o ∈ s.orders ++ a.event.orders := hto.mem_iff.1 ho
        have hsum : filledFor o.orderId t.fills = book.filled o.orderId := by
          rw [filledFor_perm htf, hbook, filledFor_append, hfilled]
          dsimp only
          rw [filledQuantities_apply]
        rw [hsum]
        refine hwithin _ o ((rowWith_eq_some hnodup).2 ⟨ho', rfl⟩) ?_
        dsimp only
        rw [filledQuantities_apply]
        rcases mem_append.1 ho' with hold | hnew
        · exact h.within o hold
        · -- no fill so far refers to a new order
          rw [filledFor_eq_zero]
          · exact o.intent.quantity_pos.le
          · intro f hf heq
            rw [map_append, nodup_append] at hnodup
            exact hnodup.2.2 _ (s.fills_retained f hf) _ (mem_map_of_mem hnew) heq
      log := by
        have hrecord : (a.event.applied enc a.receipt hr).content =
            recordContent enc (a.event, a.receipt) := by
          simp only [ForwardAppliedAccountEvent.content, recordContent, ForwardAccountEvent.applied]
        rw [hrecords, hevents, map_append, map_append, h.log, map_singleton,
          map_singleton, hrecord]
      bounded := by
        intro e he
        rw [hevents] at he
        rw [hlast]
        rcases mem_append.1 he with he | he
        · exact (lt_of_le_of_lt (h.bounded e he) hseq).le
        · rw [mem_singleton.1 he]
      increasing := by
        rw [hevents, map_append, pairwise_append]
        refine ⟨h.increasing, pairwise_singleton _ _, ?_⟩
        intro x hx y hy
        obtain ⟨e, he, rfl⟩ := mem_map.1 hx
        rw [map_singleton, mem_singleton] at hy
        rw [hy]
        exact_mod_cast lt_of_le_of_lt (h.bounded e he) hseq
      bound := by
        intro e he
        rw [hevents] at he
        rcases mem_append.1 he with he | he
        · exact h.bound e he
        · rw [mem_singleton.1 he]
          exact ⟨hinstance.trans h.instanceId, hr⟩ }

/-- **One call keeps the account conserved.** -/
theorem Conserved.step (h : Conserved enc start as s) (ha : accountStep enc s a t) :
    Conserved enc start (as ++ [a]) t := by
  obtain ⟨hanswer, ht⟩ := ha
  cases hr : a.answer with
  | error e =>
    rw [hr] at ht
    rw [ht]
    exact h.unchanged (by rw [AccountAction.settled, hr])
  | ok r =>
    rw [hr] at ht hanswer
    have hstate' : t = r.state := ht
    cases applyForwardAccountEvent_cases hanswer.symm with
    | failed hfailed hstate =>
      rw [hstate', hstate]
      refine h.unchanged ?_
      rw [AccountAction.settled, hr]
      dsimp only
      rw [if_neg]
      intro hd
      rw [hd] at hfailed
      cases hfailed
    | replay _ _ _ _ hd hstate =>
      rw [hstate', hstate]
      refine h.unchanged ?_
      rw [AccountAction.settled, hr]
      dsimp only
      rw [if_neg (by rw [hd]; exact nofun)]
    | applied hbinds hinstance _ hseq horders hfills hnext hd =>
      rw [hstate']
      refine h.applied ?_ hbinds hinstance hseq horders hfills hnext
      rw [AccountAction.settled, hr]
      dsimp only
      rw [if_pos hd]

theorem conserved_run (hstart : Conserved enc start [] start)
    (h : Run (accountStep enc) start as s) : Conserved enc start as s := by
  induction h with
  | nil => exact hstart
  | snoc _ ha ih => exact ih.step ha

theorem initial_eq_ok {instanceId baseCurrency : String} {initialCash : List (String × ℚ)}
    (h : initialForwardAccountState instanceId baseCurrency initialCash = .ok s) :
    s.appliedEvents = [] ∧ s.orders = [] ∧ s.fills = [] ∧ s.positions = [] ∧
      s.lastEventSequence = -1 := by
  obtain ⟨balances, -, h⟩ := bind_eq_ok.1 h
  obtain ⟨base, -, hfields⟩ := makeForwardAccountState_eq_ok h
  rw [hfields]
  exact ⟨rfl, rfl, rfl, rfl, rfl⟩

/-- **Applying again** what was applied replays it. -/
theorem Conserved.replays (h : Conserved enc start as s)
    {e : ForwardAccountEvent × Option ForwardRuntimeExecutionReceipt}
    (he : e ∈ settledEvents as) :
    ∃ r, applyForwardAccountEvent unrounded enc s e.1 e.2 = .ok r ∧ r.decision = .replayExisting ∧
      r.state = s := by
  have hmem : recordContent enc e ∈ s.appliedEvents.map ForwardAppliedAccountEvent.content := by
    rw [h.log]
    exact mem_map_of_mem he
  obtain ⟨x, hx, hcontent⟩ := mem_map.1 hmem
  obtain ⟨hid, hfp, hcfp, -, hreceipt⟩ :
      x.eventId = e.1.eventId ∧ x.eventFingerprint = e.1.eventFingerprint ∧
        x.eventContentFingerprint = e.1.fingerprint enc ∧ x.sequence = e.1.sequence ∧
        x.executionReceipt = e.2 := by
    simpa only [ForwardAppliedAccountEvent.content, recordContent, Prod.mk.injEq] using hcontent
  obtain ⟨hinstance, hbinds⟩ := h.bound e he
  exact applyForwardAccountEvent_replay hbinds (hinstance.trans h.instanceId.symm)
    ((rowWith_eq_some s.applied_nodup).2 ⟨hx, hid⟩) hfp hcfp hreceipt

theorem state_of_not_applied {round : ℚ → ℚ}
    {receipt : Option ForwardRuntimeExecutionReceipt} {r : ForwardAccountResolution}
    (h : applyForwardAccountEvent round enc s e receipt = .ok r) (hr : r.decision ≠ .applied) :
    r.state = s := by
  cases applyForwardAccountEvent_cases h with
  | failed _ hstate | replay _ _ _ _ _ hstate => exact hstate
  | applied _ _ _ _ _ _ _ hd => exact absurd hd hr

/-- **Conservation**, in every state that a new account reaches. -/
theorem account_conservation (enc : AccountEncoding) (instanceId baseCurrency : String)
    (initialCash : List (String × ℚ)) (start s : ForwardAccountState) (as : List AccountAction)
    (hstart : initialForwardAccountState instanceId baseCurrency initialCash = .ok start)
    (hrun : Run (accountStep enc) start as s) :
    (∀ i, quantityOf s.positions i = ((settledFills as).map (signedFill s.orders i)).sum) ∧
      (∀ c, amountOf s.cash c =
        amountOf start.cash c + ((settledEvents as).map fun e => cashEffect e.1.cashDeltas c).sum) ∧
      s.fills ~ settledFills as ∧
      (∀ o ∈ s.orders, filledFor o.orderId s.fills ≤ o.intent.quantity) ∧
      (∀ f ∈ s.fills, ∃ o ∈ s.orders, o.orderId = f.orderId) ∧
      ((settledEvents as).map fun e => e.1.sequence).Pairwise (· < ·) ∧
      s.appliedEvents.map ForwardAppliedAccountEvent.content =
        (settledEvents as).map (recordContent enc) ∧
      (∀ e receipt r, applyForwardAccountEvent unrounded enc s e receipt = .ok r →
        r.decision ≠ .applied → r.state = s) ∧
      ∀ e ∈ settledEvents as, ∃ r, applyForwardAccountEvent unrounded enc s e.1 e.2 = .ok r ∧
        r.decision = .replayExisting ∧ r.state = s := by
  obtain ⟨happlied, horders, hfills, hpositions, -⟩ := initial_eq_ok hstart
  have h := conserved_run (@Conserved.init enc start happlied horders hfills hpositions) hrun
  exact ⟨h.positions, h.cash, h.fills, h.within, fun f hf => by
      simpa using s.fills_retained f hf, h.increasing, h.log,
    fun _ _ _ => state_of_not_applied, fun _ => h.replays⟩

end

/-! ## A run -/

def sampleEncoding : AccountEncoding where
  sha256 := Digest.mk
  decimal q := .finite (decide (q < 0)) q.num.natAbs 0

def sampleOrder : ShadowOrder where
  orderId := ⟨"order-1"⟩
  eventId := "event-1"
  intent := .market "AAPL" .sell 10 (Eq.refl true) (Eq.refl true)
  eventId_notBlank := Eq.refl true

def sampleFill : ShadowFill where
  fillId := ⟨"fill-1"⟩
  orderId := ⟨"order-1"⟩
  quantity := 4
  price := 100
  fee := 1
  feeCurrency := "USD"
  filledAt := 0
  quantity_pos := by norm_num
  price_pos := by norm_num

def sampleAccountEvent : ForwardAccountEvent where
  instanceId := "forward-1"
  eventId := "event-1"
  eventFingerprint := ⟨"event-1"⟩
  sequence := 0
  eventTime := 0
  orders := [sampleOrder]
  fills := [sampleFill]
  cashDeltas := [⟨"USD", 399⟩]
  instanceId_notBlank := Eq.refl true
  eventId_notBlank := Eq.refl true
  orders_event := by simp [sampleOrder]
  cash_currency := by simp; rfl

def answered (enc : AccountEncoding) (s : ForwardAccountState) (e : ForwardAccountEvent)
    (receipt : Option ForwardRuntimeExecutionReceipt) : AccountAction :=
  ⟨e, receipt, applyForwardAccountEvent unrounded enc s e receipt⟩

theorem step_answered (enc : AccountEncoding) (s : ForwardAccountState) (e : ForwardAccountEvent)
    (receipt : Option ForwardRuntimeExecutionReceipt) :
    ∃ t, accountStep enc s (answered enc s e receipt) t := ⟨_, rfl, rfl⟩

theorem account_conservation_sample : ∃ start s as,
    initialForwardAccountState "forward-1" "usd" [("usd", 1000)] = .ok start ∧
      Run (accountStep sampleEncoding) start as s ∧
      as.map (·.event) = [sampleAccountEvent, sampleAccountEvent] ∧
      (∀ i, quantityOf s.positions i = ((settledFills as).map (signedFill s.orders i)).sum) ∧
      ∀ c, amountOf s.cash c = amountOf start.cash c +
        ((settledEvents as).map fun e => cashEffect e.1.cashDeltas c).sum := by
  obtain ⟨start, hstart⟩ :
      ∃ start, initialForwardAccountState "forward-1" "usd" [("usd", 1000)] = .ok start :=
    ⟨_, rfl⟩
  obtain ⟨t, ht⟩ := step_answered sampleEncoding start sampleAccountEvent none
  obtain ⟨s, hs⟩ := step_answered sampleEncoding t sampleAccountEvent none
  have hrun := Run.snoc (Run.snoc Run.nil ht) hs
  obtain ⟨hpositions, hcash, -⟩ := account_conservation sampleEncoding "forward-1" "usd"
    [("usd", 1000)] start s _ hstart hrun
  exact ⟨start, s, _, hstart, hrun, rfl, hpositions, hcash⟩

end ChartingPlatform
