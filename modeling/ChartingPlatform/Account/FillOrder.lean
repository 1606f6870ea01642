/-
  The order in which an event's fills are applied (`forward_account.py`): quantities do not
  see it, and an average price does.
-/
import ChartingPlatform.Account.Conservation
import ChartingPlatform.Lib.DecimalContexts

namespace ChartingPlatform

open Lib List

/-! ## Holdings -/

/-- What a position is about: a signed quantity and its average price. -/
structure Holding where
  quantity : ℚ
  average : Option ℚ
  deriving DecidableEq

structure FillEffect where
  signed : ℚ
  price : ℚ
  deriving DecidableEq

/-- One fill; the quantity of a sale is negated, and rounded by that. -/
def Holding.after (round : ℚ → ℚ) (h : Holding) (e : FillEffect) : Holding :=
  let signed := if e.signed < 0 then round e.signed else e.signed
  ⟨round (h.quantity + signed), nextAverage round h.quantity signed e.price h.average⟩

def Holding.afterAll (round : ℚ → ℚ) (h : Holding) (es : List FillEffect) : Holding :=
  es.foldl (Holding.after round) h

def signedSum (es : List FillEffect) : ℚ := (es.map (·.signed)).sum

def Reduces (quantity : ℚ) (es : List FillEffect) : Prop :=
  (0 < quantity ∧ (∀ e ∈ es, e.signed < 0) ∧ 0 ≤ quantity + signedSum es) ∨
    (quantity < 0 ∧ (∀ e ∈ es, 0 < e.signed) ∧ quantity + signedSum es ≤ 0)

/-- The quantities are whole numbers of one decimal unit, and all of them together fit the digits
of the context. -/
def SharesUnit (c : DecimalContext) (quantity : ℚ) (es : List FillEffect) : Prop :=
  ∃ k : ℤ, c.least ≤ k ∧ c.digits + k ≤ c.greatest + 1 ∧ (∃ n : ℤ, quantity = n * 10 ^ k) ∧
    (∀ e ∈ es, ∃ n : ℤ, e.signed = n * 10 ^ k) ∧
    |quantity| + (es.map fun e => |e.signed|).sum < 10 ^ c.digits * 10 ^ k

section
variable {c : DecimalContext} {h : Holding} {e : FillEffect} {es fs : List FillEffect}
  {quantity : ℚ}

@[simp] theorem signedSum_nil : signedSum [] = 0 := rfl

@[simp] theorem signedSum_cons : signedSum (e :: es) = e.signed + signedSum es := by
  rw [signedSum, map_cons, sum_cons, signedSum]

theorem signedSum_perm (hp : es ~ fs) : signedSum es = signedSum fs :=
  (hp.map _).sum_eq

theorem Reduces.perm (hp : es ~ fs) (hr : Reduces quantity es) : Reduces quantity fs := by
  unfold Reduces at hr ⊢
  rw [← signedSum_perm hp]
  rcases hr with ⟨hq, hs, hle⟩ | ⟨hq, hs, hle⟩
  · exact .inl ⟨hq, fun e he => hs e (hp.mem_iff.2 he), hle⟩
  · exact .inr ⟨hq, fun e he => hs e (hp.mem_iff.2 he), hle⟩

theorem SharesUnit.perm (hp : es ~ fs) (hs : SharesUnit c quantity es) :
    SharesUnit c quantity fs := by
  obtain ⟨k, hleast, hgreatest, hquantity, hsigned, hsum⟩ := hs
  refine ⟨k, hleast, hgreatest, hquantity, fun e he => hsigned e (hp.mem_iff.2 he), ?_⟩
  rwa [← (hp.map fun e : FillEffect => |e.signed|).sum_eq]

/-- A whole number of units below the bound is not rounded. -/
theorem value_of_units {k n : ℤ} {x : ℚ} (hleast : c.least ≤ k) (hx : x = n * 10 ^ k)
    (hlt : |x| < 10 ^ c.digits * 10 ^ k) : c.value x = x := by
  rw [hx] at hlt ⊢
  refine DecimalContext.value_of_short ?_ hleast
  have hk : (0 : ℚ) < 10 ^ k := zpow_pos (by norm_num) k
  rw [abs_mul, abs_of_pos hk, mul_lt_mul_iff_left₀ hk] at hlt
  exact_mod_cast hlt

/-- **One fill of a shared unit** is not rounded, and the unit is shared with the rest. -/
theorem SharesUnit.cons (hs : SharesUnit c quantity (e :: es)) :
    c.value e.signed = e.signed ∧ c.value (quantity + e.signed) = quantity + e.signed ∧
      SharesUnit c (quantity + e.signed) es := by
  obtain ⟨k, hleast, hgreatest, ⟨n, hn⟩, hsigned, hsum⟩ := hs
  obtain ⟨m, hm⟩ := hsigned e mem_cons_self
  rw [map_cons, sum_cons] at hsum
  have hrest : 0 ≤ (es.map fun e => |e.signed|).sum :=
    sum_nonneg (forall_mem_map.2 fun e _ => abs_nonneg _)
  have hquantity := abs_nonneg quantity
  have htriangle := abs_add_le quantity e.signed
  have hnext : quantity + e.signed = ((n + m : ℤ) : ℚ) * 10 ^ k := by
    rw [hn, hm]
    push_cast
    ring
  refine ⟨value_of_units hleast hm (by linarith), value_of_units hleast hnext (by linarith), k,
    hleast, hgreatest, ⟨_, hnext⟩, fun x hx => hsigned x (mem_cons_of_mem _ hx), ?_⟩
  linarith

theorem after_of_shared (hs : SharesUnit c h.quantity (e :: es)) :
    h.after c.value e = ⟨h.quantity + e.signed,
      nextAverage c.value h.quantity e.signed e.price h.average⟩ := by
  obtain ⟨hsigned, hnext, -⟩ := hs.cons
  simp only [Holding.after, hsigned, ite_self, hnext]

theorem quantity_afterAll (hs : SharesUnit c h.quantity es) :
    (h.afterAll c.value es).quantity = h.quantity + signedSum es := by
  induction es generalizing h with
  | nil => exact (add_zero _).symm
  | cons e es ih =>
    have hafter := after_of_shared hs
    change ((h.after c.value e).afterAll c.value es).quantity = _
    rw [ih (by rw [hafter]; exact hs.cons.2.2), signedSum_cons, ← add_assoc, hafter]

theorem after_of_reduces (hs : SharesUnit c h.quantity (e :: es)) (hr : Reduces h.quantity [e])
    (hne : h.quantity + e.signed ≠ 0) :
    h.after c.value e = ⟨h.quantity + e.signed, h.average⟩ := by
  rw [after_of_shared hs]
  unfold nextAverage
  rw [hs.cons.2.1, if_neg hne]
  rcases hr with ⟨hq, hs, hle⟩ | ⟨hq, hs, hle⟩
  · have hsigned := hs e (mem_singleton_self _)
    rw [signedSum_cons, signedSum_nil, add_zero] at hle
    rw [if_neg, if_pos (iff_of_true hq (lt_of_le_of_ne hle hne.symm))]
    rintro (hzero | hsame)
    · exact hq.ne' hzero
    · exact hsigned.not_gt (hsame.1 hq)
  · have hsigned := hs e (mem_singleton_self _)
    rw [signedSum_cons, signedSum_nil, add_zero] at hle
    rw [if_neg, if_pos (iff_of_false hq.not_gt hle.not_gt)]
    rintro (hzero | hsame)
    · exact hq.ne hzero
    · exact hq.not_gt (hsame.2 hsigned)

theorem signedSum_nonpos (hs : ∀ e ∈ es, e.signed < 0) : signedSum es ≤ 0 := by
  induction es with
  | nil => exact le_rfl
  | cons e es ih =>
    rw [signedSum_cons]
    exact add_nonpos (hs e mem_cons_self).le (ih fun x hx => hs x (mem_cons_of_mem _ hx))

theorem signedSum_nonneg (hs : ∀ e ∈ es, 0 < e.signed) : 0 ≤ signedSum es :=
  sum_nonneg (forall_mem_map.2 fun e he => (hs e he).le)

theorem eq_nil_of_nonneg (hs : ∀ e ∈ es, e.signed < 0) (hsum : 0 ≤ signedSum es) : es = [] := by
  cases es with
  | nil => rfl
  | cons e es =>
    have hrest := signedSum_nonpos fun x hx => hs x (mem_cons_of_mem e hx)
    rw [signedSum_cons] at hsum
    exact absurd hsum (add_neg_of_neg_of_nonpos (hs e mem_cons_self) hrest).not_ge

theorem eq_nil_of_nonpos (hs : ∀ e ∈ es, 0 < e.signed) (hsum : signedSum es ≤ 0) : es = [] := by
  cases es with
  | nil => rfl
  | cons e es =>
    have hrest := signedSum_nonneg fun x hx => hs x (mem_cons_of_mem e hx)
    rw [signedSum_cons] at hsum
    exact absurd hsum (add_pos_of_pos_of_nonneg (hs e mem_cons_self) hrest).not_ge

/-- **Fills that reduce a position**: the same average price, until it is closed. -/
theorem average_of_reduces (hu : SharesUnit c h.quantity es) (hr : Reduces h.quantity es) :
    (h.afterAll c.value es).average = if h.quantity + signedSum es = 0 then none else h.average := by
  induction es generalizing h with
  | nil =>
    have hne : h.quantity + signedSum [] ≠ 0 := by
      rw [signedSum_nil, add_zero]
      rcases hr with ⟨hq, -⟩ | ⟨hq, -⟩
      · exact hq.ne'
      · exact hq.ne
    rw [if_neg hne]
    rfl
  | cons e es ih =>
    change ((h.after c.value e).afterAll c.value es).average = _
    rw [signedSum_cons, ← add_assoc]
    by_cases hzero : h.quantity + e.signed = 0
    · -- the position is closed, and no fill is left
      have hes : es = [] := by
        rcases hr with ⟨-, hs, hle⟩ | ⟨-, hs, hle⟩
        · rw [signedSum_cons, ← add_assoc, hzero, zero_add] at hle
          exact eq_nil_of_nonneg (fun x hx => hs x (mem_cons_of_mem e hx)) hle
        · rw [signedSum_cons, ← add_assoc, hzero, zero_add] at hle
          exact eq_nil_of_nonpos (fun x hx => hs x (mem_cons_of_mem e hx)) hle
      subst hes
      rw [signedSum_nil, add_zero, if_pos hzero, after_of_shared hu]
      change nextAverage c.value h.quantity e.signed e.price h.average = none
      unfold nextAverage
      rw [hu.cons.2.1, if_pos hzero]
    · have hhead : Reduces h.quantity [e] := by
        rcases hr with ⟨hq, hs, hle⟩ | ⟨hq, hs, hle⟩
        · refine .inl ⟨hq, fun x hx => hs x (mem_singleton.1 hx ▸ mem_cons_self), ?_⟩
          have := signedSum_nonpos fun x hx => hs x (mem_cons_of_mem e hx)
          rw [signedSum_cons] at hle
          rw [signedSum_cons, signedSum_nil]
          linarith
        · refine .inr ⟨hq, fun x hx => hs x (mem_singleton.1 hx ▸ mem_cons_self), ?_⟩
          have := signedSum_nonneg fun x hx => hs x (mem_cons_of_mem e hx)
          rw [signedSum_cons] at hle
          rw [signedSum_cons, signedSum_nil]
          linarith
      have hafter := after_of_reduces hu hhead hzero
      have htail : Reduces (h.after c.value e).quantity es := by
        rw [hafter]
        unfold Reduces at hr hhead ⊢
        rw [signedSum_cons, ← add_assoc] at hr
        rw [signedSum_cons, signedSum_nil, add_zero] at hhead
        dsimp only
        rcases hr with ⟨hq, hs, hle⟩ | ⟨hq, hs, hle⟩
        · refine .inl ⟨?_, fun x hx => hs x (mem_cons_of_mem _ hx), hle⟩
          rcases hhead with ⟨-, -, hpos⟩ | ⟨hneg, -⟩
          · exact lt_of_le_of_ne hpos (Ne.symm hzero)
          · exact absurd hq hneg.not_gt
        · refine .inr ⟨?_, fun x hx => hs x (mem_cons_of_mem _ hx), hle⟩
          rcases hhead with ⟨hpos, -⟩ | ⟨-, -, hneg⟩
          · exact absurd hq hpos.not_gt
          · exact lt_of_le_of_ne hneg hzero
      rw [ih (by rw [hafter]; exact hu.cons.2.2) htail, hafter]

end

/-! ## The positions of an account -/

def averageOf (positions : List PositionSnapshot) (instrument : String) : Option ℚ :=
  (rowWith (·.instrumentId) instrument positions).bind (·.averagePrice)

def holdingOf (positions : List PositionSnapshot) (instrument : String) : Holding :=
  ⟨quantityOf positions instrument, averageOf positions instrument⟩

def effectOn (orders : List ShadowOrder) (instrument : String) (f : ShadowFill) :
    Option FillEffect :=
  match rowWith (·.orderId) f.orderId orders with
  | some o =>
    if o.intent.instrumentId = instrument then some ⟨signedQuantity unrounded o.intent f, f.price⟩ else none
  | none => none

def effectsOn (orders : List ShadowOrder) (instrument : String) (fs : List ShadowFill) :
    List FillEffect :=
  fs.filterMap (effectOn orders instrument)

def applyFillOf (round : ℚ → ℚ) (orders : List ShadowOrder) (positions : List PositionSnapshot)
    (f : ShadowFill) : List PositionSnapshot :=
  match rowWith (·.orderId) f.orderId orders with
  | some o => applyFill round positions o.intent f
  | none => positions

def applyFills (round : ℚ → ℚ) (orders : List ShadowOrder) (positions : List PositionSnapshot)
    (fs : List ShadowFill) : List PositionSnapshot :=
  fs.foldl (applyFillOf round orders) positions

section
variable {orders : List ShadowOrder} {positions : List PositionSnapshot} {fs gs : List ShadowFill}
  {f : ShadowFill} {book book' : FillBook} {i : String} {round : ℚ → ℚ} {c : DecimalContext}

theorem after_signedQuantity (h : Holding) (intent : OrderIntent) (f : ShadowFill) :
    h.after round ⟨signedQuantity unrounded intent f, f.price⟩ =
      ⟨round (h.quantity + signedQuantity round intent f),
        nextAverage round h.quantity (signedQuantity round intent f) f.price h.average⟩ := by
  unfold Holding.after signedQuantity
  cases intent.side with
  | buy => rw [if_neg f.quantity_pos.not_gt]
  | sell => rw [unrounded_apply, if_pos (neg_lt_zero.2 f.quantity_pos)]

theorem holdingOf_applyFill (intent : OrderIntent) :
    holdingOf (applyFill round positions intent f) i = if intent.instrumentId = i then
      (holdingOf positions i).after round ⟨signedQuantity unrounded intent f, f.price⟩ else
        holdingOf positions i := by
  rw [after_signedQuantity]
  unfold holdingOf averageOf quantityOf applyFill
  rw [rowWith_upsert]
  by_cases hi : intent.instrumentId = i
  · rw [if_pos hi, if_pos hi, ← hi]
    rfl
  · rw [if_neg hi, if_neg hi]

theorem holdingOf_applyFills : holdingOf (applyFills round orders positions fs) i =
    (holdingOf positions i).afterAll round (effectsOn orders i fs) := by
  induction fs generalizing positions with
  | nil => rfl
  | cons f fs ih =>
    change holdingOf (applyFills round orders (applyFillOf round orders positions f) fs) i = _
    rw [ih, effectsOn, effectsOn]
    cases ho : rowWith (·.orderId) f.orderId orders with
    | none =>
      have heffect : effectOn orders i f = none := by rw [effectOn, ho]
      rw [filterMap_cons_none heffect, applyFillOf, ho]
    | some o =>
      rw [applyFillOf, ho]
      dsimp only
      rw [holdingOf_applyFill]
      by_cases hi : o.intent.instrumentId = i
      · have heffect : effectOn orders i f =
            some ⟨signedQuantity unrounded o.intent f, f.price⟩ := by
          rw [effectOn, ho]
          exact if_pos hi
        rw [filterMap_cons_some heffect, if_pos hi]
        rfl
      · have heffect : effectOn orders i f = none := by
          rw [effectOn, ho]
          exact if_neg hi
        rw [filterMap_cons_none heffect, if_neg hi]

theorem positions_addFills (h : addFills round orders book fs = .ok book') :
    book'.positions = applyFills round orders book.positions fs := by
  induction fs generalizing book with
  | nil =>
    cases h
    rfl
  | cons f fs ih =>
    rw [addFills] at h
    obtain ⟨mid, hfill, h⟩ := bind_eq_ok.1 h
    obtain ⟨o, ho, -, -, rfl⟩ := addFill_eq_ok hfill
    rw [ih h]
    change _ = applyFills round orders (applyFillOf round orders book.positions f) fs
    rw [applyFillOf, ho]

theorem effectsOn_perm (hp : fs ~ gs) : effectsOn orders i fs ~ effectsOn orders i gs :=
  hp.filterMap _

theorem quantityOf_perm (hp : fs ~ gs)
    (hu : SharesUnit c (quantityOf positions i) (effectsOn orders i fs)) :
    quantityOf (applyFills c.value orders positions fs) i =
      quantityOf (applyFills c.value orders positions gs) i := by
  have heffects : effectsOn orders i fs ~ effectsOn orders i gs := effectsOn_perm hp
  change (holdingOf _ i).quantity = (holdingOf _ i).quantity
  rw [holdingOf_applyFills, holdingOf_applyFills, quantity_afterAll hu,
    quantity_afterAll (hu.perm heffects), signedSum_perm heffects]

theorem averageOf_perm (hp : fs ~ gs)
    (hu : SharesUnit c (quantityOf positions i) (effectsOn orders i fs))
    (hr : Reduces (quantityOf positions i) (effectsOn orders i fs)) :
    averageOf (applyFills c.value orders positions fs) i =
      averageOf (applyFills c.value orders positions gs) i := by
  have heffects : effectsOn orders i fs ~ effectsOn orders i gs := effectsOn_perm hp
  change (holdingOf _ i).average = (holdingOf _ i).average
  rw [holdingOf_applyFills, holdingOf_applyFills, average_of_reduces hu hr,
    average_of_reduces (hu.perm heffects) (hr.perm heffects), signedSum_perm heffects]

end

section
variable {round : ℚ → ℚ} {enc : AccountEncoding} {s : ForwardAccountState}
  {e : ForwardAccountEvent} {receipt : Option ForwardRuntimeExecutionReceipt}
  {r : ForwardAccountResolution}

theorem holdingOf_applied (h : applyForwardAccountEvent round enc s e receipt = .ok r)
    (hd : r.decision = .applied) (i : String) : holdingOf r.state.positions i =
      holdingOf (applyFills round (s.orders ++ e.orders) s.positions e.fills) i := by
  cases applyForwardAccountEvent_cases h with
  | failed hfailed =>
    rw [hd] at hfailed
    cases hfailed
  | replay _ _ _ _ hreplay =>
    rw [hd] at hreplay
    cases hreplay
  | @applied orders book hr _ _ _ horders hfills hnext _ =>
    obtain ⟨rfl, -⟩ := addOrders_eq_some horders
    obtain ⟨base, -, hfields⟩ := makeForwardAccountState_eq_ok hnext
    have hpositions : r.state.positions ~ book.positions := by
      rw [hfields]
      exact perm_sortBy _ _
    rw [holdingOf, quantityOf, averageOf,
      rowWith_perm hpositions (nodup_map_of_pairwise_lt r.state.positions_sorted),
      positions_addFills hfills]
    rfl

/-- **The order of an event's fills**, in the decimal arithmetic of Python's context: the fills
are applied by their ids; where an instrument's quantities share a unit, every other order gives
the same quantity, and the same average while they only reduce the position. -/
theorem fill_order (enc : AccountEncoding) (s : ForwardAccountState) (e : ForwardAccountEvent)
    (receipt : Option ForwardRuntimeExecutionReceipt) (r : ForwardAccountResolution)
    (h : applyForwardAccountEvent pythonContext.value enc s e receipt = .ok r) :
    (r.decision ≠ .applied → r.state = s) ∧
      (r.decision = .applied → ∀ gs, gs ~ e.fills → ∀ i,
        (gs.Pairwise (fun a b => a.fillId.text < b.fillId.text) →
          quantityOf r.state.positions i =
            quantityOf (applyFills pythonContext.value (s.orders ++ e.orders) s.positions gs) i ∧
          averageOf r.state.positions i =
            averageOf (applyFills pythonContext.value (s.orders ++ e.orders) s.positions gs) i) ∧
        (SharesUnit pythonContext (quantityOf s.positions i)
            (effectsOn (s.orders ++ e.orders) i gs) →
          quantityOf r.state.positions i =
            quantityOf (applyFills pythonContext.value (s.orders ++ e.orders) s.positions gs) i ∧
          (Reduces (quantityOf s.positions i) (effectsOn (s.orders ++ e.orders) i gs) →
            averageOf r.state.positions i =
              averageOf (applyFills pythonContext.value (s.orders ++ e.orders) s.positions gs)
                i))) := by
  refine ⟨state_of_not_applied h, fun hd gs hgs i => ?_⟩
  have hholding := holdingOf_applied h hd i
  have hquantity : quantityOf r.state.positions i = quantityOf
      (applyFills pythonContext.value (s.orders ++ e.orders) s.positions e.fills) i :=
    congrArg Holding.quantity hholding
  have haverage : averageOf r.state.positions i = averageOf
      (applyFills pythonContext.value (s.orders ++ e.orders) s.positions e.fills) i :=
    congrArg Holding.average hholding
  refine ⟨fun hsorted => ?_, fun hu => ⟨?_, fun hr => ?_⟩⟩
  · have hsame : gs = e.fills :=
      hgs.eq_of_pairwise (fun a b _ _ hab hba => absurd hab hba.not_gt) hsorted e.fills_sorted
    rw [hsame]
    exact ⟨hquantity, haverage⟩
  · rw [hquantity, quantityOf_perm hgs hu]
  · rw [haverage, averageOf_perm hgs hu hr]

end

/-! ## Three fills -/

def buyTwenty : ShadowOrder :=
  { sampleOrder with
    intent := { sampleOrder.intent with side := .buy, quantity := 20, quantity_pos := by norm_num } }

def sellFive : ShadowOrder :=
  { sampleOrder with
    orderId := ⟨"order-2"⟩
    intent := { sampleOrder.intent with quantity := 5, quantity_pos := by norm_num } }

/-- Ten are bought, then five are sold, then ten are bought. -/
def firstBuy : ShadowFill :=
  { sampleFill with quantity := 10, quantity_pos := by norm_num }

def thenSell : ShadowFill :=
  { sampleFill with
    fillId := ⟨"fill-3"⟩
    orderId := ⟨"order-2"⟩
    quantity := 5
    price := 120
    filledAt := 1
    quantity_pos := by norm_num
    price_pos := by norm_num }

def lastBuy : ShadowFill :=
  { sampleFill with
    fillId := ⟨"fill-2"⟩
    quantity := 10
    price := 130
    filledAt := 2
    quantity_pos := by norm_num
    price_pos := by norm_num }

def threeFills : ForwardAccountEvent :=
  { sampleAccountEvent with
    orders := [buyTwenty, sellFive]
    fills := [firstBuy, lastBuy, thenSell]
    orders_sorted := by decide
    fills_sorted := by decide
    orders_event := by decide }

theorem emptyAccount_cash :
    ([] : List ShadowCashBalance).Pairwise fun a b => a.currency < b.currency := .nil

def emptyAccount : ForwardAccountState where
  instanceId := "forward-1"
  baseCurrency := "USD"
  instanceId_notBlank := Eq.refl true
  empty _ := ⟨rfl, rfl⟩
  cash_sorted := emptyAccount_cash
  positions_sorted := List.Pairwise.nil
  orders_sorted := List.Pairwise.nil
  fills_sorted := List.Pairwise.nil
  applied_sorted := List.Pairwise.nil
  applied_nodup := nodup_nil
  fills_retained := by simp
  receipts_instance := by simp

theorem threeFills_applied : ∃ r,
    applyForwardAccountEvent pythonContext.value sampleEncoding emptyAccount threeFills none = .ok r ∧
      r.decision = .applied ∧ averageOf r.state.positions "AAPL" = some 115 := by
  have h : ((applyForwardAccountEvent pythonContext.value sampleEncoding emptyAccount threeFills none).toOption.map
      fun r => (r.decision, averageOf r.state.positions "AAPL")) = some (.applied, some 115) := by
    decide +kernel
  obtain ⟨r, hr, heq⟩ := toOption_map_eq_some.1 h
  obtain ⟨hd, ha⟩ := Prod.mk.inj heq
  exact ⟨r, hr, hd, ha⟩

theorem fills_out_of_order : ¬ ∀ enc s e receipt r,
    applyForwardAccountEvent pythonContext.value enc s e receipt = .ok r → r.decision = .applied →
      ∀ gs, gs ~ e.fills → gs.Pairwise (fun a b => a.filledAt ≤ b.filledAt) →
        ∀ i, quantityOf r.state.positions i =
            quantityOf (applyFills pythonContext.value (s.orders ++ e.orders) s.positions gs) i ∧
          averageOf r.state.positions i =
            averageOf (applyFills pythonContext.value (s.orders ++ e.orders) s.positions gs) i := by
  intro h
  obtain ⟨r, hr, hd, haverage⟩ := threeFills_applied
  have hsame := (h _ _ _ _ r hr hd [firstBuy, thenSell, lastBuy] (by decide) (by decide) "AAPL").2
  rw [haverage] at hsame
  exact absurd hsame (by decide +kernel)

/-- Twenty are held, and the later of two sales has the first fill id. -/
def heldAccount : ForwardAccountState :=
  { emptyAccount with
    positions := [⟨"AAPL", 20, some 110, none, rfl⟩]
    positions_sorted := pairwise_singleton _ _ }

def laterSale : ShadowFill :=
  { thenSell with fillId := ⟨"fill-2"⟩, quantity := 2, filledAt := 2, quantity_pos := by norm_num }

def earlierSale : ShadowFill :=
  { thenSell with quantity := 3, quantity_pos := by norm_num }

def twoSales : ForwardAccountEvent :=
  { sampleAccountEvent with
    orders := [sellFive]
    fills := [laterSale, earlierSale]
    orders_sorted := by decide
    fills_sorted := by decide
    orders_event := by decide }

theorem effectsOn_twoSales : effectsOn [sellFive] "AAPL" [earlierSale, laterSale] =
    [⟨-3, 120⟩, ⟨-2, 120⟩] := by decide +kernel

theorem fill_order_sales : ∃ r,
    applyForwardAccountEvent pythonContext.value sampleEncoding heldAccount twoSales none = .ok r ∧
      r.decision = .applied ∧ quantityOf r.state.positions "AAPL" = 15 ∧
      averageOf r.state.positions "AAPL" = some 110 := by
  have h : ((applyForwardAccountEvent pythonContext.value sampleEncoding heldAccount twoSales
      none).toOption.map (·.decision)) = some .applied := by
    decide +kernel
  obtain ⟨r, hr, hd⟩ := toOption_map_eq_some.1 h
  obtain ⟨-, happlied⟩ := fill_order sampleEncoding heldAccount twoSales none r hr
  have hunit : SharesUnit pythonContext (quantityOf heldAccount.positions "AAPL")
      (effectsOn [sellFive] "AAPL" [earlierSale, laterSale]) := by
    rw [effectsOn_twoSales]
    refine ⟨0, by decide, by decide, ⟨20, by decide +kernel⟩, ?_, ?_⟩
    · simp only [forall_mem_cons, not_mem_nil, false_implies, implies_true, and_true]
      exact ⟨⟨-3, by norm_num⟩, -2, by norm_num⟩
    · norm_num [pythonContext, quantityOf, rowWith, heldAccount]
  have hreduces : Reduces (quantityOf heldAccount.positions "AAPL")
      (effectsOn [sellFive] "AAPL" [earlierSale, laterSale]) := by
    rw [effectsOn_twoSales]
    exact .inl ⟨by decide +kernel, by simp, by decide +kernel⟩
  obtain ⟨hquantity, haverage⟩ :=
    (happlied hd [earlierSale, laterSale] (by decide) "AAPL").2 hunit
  exact ⟨r, hr, hd, hquantity.trans (by decide +kernel),
    (haverage hreduces).trans (by decide +kernel)⟩

end ChartingPlatform
