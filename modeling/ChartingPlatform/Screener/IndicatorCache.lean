/-
  The indicator cache (`screener_engine.py`, `models/indicator_cache.py`) over histories
  of bars, screener runs, commits and rollbacks.
-/
import ChartingPlatform.Lib.Sessions
import ChartingPlatform.Screener.Conditions

namespace ChartingPlatform

open Lib List

/-! ## Parameters and keys -/

/-- `_PARAM_ALIASES`. -/
def paramAliases : List (String × String) :=
  [("anchorTime", "anchor_timestamp"), ("stdDev", "std_dev"), ("atrPeriod", "atr_period"),
   ("senkouB", "senkou_b"), ("afStart", "af_start"), ("afStep", "af_step"), ("afMax", "af_max"),
   ("smoothK", "smooth_k"), ("smoothD", "d_period")]

def normalizedKey (indicatorType key : String) : String :=
  if indicatorType = "bb" ∧ key = "multiplier" then "std_dev"
  else ((paramAliases.lookup key).getD key)

/-- `normalize_indicator_params`. -/
def normalizeIndicatorParams {V : Type} (r : IndicatorRef V) : Doc V :=
  let normalized := r.params.entries.foldl
    (fun d i => d.set (normalizedKey r.type i.1) i.2) Doc.empty
  match normalized.get "period", normalized.get "k_period" with
  | some period, none => if r.type = "stoch" then normalized.set "k_period" period else normalized
  | _, _ => normalized

/-- The type and the normalised parameters, in the order of their keys. -/
def canonicalRequest {V : Type} (r : IndicatorRef V) : String × List (String × V) :=
  (r.type, sortBy Prod.fst (normalizeIndicatorParams r).entries)

structure IndicatorKey (H : Type) where
  instrumentId : ℤ
  timeframe : Timeframe
  indicatorType : String
  paramsHash : H
  deriving DecidableEq

/-- `IndicatorCache`, without its key; `null` stands for `nan`. -/
structure IndicatorCache (F : Type) where
  lastTs : Option ℤ
  series : List (String × List (Option F))
  deriving DecidableEq

section
variable {F V K H : Type} [DecidableEq H]

/-- `_series_to_cacheable`. -/
def seriesToCacheable (result : Outputs F) : List (String × List (Option F)) :=
  result.map fun o => (o.1, o.2.map NpFloat.toOption)

def fromCacheable (cached : List (String × List (Option F))) : Outputs F :=
  cached.map fun o => (o.1, o.2.map fun v => v.elim .nan .val)

theorem fromCacheable_seriesToCacheable (result : Outputs F) :
    fromCacheable (seriesToCacheable result) = result := by
  have hcell : ∀ v : NpFloat F, v.toOption.elim NpFloat.nan NpFloat.val = v := by
    intro v
    cases v <;> rfl
  rw [fromCacheable, seriesToCacheable, map_map]
  refine (map_congr_left fun o _ => ?_).trans (map_id _)
  rw [Function.comp_apply, map_map]
  refine Prod.ext rfl ?_
  exact (map_congr_left fun v _ => hcell v).trans (map_id _)

/-! ## The cache -/

/-- A call of `_compute_indicator_cached`; `saved` tells whether its write succeeds. -/
structure CacheCall (F V : Type) where
  session : ℕ
  instrumentId : ℤ
  timeframe : Timeframe
  request : IndicatorRef V
  data : OHLCVSeries F
  saved : Bool := true

/-- What computes an indicator: its hash, and `compute_indicator` on a series and the normalised
    parameters. -/
structure Indicators (F V H : Type) where
  digest : String × List (String × V) → H
  compute : String × List (String × V) → OHLCVSeries F → Except EvaluationError (Outputs F)

namespace Indicators

variable (I : Indicators F V H)

/-- `_params_hash` with the other columns of the key. -/
def cacheKey (c : CacheCall F V) : IndicatorKey H where
  instrumentId := c.instrumentId
  timeframe := c.timeframe
  indicatorType := c.request.type
  paramsHash := I.digest (canonicalRequest c.request)

/-- `compute_indicator`. -/
def computeIndicator (request : IndicatorRef V) (data : OHLCVSeries F) :
    Except EvaluationError (Outputs F) := I.compute (canonicalRequest request) data

/-- The row that `_save_indicator_cache` writes. -/
def cacheRow (data : OHLCVSeries F) (result : Outputs F) : IndicatorCache F where
  lastTs := data.timestamps.getLast?
  series := seriesToCacheable result

/-- `_compute_indicator_cached`: what it returns, and the cache that it leaves. -/
def computeIndicatorCached (cache : Sessions (IndicatorKey H) (IndicatorCache F))
    (c : CacheCall F V) :
    Except EvaluationError (Outputs F) × Sessions (IndicatorKey H) (IndicatorCache F) :=
  match cache.read c.session (I.cacheKey c) with
  | some row => (.ok (fromCacheable row.series), cache)
  | none =>
    match I.computeIndicator c.request c.data with
    | .error e => (.error e, cache)
    | .ok result =>
      (.ok result,
        if c.saved then cache.write c.session (I.cacheKey c) (cacheRow c.data result) else cache)

end Indicators

/-! ## Histories -/

inductive CacheEvent (F V : Type) where
  | bars (tables : SeriesTables)
  | call (c : CacheCall F V)
  | commit (session : ℕ)
  | rollback (session : ℕ)

structure ScreenerWorld (F H : Type) where
  tables : SeriesTables
  cache : Sessions (IndicatorKey H) (IndicatorCache F)

namespace Indicators

variable (I : Indicators F V H)

def step (w : ScreenerWorld F H) : CacheEvent F V → ScreenerWorld F H
  | .bars tables => ⟨tables, w.cache⟩
  | .call c => ⟨w.tables, (I.computeIndicatorCached w.cache c).2⟩
  | .commit session => ⟨w.tables, w.cache.commit session⟩
  | .rollback session => ⟨w.tables, w.cache.rollback session⟩

/-- The world after a history that begins with an empty cache. -/
def world (tables : SeriesTables) (events : List (CacheEvent F V)) : ScreenerWorld F H :=
  events.foldl I.step ⟨tables, Sessions.empty⟩

def reply (w : ScreenerWorld F H) : CacheEvent F V → Except EvaluationError (Outputs F)
  | .call c => (I.computeIndicatorCached w.cache c).1
  | _ => .ok []

end Indicators

/-! ## The series that rows were filled from -/

/-- The request and the series of the call that filled a row. -/
abbrev Sources (F V H : Type) :=
  Sessions (IndicatorKey H) ((String × List (String × V)) × OHLCVSeries F)

namespace Indicators

variable (I : Indicators F V H)

/-- A call that finds no row and computes its outputs fills one. -/
def fill (s : Sources F V H) (c : CacheCall F V) : Sources F V H :=
  if (s.read c.session (I.cacheKey c)).isNone ∧ (I.computeIndicator c.request c.data).isOk ∧ c.saved
  then s.write c.session (I.cacheKey c) (canonicalRequest c.request, c.data)
  else s

def stepSources (s : Sources F V H) : CacheEvent F V → Sources F V H
  | .bars _ => s
  | .call c => I.fill s c
  | .commit session => s.commit session
  | .rollback session => s.rollback session

/-- The series that the rows after a history were filled from. -/
def filledFrom (events : List (CacheEvent F V)) : Sources F V H :=
  events.foldl I.stepSources Sessions.empty

/-- A call finds no row, or one that was filled from a series with the same outputs. -/
def Current (events : List (CacheEvent F V)) (c : CacheCall F V) : Prop :=
  ∀ source, (I.filledFrom events).read c.session (I.cacheKey c) = some source →
    I.computeIndicator c.request source.2 = I.computeIndicator c.request c.data

def rowOf (_ : IndicatorKey H) (source : (String × List (String × V)) × OHLCVSeries F) :
    IndicatorCache F :=
  match I.compute source.1 source.2 with
  | .ok result => cacheRow source.2 result
  | .error _ => ⟨none, []⟩

def Filled (k : IndicatorKey H) (source : (String × List (String × V)) × OHLCVSeries F) : Prop :=
  I.digest source.1 = k.paramsHash ∧ (I.compute source.1 source.2).isOk

end Indicators

/-! ## The cache is the table of its sources, computed -/

namespace Indicators

variable {I : Indicators F V H} {w : ScreenerWorld F H} {s : Sources F V H} {c : CacheCall F V}
  {events : List (CacheEvent F V)} {tables : SeriesTables}

theorem cache_fill (hw : w.cache = s.map I.rowOf) (hs : s.All I.Filled) :
    (I.computeIndicatorCached w.cache c).2 = (I.fill s c).map I.rowOf ∧ (I.fill s c).All I.Filled := by
  unfold computeIndicatorCached fill
  rw [hw, Sessions.read_map]
  cases hread : s.read c.session (I.cacheKey c) with
  | some source =>
    rw [if_neg (by simp)]
    exact ⟨rfl, hs⟩
  | none =>
    dsimp only [Option.map_none]
    cases hresult : I.computeIndicator c.request c.data with
    | error e =>
      rw [if_neg fun h => nomatch h.2.1]
      exact ⟨rfl, hs⟩
    | ok result =>
      dsimp only
      by_cases hsaved : c.saved
      · rw [if_pos hsaved, if_pos ⟨rfl, rfl, hsaved⟩]
        have hrow : cacheRow c.data result =
            I.rowOf (I.cacheKey c) (canonicalRequest c.request, c.data) := by
          unfold rowOf
          dsimp only
          rw [show I.compute (canonicalRequest c.request) c.data = .ok result from hresult]
        rw [hrow, Sessions.write_map]
        refine ⟨rfl, hs.write ⟨rfl, ?_⟩⟩
        change (I.computeIndicator c.request c.data).isOk = true
        rw [hresult]
        rfl
      · rw [if_neg hsaved, if_neg fun h => hsaved h.2.2]
        exact ⟨rfl, hs⟩

theorem cache_step (hw : w.cache = s.map I.rowOf) (hs : s.All I.Filled) (e : CacheEvent F V) :
    (I.step w e).cache = (I.stepSources s e).map I.rowOf ∧ (I.stepSources s e).All I.Filled := by
  cases e with
  | bars tables => exact ⟨hw, hs⟩
  | call c => exact cache_fill hw hs
  | commit session =>
    refine ⟨?_, hs.commit⟩
    change w.cache.commit session = _
    rw [hw, Sessions.commit_map]
    rfl
  | rollback session =>
    refine ⟨?_, hs.rollback⟩
    change w.cache.rollback session = _
    rw [hw, Sessions.rollback_map]
    rfl

/-- **The cache after a history** is the table of its sources, computed. -/
theorem cache_of_sources : (I.world tables events).cache = (I.filledFrom events).map I.rowOf ∧
    (I.filledFrom events).All I.Filled := by
  induction events using List.reverseRecOn with
  | nil => exact ⟨rfl, Sessions.All.empty⟩
  | append_singleton events e ih =>
    rw [world, filledFrom, foldl_append, foldl_append]
    exact cache_step ih.1 ih.2 e

theorem reply_eq_iff (hd : Function.Injective I.digest) :
    (I.computeIndicatorCached (I.world tables events).cache c).1 =
      I.computeIndicator c.request c.data ↔ I.Current events c := by
  have hsources : (I.world tables events).cache = (I.filledFrom events).map I.rowOf ∧
      (I.filledFrom events).All I.Filled := cache_of_sources
  obtain ⟨hcache, hfilled⟩ := hsources
  unfold computeIndicatorCached Current
  rw [hcache, Sessions.read_map]
  cases hread : (I.filledFrom events).read c.session (I.cacheKey c) with
  | none =>
    refine iff_of_true ?_ (by simp)
    dsimp only [Option.map_none]
    cases I.computeIndicator c.request c.data <;> rfl
  | some source =>
    obtain ⟨hdigest, hok⟩ := hfilled.read hread
    -- The row is of this request, because its key is.
    have hrequest : source.1 = canonicalRequest c.request := hd hdigest
    rw [hrequest] at hok
    have hreply : Except.ok (fromCacheable (I.rowOf (I.cacheKey c) source).series) =
        I.computeIndicator c.request source.2 := by
      unfold rowOf computeIndicator
      rw [hrequest]
      obtain ⟨result, hresult⟩ := isOk_iff.1 hok
      rw [hresult]
      exact congrArg Except.ok (fromCacheable_seriesToCacheable result)
    dsimp only [Option.map_some]
    rw [hreply]
    simp

end Indicators

/-! ## Evaluations -/

namespace Indicators

variable (I : Indicators F V H)

def asks (session : ℕ) (instrumentId : ℤ) (timeframe : Timeframe) (data : OHLCVSeries F)
    (request : IndicatorRef V) : CacheEvent F V → Prop
  | .call c => c.session = session ∧ c.instrumentId = instrumentId ∧ c.timeframe = timeframe ∧
      c.data = data ∧ c.request = request
  | _ => False

/-- A history goes on with the evaluation of a condition, on the bars that are loaded (`loadBars`,
    or `loadBarsAndRowsByInstrument`), among the events of others. -/
def Evaluates (ops : FloatOps F) (plain : K → OHLCVSeries F → Except EvaluationError (Evaluated F))
    (load : SeriesTables → ℤ → Timeframe → List MarketBar) (w : ScreenerWorld F H) (session : ℕ) (instrumentId : ℤ) (timeframe : Timeframe)
    (condition : Condition F V K) (events : List (CacheEvent F V))
    (r : Except EvaluationError (Evaluated F)) : Prop :=
  let data := OHLCVSeries.fromOrmBars ops (load w.tables instrumentId timeframe)
  Calls.Answers I.step (asks session instrumentId timeframe data) I.reply w
    (evaluateCondition ops plain data condition) events r

end Indicators

end

/-- **The indicator cache.**  After any history of bars, calls, commits and rollbacks, a call
returns the outputs of the series passed to it exactly when the row that it finds, if any,
was filled from a series with the same outputs.  Where this holds of every call, the
evaluation of a condition depends on the bars that are loaded and on nothing else. -/
theorem indicator_cache_current {F V K H : Type} [DecidableEq H] (ops : FloatOps F)
    (plain : K → OHLCVSeries F → Except EvaluationError (Evaluated F)) (I : Indicators F V H)
    (hd : Function.Injective I.digest) (tables : SeriesTables) (history : List (CacheEvent F V)) :
    (∀ c, (I.computeIndicatorCached (I.world tables history).cache c).1 =
      I.computeIndicator c.request c.data ↔ I.Current history c) ∧
    ∀ load session instrumentId timeframe condition events r,
      I.Evaluates ops plain load (I.world tables history) session instrumentId timeframe condition
          events r →
        (∀ pre c post, events = pre ++ .call c :: post → I.Current (history ++ pre) c) →
          r = (evaluateCondition ops plain (OHLCVSeries.fromOrmBars ops
            (load (I.world tables history).tables instrumentId timeframe)) condition).result
              fun request => I.computeIndicator request (OHLCVSeries.fromOrmBars ops
                (load (I.world tables history).tables instrumentId timeframe)) := by
  refine ⟨fun c => Indicators.reply_eq_iff hd, ?_⟩
  intro load session instrumentId timeframe condition events r hr hcurrent
  refine Calls.answers_of_agree hr ?_
  intro pre e post request hevents hask
  cases e with
  | call c =>
    obtain ⟨-, -, -, hdata, hrequest⟩ := hask
    have hright : (I.computeIndicatorCached (I.world tables (history ++ pre)).cache c).1 =
        I.computeIndicator c.request c.data :=
      (Indicators.reply_eq_iff hd).2 (hcurrent pre c post hevents)
    rw [hdata, hrequest, Indicators.world, foldl_append] at hright
    exact hright
  | bars | commit | rollback => exact hask.elim

/-! ## A row that outlives its bars -/

/-- The bars of `chartTables` and one of the next day. -/
def nextDayTables : SeriesTables where
  bars := [shownBar 1 86400000000 true 50, shownBar 2 172800000000 true 60]
  series := []
  defaults := []
  dataSources := []
  bar_ids := by decide
  bar_keys := by decide
  series_ids := mixedTables.series_ids
  default_scopes := mixedTables.default_scopes
  source_names := chartTables.source_names

def wholeOps : FloatOps ℤ := ⟨Rat.num, fun a b => decide (a < b), fun a b => decide (a ≤ b), fun a b =>
  decide (a = b)⟩

def closesIndicator : Indicators ℤ ℤ (String × List (String × ℤ)) where
  digest := id
  compute _ data := .ok [("sma", data.closes.map .val)]

def closesCall (T : SeriesTables) : CacheCall ℤ ℤ where
  session := 0
  instrumentId := 1
  timeframe := .D1
  request := ⟨"sma", Doc.empty⟩
  data := .fromOrmBars wholeOps (loadBars T 1 .D1)

/-- A run whose row is committed, and the bar of the next day. -/
def nextDayHistory : List (CacheEvent ℤ ℤ) :=
  [.call (closesCall chartTables), .commit 0, .bars nextDayTables]

theorem indicator_cache_stale :
    (closesIndicator.computeIndicatorCached
        (closesIndicator.world chartTables nextDayHistory).cache (closesCall nextDayTables)).1 =
      .ok [("sma", [.val 50])] ∧
    closesIndicator.computeIndicator (closesCall nextDayTables).request
        (closesCall nextDayTables).data = .ok [("sma", [.val 50, .val 60])] := by
  decide

/-- A run on three bars whose row is committed. -/
def weekHistory : List (CacheEvent ℤ ℤ) := [.call (closesCall weekTables), .commit 0]

def closesAbove : Condition ℤ ℤ Unit := .indicatorThreshold ⟨"sma", Doc.empty⟩ "sma" "gt" 65

/-- The next run finds the row, and evaluates as if it had computed the indicator. -/
theorem indicator_cache_current_week : ∃ r,
    closesIndicator.Evaluates wholeOps (fun _ _ => .ok (false, Doc.empty)) loadBars
        (closesIndicator.world weekTables weekHistory) 0 1 .D1 closesAbove
        [.call (closesCall weekTables)] r ∧
      r = (evaluateCondition wholeOps (fun _ _ => .ok (false, Doc.empty))
        (closesCall weekTables).data closesAbove).result fun request =>
          closesIndicator.computeIndicator request (closesCall weekTables).data := by
  obtain ⟨-, hevaluates⟩ := indicator_cache_current wholeOps
    (fun (_ : Unit) _ => .ok (false, Doc.empty)) closesIndicator (fun _ _ h => h) weekTables
    weekHistory
  have hasks : Indicators.asks 0 1 .D1 (closesCall weekTables).data ⟨"sma", Doc.empty⟩
      (.call (closesCall weekTables)) := ⟨rfl, rfl, rfl, rfl, rfl⟩
  have hrun : closesIndicator.Evaluates wholeOps (fun _ _ => .ok (false, Doc.empty)) loadBars
      (closesIndicator.world weekTables weekHistory) 0 1 .D1 closesAbove
      [.call (closesCall weekTables)] _ := .call hasks rfl .done
  refine ⟨_, hrun, hevaluates loadBars 0 1 .D1 closesAbove _ _ hrun fun pre c post hevents => ?_⟩
  cases pre with
  | cons _ _ => simp at hevents
  | nil =>
    obtain rfl := CacheEvent.call.inj (List.cons.inj hevents).1
    -- the row was filled from the series that is passed
    intro source hsource
    have hfilled : (closesIndicator.filledFrom weekHistory).read 0
        (closesIndicator.cacheKey (closesCall weekTables)) =
          some (canonicalRequest (closesCall weekTables).request, (closesCall weekTables).data) := by
      decide
    obtain rfl := Option.some.inj (hfilled.symm.trans hsource)
    rfl

end ChartingPlatform
