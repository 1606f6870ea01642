/-
  `MarketEvent` (`sdk.py`) as a contract class, with `freeze_json` (`canonical.py`), and its
  round trips.
-/
import ChartingPlatform.Canonical.RoundTrip

namespace ChartingPlatform

open Lib List

/-! ## Freezing -/

def canonicalKey (v : PyValue) : String :=
  match canonicalJson v with
  | .ok s => s
  | .error _ => ""

mutual

/-- `_freeze_value`. -/
def freezeValue : PyValue → PyValue
  | .mapping is => .mapping (freezeEntries is)
  | .dataclass _ fs => .mapping (freezeFields fs)
  | .tuple xs => .tuple (freezeItems xs)
  | .list xs => .tuple (freezeItems xs)
  | .set _ xs => .tuple (sortBy canonicalKey (freezeItems xs))
  | .enum _ v => freezeValue v
  | v => v

def freezeItems : List PyValue → List PyValue
  | [] => []
  | v :: vs => freezeValue v :: freezeItems vs

def freezeEntries : List (PyKey × PyValue) → List (PyKey × PyValue)
  | [] => []
  | (k, v) :: is => (k, freezeValue v) :: freezeEntries is

def freezeFields : List (Field × PyValue) → List (PyKey × PyValue)
  | [] => []
  | (f, v) :: fs =>
    if f.isPrivate then freezeFields fs else (.str f.name, freezeValue v) :: freezeFields fs

end

/-- `freeze_json`. -/
def freezeJson (v : PyValue) : Except PyError PyValue := do
  let _ ← canonicalValue v
  return freezeValue v

/-! ## Market events -/

/-- The text of a `str`; a `StrEnum` member is one. -/
def PyValue.asStr : PyValue → Option String
  | .str s => some s
  | .enum _ (.str s) => some s
  | _ => Option.none

/-- `isinstance(value, str) and value.strip()`. -/
def PyValue.isName (v : PyValue) : Bool := v.asStr.any notBlank

/-- A non-negative `int` that is no `bool`. -/
def PyValue.isCount : PyValue → Bool
  | .int z => decide (0 ≤ z)
  | _ => false

def marketEventTime : PyValue → Except PyError Instant
  | .datetime d =>
    match d.utcoffset with
    | some offset => d.astimezone offset
    | Option.none => .error (valueError "market event time must be timezone-aware")
  | _ => .error (typeError "market event time must be a datetime")

/-- `MarketEvent.__post_init__`. -/
def marketEventPostInit : List PyValue → Except PyError (List PyValue)
  | [dependencyId, eventId, instrumentId, eventTime, sequence, values] => do
    ensure (∀ v ∈ [dependencyId, eventId, instrumentId], v.isName = true)
      (valueError "market event identifiers must not be empty")
    let t ← marketEventTime eventTime
    ensure (sequence.isCount = true)
      (valueError "market event sequence must be non-negative")
    ensure (values.kind = .mapping) (typeError "market event values must be a mapping")
    let frozen ← freezeJson values
    return [dependencyId, eventId, instrumentId, .datetime (.utc t), sequence, frozen]
  | _ => .error (typeError "MarketEvent takes six arguments")

/-- The class `MarketEvent`. -/
def marketEvent : DataclassType where
  fields := [{ name := "dependency_id" }, { name := "event_id" }, { name := "instrument_id" },
    { name := "event_time" }, { name := "sequence" }, { name := "values" }]
  construct := marketEventPostInit
  isPrivate_fields := by decide
  nodup_fields := by decide
  length_construct := by
    intro args vs h
    match args with
    | [_, _, _, _, _, _] =>
      obtain ⟨_, -, h⟩ := bind_eq_ok.1 h
      obtain ⟨_, -, h⟩ := bind_eq_ok.1 h
      obtain ⟨_, -, h⟩ := bind_eq_ok.1 h
      obtain ⟨_, -, h⟩ := bind_eq_ok.1 h
      obtain ⟨_, -, h⟩ := bind_eq_ok.1 h
      obtain rfl := Except.ok.inj h
      rfl
    | [] | [_] | [_, _] | [_, _, _] | [_, _, _, _] | [_, _, _, _, _] => cases h
    | _ :: _ :: _ :: _ :: _ :: _ :: _ :: _ => cases h

/-- The part of the package that market events need. -/
def sdkClasses : Classes where
  vars m := if m = "sdk" then ["app.strategy_lab_v2.sdk.MarketEvent"] else []
  dataclass cls := if cls = "app.strategy_lab_v2.sdk.MarketEvent" then some marketEvent else none
  enum _ := none

def marketEventWith (key : String) (v : PyValue) : PyValue :=
  .dataclass "app.strategy_lab_v2.sdk.MarketEvent" (marketEvent.fields.zip
    [.str "prices", .str "event-1", .str "SPY", .datetime (.utc 0), .int 0,
      .mapping [(.str key, v)]])

theorem marketEventTime_of_instant {d : PyDateTime} {t : Instant} (h : d.instant = .ok t) :
    marketEventTime (.datetime d) = .ok t := by
  rw [PyDateTime.instant] at h
  rw [marketEventTime]
  split at h
  · cases h
  · next hoff => rw [hoff]; exact h

variable {key : String} {v : PyValue}

theorem canonicalValue_singleton {j : Json} (h : canonicalValue v = .ok j) :
    canonicalValue (.mapping [(.str key, v)]) = .ok (tagged "mapping" [.arr [entry key j]]) :=
  canonicalValue_mapping.2 ⟨by simp, [entry key j], by simp [sortBy, h, Except.map, PyKey.text], rfl⟩

/-- The arguments are the values of the event already: `__post_init__` returns them unchanged. -/
theorem construct_marketEventWith {j : Json} (hf : freezeValue v = v)
    (hj : canonicalValue v = .ok j) :
    marketEvent.construct [.str "prices", .str "event-1", .str "SPY", .datetime (.utc 0), .int 0,
        .mapping [(.str key, v)]] =
      .ok [.str "prices", .str "event-1", .str "SPY", .datetime (.utc 0), .int 0,
        .mapping [(.str key, v)]] := by
  have hnames : ∀ x ∈ [PyValue.str "prices", .str "event-1", .str "SPY"], x.isName = true := by
    decide
  simp only [marketEvent, marketEventPostInit, ensure_of hnames, marketEventTime_of_instant (instant_utc 0),
    freezeJson, canonicalValue_singleton hj, freezeValue, freezeEntries, hf, ok_bind, pure_eq_ok]
  rfl

theorem valid_marketEventWith {j : Json} (hv : Valid sdkClasses v) (hf : freezeValue v = v)
    (hj : canonicalValue v = .ok j) : Valid sdkClasses (marketEventWith key v) := by
  refine .dataclass rfl (construct_marketEventWith hf hj) ?_
  simp only [forall_mem_cons, not_mem_nil, false_implies, implies_true, and_true]
  refine ⟨.str, .str, .str, .datetime, .int, .mapping (by simp) ?_⟩
  intro i hi
  rw [mem_singleton] at hi
  subst hi
  exact hv

/-- The instance of the rebuilt value, when the constructor would not freeze it further. -/
theorem rebuild_marketEventWith {w : PyValue} {j : Json} (hw : rebuild sdkClasses v = .ok w)
    (hf : freezeValue w = w) (hj : canonicalValue w = .ok j) :
    rebuild sdkClasses (marketEventWith key v) = .ok (marketEventWith key w) := by
  have hvalues : rebuild sdkClasses (.mapping [(.str key, v)]) = .ok (.mapping [(.str key, w)]) := by
    simp [rebuild, rebuildEntries, hw, sortBy, PyKey.text, collect, Except.map, decodeMapping, ensure]
  have hfields : collect (rebuildFields sdkClasses (marketEvent.fields.zip
      [.str "prices", .str "event-1", .str "SPY", .datetime (.utc 0), .int 0,
        .mapping [(.str key, v)]])) =
      .ok [.str "prices", .str "event-1", .str "SPY", .datetime (.utc 0), .int 0,
        .mapping [(.str key, w)]] := by
    simp only [marketEvent, zip_cons_cons, zip_nil_right, rebuildFields, hvalues]
    simp [rebuild, collect, Except.map]
  rw [marketEventWith, rebuild, hfields, ok_bind, reconstruct]
  have hinit : initValues marketEvent.fields [.str "prices", .str "event-1", .str "SPY",
      .datetime (.utc 0), .int 0, .mapping [(.str key, w)]] =
    [.str "prices", .str "event-1", .str "SPY", .datetime (.utc 0), .int 0,
      .mapping [(.str key, w)]] := rfl
  change (rewrap (marketEvent.construct (initValues marketEvent.fields _)) _ >>= _) = _
  rw [hinit, construct_marketEventWith hf hj]
  rfl

/-! ## Two market events -/

def marketEventTree (key : String) (j : Json) : Json :=
  tagged "dataclass" [.str "app.strategy_lab_v2.sdk.MarketEvent", .arr
    [entry "dependency_id" (tagged "str" [.str "prices"]),
      entry "event_id" (tagged "str" [.str "event-1"]),
      entry "instrument_id" (tagged "str" [.str "SPY"]),
      entry "event_time" (tagged "datetime" [.str "0001-01-01T00:00:00.000000Z"]),
      entry "sequence" (tagged "int" [.str "0"]),
      entry "values" (tagged "mapping" [.arr [entry key j]])]]

theorem canonicalJson_marketEventWith {j : Json} (h : canonicalValue v = .ok j) :
    canonicalJson (marketEventWith key v) = .ok (Json.dumps (marketEventTree key j)) := by
  refine map_eq_ok.2 ⟨_, canonicalValue_dataclass.2 ⟨_, ?_, rfl⟩, rfl⟩
  have hvis : ∀ vs, (∀ v ∈ vs, v.isNone = false) →
      visible (marketEvent.fields.zip vs) = marketEvent.fields.zip vs := by
    intro vs hvs
    refine filter_eq_self.2 fun f hf => ?_
    obtain ⟨hmem, hval⟩ := of_mem_zip hf
    simp [omitted, marketEvent.isPrivate_fields _ hmem, hvs _ hval]
  rw [hvis _ (by simp [PyValue.isNone])]
  simp only [marketEvent, zip_cons_cons, zip_nil_right, map_cons, map_nil,
    canonicalValue_singleton h]
  rfl

/-- An event with a decimal value comes back from its text, the decimal normalised. -/
theorem decode_marketEvent_close : ∃ s y,
    canonicalJson (marketEventWith "close" (.decimal (.finite false 150 (-2)))) = .ok s ∧
    decodeCanonicalContract sdkClasses s "app.strategy_lab_v2.sdk.MarketEvent" = .ok y ∧
    Same (marketEventWith "close" (.decimal (.finite false 150 (-2)))) y := by
  have hs := @canonicalJson_marketEventWith "close" (.decimal (.finite false 150 (-2))) _ rfl
  have hv := @valid_marketEventWith "close" _ _ (.decimal (d := .finite false 150 (-2))) rfl rfl
  have hrebuild := @rebuild_marketEventWith "close" (.decimal (.finite false 150 (-2)))
    (.decimal (.finite false 15 (-1))) _ rfl rfl rfl
  have hsame : Same (marketEventWith "close" (.decimal (.finite false 150 (-2))))
      (marketEventWith "close" (.decimal (.finite false 15 (-1)))) := by
    refine .dataclass (.cons rfl .str (.cons rfl .str (.cons rfl .str (.cons rfl
      (.datetime (instant_utc 0) (instant_utc 0)) (.cons rfl .int (.cons rfl ?_ .nil))))))
    exact .mapping (.cons (.decimal (by norm_num [PyDecimal.value])) .nil) (List.Perm.refl _)
  obtain ⟨y, hy, hsame⟩ := (decode_canonicalJson_iff hv hs).2 ⟨by decide, _, hrebuild, hsame⟩
  exact ⟨_, y, hs, hy, hsame⟩

/-- An event with a `timedelta` is valid and has a canonical text, but the text is refused. -/
theorem decode_marketEvent_age :
    Valid sdkClasses (marketEventWith "age" (.timedelta ⟨0, 5, 0⟩)) ∧
    (canonicalDataclassRegistry sdkClasses "app.strategy_lab_v2.sdk.MarketEvent").isSome ∧
    ∃ s, canonicalJson (marketEventWith "age" (.timedelta ⟨0, 5, 0⟩)) = .ok s ∧
      decodeCanonicalContract sdkClasses s "app.strategy_lab_v2.sdk.MarketEvent" =
        .error (valueError "canonical contract payload is malformed") := by
  refine ⟨valid_marketEventWith .timedelta rfl rfl, by decide, _,
    canonicalJson_marketEventWith rfl, ?_⟩
  rw [decodeCanonicalContract, decodeContractBody, Json.loads_dumps]
  rfl

end ChartingPlatform
