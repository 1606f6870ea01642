/-
  Dispatch payloads (`dispatch_payload.py`): canonical bytes bound to a content
  digest, and the value that is read back from them.
-/
import ChartingPlatform.Canonical.TagDecoder

namespace ChartingPlatform

open Lib List

/-! ## The decoder -/

def payloadEntries : List EntryOutcome → List (String × PyValue) →
    Except PyError (List (String × PyValue))
  | [], values => .ok values
  | e :: es, values => do
    let (key, outcome) ← e
    ensure (key ∉ values.map Prod.fst) (valueError "canonical mapping contains duplicate keys")
    let value ← outcome
    payloadEntries es (values ++ [(key, value)])

def payloadMapping (es : List EntryOutcome) : Except PyError PyValue := do
  let values ← payloadEntries es []
  ensure (values.map Prod.fst = sortBy id (values.map Prod.fst))
    (valueError "canonical mapping keys are not ordered")
  return .mapping (values.map fun i => (.str i.1, i.2))

variable {values : List (String × PyValue)}

theorem payloadEntries_reads {es : List EntryOutcome} {result : List (String × PyValue)}
    (h : payloadEntries es values = .ok result) :
    ∃ items : List (String × PyValue), es = items.map readEntry := by
  induction es generalizing values with
  | nil => exact ⟨[], rfl⟩
  | cons e es ih =>
    obtain ⟨⟨key, outcome⟩, he, h⟩ := bind_eq_ok.1 h
    obtain ⟨_, -, h⟩ := bind_eq_ok.1 h
    obtain ⟨value, hvalue, h⟩ := bind_eq_ok.1 h
    obtain ⟨items, rfl⟩ := ih h
    obtain rfl : outcome = .ok value := hvalue
    exact ⟨(key, value) :: items, congrArg (· :: items.map readEntry) he⟩

theorem payloadEntries_of_nodup {items : List (String × PyValue)}
    (hn : ((values ++ items).map Prod.fst).Nodup) :
    payloadEntries (items.map readEntry) values = .ok (values ++ items) := by
  induction items generalizing values with
  | nil => rw [append_nil]; rfl
  | cons i items ih =>
    have hnew : i.1 ∉ values.map Prod.fst := by
      rw [map_append, map_cons] at hn
      exact fun hmem => disjoint_of_nodup_append hn hmem mem_cons_self
    have hrest := @ih (values ++ [i]) (by rwa [append_assoc])
    rw [append_assoc] at hrest
    rw [map_cons, payloadEntries, readEntry, ok_bind]
    dsimp only
    rw [ensure_of hnew, ok_bind, ok_bind]
    exact hrest

/-- The decoder of `dispatch_payload.py`. -/
def payloadDecoder : TagDecoder where
  label := "payload"
  noun := "payload"
  unreadable word _ := valueError ("canonical " ++ word ++ " payload is malformed")
  mapping := payloadMapping
  mapping_reads := by
    intro es v h
    obtain ⟨values, hvalues, -⟩ := bind_eq_ok.1 h
    exact payloadEntries_reads hvalues
  mapping_sorted := by
    intro items hs
    have hn : (([] ++ items).map Prod.fst).Nodup := nodup_map_of_pairwise_lt hs
    have hsorted : items.map Prod.fst = sortBy id (items.map Prod.fst) :=
      (sortBy_of_pairwise (l := items.map Prod.fst) (pairwise_map.2 hs)).symm
    rw [payloadMapping, payloadEntries_of_nodup hn, ok_bind, nil_append, ensure_of hsorted]
    rfl

/-- `_decode_payload`. -/
def decodePayload (payloadJson : String) : Except PyError PyValue := do
  let raw ← orRaise (Json.loads payloadJson) "payload bytes are not valid JSON"
  let decoded ← payloadDecoder.decode raw
  let text ← canonicalJson decoded
  ensure (text = payloadJson) (valueError "payload bytes are not canonical")
  return decoded

/-! ## Payloads -/

/-- `DispatchPayload`. -/
structure DispatchPayload where
  payloadDigest : Digest
  payloadJson : String
  byteLength : ℕ
  deriving DecidableEq

section
variable (sha256 : String → Digest)

/-- `DispatchPayload.__post_init__`; the format of the digest is not represented. -/
def makeDispatchPayload (payloadDigest : Digest) (payloadJson : String) (byteLength : ℕ) :
    Except PyError DispatchPayload := do
  ensure (notBlank payloadJson = true) (valueError "payload_json must not be empty")
  ensure (byteLength = payloadJson.utf8ByteSize)
    (valueError "payload byte_length does not match canonical bytes")
  ensure (sha256 payloadJson = payloadDigest)
    (valueError "payload digest does not match canonical bytes")
  let value ← decodePayload payloadJson
  ensure (value.kind = .mapping) (valueError "dispatch payload root must be a mapping")
  let valueDigest ← contentDigest sha256 value
  ensure (valueDigest = payloadDigest) (valueError "payload digest does not match decoded content")
  return ⟨payloadDigest, payloadJson, byteLength⟩

/-- `DispatchPayload.from_mapping`. -/
def dispatchPayloadFromMapping (payload : PyValue) : Except PyError DispatchPayload := do
  ensure (payload.kind = .mapping) (typeError "payload must be a mapping")
  let frozen ← freezeJson payload
  let encoded ← canonicalJson frozen
  let payloadDigest ← contentDigest sha256 frozen
  makeDispatchPayload sha256 payloadDigest encoded encoded.utf8ByteSize

/-- `DispatchPayload.value`. -/
def DispatchPayload.value (p : DispatchPayload) : Except PyError PyValue := do
  let payload ← decodePayload p.payloadJson
  let decoded ← freezeJson payload
  ensure (decoded.kind = .mapping) (valueError "dispatch payload root must be a mapping")
  let valueDigest ← contentDigest sha256 decoded
  ensure (valueDigest = p.payloadDigest)
    (valueError "payload digest does not match decoded content")
  return decoded

end

/-! ## Reading payloads back -/

section
variable {sha256 : String → Digest} {v w : PyValue} {j : Json} {p : DispatchPayload}

theorem notBlank_dumps_tagged (tag : String) (rest : List Json) :
    notBlank (Json.dumps (tagged tag rest)) = true := by
  refine any_eq_true.2 ⟨'[', ?_, by decide⟩
  rw [Json.dumps, String.toList_ofList]
  exact mem_cons_self

theorem decodePayload_dumps (hf : Frozen v) (hwf : Wf v) (hj : canonicalValue v = .ok j)
    (h : timedeltaFree v = true) :
    ∃ d, decodePayload (Json.dumps j) = .ok d ∧ Same v d ∧ Frozen d ∧ canonicalValue d = .ok j := by
  obtain ⟨d, hd, hsame, hfrozen⟩ := restored_of_timedeltaFree (D := payloadDecoder) hf hwf h j hj
  have htree : canonicalValue d = .ok j := canonicalValue_of_same v hwf d j hsame hj
  have htext : canonicalJson d = .ok (Json.dumps j) := map_eq_ok.2 ⟨j, htree, rfl⟩
  refine ⟨d, ?_, hsame, hfrozen, htree⟩
  rw [decodePayload, Json.loads_dumps, orRaise, ok_bind, hd, ok_bind, htext, ok_bind,
    ensure_of rfl, ok_bind]
  rfl

theorem timedeltaFree_of_decodePayload (hf : Frozen v) (hwf : Wf v) (hj : canonicalValue v = .ok j)
    (h : decodePayload (Json.dumps j) = .ok w) : timedeltaFree v = true := by
  rw [decodePayload, Json.loads_dumps, orRaise, ok_bind] at h
  obtain ⟨d, hd, -⟩ := bind_eq_ok.1 h
  exact timedeltaFree_of_decoded hf hwf j d hj hd

theorem fromMapping_eq_ok (hj : canonicalValue (freezeValue v) = .ok j)
    (h : dispatchPayloadFromMapping sha256 v = .ok p) :
    p = ⟨sha256 (Json.dumps j), Json.dumps j, (Json.dumps j).utf8ByteSize⟩ ∧
      ∃ d, decodePayload (Json.dumps j) = .ok d := by
  obtain ⟨_, -, h⟩ := bind_eq_ok.1 h
  obtain ⟨frozen, hfrozen, h⟩ := bind_eq_ok.1 h
  obtain ⟨_, -, hfrozen⟩ := bind_eq_ok.1 hfrozen
  obtain rfl := Except.ok.inj hfrozen
  have htext : canonicalJson (freezeValue v) = .ok (Json.dumps j) := map_eq_ok.2 ⟨j, hj, rfl⟩
  have hdigest : contentDigest sha256 (freezeValue v) = .ok (sha256 (Json.dumps j)) :=
    map_eq_ok.2 ⟨_, htext, rfl⟩
  rw [htext, ok_bind, hdigest, ok_bind] at h
  obtain ⟨_, -, h⟩ := bind_eq_ok.1 h
  obtain ⟨_, -, h⟩ := bind_eq_ok.1 h
  obtain ⟨_, -, h⟩ := bind_eq_ok.1 h
  obtain ⟨d, hd, h⟩ := bind_eq_ok.1 h
  obtain ⟨_, -, h⟩ := bind_eq_ok.1 h
  obtain ⟨_, -, h⟩ := bind_eq_ok.1 h
  obtain ⟨_, -, h⟩ := bind_eq_ok.1 h
  exact ⟨(Except.ok.inj h).symm, d, hd⟩

/-- **The round trip of a payload**: a mapping that canonical JSON accepts is made
    into a payload whose value is the frozen mapping, exactly where the mapping
    holds no `timedelta`. -/
theorem payload_round_trip (sha256 : String → Digest) {is : List (PyKey × PyValue)}
    (hp : Proper (.mapping is)) (ha : Accepted (.mapping is)) :
    (∃ p w, dispatchPayloadFromMapping sha256 (.mapping is) = .ok p ∧ p.value sha256 = .ok w ∧
        Same (freezeValue (.mapping is)) w) ↔ timedeltaFree (.mapping is) = true := by
  have hf := frozen_freezeValue _ ha
  have hwf := wf_freezeValue hp
  obtain ⟨j, hj⟩ := accepted_freezeValue _ ha
  rw [← timedeltaFree_freezeValue]
  constructor
  · rintro ⟨p, w, hmake, -, -⟩
    obtain ⟨-, d, hd⟩ := fromMapping_eq_ok hj hmake
    exact timedeltaFree_of_decodePayload hf hwf hj hd
  · intro hfree
    obtain ⟨d, hd, hsame, hfrozen, htree⟩ := decodePayload_dumps hf hwf hj hfree
    have htext : ∀ x, canonicalValue x = .ok j → canonicalJson x = .ok (Json.dumps j) :=
      fun x hx => map_eq_ok.2 ⟨j, hx, rfl⟩
    have hdigest : ∀ x, canonicalValue x = .ok j →
        contentDigest sha256 x = .ok (sha256 (Json.dumps j)) :=
      fun x hx => map_eq_ok.2 ⟨_, htext x hx, rfl⟩
    have hmapping : (PyValue.mapping is).kind = .mapping := rfl
    have hkind : d.kind = .mapping := hsame.kind_eq.symm
    obtain ⟨r, hr⟩ := canonicalValue_tag hj
    have hblank : notBlank (Json.dumps j) = true := hr ▸ notBlank_dumps_tagged _ r
    have hfreeze : freezeJson (.mapping is) = .ok (freezeValue (.mapping is)) := by
      obtain ⟨t, ht⟩ := ha
      rw [freezeJson, ht]
      rfl
    have hagain : freezeJson d = .ok d := by
      rw [freezeJson, htree, ok_bind, freezeValue_of_frozen hfrozen]
      rfl
    refine ⟨⟨sha256 (Json.dumps j), Json.dumps j, (Json.dumps j).utf8ByteSize⟩, d, ?_, ?_, hsame⟩
    · rw [dispatchPayloadFromMapping, ensure_of hmapping, ok_bind, hfreeze, ok_bind, htext _ hj, ok_bind,
        hdigest _ hj, ok_bind, makeDispatchPayload, ensure_of hblank, ok_bind, ensure_of rfl,
        ok_bind, ensure_of rfl, ok_bind, hd, ok_bind, ensure_of hkind, ok_bind, hdigest _ htree,
        ok_bind, ensure_of rfl]
      rfl
    · rw [DispatchPayload.value]
      dsimp only
      rw [hd, ok_bind, hagain, ok_bind, ensure_of hkind, ok_bind, hdigest _ htree, ok_bind,
        ensure_of rfl]
      rfl

def payloadWith (value : PyValue) : PyValue := .mapping [(.str "value", value)]

theorem payload_round_trip_price :
    ∃ p w, dispatchPayloadFromMapping Digest.mk
        (payloadWith (.list [.decimal (.finite false 150 (-2))])) = .ok p ∧
      p.value Digest.mk = .ok w ∧
      Same (payloadWith (.tuple [.decimal (.finite false 150 (-2))])) w := by
  have hp : Proper (payloadWith (.list [.decimal (.finite false 150 (-2))])) := by
    refine .mapping (nodup_singleton _) fun i hi => ?_
    obtain rfl := mem_singleton.1 hi
    exact .list fun x hx => by rw [mem_singleton.1 hx]; exact .decimal
  exact (payload_round_trip Digest.mk hp ⟨_, rfl⟩).2 (by decide)

/-- **A `timedelta` is frozen and encoded, and the payload is refused.** -/
theorem payload_timedelta_refused :
    freezeJson (payloadWith (.timedelta ⟨0, 5, 0⟩)) = .ok (payloadWith (.timedelta ⟨0, 5, 0⟩)) ∧
      dispatchPayloadFromMapping Digest.mk (payloadWith (.timedelta ⟨0, 5, 0⟩)) =
        .error (valueError "canonical payload value is malformed") :=
  ⟨rfl, by decide +kernel⟩

end

end ChartingPlatform
