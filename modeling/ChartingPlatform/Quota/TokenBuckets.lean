/-
  The token bucket of a provider (`provider_runtime.py`), with an exact clock
  and exact tokens.
-/
import ChartingPlatform.Lib.Runs
import ChartingPlatform.Quota.Contracts

namespace ChartingPlatform

open Lib List

/-! ## Buckets -/

/-- `TokenBucket`. -/
structure TokenBucket where
  ratePerSecond : ℚ
  capacity : ℤ
  tokens : ℚ
  lastRefill : ℚ
  deriving DecidableEq

/-- `TokenBucket.__init__`. -/
def makeTokenBucket (ratePerMinute burstCapacity : ℤ) (now : ℚ) : Except QuotaError TokenBucket := do
  require (0 < ratePerMinute ∧ 0 < burstCapacity)
    (quotaUnknown "provider minute bucket requires positive integer rate and burst limits")
  return {
    ratePerSecond := ratePerMinute / 60
    capacity := burstCapacity
    tokens := burstCapacity
    lastRefill := now }

def TokenBucket.refill (b : TokenBucket) (now : ℚ) : TokenBucket :=
  { b with
    tokens := min (b.capacity : ℚ) (b.tokens + (now - b.lastRefill) * b.ratePerSecond)
    lastRefill := now }

/-- `TokenBucket.try_acquire`. -/
def TokenBucket.tryAcquire (b : TokenBucket) (units : ℤ) (now : ℚ) :
    Except QuotaError (Bool × TokenBucket) := do
  require (0 < units)
    (quotaUnknown "provider minute bucket requires positive integer acquisition units")
  let b := b.refill now
  if b.tokens < units then return (false, b)
  else return (true, { b with tokens := b.tokens - units })

structure TokenBucket.Sound (b : TokenBucket) : Prop where
  rate_nonneg : 0 ≤ b.ratePerSecond
  tokens_nonneg : 0 ≤ b.tokens
  tokens_le : b.tokens ≤ b.capacity

section
variable {b b' : TokenBucket} {units : ℤ} {now later : ℚ} {granted : Bool}

theorem sound_makeTokenBucket {rate burst : ℤ} (h : makeTokenBucket rate burst now = .ok b) :
    b.Sound := by
  obtain ⟨_, hpos, h⟩ := bind_eq_ok.1 h
  obtain ⟨hrate, hburst⟩ := require_eq_ok.1 hpos
  obtain rfl := Except.ok.inj h
  refine ⟨?_, ?_, le_rfl⟩
  · exact div_nonneg (Int.cast_nonneg hrate.le) (by norm_num)
  · exact Int.cast_nonneg hburst.le

theorem TokenBucket.Sound.refill (h : b.Sound) (hnow : b.lastRefill ≤ now) :
    (b.refill now).Sound := by
  refine ⟨h.rate_nonneg, le_min (h.tokens_nonneg.trans h.tokens_le) ?_, min_le_left _ _⟩
  exact add_nonneg h.tokens_nonneg (mul_nonneg (sub_nonneg.2 hnow) h.rate_nonneg)

theorem refill_refill (hrate : 0 ≤ b.ratePerSecond) (h : now ≤ later) :
    (b.refill now).refill later = b.refill later := by
  have hgain : 0 ≤ (later - now) * b.ratePerSecond := mul_nonneg (sub_nonneg.2 h) hrate
  have hsum : b.tokens + (now - b.lastRefill) * b.ratePerSecond + (later - now) * b.ratePerSecond =
      b.tokens + (later - b.lastRefill) * b.ratePerSecond := by ring
  have htokens : min (b.capacity : ℚ)
      (min (b.capacity : ℚ) (b.tokens + (now - b.lastRefill) * b.ratePerSecond) +
        (later - now) * b.ratePerSecond) =
      min (b.capacity : ℚ) (b.tokens + (later - b.lastRefill) * b.ratePerSecond) := by
    rw [min_add, hsum, ← min_assoc, min_eq_left (le_add_of_nonneg_right hgain)]
  simp only [TokenBucket.refill, htokens]

theorem tryAcquire_eq_ok (h : b.tryAcquire units now = .ok (granted, b')) :
    0 < units ∧ (granted = true → (units : ℚ) ≤ (b.refill now).tokens) ∧
      b' = { b.refill now with
        tokens := (b.refill now).tokens - if granted then (units : ℚ) else 0 } := by
  obtain ⟨_, hpos, h⟩ := bind_eq_ok.1 h
  dsimp only at h
  split_ifs at h with hlt
  · obtain ⟨rfl, rfl⟩ := Prod.mk.inj (Except.ok.inj h)
    refine ⟨require_eq_ok.1 hpos, fun h => absurd h (by simp), ?_⟩
    simp
  · obtain ⟨rfl, rfl⟩ := Prod.mk.inj (Except.ok.inj h)
    exact ⟨require_eq_ok.1 hpos, fun _ => not_lt.1 hlt, by simp⟩

/-- **A denied call costs nothing**: every later call is answered, and leaves the bucket, as if it
    had not been made. -/
theorem tryAcquire_denied (hrate : 0 ≤ b.ratePerSecond)
    (h : b.tryAcquire units now = .ok (false, b')) (hlater : now ≤ later) (more : ℤ) :
    b'.tryAcquire more later = b.tryAcquire more later := by
  obtain ⟨-, -, rfl⟩ := tryAcquire_eq_ok h
  have hrefill : TokenBucket.refill { b.refill now with
      tokens := (b.refill now).tokens - if false then (units : ℚ) else 0 } later =
      b.refill later := by
    rw [← refill_refill hrate hlater]
    simp
  rw [TokenBucket.tryAcquire, hrefill]
  rfl

end

/-! ## Runs -/

/-- One call of `try_acquire`. -/
structure AcquireCall where
  now : ℚ
  units : ℤ
  granted : Bool

def AcquireCall.grantedUnits (c : AcquireCall) : ℚ := if c.granted then c.units else 0

/-- The call is answered so, and the clock does not go back.  A call that raises leaves the bucket
    as it is. -/
def Acquires (b : TokenBucket) (c : AcquireCall) (b' : TokenBucket) : Prop :=
  b.lastRefill ≤ c.now ∧
    match b.tryAcquire c.units c.now with
    | .ok (granted, next) => c.granted = granted ∧ b' = next
    | .error _ => c.granted = false ∧ b' = b

/-- The units granted by the calls that a condition on the clock selects. -/
def grantedWhen (q : ℚ → Bool) (cs : List AcquireCall) : ℚ :=
  ((cs.filter fun c => q c.now).map AcquireCall.grantedUnits).sum

def grantedBetween (cs : List AcquireCall) (start stop : ℚ) : ℚ :=
  grantedWhen (fun t => decide (start ≤ t ∧ t ≤ stop)) cs

section
variable {b b₀ b' : TokenBucket} {c : AcquireCall} {cs : List AcquireCall} {q q' : ℚ → Bool}

theorem grantedWhen_snoc : grantedWhen q (cs ++ [c]) =
    grantedWhen q cs + if q c.now then c.grantedUnits else 0 := by
  unfold grantedWhen
  rw [filter_append, map_append, sum_append]
  cases h : q c.now <;> simp [h]

theorem grantedWhen_congr (h : ∀ c ∈ cs, c.granted = true → q c.now = q' c.now) :
    grantedWhen q cs = grantedWhen q' cs := by
  induction cs using List.reverseRecOn with
  | nil => rfl
  | append_singleton cs c ih =>
    rw [grantedWhen_snoc, grantedWhen_snoc, ih fun c hc => h c (mem_append_left _ hc)]
    cases hg : c.granted with
    | false => simp [AcquireCall.grantedUnits, hg]
    | true => rw [h c (by simp) hg]

theorem grantedWhen_none (h : ∀ c ∈ cs, c.granted = true → q c.now = false) :
    grantedWhen q cs = 0 := by
  have hnone : grantedWhen q cs = grantedWhen (fun _ => false) cs := grantedWhen_congr h
  rw [hnone]
  simp [grantedWhen]

inductive AcquireStep (b : TokenBucket) (c : AcquireCall) (b' : TokenBucket) : Prop
  | raised : c.granted = false → b' = b → AcquireStep b c b'
  | answered : b.lastRefill ≤ c.now → c.grantedUnits ≤ (b.refill c.now).tokens →
      b' = { b.refill c.now with tokens := (b.refill c.now).tokens - c.grantedUnits } →
      AcquireStep b c b'

theorem acquires_of_ok (hclock : b.lastRefill ≤ c.now)
    (h : b.tryAcquire c.units c.now = .ok (c.granted, b')) : Acquires b c b' := by
  refine ⟨hclock, ?_⟩
  rw [h]
  exact ⟨rfl, rfl⟩

theorem acquires_cases (hb : b.Sound) (h : Acquires b c b') : AcquireStep b c b' := by
  obtain ⟨hclock, h⟩ := h
  cases hcall : b.tryAcquire c.units c.now with
  | error e =>
    rw [hcall] at h
    exact .raised h.1 h.2
  | ok answer =>
    obtain ⟨granted, next⟩ := answer
    rw [hcall] at h
    obtain ⟨rfl, rfl⟩ := h
    obtain ⟨-, hle, hnext⟩ := tryAcquire_eq_ok hcall
    refine .answered hclock ?_ hnext
    unfold AcquireCall.grantedUnits
    split_ifs with hg
    · exact hle hg
    · exact (hb.refill hclock).tokens_nonneg

theorem grantedUnits_nonneg (h : Acquires b c b') : 0 ≤ c.grantedUnits := by
  unfold AcquireCall.grantedUnits
  split_ifs with hg
  · obtain ⟨-, hcall⟩ := h
    cases hans : b.tryAcquire c.units c.now with
    | error e =>
      rw [hans] at hcall
      rw [hcall.1] at hg
      cases hg
    | ok answer => exact Int.cast_nonneg (tryAcquire_eq_ok hans).1.le
  · exact le_rfl

/-- What holds after the calls `cs` on the bucket `b₀`. -/
structure BucketInvariant (b₀ : TokenBucket) (cs : List AcquireCall) (b : TokenBucket) : Prop where
  sound : b.Sound
  rate : b.ratePerSecond = b₀.ratePerSecond
  capacity : b.capacity = b₀.capacity
  past : ∀ c ∈ cs, c.granted = true → c.now ≤ b.lastRefill
  /-- What was granted since `start`, with what is left, was in the bucket or refilled since. -/
  potential : ∀ start ≤ b.lastRefill, grantedWhen (fun t => decide (start ≤ t)) cs + b.tokens ≤
    b₀.capacity + b₀.ratePerSecond * (b.lastRefill - start)
  bounded : ∀ start stop, start ≤ stop → grantedBetween cs start stop ≤
    b₀.capacity + b₀.ratePerSecond * (stop - start)

theorem BucketInvariant.initial (h : b₀.Sound) : BucketInvariant b₀ [] b₀ := by
  refine ⟨h, rfl, rfl, by simp, fun start hstart => ?_, fun start stop hle => ?_⟩
  · have hgain := mul_nonneg h.rate_nonneg (sub_nonneg.2 hstart)
    have hle := h.tokens_le
    simp only [grantedWhen, filter_nil, map_nil, sum_nil, zero_add]
    linarith
  · have hgain := mul_nonneg h.rate_nonneg (sub_nonneg.2 hle)
    have hcap := h.tokens_nonneg.trans h.tokens_le
    simp only [grantedBetween, grantedWhen, filter_nil, map_nil, sum_nil]
    linarith

theorem potential_answered (hi : BucketInvariant b₀ cs b) {start : ℚ} (hstart : start ≤ c.now) :
    grantedWhen (fun t => decide (start ≤ t)) (cs ++ [c]) +
        ((b.refill c.now).tokens - c.grantedUnits) ≤
      b₀.capacity + b₀.ratePerSecond * (c.now - start) := by
  rw [grantedWhen_snoc, if_pos (decide_eq_true hstart)]
  rcases le_or_gt start b.lastRefill with hle | hlt
  · have hpot := hi.potential start hle
    have hmin : (b.refill c.now).tokens ≤
        b.tokens + (c.now - b.lastRefill) * b.ratePerSecond := min_le_right _ _
    rw [hi.rate] at hmin
    linarith
  · -- everything granted before was granted before `start`
    have hnone : grantedWhen (fun t => decide (start ≤ t)) cs = 0 :=
      grantedWhen_none fun d hd hg => decide_eq_false (not_le.2 ((hi.past d hd hg).trans_lt hlt))
    have hcap : (b.refill c.now).tokens ≤ b.capacity := min_le_left _ _
    have hgain := mul_nonneg hi.sound.rate_nonneg (sub_nonneg.2 hstart)
    rw [hi.rate] at hgain
    rw [hi.capacity] at hcap
    rw [hnone]
    linarith

theorem BucketInvariant.step (hi : BucketInvariant b₀ cs b) (h : Acquires b c b') :
    BucketInvariant b₀ (cs ++ [c]) b' := by
  cases acquires_cases hi.sound h with
  | raised hg hb =>
    have hsum : ∀ q, grantedWhen q (cs ++ [c]) = grantedWhen q cs := by
      intro q
      rw [grantedWhen_snoc]
      simp [AcquireCall.grantedUnits, hg]
    rw [hb]
    refine ⟨hi.sound, hi.rate, hi.capacity, ?_, ?_, ?_⟩
    · intro d hd hdg
      rcases mem_append.1 hd with hd | hd
      · exact hi.past d hd hdg
      · rw [mem_singleton.1 hd, hg] at hdg
        cases hdg
    · intro start hstart
      rw [hsum]
      exact hi.potential start hstart
    · intro start stop hle
      rw [grantedBetween, hsum]
      exact hi.bounded start stop hle
  | answered hclock hle hb =>
    have hsound := hi.sound.refill hclock
    have hpast : ∀ d ∈ cs ++ [c], d.granted = true → d.now ≤ c.now := by
      intro d hd hdg
      rcases mem_append.1 hd with hd | hd
      · exact (hi.past d hd hdg).trans hclock
      · rw [mem_singleton.1 hd]
    have hunits := grantedUnits_nonneg h
    rw [hb]
    refine ⟨⟨hsound.rate_nonneg, sub_nonneg.2 hle, ?_⟩, hi.rate, hi.capacity, hpast,
      fun start hstart => potential_answered hi hstart, fun start stop hss => ?_⟩
    · exact (sub_le_self _ hunits).trans hsound.tokens_le
    · rcases lt_or_ge stop c.now with hlate | hin
      · have hout : decide (start ≤ c.now ∧ c.now ≤ stop) = false :=
          decide_eq_false fun hin => absurd hin.2 (not_le.2 hlate)
        have hbound := hi.bounded start stop hss
        rw [grantedBetween, grantedWhen_snoc, hout, if_neg Bool.false_ne_true, add_zero]
        exact hbound
      · have hsame : grantedBetween (cs ++ [c]) start stop =
            grantedWhen (fun t => decide (start ≤ t)) (cs ++ [c]) :=
          grantedWhen_congr fun d hd hg =>
            decide_eq_decide.2 ⟨And.left, fun hs => ⟨hs, (hpast d hd hg).trans hin⟩⟩
        rcases le_or_gt start c.now with hstart | hbefore
        · have hpot := potential_answered hi hstart
          have hgain : b₀.ratePerSecond * (c.now - start) ≤ b₀.ratePerSecond * (stop - start) :=
            mul_le_mul_of_nonneg_left (by linarith) (hi.rate ▸ hi.sound.rate_nonneg)
          rw [hsame]
          linarith
        · have hnone : grantedBetween (cs ++ [c]) start stop = 0 := by
            rw [hsame]
            exact grantedWhen_none fun d hd hg =>
              decide_eq_false (not_le.2 ((hpast d hd hg).trans_lt hbefore))
          have hcap := hi.sound.tokens_nonneg.trans hi.sound.tokens_le
          have hgain := mul_nonneg hi.sound.rate_nonneg (sub_nonneg.2 hss)
          rw [hi.capacity] at hcap
          rw [hi.rate] at hgain
          rw [hnone]
          linarith

theorem bucketInvariant_run (h₀ : b₀.Sound) (h : Run Acquires b₀ cs b) :
    BucketInvariant b₀ cs b := by
  induction h with
  | nil => exact .initial h₀
  | snoc _ hc ih => exact ih.step hc

/-- **The rate of a token bucket.**  Along all calls on a new bucket the tokens stay between zero
    and the capacity, the units granted in any interval are at most the capacity and what the rate
    gives in that time, and a denied call grants nothing and changes no later answer. -/
theorem token_bucket_rate {ratePerMinute burstCapacity : ℤ} {now : ℚ}
    (h₀ : makeTokenBucket ratePerMinute burstCapacity now = .ok b₀) (h : Run Acquires b₀ cs b) :
    (0 ≤ b.tokens ∧ b.tokens ≤ burstCapacity) ∧
    (∀ start stop, start ≤ stop → grantedBetween cs start stop ≤
      burstCapacity + ratePerMinute / 60 * (stop - start)) ∧
    ∀ units now b', b.tryAcquire units now = .ok (false, b') → b' = b.refill now ∧
      ∀ later more, now ≤ later → b'.tryAcquire more later = b.tryAcquire more later := by
  have hi := bucketInvariant_run (sound_makeTokenBucket h₀) h
  obtain ⟨_, -, hmake⟩ := bind_eq_ok.1 h₀
  obtain rfl := Except.ok.inj hmake
  refine ⟨⟨hi.sound.tokens_nonneg, hi.sound.tokens_le.trans_eq (congrArg _ hi.capacity)⟩,
    hi.bounded, fun units now b' hdenied => ⟨?_, fun later more hlater => ?_⟩⟩
  · obtain ⟨-, -, rfl⟩ := tryAcquire_eq_ok hdenied
    simp
  · exact tryAcquire_denied hi.sound.rate_nonneg hdenied hlater more

/-- A bucket of two tokens, at sixty a minute: two calls are granted, the third is denied. -/
theorem token_bucket_rate_burst : ∃ b₀ b, makeTokenBucket 60 2 0 = .ok b₀ ∧
    Run Acquires b₀ [⟨0, 2, true⟩, ⟨1 / 2, 1, false⟩] b ∧
    grantedBetween [⟨0, 2, true⟩, ⟨1 / 2, 1, false⟩] 0 (1 / 2) ≤ 2 + 60 / 60 * (1 / 2 - 0) := by
  have hmake : makeTokenBucket 60 2 0 = .ok ⟨60 / 60, 2, 2, 0⟩ := by decide +kernel
  have hgranted : Acquires ⟨60 / 60, 2, 2, 0⟩ ⟨0, 2, true⟩ ⟨60 / 60, 2, 0, 0⟩ :=
    acquires_of_ok le_rfl (by decide +kernel)
  have hdenied : Acquires ⟨60 / 60, 2, 0, 0⟩ ⟨1 / 2, 1, false⟩ ⟨60 / 60, 2, 1 / 2, 1 / 2⟩ :=
    acquires_of_ok (by norm_num) (by decide +kernel)
  have hrun := (Run.snoc .nil hgranted).snoc hdenied
  refine ⟨_, _, hmake, hrun, ?_⟩
  have h := (token_bucket_rate hmake hrun).2.1 0 (1 / 2) (by norm_num)
  exact_mod_cast h

end

end ChartingPlatform
