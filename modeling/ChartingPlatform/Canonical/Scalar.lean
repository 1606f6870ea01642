/-
  The scalar values of canonical JSON (`canonical.py`) and their texts:
  `Decimal`, `float`, `datetime`, `date` and `timedelta`.
-/
import ChartingPlatform.Lib.Gregorian
import ChartingPlatform.Lib.Outcome

namespace ChartingPlatform

open Lib List

/-- A `Decimal`: a sign, a coefficient and an exponent, or NaN/Infinity. -/
inductive PyDecimal where
  | finite (negative : Bool) (coefficient : ℕ) (exponent : ℤ)
  | special
  deriving DecidableEq

def PyDecimal.value : PyDecimal → ℚ
  | .finite negative c e => (if negative then -1 else 1) * c * 10 ^ e
  | .special => 0

def PyDecimal.isFinite : PyDecimal → Bool
  | .finite .. => true
  | .special => false

/-- A `float` by its IEEE-754 bits. -/
structure PyFloat where
  negative : Bool
  exponent : Fin 2048
  fraction : Fin (2 ^ 52)
  deriving DecidableEq

/-- A `datetime`: the wall clock and, when it is aware, the UTC offset in microseconds and
    the zone that gives it (`none` for UTC and for a fixed offset). -/
structure PyDateTime where
  wall : Instant
  utcoffset : Option ℤ
  tzinfo : Option String
  deriving DecidableEq

/-- A normalised `timedelta`. -/
structure PyTimedelta where
  days : ℤ
  seconds : Fin 86400
  microseconds : Fin 1000000
  deriving DecidableEq

/-! ## Decimals -/

/-- The loop that drops trailing zero digits and raises the exponent: dropping
    the last digit of the coefficient divides it by ten.  The fuel is the number
    of digits. -/
def dropZeros : ℕ → ℕ → ℤ → ℕ × ℤ
  | 0, c, e => (c, e)
  | n + 1, c, e => if c % 10 = 0 then dropZeros n (c / 10) (e + 1) else (c, e)

/-- `f"{sign}:{digits}:{exponent}"`. -/
def decimalText (negative : Bool) (c : ℕ) (e : ℤ) : List Char :=
  [':'].intercalate [[if negative then '1' else '0'], natText c, intText e]

/-- Coefficient and exponent without trailing zeros. -/
def normalized (c : ℕ) (e : ℤ) : ℕ × ℤ := dropZeros (natText c).length c e

def decimalIdentity (negative : Bool) (c : ℕ) (e : ℤ) : List Char :=
  if c = 0 then decimalText false 0 0
  else decimalText negative (normalized c e).1 (normalized c e).2

/-- Read `sign:digits:exponent`. -/
def decimalOfText? (cs : List Char) : Option PyDecimal :=
  match cs.splitOn ':' with
  | [s, d, e] =>
    if s = ['0'] ∨ s = ['1'] then
      (textNat? d).bind fun c => (textInt? e).map fun e => .finite (s = ['1']) c e
    else none
  | _ => none

@[simp] theorem decimalOfText?_decimalText (negative : Bool) (c : ℕ) (e : ℤ) :
    decimalOfText? (decimalText negative c e) = some (.finite negative c e) := by
  have hs : (decimalText negative c e).splitOn ':' =
      [[if negative then '1' else '0'], natText c, intText e] := by
    refine splitOn_intercalate ':' (fun l hl => ?_) (by simp)
    simp only [mem_cons, not_mem_nil, or_false] at hl
    rcases hl with rfl | rfl | rfl
    · cases negative <;> decide
    · exact notMem_natText (by decide) c
    · exact notMem_intText (by decide) (by decide) e
  rw [decimalOfText?, hs]
  cases negative <;> simp

variable {c : ℕ} {e : ℤ}

theorem decimalText_inj {n n' : Bool} {c' : ℕ} {e' : ℤ}
    (h : decimalText n c e = decimalText n' c' e') : n = n' ∧ c = c' ∧ e = e' := by
  have := decimalOfText?_decimalText n c e
  rw [h, decimalOfText?_decimalText] at this
  simp only [Option.some.injEq, PyDecimal.finite.injEq] at this
  exact ⟨this.1.symm, this.2.1.symm, this.2.2.symm⟩

theorem dropZeros_spec : ∀ {n c : ℕ} {e : ℤ}, 0 < c → c < 10 ^ n →
    (dropZeros n c e).1 % 10 ≠ 0 ∧
      ((dropZeros n c e).1 : ℚ) * 10 ^ (dropZeros n c e).2 = (c : ℚ) * 10 ^ e
  | 0, c, e, hc, h => by simp at h; omega
  | n + 1, c, e, hc, h => by
    rw [dropZeros]
    split_ifs with h0
    · obtain ⟨k, hk⟩ := Nat.dvd_of_mod_eq_zero h0
      have hdiv : c / 10 = k := by omega
      obtain ⟨h₁, h₂⟩ := dropZeros_spec (n := n) (c := c / 10) (e := e + 1) (by omega)
        (by rw [pow_succ] at h; omega)
      refine ⟨h₁, ?_⟩
      rw [h₂, hdiv, hk, zpow_add_one₀ (by norm_num)]
      push_cast; ring
    · exact ⟨h0, rfl⟩

theorem normalized_spec (e : ℤ) (hc : 0 < c) :
    (normalized c e).1 % 10 ≠ 0 ∧
      ((normalized c e).1 : ℚ) * 10 ^ (normalized c e).2 = (c : ℚ) * 10 ^ e :=
  dropZeros_spec hc ((Nat.length_toDigits_le_iff (by decide)
    (length_pos_iff.2 (natText_ne_nil c))).1 le_rfl)

theorem scaled_unique {c' : ℕ} {e' : ℤ} (hc : c % 10 ≠ 0) (hc' : c' % 10 ≠ 0)
    (h : (c : ℚ) * 10 ^ e = c' * 10 ^ e') : c = c' ∧ e = e' := by
  -- a larger exponent on one side makes the other coefficient divisible by ten
  have key : ∀ {c c' : ℕ} {e e' : ℤ}, c % 10 ≠ 0 → (c : ℚ) * 10 ^ e = c' * 10 ^ e' → e' ≤ e := by
    intro c c' e e' hc h
    by_contra hlt
    obtain ⟨k, rfl⟩ : ∃ k : ℕ, e' = e + (k + 1 : ℕ) := ⟨(e' - e - 1).toNat, by omega⟩
    rw [zpow_add₀ (by norm_num), zpow_natCast, mul_comm ((10 : ℚ) ^ e), ← mul_assoc] at h
    have h' := mul_right_cancel₀ (zpow_ne_zero e (by norm_num)) h
    have hn : c = c' * 10 ^ (k + 1) := by exact_mod_cast h'
    exact hc (by rw [hn, pow_succ, ← mul_assoc]; exact Nat.mul_mod_left _ 10)
  have he : e = e' := le_antisymm (key hc' h.symm) (key hc h)
  subst he
  exact ⟨by exact_mod_cast mul_right_cancel₀ (zpow_ne_zero e (by norm_num)) h, rfl⟩

theorem value_finite_eq_zero {n : Bool} :
    (PyDecimal.finite n c e).value = 0 ↔ c = 0 := by
  cases n <;> simp [PyDecimal.value, zpow_ne_zero]

theorem value_finite_pos (hc : 0 < c) (e : ℤ) : (0 : ℚ) < c * 10 ^ e := by positivity

/-- **The identity of a decimal is its number.** -/
theorem decimalIdentity_eq_iff {n n' : Bool} {c' : ℕ} {e' : ℤ} :
    decimalIdentity n c e = decimalIdentity n' c' e' ↔
      (PyDecimal.finite n c e).value = (PyDecimal.finite n' c' e').value := by
  by_cases hc : c = 0 <;> by_cases hc' : c' = 0
  · subst hc; subst hc'; simp [decimalIdentity, PyDecimal.value]
  · -- a zero and a number that is not zero
    obtain ⟨hm, -⟩ := normalized_spec e' (Nat.pos_of_ne_zero hc')
    subst hc
    constructor
    · intro h
      rw [decimalIdentity, decimalIdentity, if_pos rfl, if_neg hc'] at h
      exact absurd (decimalText_inj h).2.1.symm (by intro h0; rw [h0] at hm; simp at hm)
    · intro h
      rw [show (PyDecimal.finite n 0 e).value = 0 from value_finite_eq_zero.2 rfl] at h
      exact absurd (value_finite_eq_zero.1 h.symm) hc'
  · obtain ⟨hm, -⟩ := normalized_spec e (Nat.pos_of_ne_zero hc)
    subst hc'
    constructor
    · intro h
      rw [decimalIdentity, decimalIdentity, if_pos rfl, if_neg hc] at h
      exact absurd (decimalText_inj h).2.1 (by intro h0; rw [h0] at hm; simp at hm)
    · intro h
      rw [show (PyDecimal.finite n' 0 e').value = 0 from value_finite_eq_zero.2 rfl] at h
      exact absurd (value_finite_eq_zero.1 h) hc
  · have hp := Nat.pos_of_ne_zero hc
    have hp' := Nat.pos_of_ne_zero hc'
    obtain ⟨hm, hv⟩ := normalized_spec e hp
    obtain ⟨hm', hv'⟩ := normalized_spec e' hp'
    rw [decimalIdentity, decimalIdentity, if_neg hc, if_neg hc']
    constructor
    · intro h
      obtain ⟨rfl, h₁, h₂⟩ := decimalText_inj h
      rw [h₁, h₂, hv'] at hv
      simp only [PyDecimal.value, mul_assoc, hv]
    · intro h
      have hpos := value_finite_pos hp e
      have hpos' := value_finite_pos hp' e'
      have hn : n = n' ∧ (c : ℚ) * 10 ^ e = c' * 10 ^ e' := by
        cases n <;> cases n' <;> simp only [PyDecimal.value, if_true, if_false,
          Bool.false_eq_true, one_mul, neg_mul] at h ⊢
        · exact ⟨trivial, h⟩
        · linarith
        · linarith
        · exact ⟨trivial, by linarith⟩
      obtain ⟨rfl, hval⟩ := hn
      rw [← hv, ← hv'] at hval
      obtain ⟨h₁, h₂⟩ := scaled_unique hm hm' hval
      rw [h₁, h₂]

theorem decimalOfText?_identity (n : Bool) (c : ℕ) (e : ℤ) :
    ∃ n' c' e', decimalOfText? (decimalIdentity n c e) = some (.finite n' c' e') ∧
      (PyDecimal.finite n' c' e').value = (PyDecimal.finite n c e).value := by
  by_cases hc : c = 0
  · subst hc
    exact ⟨false, 0, 0, by simp [decimalIdentity], by simp [PyDecimal.value]⟩
  · obtain ⟨-, hv⟩ := normalized_spec e (Nat.pos_of_ne_zero hc)
    refine ⟨n, _, _, by rw [decimalIdentity, if_neg hc]; exact decimalOfText?_decimalText _ _ _, ?_⟩
    simp only [PyDecimal.value, mul_assoc, hv]

/-! ## Floats -/

/-- The unsigned hexadecimal text of a biased exponent and a fraction. -/
def magnitudeHex (e f : ℕ) : List Char :=
  if e = 0 ∧ f = 0 then "0x0.0p+0".toList
  else '0' :: 'x' :: (if e = 0 then '0' else '1') :: '.' :: (fixedText 16 13 f ++ 'p' ::
    if e = 0 then "-1022".toList
    else if 1023 ≤ e then '+' :: natText (e - 1023)
    else '-' :: natText (1023 - e))

/-- `float.hex()` of a finite float. -/
def floatHex (x : PyFloat) : List Char :=
  (if x.negative then ['-'] else []) ++ magnitudeHex x.exponent.val x.fraction.val

def biased? : List Char → Option ℕ
  | '+' :: ds => (textNat? ds).map fun n => 1023 + n
  | '-' :: ds => (textNat? ds).map fun n => 1023 - n
  | _ => none

/-- Read biased exponent and fraction from an unsigned hexadecimal text. -/
def magnitudeOfHex? (cs : List Char) : Option (ℕ × ℕ) :=
  if cs = "0x0.0p+0".toList then some (0, 0)
  else do
    let cs ← expect? '0' cs
    let cs ← expect? 'x' cs
    let (lead, cs) ← field? 16 1 cs
    let cs ← expect? '.' cs
    let (fraction, cs) ← field? 16 13 cs
    let cs ← expect? 'p' cs
    let e ← biased? cs
    return (if lead = 0 then 0 else e, fraction)

/-- A float of the given sign from its exponent and fraction. -/
def floatOf? (negative : Bool) (m : ℕ × ℕ) : Option PyFloat :=
  if h : m.1 < 2048 ∧ m.2 < 2 ^ 52 then some ⟨negative, ⟨m.1, h.1⟩, ⟨m.2, h.2⟩⟩ else none

/-- `float.fromhex` on the texts of `float.hex()`. -/
def floatOfHex? : List Char → Option PyFloat
  | '-' :: cs => (magnitudeOfHex? cs).bind (floatOf? true)
  | cs => (magnitudeOfHex? cs).bind (floatOf? false)

theorem biased?_neg_natText {e : ℕ} (h : ¬ 1023 ≤ e) :
    biased? ('-' :: natText (1023 - e)) = some e := by
  have : 1023 - (1023 - e) = e := by omega
  simp [biased?, this]

theorem biased?_pos_natText {e : ℕ} (h : 1023 ≤ e) :
    biased? ('+' :: natText (e - 1023)) = some e := by
  have : 1023 + (e - 1023) = e := by omega
  simp [biased?, this]

theorem magnitudeOfHex?_magnitudeHex {e f : ℕ} (hf : f < 16 ^ 13) :
    magnitudeOfHex? (magnitudeHex e f) = some (e, f) := by
  by_cases h0 : e = 0 ∧ f = 0
  · obtain ⟨rfl, rfl⟩ := h0
    rfl
  · have hfield : ∀ r, field? 16 13 (fixedText 16 13 f ++ r) = some (f, r) :=
      fun r => field?_fixedText (by decide) (by decide) hf r
    have hlead : ∀ r, field? 16 1 ('0' :: r) = some (0, r) :=
      fun r => field?_fixedText (n := 0) (by decide) (by decide) (by decide) r
    have hlead' : ∀ r, field? 16 1 ('1' :: r) = some (1, r) :=
      fun r => field?_fixedText (n := 1) (by decide) (by decide) (by decide) r
    -- the text is longer than that of zero
    have hne : magnitudeHex e f ≠ "0x0.0p+0".toList := by
      intro h
      have hlen := congrArg List.length h
      rw [magnitudeHex, if_neg h0] at hlen
      simp only [length_cons, length_append, length_fixedText] at hlen
      have : "0x0.0p+0".toList.length = 8 := by decide
      omega
    rw [magnitudeOfHex?, if_neg hne, magnitudeHex, if_neg h0]
    by_cases he : e = 0
    · subst he
      have hb : biased? ['-', '1', '0', '2', '2'] = some 1 := by decide
      simp [hlead, hfield, hb]
    · by_cases hbig : 1023 ≤ e
      · simp [he, hbig, hlead', hfield, biased?_pos_natText hbig]
      · simp [he, hbig, hlead', hfield, biased?_neg_natText hbig]

@[simp] theorem floatOfHex?_floatHex (x : PyFloat) : floatOfHex? (floatHex x) = some x := by
  obtain ⟨n, ⟨e, he⟩, ⟨f, hf⟩⟩ := x
  have h : magnitudeOfHex? (magnitudeHex e f) = some (e, f) :=
    magnitudeOfHex?_magnitudeHex (lt_of_lt_of_le hf (by decide))
  have hof : ∀ n, floatOf? n (e, f) = some ⟨n, ⟨e, he⟩, ⟨f, hf⟩⟩ := fun n => dif_pos ⟨he, hf⟩
  cases n with
  | true =>
    show (magnitudeOfHex? (magnitudeHex e f)).bind (floatOf? true) = _
    rw [h]; exact hof true
  | false =>
    have hhead : ∃ cs, magnitudeHex e f = '0' :: cs := by
      unfold magnitudeHex; split_ifs <;> exact ⟨_, rfl⟩
    obtain ⟨cs, hcs⟩ := hhead
    show floatOfHex? (magnitudeHex e f) = _
    rw [hcs] at h ⊢
    show (magnitudeOfHex? ('0' :: cs)).bind (floatOf? false) = _
    rw [h]; exact hof false

theorem floatHex_injective : Function.Injective floatHex := fun x y h => by
  have := floatOfHex?_floatHex x
  rw [h, floatOfHex?_floatHex] at this
  exact (Option.some.inj this).symm

/-! ## Datetimes -/

/-- `value.astimezone(UTC)`; leaving the years 1 to 9999 is an overflow. -/
def PyDateTime.astimezone (d : PyDateTime) (offset : ℤ) : Except PyError Instant :=
  let us := (d.wall.val : ℤ) - offset
  if h : 0 ≤ us ∧ us < instantLimit then .ok ⟨us.toNat, by omega⟩
  else .error ⟨.overflowError, "date value out of range"⟩

/-- The UTC instant of an aware `datetime`. -/
def PyDateTime.instant (d : PyDateTime) : Except PyError Instant :=
  match d.utcoffset with
  | none => .error (valueError "datetimes in canonical data must be timezone-aware")
  | some offset => d.astimezone offset

/-- A `datetime` in UTC. -/
def PyDateTime.utc (t : Instant) : PyDateTime := ⟨t, some 0, none⟩

@[simp] theorem instant_utc (t : Instant) : (PyDateTime.utc t).instant = .ok t := by
  simp only [PyDateTime.instant, PyDateTime.utc, PyDateTime.astimezone]
  simp

end ChartingPlatform
