/-
  Numerals as character lists, and the readers that invert them.
-/
import Mathlib

namespace Lib

open List

/-! ## Digits -/

/-- The value of a digit character (lower-case hexadecimal above nine). -/
def digitVal (c : Char) : ℕ := if c.toNat < 58 then c.toNat - 48 else c.toNat - 87

/-- `c` is a digit of base `b ≤ 16`. -/
def isDigitOf (b : ℕ) (c : Char) : Bool := (List.range b).any fun d => Nat.digitChar d == c

/-- Read big-endian digits in base `b`. -/
def readDigits (b : ℕ) (cs : List Char) : ℕ := cs.foldl (fun n c => n * b + digitVal c) 0

theorem digitVal_digitChar {d : ℕ} (h : d < 16) : digitVal (Nat.digitChar d) = d := by
  interval_cases d <;> decide

variable {b : ℕ} {c : Char} {n : ℕ}

theorem isDigitOf_iff :
    isDigitOf b c = true ↔ ∃ d < b, Nat.digitChar d = c := by
  simp [isDigitOf]

theorem isDigitOf_digitChar {d : ℕ} (h : d < b) : isDigitOf b (Nat.digitChar d) = true :=
  isDigitOf_iff.2 ⟨d, h, rfl⟩

theorem readDigits_concat (b : ℕ) (cs : List Char) (c : Char) :
    readDigits b (cs ++ [c]) = readDigits b cs * b + digitVal c := by
  simp [readDigits]

/-! ## Decimal numerals -/

/-- The decimal numeral of `n`. -/
def natText (n : ℕ) : List Char := Nat.toDigits 10 n

def intText : ℤ → List Char
  | .ofNat n => natText n
  | .negSucc n => '-' :: natText (n + 1)

def textNat? (cs : List Char) : Option ℕ :=
  if cs ≠ [] ∧ cs.all (isDigitOf 10) then some (readDigits 10 cs) else none

/-- Read an optional minus sign and a run of decimal digits. -/
def textInt? : List Char → Option ℤ
  | '-' :: cs => (textNat? cs).map fun n => -(n : ℤ)
  | cs => (textNat? cs).map Int.ofNat

theorem natText_of_lt (h : n < 10) : natText n = [Nat.digitChar n] :=
  Nat.toDigits_of_lt_base h

theorem natText_of_le (h : 10 ≤ n) :
    natText n = natText (n / 10) ++ [Nat.digitChar (n % 10)] :=
  Nat.toDigits_of_base_le (by decide) h

theorem natText_ne_nil (n : ℕ) : natText n ≠ [] := Nat.toDigits_ne_nil

theorem isDigitOf_of_mem_natText : ∀ {c : Char}, c ∈ natText n → isDigitOf 10 c = true := by
  induction n using Nat.strong_induction_on with
  | _ n ih =>
    intro c hc
    by_cases h : n < 10
    · rw [natText_of_lt h, mem_singleton] at hc
      exact hc ▸ isDigitOf_digitChar h
    · rw [natText_of_le (by omega), mem_append, mem_singleton] at hc
      rcases hc with hc | rfl
      · exact ih (n / 10) (by omega) hc
      · exact isDigitOf_digitChar (Nat.mod_lt n (by decide))

theorem readDigits_natText (n : ℕ) : readDigits 10 (natText n) = n := by
  induction n using Nat.strong_induction_on with
  | _ n ih =>
    by_cases h : n < 10
    · rw [natText_of_lt h]
      simpa [readDigits] using digitVal_digitChar (show n < 16 by omega)
    · rw [natText_of_le (by omega), readDigits_concat, ih (n / 10) (by omega),
        digitVal_digitChar (by omega)]
      omega

@[simp] theorem textNat?_natText (n : ℕ) : textNat? (natText n) = some n := by
  have h : (natText n).all (isDigitOf 10) = true :=
    all_eq_true.2 fun _ hc => isDigitOf_of_mem_natText hc
  rw [textNat?, if_pos ⟨natText_ne_nil n, h⟩, readDigits_natText]

theorem natText_injective : Function.Injective natText := fun m n h => by
  have := textNat?_natText m
  rw [h, textNat?_natText] at this
  exact (Option.some.inj this).symm

theorem notMem_natText (h : isDigitOf 10 c = false) (n : ℕ) : c ∉ natText n :=
  fun hc => by simp [isDigitOf_of_mem_natText hc] at h

@[simp] theorem textInt?_intText (z : ℤ) : textInt? (intText z) = some z := by
  cases z with
  | ofNat n =>
    have hd : (natText n).head? ≠ some '-' := fun h =>
      notMem_natText (c := '-') (by decide) n (mem_of_mem_head? (by simp [h]))
    rw [intText, textInt?]
    · simp
    · intro cs hcs; simp [hcs] at hd
  | negSucc n => simp [intText, textInt?, Int.negSucc_eq]

theorem intText_injective : Function.Injective intText := fun m n h => by
  have := textInt?_intText m
  rw [h, textInt?_intText] at this
  exact (Option.some.inj this).symm

theorem notMem_intText (h : isDigitOf 10 c = false) (hm : c ≠ '-') (z : ℤ) :
    c ∉ intText z := by
  cases z with
  | ofNat n => exact notMem_natText h n
  | negSucc n => simp [intText, hm, notMem_natText h]

/-! ## Fixed-width numerals -/

/-- The `w` lowest digits of `n` in base `b`, most significant first. -/
def fixedText (b : ℕ) : ℕ → ℕ → List Char
  | 0, _ => []
  | w + 1, n => fixedText b w (n / b) ++ [Nat.digitChar (n % b)]

/-- Read exactly `w` digits of base `b`. -/
def fixed? (b w : ℕ) (cs : List Char) : Option ℕ :=
  if cs.length = w ∧ cs.all (isDigitOf b) then some (readDigits b cs) else none

@[simp] theorem length_fixedText (b w n : ℕ) : (fixedText b w n).length = w := by
  induction w generalizing n with
  | zero => rfl
  | succ w ih => simp [fixedText, ih]

theorem isDigitOf_of_mem_fixedText (hb : 0 < b) :
    ∀ {w n : ℕ}, c ∈ fixedText b w n → isDigitOf b c = true
  | 0, _, h => by simp [fixedText] at h
  | w + 1, n, h => by
    rw [fixedText, mem_append, mem_singleton] at h
    rcases h with h | rfl
    · exact isDigitOf_of_mem_fixedText hb h
    · exact isDigitOf_digitChar (Nat.mod_lt n hb)

theorem readDigits_fixedText (hb : 0 < b) (hb' : b ≤ 16) :
    ∀ {w n : ℕ}, n < b ^ w → readDigits b (fixedText b w n) = n
  | 0, n, h => by
    have : n = 0 := by simpa using h
    simp [fixedText, readDigits, this]
  | w + 1, n, h => by
    have hlt : n / b < b ^ w := Nat.div_lt_of_lt_mul (by rwa [pow_succ'] at h)
    have hd : n % b < 16 := lt_of_lt_of_le (Nat.mod_lt n hb) hb'
    rw [fixedText, readDigits_concat, readDigits_fixedText hb hb' hlt, digitVal_digitChar hd,
      Nat.div_add_mod']

theorem fixed?_fixedText {w : ℕ} (hb : 0 < b) (hb' : b ≤ 16) (h : n < b ^ w) :
    fixed? b w (fixedText b w n) = some n := by
  have hall : (fixedText b w n).all (isDigitOf b) = true :=
    all_eq_true.2 fun _ hc => isDigitOf_of_mem_fixedText hb hc
  rw [fixed?, if_pos ⟨length_fixedText b w n, hall⟩, readDigits_fixedText hb hb' h]

/-! ## Reading fields in sequence -/

/-- Read `w` digits of base `b` off the front of a text. -/
def field? (b w : ℕ) (cs : List Char) : Option (ℕ × List Char) :=
  (fixed? b w (cs.take w)).map fun n => (n, cs.drop w)

/-- Read one given character off the front of a text. -/
def expect? (c : Char) : List Char → Option (List Char)
  | [] => none
  | x :: r => if x = c then some r else none

@[simp] theorem expect?_cons (c : Char) (r : List Char) : expect? c (c :: r) = some r := by
  simp [expect?]

theorem field?_fixedText {w : ℕ} (hb : 0 < b) (hb' : b ≤ 16) (h : n < b ^ w) (r : List Char) :
    field? b w (fixedText b w n ++ r) = some (n, r) := by
  have ht : (fixedText b w n ++ r).take w = fixedText b w n := by
    rw [take_left' (length_fixedText b w n)]
  have hd : (fixedText b w n ++ r).drop w = r := by
    rw [drop_left' (length_fixedText b w n)]
  rw [field?, ht, hd, fixed?_fixedText hb hb' h]; rfl

/-! ## Blank texts -/

/-- The characters `str.strip()` removes. -/
def isSpace (c : Char) : Bool :=
  (9 ≤ c.toNat && c.toNat ≤ 13) || (28 ≤ c.toNat && c.toNat ≤ 32) || c.toNat = 0x85 ||
    c.toNat = 0xA0 || c.toNat = 0x1680 || (0x2000 ≤ c.toNat && c.toNat ≤ 0x200A) ||
    c.toNat = 0x2028 || c.toNat = 0x2029 || c.toNat = 0x202F || c.toNat = 0x205F ||
    c.toNat = 0x3000

/-- `bool(s.strip())`. -/
def notBlank (s : String) : Bool := s.toList.any fun c => !isSpace c

theorem none_notBlank : ∀ s ∈ (none : Option String), notBlank s = true := nofun

/-- `s.strip()`. -/
def strip (s : String) : String :=
  String.ofList (((s.toList.dropWhile isSpace).reverse.dropWhile isSpace).reverse)

theorem ne_empty_of_notBlank {s : String} (h : notBlank s = true) : s ≠ "" := by
  rintro rfl
  exact absurd h (by decide)

end Lib
