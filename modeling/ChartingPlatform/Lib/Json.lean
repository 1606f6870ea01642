/-
  JSON trees of booleans, integers, strings and arrays, their compact text,
  and the reader of that text.
-/
import ChartingPlatform.Lib.Text

namespace Lib

open List

/-- A JSON tree without objects, floats and `null`. -/
inductive Json where
  | bool (b : Bool)
  | int (z : ℤ)
  | str (s : String)
  | arr (items : List Json)

namespace Json

/-! ## Writing -/

/-- The text of one character inside a JSON string. -/
def escapeChar (c : Char) : List Char :=
  if c = '"' then ['\\', '"']
  else if c = '\\' then ['\\', '\\']
  else if c = '\n' then ['\\', 'n']
  else if c = '\r' then ['\\', 'r']
  else if c = '\t' then ['\\', 't']
  else if c = '\x0c' then ['\\', 'f']
  else if c = '\x08' then ['\\', 'b']
  else if c.toNat < 32 then '\\' :: 'u' :: fixedText 16 4 c.toNat
  else [c]

def quote (s : String) : List Char := '"' :: s.toList.flatMap escapeChar ++ ['"']

mutual

def text : Json → List Char
  | .bool true => ['t', 'r', 'u', 'e']
  | .bool false => ['f', 'a', 'l', 's', 'e']
  | .int z => intText z
  | .str s => quote s
  | .arr [] => ['[', ']']
  | .arr (x :: xs) => '[' :: text x ++ textRest xs

/-- The text of the array elements after the first one, with the closing bracket. -/
def textRest : List Json → List Char
  | [] => [']']
  | x :: xs => ',' :: text x ++ textRest xs

end

/-- `json.dumps` with the separators `","` and `":"` and `ensure_ascii=False`. -/
def dumps (j : Json) : String := String.ofList (text j)

/-! ## Reading -/

def unescape (c : Char) : Option Char :=
  if c = '"' ∨ c = '\\' ∨ c = '/' then some c
  else if c = 'n' then some '\n'
  else if c = 'r' then some '\r'
  else if c = 't' then some '\t'
  else if c = 'f' then some '\x0c'
  else if c = 'b' then some '\x08'
  else none

/-- Read the characters of a string up to its closing quote. -/
def readChars : List Char → Option (List Char × List Char)
  | [] => none
  | c :: r =>
    if c = '"' then some ([], r)
    else if c = '\\' then
      match r with
      | 'u' :: h₁ :: h₂ :: h₃ :: h₄ :: r =>
        (fixed? 16 4 [h₁, h₂, h₃, h₄]).bind fun n =>
          (readChars r).map fun p => (Char.ofNat n :: p.1, p.2)
      | e :: r => (unescape e).bind fun c => (readChars r).map fun p => (c :: p.1, p.2)
      | [] => none
    else (readChars r).map fun p => (c :: p.1, p.2)

def readNat (cs : List Char) : Option (ℕ × List Char) :=
  (textNat? (cs.takeWhile (isDigitOf 10))).map fun n => (n, cs.dropWhile (isDigitOf 10))

mutual

/-- Read one value; the fuel bounds the number of nested calls. -/
def readValue : ℕ → List Char → Option (Json × List Char)
  | 0, _ => none
  | n + 1, cs =>
    match cs with
    | 't' :: 'r' :: 'u' :: 'e' :: r => some (.bool true, r)
    | 'f' :: 'a' :: 'l' :: 's' :: 'e' :: r => some (.bool false, r)
    | '"' :: r => (readChars r).map fun p => (.str (String.ofList p.1), p.2)
    | '[' :: ']' :: r => some (.arr [], r)
    | '[' :: r =>
      (readValue n r).bind fun p => (readRest n p.2).map fun q => (.arr (p.1 :: q.1), q.2)
    | '-' :: r => (readNat r).map fun p => (.int (-(p.1 : ℤ)), p.2)
    | cs => (readNat cs).map fun p => (.int p.1, p.2)

/-- Read the array elements after the first one and the closing bracket. -/
def readRest : ℕ → List Char → Option (List Json × List Char)
  | 0, _ => none
  | n + 1, cs =>
    match cs with
    | ']' :: r => some ([], r)
    | ',' :: r => (readValue n r).bind fun p => (readRest n p.2).map fun q => (p.1 :: q.1, q.2)
    | _ => none

end

/-- `json.loads` on the texts of this kind of tree; `none` is a decoding error. -/
def loads (s : String) : Option Json :=
  match readValue s.toList.length s.toList with
  | some (j, []) => some j
  | _ => none

/-! ## Reading what was written -/

/-- The text that follows a numeral must not start with a digit. -/
def NoDigit (r : List Char) : Prop := ∀ c ∈ r.head?, isDigitOf 10 c = false

theorem noDigit_cons {c : Char} (h : isDigitOf 10 c = false) (r : List Char) : NoDigit (c :: r) := by
  simpa [NoDigit] using h

theorem readNat_natText (n : ℕ) {r : List Char} (hr : NoDigit r) :
    readNat (natText n ++ r) = some (n, r) := by
  have hall : ∀ c ∈ natText n, isDigitOf 10 c = true := fun _ hc => isDigitOf_of_mem_natText hc
  have htake : r.takeWhile (isDigitOf 10) = [] := by
    cases r with
    | nil => rfl
    | cons c r => simp [hr c (by simp)]
  have hdrop : r.dropWhile (isDigitOf 10) = r := by
    cases r with
    | nil => rfl
    | cons c r => simp [hr c (by simp)]
  rw [readNat, takeWhile_append_of_pos hall, dropWhile_append_of_pos hall, htake, hdrop]
  simp

theorem readChars_escapeChar (c : Char) (r : List Char) :
    readChars (escapeChar c ++ r) = (readChars r).map fun p => (c :: p.1, p.2) := by
  unfold escapeChar
  split_ifs with h₁ h₂ h₃ h₄ h₅ h₆ h₇ h₈
  · subst h₁; simp [readChars, unescape]
  · subst h₂; simp [readChars, unescape]
  · subst h₃; simp [readChars, unescape]
  · subst h₄; simp [readChars, unescape]
  · subst h₅; simp [readChars, unescape]
  · subst h₆; simp [readChars, unescape]
  · subst h₇; simp [readChars, unescape]
  · have hf : fixed? 16 4 (fixedText 16 4 c.toNat) = some c.toNat :=
      fixed?_fixedText (by decide) (by decide) (by omega)
    obtain ⟨a, b, d, e, hw⟩ : ∃ a b d e, fixedText 16 4 c.toNat = [a, b, d, e] :=
      ⟨_, _, _, _, rfl⟩
    rw [hw] at hf ⊢
    simp [readChars, hf]
  · rw [singleton_append, readChars.eq_def]; simp [h₁, h₂]

theorem readChars_quote (s : String) (r : List Char) :
    readChars (s.toList.flatMap escapeChar ++ '"' :: r) = some (s.toList, r) := by
  induction s.toList with
  | nil => rw [flatMap_nil, nil_append, readChars.eq_def]; simp
  | cons c cs ih =>
    rw [flatMap_cons, append_assoc, readChars_escapeChar, ih]
    rfl

mutual

/-- A bound for the fuel that reading the text of `j` takes. -/
def size : Json → ℕ
  | .arr (x :: xs) => 1 + size x + sizeRest xs
  | _ => 1

def sizeRest : List Json → ℕ
  | [] => 1
  | x :: xs => 1 + size x + sizeRest xs

end

theorem text_head (j : Json) : ∃ c r, text j = c :: r ∧ c ≠ ']' := by
  match j with
  | .bool true => exact ⟨_, _, rfl, by decide⟩
  | .bool false => exact ⟨_, _, rfl, by decide⟩
  | .int z =>
    cases hz : intText z with
    | nil =>
      cases z with
      | ofNat n => exact absurd hz (natText_ne_nil n)
      | negSucc n => simp [intText] at hz
    | cons c r =>
      refine ⟨c, r, by simp [text, hz], fun hc => ?_⟩
      exact notMem_intText (c := ']') (by decide) (by decide) z (by simp [hz, hc])
  | .str s => exact ⟨_, _, rfl, by decide⟩
  | .arr [] => exact ⟨_, _, rfl, by decide⟩
  | .arr (x :: xs) => exact ⟨_, _, rfl, by decide⟩

theorem textRest_noDigit (xs : List Json) (r : List Char) : NoDigit (textRest xs ++ r) := by
  cases xs with
  | nil => exact noDigit_cons (by decide) r
  | cons x xs => exact noDigit_cons (by decide) _

theorem readValue_int (n : ℕ) (z : ℤ) {r : List Char} (hr : NoDigit r) :
    readValue (n + 1) (intText z ++ r) = some (.int z, r) := by
  cases z with
  | negSucc k =>
    rw [intText, cons_append, readValue, readNat_natText _ hr]
    simp [Int.negSucc_eq]
  | ofNat k =>
    obtain ⟨c, t, ht⟩ := exists_cons_of_ne_nil (natText_ne_nil k)
    have hc : isDigitOf 10 c = true := isDigitOf_of_mem_natText (n := k) (by simp [ht])
    have hread := readNat_natText k hr
    rw [intText, readValue]
    · rw [hread]; rfl
    all_goals
      intros; rename_i h
      rw [ht, cons_append] at h
      injection h with h _
      subst h; exact absurd hc (by decide)

mutual

theorem readValue_text : ∀ (j : Json) (n : ℕ) (r : List Char), size j ≤ n → NoDigit r →
    readValue n (text j ++ r) = some (j, r)
  | .bool true, n + 1, r, _, _ => by simp [text, readValue]
  | .bool false, n + 1, r, _, _ => by simp [text, readValue]
  | .int z, n + 1, r, _, hr => by rw [text]; exact readValue_int n z hr
  | .str s, n + 1, r, _, _ => by
    simp only [text, quote, cons_append, append_assoc, nil_append, readValue]
    rw [readChars_quote]; simp
  | .arr [], n + 1, r, _, _ => by simp [text, readValue]
  | .arr (x :: xs), n + 1, r, h, hr => by
    simp only [size] at h
    obtain ⟨c, t, hx, hc⟩ := text_head x
    have hv := readValue_text x n (textRest xs ++ r) (by omega) (textRest_noDigit xs r)
    have hrest := readRest_text xs n r (by omega)
    simp only [text, cons_append, append_assoc]
    rw [readValue]
    · rw [hv]; simp [hrest]
    · intro r' h'
      rw [hx, cons_append] at h'
      injection h' with h' _
      exact hc h'
  | .bool _, 0, _, h, _ | .int _, 0, _, h, _ | .str _, 0, _, h, _ | .arr [], 0, _, h, _ => by
    simp [size] at h
  | .arr (_ :: _), 0, _, h, _ => by simp [size] at h

theorem readRest_text : ∀ (xs : List Json) (n : ℕ) (r : List Char), sizeRest xs ≤ n →
    readRest n (textRest xs ++ r) = some (xs, r)
  | [], n + 1, r, _ => by simp [textRest, readRest]
  | x :: xs, n + 1, r, h => by
    simp only [sizeRest] at h
    have hv := readValue_text x n (textRest xs ++ r) (by omega) (textRest_noDigit xs r)
    have hrest := readRest_text xs n r (by omega)
    simp [textRest, readRest, hv, hrest]
  | [], 0, _, h => by simp [sizeRest] at h
  | _ :: _, 0, _, h => by simp [sizeRest] at h

end

theorem length_text_pos (j : Json) : 1 ≤ (text j).length := by
  obtain ⟨c, r, h, -⟩ := text_head j
  simp [h]

mutual

theorem size_le_length : ∀ j : Json, size j ≤ (text j).length
  | .bool b => by cases b <;> simp [size, text]
  | .int z => by simpa [size] using length_text_pos (.int z)
  | .str s => by simpa [size] using length_text_pos (.str s)
  | .arr [] => by simp [size, text]
  | .arr (x :: xs) => by
    have h₁ := size_le_length x
    have h₂ := sizeRest_le_length xs
    simp only [size, text, length_append, length_cons]; omega

theorem sizeRest_le_length : ∀ xs : List Json, sizeRest xs ≤ (textRest xs).length
  | [] => by simp [sizeRest, textRest]
  | x :: xs => by
    have h₁ := size_le_length x
    have h₂ := sizeRest_le_length xs
    simp only [sizeRest, textRest, length_append, length_cons]; omega

end

@[simp] theorem loads_dumps (j : Json) : loads (dumps j) = some j := by
  have h := readValue_text j (text j).length [] (size_le_length j) (by simp [NoDigit])
  rw [append_nil] at h
  simp [loads, dumps, h]

/-- **The compact text determines the tree.** -/
theorem dumps_injective : Function.Injective dumps := fun a b h => by
  have := loads_dumps a
  rw [h, loads_dumps] at this
  exact (Option.some.inj this).symm

/-- Trees are compared by their texts. -/
instance : DecidableEq Json := fun a b =>
  decidable_of_iff (dumps a = dumps b) ⟨fun h => dumps_injective h, congrArg dumps⟩

end Json

end Lib
