/-
  Latin hypercubes (`experiments.py`), over the exact unit interval and with any function into
  the numbers below `2 ^ 256` as the hash.
-/
import ChartingPlatform.Experiments.SearchDesign

namespace ChartingPlatform

open Lib List

/-! ## The shuffle -/

theorem swapAt_perm {values : List ℕ} {i j : ℕ} (hi : i < values.length) (hj : j < values.length) :
    swapAt values i j ~ values := by
  rw [swapAt, getD_eq_getElem _ _ hi, getD_eq_getElem _ _ hj]
  exact set_set_perm hi hj

theorem foldl_swapAt_perm {other : ℕ → ℕ} (hother : ∀ i, other i ≤ i) {indices values : List ℕ}
    (h : ∀ i ∈ indices, i < values.length) :
    indices.foldl (fun values i => swapAt values i (other i)) values ~ values := by
  induction indices generalizing values with
  | nil => exact List.Perm.refl _
  | cons i is ih =>
    have hi : i < values.length := h i mem_cons_self
    have hstep : swapAt values i (other i) ~ values := swapAt_perm hi ((hother i).trans_lt hi)
    refine (ih fun k hk => ?_).trans hstep
    rw [hstep.length_eq]
    exact h k (mem_cons_of_mem _ hk)

section
variable {sha256 : String → Fin (2 ^ 256)} {n : ℕ} {seed : ℤ} {name : String}

theorem permutation_perm : permutation sha256 n seed name ~ List.range n := by
  refine foldl_swapAt_perm (fun i => Nat.lt_succ_iff.1 (Nat.mod_lt _ i.succ_pos)) fun i hi => ?_
  rw [mem_reverse, List.mem_range'_1] at hi
  rw [length_range]
  omega

/-! ## The coordinates -/

def coordinate (sha256 : String → Fin (2 ^ 256)) (n : ℕ) (seed : ℤ) (name : String) (i : ℕ) : ℚ :=
  ((permutation sha256 n seed name).getD i 0 +
    hashInteger sha256 seed [.str "lhs-jitter", .str name, .int i] / (2 ^ 256 : ℕ)) / n

theorem latinCoordinate_exactly {i : ℕ} :
    latinCoordinate exactly sha256 n seed name i = .ok (coordinate sha256 n seed name i) := rfl

theorem jitter_mem {parts : List PyValue} :
    0 ≤ (hashInteger sha256 seed parts : ℚ) / (2 ^ 256 : ℕ) ∧
      (hashInteger sha256 seed parts : ℚ) / (2 ^ 256 : ℕ) < 1 := by
  refine ⟨div_nonneg (Nat.cast_nonneg _) (Nat.cast_nonneg _), ?_⟩
  rw [div_lt_one (by norm_num)]
  exact_mod_cast (sha256 _).isLt

theorem mem_stratum_iff {p k : ℕ} {j : ℚ} (hn : 0 < n) (hj : 0 ≤ j ∧ j < 1) :
    (k / n : ℚ) ≤ (p + j) / n ∧ (p + j) / n < (k + 1 : ℚ) / n ↔ p = k := by
  have hpos : (0 : ℚ) < n := by exact_mod_cast hn
  rw [div_le_div_iff_of_pos_right hpos, div_lt_div_iff_of_pos_right hpos]
  constructor
  · rintro ⟨hlow, hhigh⟩
    have h₁ : (k : ℚ) < p + 1 := hlow.trans_lt (by linarith)
    have h₂ : (p : ℚ) < k + 1 := lt_of_le_of_lt (by linarith) hhigh
    have h₁' : k < p + 1 := by exact_mod_cast h₁
    have h₂' : p < k + 1 := by exact_mod_cast h₂
    omega
  · rintro rfl
    exact ⟨by linarith, by linarith⟩

theorem existsUnique_stratum {k : ℕ} (hk : k < n) :
    ∃! i, i < n ∧ (k / n : ℚ) ≤ coordinate sha256 n seed name i ∧
      coordinate sha256 n seed name i < (k + 1 : ℚ) / n := by
  have hn : 0 < n := Nat.zero_lt_of_lt hk
  have hperm : permutation sha256 n seed name ~ List.range n := permutation_perm
  have hlength : (permutation sha256 n seed name).length = n := by
    rw [hperm.length_eq, length_range]
  have hplace : ∀ i, i < n → ((k / n : ℚ) ≤ coordinate sha256 n seed name i ∧
      coordinate sha256 n seed name i < (k + 1 : ℚ) / n ↔
        (permutation sha256 n seed name).getD i 0 = k) :=
    fun i _ => mem_stratum_iff hn jitter_mem
  obtain ⟨i, hi, hget⟩ := getElem_of_mem (hperm.mem_iff.2 (mem_range.2 hk))
  have hin : i < n := hlength ▸ hi
  refine ⟨i, ⟨hin, (hplace i hin).2 ?_⟩, ?_⟩
  · rw [getD_eq_getElem _ _ hi, hget]
  · rintro m ⟨hm, hstratum⟩
    have hm' : m < (permutation sha256 n seed name).length := hlength.symm ▸ hm
    have hvalue := (hplace m hm).1 hstratum
    rw [getD_eq_getElem _ _ hm', ← hget] at hvalue
    exact (hperm.nodup_iff.2 nodup_range).getElem_inj_iff.1 hvalue

theorem coordinate_mem {i : ℕ} (hi : i < n) :
    0 ≤ coordinate sha256 n seed name i ∧ coordinate sha256 n seed name i < 1 := by
  have hperm : permutation sha256 n seed name ~ List.range n := permutation_perm
  have hi' : i < (permutation sha256 n seed name).length := by
    rwa [hperm.length_eq, length_range]
  have hplace : (permutation sha256 n seed name).getD i 0 < n := by
    rw [getD_eq_getElem _ _ hi']
    exact mem_range.1 (hperm.mem_iff.1 (getElem_mem hi'))
  obtain ⟨hlow, hhigh⟩ := @jitter_mem sha256 seed [.str "lhs-jitter", .str name, .int i]
  have hle : (((permutation sha256 n seed name).getD i 0 : ℕ) : ℚ) + 1 ≤ n := by exact_mod_cast hplace
  have hpos : (0 : ℚ) < n := by exact_mod_cast Nat.zero_lt_of_lt hi
  unfold coordinate
  rw [div_lt_one hpos]
  exact ⟨div_nonneg (add_nonneg (Nat.cast_nonneg _) hlow) hpos.le, by linarith⟩

end

/-! ## The values -/

inductive DimensionRange.Within : DimensionRange → ParameterValue → Prop
  | choice {values : List PyValue} {hne : values ≠ []} {v : PyValue} (h : v ∈ values) :
    Within (.choices values hne) (.choice v)
  | integer {b : NumericBounds} {n : ℤ} (hintegral : b.integral = true)
    (hlow : b.minimum.value ≤ n) (hhigh : n ≤ b.maximum.value) : Within (.numeric b) (.integer n)
  | decimal {b : NumericBounds} {x : ℚ} (hintegral : b.integral = false)
    (hlow : b.minimum.value ≤ x) (hhigh : x ≤ b.maximum.value) : Within (.numeric b) (.decimal x)

section
variable {d : SearchDimension} {b : NumericBounds} {u : ℚ}

theorem NumericBounds.low_eq (h : b.integral = true) : (b.low : ℚ) = b.minimum.value := (b.whole h).1

theorem NumericBounds.high_eq (h : b.integral = true) : (b.high : ℚ) = b.maximum.value :=
  (b.whole h).2

theorem NumericBounds.low_lt_high (h : b.integral = true) : b.low < b.high := by
  have hlt := b.lt
  rw [← NumericBounds.low_eq h, ← NumericBounds.high_eq h] at hlt
  exact_mod_cast hlt

theorem NumericBounds.sample_within (b : NumericBounds) (h0 : 0 ≤ u) (h1 : u < 1) :
    ∃ v, b.sample exactly u = .ok v ∧ DimensionRange.Within (.numeric b) v := by
  unfold NumericBounds.sample
  cases hintegral : b.integral with
  | true =>
    refine ⟨_, rfl, .integer hintegral ?_ ?_⟩
    · rw [← NumericBounds.low_eq hintegral]
      have hfloor : 0 ≤ ⌊u * (b.high - b.low + 1 : ℤ)⌋ := by
        have hcount : (0 : ℤ) ≤ b.high - b.low + 1 := by
          have := NumericBounds.low_lt_high hintegral
          omega
        exact Int.floor_nonneg.2 (mul_nonneg h0 (by exact_mod_cast hcount))
      have hle := (NumericBounds.low_lt_high hintegral).le
      exact_mod_cast le_min hle (le_add_of_nonneg_right hfloor)
    · rw [← NumericBounds.high_eq hintegral]
      exact_mod_cast min_le_left _ _
  | false =>
    refine ⟨_, rfl, .decimal hintegral ?_ ?_⟩
    · exact le_add_of_nonneg_right (mul_nonneg (sub_nonneg.2 b.lt.le) h0)
    · have := mul_le_mul_of_nonneg_left h1.le (sub_nonneg.2 b.lt.le)
      linarith

theorem SearchDimension.sample_within (d : SearchDimension) (h0 : 0 ≤ u) (h1 : u < 1) :
    ∃ v, d.sample exactly u = .ok v ∧ d.range.Within v := by
  unfold SearchDimension.sample
  rw [ensure_of ⟨h0, h1⟩, ok_bind]
  cases hrange : d.range with
  | choices values hne =>
    refine ⟨_, rfl, .choice ?_⟩
    have hlength : min ⌊u * values.length⌋.toNat (values.length - 1) < values.length := by
      have := length_pos_iff.2 hne
      omega
    rw [getD_eq_getElem _ _ hlength]
    exact getElem_mem hlength
  | numeric b => exact b.sample_within h0 h1

end

/-! ## The hypercube -/

theorem collect_map_eq_ok {ε α β : Type} {f : α → Except ε β} {l : List α} {bs : List β} :
    collect (l.map f) = .ok bs ↔ List.Forall₂ (fun a b => f a = .ok b) l bs := by
  rw [collect_eq_ok, ← List.forall₂_eq_eq_eq, List.forall₂_map_left_iff, List.forall₂_map_right_iff]

theorem forall₂_congr_mem {α β : Type} {R S : α → β → Prop} {l : List α} {bs : List β}
    (h : ∀ a ∈ l, ∀ b, R a b ↔ S a b) : List.Forall₂ R l bs ↔ List.Forall₂ S l bs := by
  induction l generalizing bs with
  | nil => cases bs <;> simp
  | cons a l ih =>
    cases bs with
    | nil => simp
    | cons b bs =>
      rw [List.forall₂_cons, List.forall₂_cons, h a mem_cons_self,
        ih fun a ha => h a (mem_cons_of_mem _ ha)]

/-- A trial of a hypercube samples every dimension at its coordinate. -/
def IsTrial (sha256 : String → Fin (2 ^ 256)) (design : SearchDesign) (n : ℕ) (seed : ℤ) (i : ℕ)
    (row : ParameterSet) : Prop :=
  List.Forall₂ (fun d item => item.1 = d.name ∧
    d.sample exactly (coordinate sha256 n seed d.name i) = .ok item.2 ∧ d.range.Within item.2)
    design.dimensions row

section
variable {sha256 : String → Fin (2 ^ 256)} {design : SearchDesign} {n : ℕ} {seed maxTrials : ℤ}
  {rows : List ParameterSet} {d : SearchDimension} {item : String × ParameterValue} {i : ℕ}

theorem sampled_eq_ok (hi : i < n) :
    (do
      let u ← latinCoordinate exactly sha256 n seed d.name i
      let v ← d.sample exactly u
      return (d.name, v)) = Except.ok item ↔
    item.1 = d.name ∧ d.sample exactly (coordinate sha256 n seed d.name i) = .ok item.2 ∧
      d.range.Within item.2 := by
  obtain ⟨hlow, hhigh⟩ := @coordinate_mem sha256 n seed d.name i hi
  obtain ⟨v, hv, hwithin⟩ := d.sample_within hlow hhigh
  rw [latinCoordinate_exactly, ok_bind, hv, ok_bind]
  constructor
  · intro h
    cases h
    exact ⟨rfl, rfl, hwithin⟩
  · rintro ⟨hname, hvalue, -⟩
    cases hvalue
    rw [← hname]
    rfl

theorem expandSamples_eq_ok :
    expandSamples exactly design (latinCoordinate exactly sha256 n seed) n = .ok rows ↔
      List.Forall₂ (IsTrial sha256 design n seed) (List.range n) rows := by
  unfold expandSamples
  rw [collect_map_eq_ok]
  refine forall₂_congr_mem fun i hi row => ?_
  rw [collect_map_eq_ok]
  exact forall₂_congr_mem fun d _ item => sampled_eq_ok (mem_range.1 hi)

theorem exists_trials :
    ∃ rows, List.Forall₂ (IsTrial sha256 design n seed) (List.range n) rows := by
  have htrial : ∀ i ∈ List.range n, ∃ row, collect (design.dimensions.map fun d => do
      let u ← latinCoordinate exactly sha256 n seed d.name i
      let v ← d.sample exactly u
      return (d.name, v)) = .ok row := by
    intro i hi
    have hitem : ∀ d ∈ design.dimensions, ∃ item : String × ParameterValue, (do
        let u ← latinCoordinate exactly sha256 n seed d.name i
        let v ← d.sample exactly u
        return (d.name, v)) = Except.ok item := by
      intro d _
      obtain ⟨hlow, hhigh⟩ := @coordinate_mem sha256 n seed d.name i (mem_range.1 hi)
      obtain ⟨v, hv, hwithin⟩ := d.sample_within hlow hhigh
      exact ⟨(d.name, v), (sampled_eq_ok (mem_range.1 hi)).2 ⟨rfl, hv, hwithin⟩⟩
    obtain ⟨row, hrow⟩ := exists_map_ok hitem
    exact ⟨row, collect_eq_ok.2 hrow⟩
  obtain ⟨rows, hrows⟩ := exists_map_ok htrial
  exact ⟨rows, expandSamples_eq_ok.1 (collect_eq_ok.2 hrows)⟩

theorem expandParameterSets_latin : expandParameterSets exactly sha256 design .latinHypercube
      (some n) seed maxTrials = .ok rows ↔
    1 ≤ n ∧ (n : ℤ) ≤ maxTrials ∧ List.Forall₂ (IsTrial sha256 design n seed) (List.range n) rows := by
  unfold expandParameterSets checkedCount
  simp only [bind_eq_ok, ensure_eq_ok, pure_eq_ok, Except.ok.injEq]
  rw [← expandSamples_eq_ok]
  constructor
  · rintro ⟨-, -, m, ⟨-, hone, -, hmax, rfl⟩, hrows⟩
    exact ⟨by omega, hmax, hrows⟩
  · rintro ⟨hone, hmax, hrows⟩
    exact ⟨(), by omega, n, ⟨(), by omega, (), hmax, rfl⟩, hrows⟩

end

/-- **A Latin hypercube**, for every hash, design, seed and sample count: the shuffle of each
dimension is a permutation, each of its strata has exactly one of its coordinates, and the
expansion samples every dimension at its coordinates, within its range. -/
theorem latin_hypercube (sha256 : String → Fin (2 ^ 256)) (design : SearchDesign) (n : ℕ)
    (seed maxTrials : ℤ) (hn : 1 ≤ n) :
    (∀ name, permutation sha256 n seed name ~ List.range n) ∧
    (∀ name i, latinCoordinate exactly sha256 n seed name i =
      .ok (coordinate sha256 n seed name i)) ∧
    (∀ name, ∀ k < n, ∃! i, i < n ∧ (k / n : ℚ) ≤ coordinate sha256 n seed name i ∧
      coordinate sha256 n seed name i < (k + 1 : ℚ) / n) ∧
    (∀ rows, expandParameterSets exactly sha256 design .latinHypercube (some n) seed maxTrials =
      .ok rows → List.Forall₂ (IsTrial sha256 design n seed) (List.range n) rows) ∧
    ((n : ℤ) ≤ maxTrials → ∃ rows, expandParameterSets exactly sha256 design .latinHypercube
      (some n) seed maxTrials = .ok rows) := by
  refine ⟨fun _ => permutation_perm, fun _ _ => latinCoordinate_exactly,
    fun _ _ hk => existsUnique_stratum hk, fun rows h => (expandParameterSets_latin.1 h).2.2, ?_⟩
  intro hmax
  obtain ⟨rows, hrows⟩ := @exists_trials sha256 design n seed
  exact ⟨rows, expandParameterSets_latin.2 ⟨hn, hmax, hrows⟩⟩

def periodDimension : SearchDimension where
  name := "period"
  range := .numeric {
    minimum := .finite false 1 0
    maximum := .finite false 5 0
    gridSteps := some 3
    integral := true
    minimum_finite := rfl
    maximum_finite := rfl
    lt := by norm_num [PyDecimal.value]
    two_le_steps := by simp
    whole := fun _ => by norm_num [IsWhole, PyDecimal.value] }
  name_notBlank := by decide

def periodDesign : SearchDesign where
  dimensions := [periodDimension]
  nonempty := cons_ne_nil _ _
  sorted := pairwise_singleton _ _

theorem latin_hypercube_period :
    (∃! i, i < 2 ∧ (1 / 2 : ℚ) ≤ coordinate (fun _ => 0) 2 7 "period" i ∧
      coordinate (fun _ => 0) 2 7 "period" i < (1 + 1 : ℚ) / 2) ∧
    ∃ rows, expandParameterSets exactly (fun _ => 0) periodDesign .latinHypercube (some 2) 7 10 =
      .ok rows := by
  obtain ⟨-, -, hstrata, -, hrows⟩ := latin_hypercube (fun _ => 0) periodDesign 2 7 10 (by decide)
  exact ⟨by simpa using hstrata "period" 1 (by decide), hrows (by decide)⟩

end ChartingPlatform
