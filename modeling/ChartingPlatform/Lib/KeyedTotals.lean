/-
  Totals under keys: a dictionary that is filled by `totals[key] += term`, every
  addition rounded by an arithmetic.
-/
import ChartingPlatform.Lib.DecimalContexts
import ChartingPlatform.Lib.Table

namespace Lib

open List

variable {α κ : Type} [DecidableEq κ]

/-- `sum((term(a) for a in l), t)`. -/
def totalFrom (arith : Arithmetic) (term : α → Except PyError ℚ) (t : ℚ) (l : List α) :
    Except PyError ℚ :=
  l.foldlM (fun t a => do arith (t + (← term a))) t

def totalOf (totals : List (κ × ℚ)) (k : κ) : ℚ := ((rowWith Prod.fst k totals).map Prod.snd).getD 0

/-- `totals[k] += x`. -/
def addAt (arith : Arithmetic) (totals : List (κ × ℚ)) (k : κ) (x : ℚ) :
    Except PyError (List (κ × ℚ)) := do
  let t ← arith (totalOf totals k + x)
  return upsert Prod.fst (k, t) totals

structure Totals (arith : Arithmetic) (term : α → Except PyError ℚ) (key : α → κ) (l : List α)
    (totals : List (κ × ℚ)) : Prop where
  total : ∀ k, totalFrom arith term 0 (l.filter fun a => key a = k) = .ok (totalOf totals k)
  mem_keys : ∀ k, k ∈ totals.map Prod.fst ↔ k ∈ l.map key
  nodup : (totals.map Prod.fst).Nodup

section
variable {arith : Arithmetic} {term : α → Except PyError ℚ} {key : α → κ} {l : List α}
  {totals totals' : List (κ × ℚ)} {k j : κ} {a : α} {t x y : ℚ}

theorem totalFrom_cons : totalFrom arith term t (a :: l) =
    term a >>= fun x => arith (t + x) >>= fun t' => totalFrom arith term t' l := by
  unfold totalFrom
  rw [foldlM_cons, bind_assoc]

theorem totalFrom_append_singleton : totalFrom arith term t (l ++ [a]) =
    totalFrom arith term t l >>= fun t' => term a >>= fun x => arith (t' + x) := by
  unfold totalFrom
  rw [foldlM_append]
  simp only [foldlM_cons, foldlM_nil, bind_pure]

theorem totalOf_upsert : totalOf (upsert Prod.fst (j, x) totals) k =
    if j = k then x else totalOf totals k := by
  unfold totalOf
  rw [rowWith_upsert]
  split_ifs with h
  · rfl
  · rfl

theorem totalOf_of_notMem (h : k ∉ totals.map Prod.fst) : totalOf totals k = 0 := by
  unfold totalOf
  rw [rowWith_eq_none.2 h]
  rfl

theorem totalOf_eq (hn : (totals.map Prod.fst).Nodup) (h : (k, x) ∈ totals) :
    totalOf totals k = x := by
  unfold totalOf
  rw [(rowWith_eq_some hn).2 ⟨h, rfl⟩]
  rfl

theorem totalOf_perm (hn : (totals.map Prod.fst).Nodup) (hp : totals.Perm totals') :
    totalOf totals k = totalOf totals' k := by
  unfold totalOf
  rw [rowWith_perm hp hn]

theorem totalOf_filter (hn : (totals.map Prod.fst).Nodup) :
    totalOf (totals.filter fun e => e.2 ≠ 0) k = totalOf totals k := by
  have hn' : ((totals.filter fun e => e.2 ≠ 0).map Prod.fst).Nodup :=
    hn.sublist (filter_sublist.map _)
  by_cases hk : k ∈ totals.map Prod.fst
  · obtain ⟨⟨k, x⟩, hmem, rfl⟩ := mem_map.1 hk
    rw [totalOf_eq hn hmem]
    by_cases hx : x = 0
    · rw [totalOf_of_notMem, hx]
      intro hk'
      obtain ⟨⟨j, y⟩, hmem', rfl⟩ := mem_map.1 hk'
      rw [mem_filter, decide_eq_true_eq] at hmem'
      exact hmem'.2 ((totalOf_eq hn hmem'.1).symm.trans ((totalOf_eq hn hmem).trans hx))
    · exact totalOf_eq hn' (mem_filter.2 ⟨hmem, by simpa using hx⟩)
  · rw [totalOf_of_notMem hk, totalOf_of_notMem]
    exact fun hk' => hk ((filter_sublist.map Prod.fst).subset hk')

theorem addAt_eq_ok : addAt arith totals k x = .ok totals' ↔
    ∃ t, arith (totalOf totals k + x) = .ok t ∧ totals' = upsert Prod.fst (k, t) totals := by
  unfold addAt
  rw [bind_eq_ok]
  simp only [pure_eq_ok, Except.ok.injEq, eq_comm]

theorem Totals.nil : Totals arith term key [] [] := ⟨fun _ => rfl, by simp, nodup_nil⟩

theorem Totals.add (h : Totals arith term key l totals) (hx : term a = .ok x)
    (hadd : addAt arith totals (key a) x = .ok totals') :
    Totals arith term key (l ++ [a]) totals' := by
  obtain ⟨t, ht, rfl⟩ := addAt_eq_ok.1 hadd
  refine ⟨fun k => ?_, fun k => ?_, nodup_upsert h.nodup⟩
  · rw [filter_append, totalOf_upsert]
    by_cases hk : key a = k
    · subst hk
      rw [filter_cons_of_pos (by simp), filter_nil, totalFrom_append_singleton, h.total,
        ok_bind, hx, ok_bind, ht, if_pos rfl]
    · rw [filter_cons_of_neg (by simpa using hk), filter_nil, append_nil, h.total,
        if_neg hk]
  · rw [map_key_upsert, map_append, map_singleton, mem_append, mem_singleton]
    split_ifs with hmem
    · rw [h.mem_keys]
      constructor
      · exact .inl
      · rintro (hk | rfl)
        · exact hk
        · exact (h.mem_keys _).1 hmem
    · rw [mem_append, h.mem_keys, mem_singleton]

theorem Totals.exists_lt_iff (h : Totals arith term key l totals) (hx : 0 ≤ x) :
    (∃ e ∈ totals, x < e.2) ↔ ∃ k, x < totalOf totals k := by
  constructor
  · rintro ⟨⟨k, y⟩, hmem, hlt⟩
    exact ⟨k, by rwa [totalOf_eq h.nodup hmem]⟩
  · rintro ⟨k, hlt⟩
    by_cases hk : k ∈ totals.map Prod.fst
    · obtain ⟨⟨j, y⟩, hmem, rfl⟩ := mem_map.1 hk
      rw [totalOf_eq h.nodup hmem] at hlt
      exact ⟨_, hmem, hlt⟩
    · rw [totalOf_of_notMem hk] at hlt
      exact absurd hx hlt.not_ge

end

/-! ## Exact totals -/

/-- `totals[k] += x`, without rounding. -/
def addTotal (totals : List (κ × ℚ)) (k : κ) (x : ℚ) : List (κ × ℚ) :=
  upsert Prod.fst (k, totalOf totals k + x) totals

def totalsBy (key : α → κ) (term : α → ℚ) (l : List α) : List (κ × ℚ) :=
  l.foldl (fun totals a => addTotal totals (key a) (term a)) []

section
variable {key : α → κ} {term : α → ℚ} {l l' : List α} {k : κ} {a : α}

theorem totalsBy_append_singleton : totalsBy key term (l ++ [a]) =
    addTotal (totalsBy key term l) (key a) (term a) := by
  unfold totalsBy
  rw [foldl_append]
  rfl

theorem totalOf_totalsBy : totalOf (totalsBy key term l) k =
    ((l.filter fun a => key a = k).map term).sum := by
  induction l using List.reverseRecOn with
  | nil => rfl
  | append_singleton l a ih =>
    rw [totalsBy_append_singleton, addTotal, totalOf_upsert, filter_append]
    by_cases hk : key a = k
    · rw [if_pos hk, hk, ih, filter_cons_of_pos (by simpa using hk), map_append,
        sum_append]
      simp
    · rw [if_neg hk, ih, filter_cons_of_neg (by simpa using hk), filter_nil,
        append_nil]

theorem mem_keys_totalsBy : k ∈ (totalsBy key term l).map Prod.fst ↔ k ∈ l.map key := by
  induction l using List.reverseRecOn with
  | nil => rfl
  | append_singleton l a ih =>
    rw [totalsBy_append_singleton, addTotal, map_key_upsert, map_append, map_singleton,
      mem_append, mem_singleton, ← ih]
    split_ifs with hmem
    · exact ⟨.inl, fun h => h.elim id fun heq => heq ▸ hmem⟩
    · rw [mem_append, mem_singleton]

theorem totalOf_totalsBy_perm (h : l.Perm l') :
    totalOf (totalsBy key term l) k = totalOf (totalsBy key term l') k := by
  rw [totalOf_totalsBy, totalOf_totalsBy]
  exact ((h.filter _).map term).sum_eq

end

/-! ## Sums in a decimal context -/

namespace DecimalContext

variable (c : DecimalContext)

def sumFrom (t : ℚ) (xs : List ℚ) : ℚ := xs.foldl (fun t x => c.value (t + x)) t

def sum (xs : List ℚ) : ℚ := c.sumFrom 0 xs

variable {c} {xs : List ℚ} {t s limit : ℚ} {e : ℤ} {term : α → Except PyError ℚ}

theorem sumFrom_cons {x : ℚ} : c.sumFrom t (x :: xs) = c.sumFrom (c.value (t + x)) xs := rfl

theorem eq_sumFrom {f : α → ℚ} {l : List α}
    (hterm : ∀ a ∈ l, ∀ x, term a = .ok x → x = f a) (h : totalFrom c.round term t l = .ok s) :
    s = c.sumFrom t (l.map f) := by
  induction l generalizing t with
  | nil =>
    cases h
    rfl
  | cons a l ih =>
    simp only [totalFrom_cons, bind_eq_ok, round_eq_ok] at h
    obtain ⟨x, hx, _, ⟨-, rfl⟩, h⟩ := h
    rw [hterm a mem_cons_self x hx] at h
    exact ih (fun b hb => hterm b (mem_cons_of_mem _ hb)) h

theorem value_of_totalFrom {l : List α} (ht : c.value t = t)
    (h : totalFrom c.round term t l = .ok s) : c.value s = s := by
  induction l generalizing t with
  | nil =>
    cases h
    exact ht
  | cons a l ih =>
    simp only [totalFrom_cons, bind_eq_ok, round_eq_ok] at h
    obtain ⟨x, -, _, ⟨-, rfl⟩, h⟩ := h
    exact ih value_value h

theorem sumFrom_filter (ht : c.value t = t) :
    c.sumFrom t (xs.filter fun x => x ≠ 0) = c.sumFrom t xs := by
  induction xs generalizing t with
  | nil => rfl
  | cons x xs ih =>
    by_cases hx : x = 0
    · rw [filter_cons_of_neg (by simpa using hx), ih ht, sumFrom_cons, hx, add_zero, ht]
    · rw [filter_cons_of_pos (by simpa using hx), sumFrom_cons, sumFrom_cons, ih value_value]

theorem sumFrom_of_short {m : ℤ} {ns : List ℤ} (hpos : 0 ≤ m) (hns : ∀ n ∈ ns, 0 ≤ n)
    (hshort : m + ns.sum < 10 ^ c.digits) (he : c.least ≤ e) :
    c.sumFrom (m * 10 ^ e) (ns.map fun n : ℤ => (n : ℚ) * 10 ^ e) = (m + ns.sum : ℤ) * 10 ^ e := by
  induction ns generalizing m with
  | nil =>
    rw [sum_nil, add_zero]
    rfl
  | cons n ns ih =>
    rw [sum_cons] at hshort ⊢
    have hn := hns n mem_cons_self
    have hns' : ∀ n ∈ ns, 0 ≤ n := fun n hn => hns n (mem_cons_of_mem _ hn)
    have hrest := sum_nonneg hns'
    have habs : |m + n| < 10 ^ c.digits := by
      rw [abs_of_nonneg (by omega)]
      omega
    have hvalue : c.value (m * 10 ^ e + n * 10 ^ e) = ((m + n : ℤ) : ℚ) * 10 ^ e := by
      rw [← add_mul, ← Int.cast_add]
      exact value_of_short habs he
    rw [map_cons, sumFrom_cons, hvalue, ih (by omega) hns' (by omega), add_assoc]

theorem le_sumFrom (ht : c.value t = t) (hxs : ∀ x ∈ xs, 0 ≤ x) : t ≤ c.sumFrom t xs := by
  induction xs generalizing t with
  | nil => exact le_rfl
  | cons x xs ih =>
    have hle : t ≤ c.value (t + x) := by
      have := c.value_mono (le_add_of_nonneg_right (hxs x mem_cons_self) : t ≤ t + x)
      rwa [ht] at this
    exact hle.trans (ih value_value fun y hy => hxs y (mem_cons_of_mem _ hy))

/-- **A sum that stays below a limit** by its rounding errors is not above it. -/
theorem sumFrom_le (he : c.least ≤ e) (hlimit : limit < 10 ^ (e + c.digits)) (ht : 0 ≤ t)
    (hxs : ∀ x ∈ xs, 0 ≤ x) (h : t + xs.sum + xs.length * (10 ^ e / 2) ≤ limit) :
    c.sumFrom t xs ≤ limit := by
  have hunit : (0 : ℚ) < 10 ^ e := by positivity
  induction xs generalizing t with
  | nil => simpa [sumFrom] using h
  | cons x xs ih =>
    have hx := hxs x mem_cons_self
    have hxs' : ∀ y ∈ xs, 0 ≤ y := fun y hy => hxs y (mem_cons_of_mem _ hy)
    have hsum := sum_nonneg hxs'
    rw [sum_cons, length_cons, Nat.cast_succ, add_mul, one_mul] at h
    have hpos : 0 ≤ (xs.length : ℚ) * (10 ^ e / 2) := by positivity
    have hsmall : |t + x| < 10 ^ (e + c.digits) := by
      rw [abs_of_nonneg (by linarith)]
      linarith
    have herror := (abs_le.1 (abs_value_sub_le he hsmall)).2
    rw [sumFrom_cons]
    exact ih (value_nonneg (by linarith)) hxs' (by linarith)

/-- **A rounded sum below a limit** loses at most the rounding errors. -/
theorem sum_le_of_sumFrom_le (he : c.least ≤ e) (hlimit : limit < 10 ^ (e + c.digits)) (ht : 0 ≤ t)
    (hxs : ∀ x ∈ xs, 0 ≤ x) (h : c.sumFrom t xs ≤ limit) :
    t + xs.sum ≤ limit + xs.length * (10 ^ e / 2) := by
  induction xs generalizing t with
  | nil => simpa [sumFrom] using h
  | cons x xs ih =>
    have hx := hxs x mem_cons_self
    have hxs' : ∀ y ∈ xs, 0 ≤ y := fun y hy => hxs y (mem_cons_of_mem _ hy)
    rw [sumFrom_cons] at h
    have hbelow : c.value (t + x) ≤ limit := (le_sumFrom value_value hxs').trans h
    have hsmall : |t + x| < 10 ^ (e + c.digits) := by
      rw [abs_of_nonneg (by linarith)]
      by_contra hge
      have hpower : c.value (10 ^ (e + c.digits)) = 10 ^ (e + c.digits) := by
        have := value_of_short (c := c) (n := 1) (e := e + c.digits) (by
          rw [abs_one]
          exact one_lt_pow₀ (by norm_num) (Nat.one_le_iff_ne_zero.1 c.digits_pos)) (by omega)
        simpa using this
      have := c.value_mono (not_lt.1 hge)
      rw [hpower] at this
      linarith
    have herror := (abs_le.1 (abs_value_sub_le he hsmall)).1
    have := ih (value_nonneg (by linarith)) hxs' h
    rw [sum_cons, length_cons, Nat.cast_succ, add_mul, one_mul]
    linarith

end DecimalContext

end Lib
