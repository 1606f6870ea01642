/-
  Computations that may raise: the exceptions, guards, and the inversion lemmas
  with which a successful computation is taken apart step by step.
-/
import Mathlib

namespace Lib

open List

/-- The exception classes a computation may raise. -/
inductive ErrorKind where
  | valueError
  | typeError
  | overflowError
  | integrityError
  | keyError
  deriving DecidableEq, Repr

structure PyError where
  kind : ErrorKind
  message : String
  deriving DecidableEq, Repr

def valueError (message : String) : PyError := ⟨.valueError, message⟩

def typeError (message : String) : PyError := ⟨.typeError, message⟩

def keyError (message : String) : PyError := ⟨.keyError, message⟩

/-- `if not condition: raise error`. -/
def ensure (condition : Prop) [Decidable condition] (error : PyError) : Except PyError Unit :=
  if condition then .ok () else .error error

variable {ε α β : Type} {f : α → Except ε β} {condition : Prop} {xs : List (Except ε α)}

theorem bind_eq_ok {x : Except ε α} {b : β} :
    x >>= f = .ok b ↔ ∃ a, x = .ok a ∧ f a = .ok b := by
  cases x with
  | error e | ok a => simp [bind, Except.bind]

/-- A scan with one more element. -/
theorem foldlM_concat_eq_ok {σ : Type} {f : σ → α → Except ε σ} {s t : σ} {l : List α} {a : α} :
    (l ++ [a]).foldlM f s = .ok t ↔ ∃ u, l.foldlM f s = .ok u ∧ f u a = .ok t := by
  rw [foldlM_append, bind_eq_ok]
  simp only [foldlM_cons, foldlM_nil, bind_pure]

@[simp] theorem ok_bind (a : α) (f : α → Except ε β) : (Except.ok a >>= f) = f a := rfl

@[simp] theorem error_bind (e : ε) (f : α → Except ε β) :
    (Except.error e >>= f) = Except.error e := rfl

@[simp] theorem pure_eq_ok (a : α) : (pure a : Except ε α) = .ok a := rfl

@[simp] theorem ensure_eq_ok [Decidable condition] {error : PyError} {u : Unit} :
    ensure condition error = .ok u ↔ condition := by
  unfold ensure; split <;> simp [*]

theorem ensure_of [Decidable condition] (h : condition) (error : PyError) :
    ensure condition error = .ok () := if_pos h

theorem ensure_of_not [Decidable condition] (h : ¬ condition) (error : PyError) :
    ensure condition error = .error error := if_neg h

theorem ensure_congr {P Q : Prop} [Decidable P] [Decidable Q] (h : P ↔ Q) (error : PyError) :
    ensure P error = ensure Q error := by
  unfold ensure
  exact if_congr h rfl rfl

theorem map_eq_ok {x : Except ε α} {f : α → β} {b : β} :
    x.map f = .ok b ↔ ∃ a, x = .ok a ∧ f a = b := by
  cases x <;> simp [Except.map]

theorem isOk_iff {x : Except ε α} : x.isOk = true ↔ ∃ a, x = .ok a := by
  cases x <;> simp [Except.isOk, Except.toBool]

/-- What is read off a computation that may raise. -/
theorem toOption_map_eq_some {x : Except ε α} {f : α → β} {b : β} :
    x.toOption.map f = some b ↔ ∃ a, x = .ok a ∧ f a = b := by
  cases x <;> simp [Except.toOption]

theorem toOption_any_eq_true {x : Except ε α} {p : α → Bool} :
    x.toOption.any p = true ↔ ∃ a, x = .ok a ∧ p a = true := by
  cases x <;> simp [Except.toOption]

/-! ## Collecting the results of a loop -/

/-- The values of a list of outcomes, or the first exception among them. -/
def collect : List (Except ε α) → Except ε (List α)
  | [] => .ok []
  | x :: xs => x >>= fun a => collect xs >>= fun as => .ok (a :: as)

theorem collect_eq_ok {as : List α} :
    collect xs = .ok as ↔ xs = as.map .ok := by
  induction xs generalizing as with
  | nil => cases as <;> simp [collect]
  | cons x xs ih =>
    simp only [collect, bind_eq_ok, ih]
    constructor
    · rintro ⟨a, rfl, as', rfl, h⟩
      cases h; rfl
    · intro h
      cases as with
      | nil => simp at h
      | cons a as =>
        rw [map_cons, List.cons.injEq] at h
        exact ⟨a, h.1, as, h.2, rfl⟩

@[simp] theorem collect_map_ok (as : List α) :
    collect (as.map fun a => (.ok a : Except ε α)) = .ok as :=
  collect_eq_ok.2 rfl

theorem ok_mem_map_ok {a : α} {as : List α} : (.ok a : Except ε α) ∈ as.map .ok ↔ a ∈ as :=
  mem_map_of_injective fun _ _ h => Except.ok.inj h

theorem map_of_map_ok {γ : Type} {xs : List α} {bs : List β} {g : β → γ}
    {k : α → γ} (h : xs.map f = bs.map .ok) (hg : ∀ x ∈ xs, ∀ b, f x = .ok b → g b = k x) :
    bs.map g = xs.map k := by
  induction xs generalizing bs with
  | nil =>
    rw [map_nil, eq_comm, map_eq_nil_iff] at h
    rw [h]
    rfl
  | cons x xs ih =>
    cases bs with
    | nil => cases h
    | cons b bs =>
      rw [map_cons, map_cons, List.cons.injEq] at h
      rw [map_cons, map_cons, hg x mem_cons_self b h.1,
        ih h.2 fun x hx => hg x (mem_cons_of_mem _ hx)]

theorem exists_map_ok {xs : List α} (h : ∀ x ∈ xs, ∃ b, f x = .ok b) :
    ∃ bs : List β, xs.map f = bs.map .ok := by
  induction xs with
  | nil => exact ⟨[], rfl⟩
  | cons x xs ih =>
    obtain ⟨b, hb⟩ := h x mem_cons_self
    obtain ⟨bs, hbs⟩ := ih fun x hx => h x (mem_cons_of_mem _ hx)
    exact ⟨b :: bs, by rw [map_cons, map_cons, hb, hbs]⟩

theorem exists_collect (h : ∀ x ∈ xs, ∃ a, x = .ok a) :
    ∃ as, collect xs = .ok as := by
  induction xs with
  | nil => exact ⟨[], rfl⟩
  | cons x xs ih =>
    obtain ⟨a, rfl⟩ := h x mem_cons_self
    obtain ⟨as, has⟩ := ih fun y hy => h y (mem_cons_of_mem _ hy)
    exact ⟨a :: as, by rw [collect, ok_bind, has, ok_bind]⟩

theorem collect_eq_error {e : ε}
    (hmem : .error e ∈ xs) (hall : ∀ e', .error e' ∈ xs → e' = e) : collect xs = .error e := by
  induction xs with
  | nil => cases hmem
  | cons x xs ih =>
    rw [collect]
    cases x with
    | error e' => rw [hall e' mem_cons_self, error_bind]
    | ok a =>
      have hmem' : .error e ∈ xs := by simpa using hmem
      rw [ok_bind, ih hmem' fun e' he' => hall e' (mem_cons_of_mem _ he'), error_bind]

theorem mem_of_collect_eq_error {e : ε} (h : collect xs = .error e) :
    .error e ∈ xs := by
  induction xs with
  | nil => exact absurd h (by simp [collect])
  | cons x xs ih =>
    rw [collect] at h
    cases x with
    | error e' =>
      obtain rfl := Except.error.inj h
      exact mem_cons_self
    | ok a =>
      rw [ok_bind] at h
      cases hxs : collect xs with
      | error e' =>
        rw [hxs] at h
        obtain rfl := Except.error.inj h
        exact mem_cons_of_mem _ (ih hxs)
      | ok as =>
        rw [hxs] at h
        exact absurd h (by simp)

end Lib
