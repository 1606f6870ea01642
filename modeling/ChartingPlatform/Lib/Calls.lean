/-
  Programs that call a service, and their runs among the steps of others.

  A program is the tree of what it does with each answer.
-/
import Mathlib.Data.List.Basic

namespace Lib

/-- A program that asks `Q` and gets `A`, and then returns or raises. -/
inductive Calls (Q A ε α : Type) where
  | done (result : Except ε α)
  | call (query : Q) (next : A → Calls Q A ε α)

namespace Calls

variable {Q A ε α β σ E : Type}

def bind : Calls Q A ε α → (α → Calls Q A ε β) → Calls Q A ε β
  | .done (.ok a), f => f a
  | .done (.error e), _ => .done (.error e)
  | .call q next, f => .call q fun a => (next a).bind f

instance : Monad (Calls Q A ε) where
  pure a := .done (.ok a)
  bind := Calls.bind

def ask (q : Q) : Calls Q A ε A := .call q fun a => .done (.ok a)

def result (oracle : Q → Except ε A) : Calls Q A ε α → Except ε α
  | .done r => r
  | .call q next =>
    match oracle q with
    | .ok a => (next a).result oracle
    | .error e => .error e

/-- The runs of a program from a state, with the events of others between its calls. -/
inductive Answers (step : σ → E → σ) (asks : Q → E → Prop) (reply : σ → E → Except ε A) :
    σ → Calls Q A ε α → List E → Except ε α → Prop
  | done {s r} : Answers step asks reply s (.done r) [] r
  | other {s p e es r} : Answers step asks reply (step s e) p es r →
      Answers step asks reply s p (e :: es) r
  | call {s q next e es a r} : asks q e → reply s e = .ok a →
      Answers step asks reply (step s e) (next a) es r →
        Answers step asks reply s (.call q next) (e :: es) r
  | raise {s q next e es x} : asks q e → reply s e = .error x →
      Answers step asks reply s (.call q next) (e :: es) (.error x)

/-- **A program whose calls are answered as by an oracle** has the oracle's result. -/
theorem answers_of_agree {step : σ → E → σ} {asks : Q → E → Prop} {reply : σ → E → Except ε A}
    {oracle : Q → Except ε A} {s : σ} {p : Calls Q A ε α} {es : List E} {r : Except ε α}
    (h : Answers step asks reply s p es r)
    (hagree : ∀ pre e post q, es = pre ++ e :: post → asks q e →
      reply (pre.foldl step s) e = oracle q) : r = p.result oracle := by
  induction h with
  | done => rfl
  | @other s p e es r _ ih =>
    refine ih fun pre d post q hes hd => ?_
    exact hagree (e :: pre) d post q (by rw [hes, List.cons_append]) hd
  | @call s q next e es a r hq ha _ ih =>
    have hfirst : reply s e = oracle q := hagree [] e es q rfl hq
    rw [result, ← hfirst, ha]
    refine ih fun pre d post q' hes hd => ?_
    exact hagree (e :: pre) d post q' (by rw [hes, List.cons_append]) hd
  | @raise s q next e es x hq hx =>
    have hfirst : reply s e = oracle q := hagree [] e es q rfl hq
    rw [result, ← hfirst, hx]

end Calls

end Lib
