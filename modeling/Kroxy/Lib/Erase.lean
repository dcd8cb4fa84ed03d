import Kroxy.Lib.Program

/-!
# `Kroxy.Lib.Erase`: programs that carry more state than they need

A program over `σ` and a program over `τ` do the same, up to a relation `R` between their
states, when from related states they return the same value or stop with the same failure, in
related states again. Then the part of `σ` that `R` does not speak of has no influence on what
the program does.

`Erases.bind` and `Erases.get` prove it along the program. `Erases.peek` and `Erases.silent` are
the rules for the statements that only the larger program has.
-/

set_option autoImplicit false

namespace Kroxy.Lib

variable {ε σ τ α β : Type} {R : σ → τ → Prop}

/-- The same outcome, in related states. -/
inductive Matches (R : σ → τ → Prop) : EStateM.Result ε σ α → EStateM.Result ε τ α → Prop where
  | ok {s : σ} {t : τ} (a : α) (h : R s t) : Matches R (.ok a s) (.ok a t)
  | error {s : σ} {t : τ} (e : ε) (h : R s t) : Matches R (.error e s) (.error e t)

/-- Up to `R`, the program `x` is the program `y`. -/
def Erases (R : σ → τ → Prop) (x : EStateM ε σ α) (y : EStateM ε τ α) : Prop :=
  ∀ s t, R s t → Matches R (x s) (y t)

namespace Erases

/-- Where the larger program returns, so does the smaller one. -/
theorem of_ok {x : EStateM ε σ α} {y : EStateM ε τ α} (h : Erases R x y) {s s' : σ} {t : τ}
    {a : α} (hs : R s t) (hx : x s = .ok a s') : ∃ t', y t = .ok a t' ∧ R s' t' := by
  have hmatch := h s t hs
  rw [hx] at hmatch
  generalize y t = result at hmatch ⊢
  cases hmatch with
  | ok a h => exact ⟨_, rfl, h⟩

/-- Where the larger program fails, so does the smaller one. -/
theorem of_error {x : EStateM ε σ α} {y : EStateM ε τ α} (h : Erases R x y) {s s' : σ} {t : τ}
    {e : ε} (hs : R s t) (hx : x s = .error e s') : ∃ t', y t = .error e t' ∧ R s' t' := by
  have hmatch := h s t hs
  rw [hx] at hmatch
  generalize y t = result at hmatch ⊢
  cases hmatch with
  | error e h => exact ⟨_, rfl, h⟩

/-- Both programs fail alike. -/
theorem throw (e : ε) :
    Erases R (throw e : EStateM ε σ α) (throw e : EStateM ε τ α) := fun _ _ hs => .error e hs

/-- Sequences erase to sequences. -/
theorem bind {x : EStateM ε σ α} {y : EStateM ε τ α} {f : α → EStateM ε σ β}
    {g : α → EStateM ε τ β} (hx : Erases R x y) (hf : ∀ a, Erases R (f a) (g a)) :
    Erases R (x >>= f) (y >>= g) := by
  intro s t hs
  cases h : x s with
  | ok a s' =>
      obtain ⟨t', hy, hs'⟩ := hx.of_ok hs h
      rw [bind_of_ok h, bind_of_ok hy]
      exact hf a s' t' hs'
  | error e s' =>
      obtain ⟨t', hy, hs'⟩ := hx.of_error hs h
      rw [bind_of_error h, bind_of_error hy]
      exact .error e hs'

/-- Only the larger program reads its state. -/
theorem peek {f : σ → EStateM ε σ α} {y : EStateM ε τ α} (h : ∀ s, Erases R (f s) y) :
    Erases R (get >>= f) y := by
  intro s t hs
  rw [get_bind]
  exact h s s t hs

/-- Both programs read their state. -/
theorem get {f : σ → EStateM ε σ α} {g : τ → EStateM ε τ α}
    (h : ∀ s t, R s t → Erases R (f s) (g t)) : Erases R (get >>= f) (get >>= g) := by
  intro s t hs
  rw [get_bind, get_bind]
  exact h s t hs s t hs

/-- A statement that keeps the relation is not seen. -/
theorem silent {f : σ → σ} {x : Unit → EStateM ε σ α} {y : EStateM ε τ α}
    (hf : ∀ s t, R s t → R (f s) t) (hx : Erases R (x ()) y) :
    Erases R (modify f >>= x) y := fun s t hs => hx (f s) t (hf s t hs)

end Erases

end Kroxy.Lib
