import Kroxy.Lib.Program

/-!
# `Kroxy.Lib.Fails`: when a program stops with a given failure

`Fails e x s` says that `x`, started in `s`, stops with the failure `e`. There is one
equivalence for each way a program is put together, and they are simp lemmas: unfolding a
program and simplifying gives the exact condition under which it fails so. A part that cannot
fail with `e` drops out.
-/

set_option autoImplicit false

namespace Kroxy.Lib

variable {ε σ α β : Type} {e : ε} {s : σ}

/-- Started in `s`, the program stops with `e`. -/
def Fails (e : ε) (x : EStateM ε σ α) (s : σ) : Prop := ∃ s', x s = .error e s'

/-- A value is no failure. -/
@[simp] theorem fails_pure (a : α) : Fails e (pure a : EStateM ε σ α) s ↔ False :=
  iff_of_false nofun id

/-- A failure is the error that was raised. -/
@[simp] theorem fails_throw (e' : ε) : Fails e (throw e' : EStateM ε σ α) s ↔ e' = e := by
  constructor
  · rintro ⟨s', h⟩
    cases h
    rfl
  · rintro rfl
    exact ⟨s, rfl⟩

/-- A change of the state is no failure. -/
@[simp] theorem fails_modify (f : σ → σ) : Fails e (modify f : EStateM ε σ Unit) s ↔ False :=
  iff_of_false nofun id

/-- Nor is a new state. -/
@[simp] theorem fails_set (t : σ) : Fails e (set t : EStateM ε σ Unit) s ↔ False :=
  iff_of_false nofun id

/-- A sequence fails in its first part, or in the second, started where the first ended. -/
theorem fails_bind {x : EStateM ε σ α} {f : α → EStateM ε σ β} :
    Fails e (x >>= f) s ↔ Fails e x s ∨ ∃ a s', x s = .ok a s' ∧ Fails e (f a) s' := by
  unfold Fails
  cases hx : x s with
  | ok a s' =>
      rw [bind_of_ok hx]
      constructor
      · intro h
        exact Or.inr ⟨a, s', rfl, h⟩
      · rintro (⟨t, h⟩ | ⟨b, t, h, hf⟩)
        · cases h
        · cases h
          exact hf
  | error e' s' => simp [bind_of_error hx]

/-- What stands behind a failure is not run. -/
@[simp] theorem fails_throw_bind {e' : ε} {f : α → EStateM ε σ β} :
    Fails e ((throw e' : EStateM ε σ α) >>= f) s ↔ e' = e :=
  fails_throw (s := s) e'

/-- A read passes the state on. -/
@[simp] theorem fails_get_bind {f : σ → EStateM ε σ α} :
    Fails e ((get : EStateM ε σ σ) >>= f) s ↔ Fails e (f s) s := Iff.rfl

/-- A change passes on the changed state. -/
@[simp] theorem fails_modify_bind {f : σ → σ} {g : Unit → EStateM ε σ α} :
    Fails e ((modify f : EStateM ε σ Unit) >>= g) s ↔ Fails e (g ()) (f s) := Iff.rfl

/-- And `set` the new one. -/
@[simp] theorem fails_set_bind {t : σ} {g : Unit → EStateM ε σ α} :
    Fails e ((set t : EStateM ε σ Unit) >>= g) s ↔ Fails e (g ()) t := Iff.rfl

/-- Behind a part that cannot fail with `e`, only the rest can. -/
theorem not_fails_bind {x : EStateM ε σ α} {f : α → EStateM ε σ β} (hx : ¬ Fails e x s)
    (hf : ∀ a s', ¬ Fails e (f a) s') : ¬ Fails e (x >>= f) s := by
  rw [fails_bind]
  rintro (h | ⟨a, s', -, h⟩)
  · exact hx h
  · exact hf a s' h

end Kroxy.Lib
