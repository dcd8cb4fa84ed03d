import Mathlib.Init

/-!
# `Kroxy.Lib.Program`: pre- and postconditions of programs that can stop early

A program over a mutable state either returns a value or stops with a failure, and the
state survives both. `Ends x Q E s` says where `x` ends when it is started in `s`: in a
normal result that satisfies `Q`, or in a failure whose state satisfies `E`.

There is one rule for each way a program is put together (`Ends.pure`, `Ends.bind`,
`Ends.throw`, `Ends.get`, `Ends.modify`) and `Ends.imp` weakens both postconditions. A proof
about a program applies the rules in the program's own order.
-/

set_option autoImplicit false

namespace Kroxy.Lib

variable {ε σ α β : Type}

/-- Started in `s`, the program returns a value that satisfies `Q`, or it fails and `E`
holds. -/
def Ends (x : EStateM ε σ α) (Q : α → σ → Prop) (E : ε → σ → Prop) (s : σ) : Prop :=
  match x s with
  | .ok a s' => Q a s'
  | .error e s' => E e s'

/-- A sequence whose first part returned goes on with the second. -/
theorem bind_of_ok {x : EStateM ε σ α} {f : α → EStateM ε σ β} {s s' : σ} {a : α}
    (h : x s = .ok a s') : (x >>= f) s = f a s' := by
  show EStateM.bind x f s = f a s'
  rw [EStateM.bind, h]

/-- A sequence whose first part failed has failed. -/
theorem bind_of_error {x : EStateM ε σ α} {f : α → EStateM ε σ β} {s s' : σ} {e : ε}
    (h : x s = .error e s') : (x >>= f) s = .error e s' := by
  show EStateM.bind x f s = .error e s'
  rw [EStateM.bind, h]

/-- A sequence that starts by reading the state goes on with it. -/
theorem get_bind {f : σ → EStateM ε σ α} {s : σ} :
    ((get : EStateM ε σ σ) >>= f) s = f s s := rfl

namespace Ends

variable {Q Q' : α → σ → Prop} {E E' : ε → σ → Prop} {s : σ}

/-- A value ends the program where it is. -/
theorem pure {a : α} (h : Q a s) : Ends (Pure.pure a) Q E s := h

/-- So does a failure. -/
theorem throw {e : ε} (h : E e s) : Ends (throw e : EStateM ε σ α) Q E s := h

/-- A read returns the state. -/
theorem get {Q : σ → σ → Prop} (h : Q s s) : Ends (EStateM.get : EStateM ε σ σ) Q E s := h

/-- A change ends in the changed state. -/
theorem modify {Q : Unit → σ → Prop} {f : σ → σ} (h : Q () (f s)) :
    Ends (modify f : EStateM ε σ Unit) Q E s := h

/-- A sequence ends where its second part ends, started where the first part ended. -/
theorem bind {x : EStateM ε σ α} {f : α → EStateM ε σ β} {Q : β → σ → Prop}
    (h : Ends x (fun a s' => Ends (f a) Q E s') E s) : Ends (x >>= f) Q E s := by
  show Ends (EStateM.bind x f) Q E s
  unfold Ends at h ⊢
  unfold EStateM.bind
  cases hx : x s with
  | ok a s' =>
      rw [hx] at h
      exact h
  | error e s' =>
      rw [hx] at h
      exact h

/-- Both postconditions may be weakened. -/
theorem imp {x : EStateM ε σ α} (h : Ends x Q E s) (hQ : ∀ a s', Q a s' → Q' a s')
    (hE : ∀ e s', E e s' → E' e s') : Ends x Q' E' s := by
  unfold Ends at h ⊢
  cases hx : x s with
  | ok a s' =>
      rw [hx] at h
      exact hQ a s' h
  | error e s' =>
      rw [hx] at h
      exact hE e s' h

/-- Both postconditions may speak of the run itself. -/
theorem withRun {x : EStateM ε σ α} (h : Ends x Q E s) :
    Ends x (fun a s' => Q a s' ∧ x s = .ok a s') (fun e s' => E e s' ∧ x s = .error e s') s := by
  unfold Ends at h ⊢
  cases hx : x s with
  | ok a s' =>
      rw [hx] at h
      exact ⟨h, rfl⟩
  | error e s' =>
      rw [hx] at h
      exact ⟨h, rfl⟩

/-- What is known when the program returned normally. -/
theorem of_ok {x : EStateM ε σ α} (h : Ends x Q E s) {a : α} {s' : σ}
    (hx : x s = .ok a s') : Q a s' := by
  unfold Ends at h
  rw [hx] at h
  exact h

/-- A program that cannot fail returns a value. -/
theorem exists_ok {x : EStateM ε σ α} (h : Ends x Q (fun _ _ => False) s) :
    ∃ a s', x s = .ok a s' ∧ Q a s' := by
  unfold Ends at h
  cases hx : x s with
  | ok a s' =>
      rw [hx] at h
      exact ⟨a, s', rfl, h⟩
  | error e s' =>
      rw [hx] at h
      exact h.elim

/-- What is known when the program failed. -/
theorem of_error {x : EStateM ε σ α} (h : Ends x Q E s) {e : ε} {s' : σ}
    (hx : x s = .error e s') : E e s' := by
  unfold Ends at h
  rw [hx] at h
  exact h

end Ends

end Kroxy.Lib
