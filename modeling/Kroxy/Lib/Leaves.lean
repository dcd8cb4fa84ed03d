import Kroxy.Lib.Program

/-!
# `Kroxy.Lib.Leaves`: what a program does not change

`Leaves f x` says that `x` leaves what `f` reads of the state as it was, whether it returns or
fails. With an `f` that is a difference of two parts of the state, it says that the two change
together. The rules follow the program, and `Leaves.ends` goes back to `Ends` where a part of a
program has to be taken as a whole.
-/

set_option autoImplicit false

namespace Kroxy.Lib

variable {ε σ τ α β : Type}

/-- The program leaves what `f` reads as it was. -/
def Leaves (f : σ → τ) (x : EStateM ε σ α) : Prop :=
  ∀ s, Ends x (fun _ s' => f s' = f s) (fun _ s' => f s' = f s) s

namespace Leaves

variable {f : σ → τ} {x : EStateM ε σ α} {s : σ} {v : τ}

/-- From a state where `f` reads `v`, the program ends where it does. -/
theorem ends (h : Leaves f x) (hs : f s = v) :
    Ends x (fun _ s' => f s' = v) (fun _ s' => f s' = v) s :=
  hs ▸ h s

/-- What `g` reads is left alone when it follows from what `f` reads. -/
theorem of_imp {κ : Type} {g : σ → κ} (hfg : ∀ s s', f s' = f s → g s' = g s)
    (h : Leaves f x) : Leaves g x := fun s =>
  (h s).imp (fun _ s' => hfg s s') fun _ s' => hfg s s'

/-- A value leaves everything. -/
theorem pure (a : α) : Leaves f (Pure.pure a : EStateM ε σ α) := fun _ => rfl

/-- So does a failure. -/
theorem throw (e : ε) : Leaves f (throw e : EStateM ε σ α) := fun _ => rfl

/-- A change that `f` does not see. -/
theorem modify {g : σ → σ} (h : ∀ s, f (g s) = f s) :
    Leaves f (modify g : EStateM ε σ Unit) := fun s => h s

/-- Two programs that leave `f` one after the other. -/
theorem bind {g : α → EStateM ε σ β} (hx : Leaves f x) (hg : ∀ a, Leaves f (g a)) :
    Leaves f (x >>= g) := fun s =>
  Ends.bind ((hx s).imp (fun a _ hs => (hg a).ends hs) fun _ _ hs => hs)

/-- A read, and what follows for any state. -/
theorem get {g : σ → EStateM ε σ α} (hg : ∀ s, Leaves f (g s)) :
    Leaves f (get >>= g) := fun s => hg s s

end Leaves

end Kroxy.Lib
