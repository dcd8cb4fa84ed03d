import Mathlib.Data.List.Infix

/-!
# `Kroxy.Lib.Prefix`: namespaces cut out of lists by a leading part

Prepending `p` embeds all lists into the lists that start with `p`. Two such images are
disjoint exactly when neither leading part starts with the other (`Incomparable`).

* `append_ne_iff_incomparable`: the images of `p` and `q` share no list exactly when `p`
  and `q` are incomparable.
* `after?`: the inverse of the embedding, `some n` on `p ++ n` and `none` elsewhere
  (`after?_eq_some`).
-/

set_option autoImplicit false

namespace Kroxy.Lib

variable {α : Type}

/-- Neither list starts with the other. -/
def Incomparable (p q : List α) : Prop := ¬ p <+: q ∧ ¬ q <+: p

instance [DecidableEq α] (p q : List α) : Decidable (Incomparable p q) :=
  inferInstanceAs (Decidable (_ ∧ _))

/-- Incomparability goes both ways. -/
theorem Incomparable.symm {p q : List α} (h : Incomparable p q) : Incomparable q p :=
  ⟨h.2, h.1⟩

/-- A list that starts with `p` does not start with an incomparable `q`. Two leading parts
of one list are comparable. -/
theorem Incomparable.not_prefix_append {p q : List α} (h : Incomparable p q) (a : List α) :
    ¬ q <+: p ++ a := by
  intro hq
  rcases List.prefix_or_prefix_of_prefix (List.prefix_append p a) hq with hpq | hqp
  · exact h.1 hpq
  · exact h.2 hqp

/-- Incomparable leading parts never meet. -/
theorem Incomparable.append_ne {p q : List α} (h : Incomparable p q) (a b : List α) :
    p ++ a ≠ q ++ b := fun heq =>
  h.not_prefix_append a (heq ▸ List.prefix_append q b)

/-- The images of two leading parts are disjoint exactly when the parts are incomparable,
already on non-empty lists. When `q = p ++ s`, the lists `s ++ b` and `b` collide. -/
theorem append_ne_iff_incomparable [Nonempty α] (p q : List α) :
    (∀ a b : List α, a ≠ [] → b ≠ [] → p ++ a ≠ q ++ b) ↔ Incomparable p q := by
  constructor
  · intro h
    obtain ⟨x⟩ := ‹Nonempty α›
    constructor
    -- `q` is `p ++ s`, so the shorter part followed by `s` and the longer part meet.
    · rintro ⟨s, rfl⟩
      exact h (s ++ [x]) [x] (by simp) (by simp) (by simp)
    · rintro ⟨s, rfl⟩
      exact h [x] (s ++ [x]) (by simp) (by simp) (by simp)
  · intro h a b _ _
    exact h.append_ne a b

variable [DecidableEq α]

/-- What follows `p` in `l`, when `l` starts with `p`. -/
def after? (p l : List α) : Option (List α) :=
  if p <+: l then some (l.drop p.length) else none

/-- Behind the prefix stands the rest. -/
@[simp] theorem after?_append (p n : List α) : after? p (p ++ n) = some n := by
  simp [after?]

/-- There is a rest exactly for the texts with the prefix. -/
theorem after?_eq_some {p l n : List α} : after? p l = some n ↔ l = p ++ n := by
  constructor
  · intro h
    unfold after? at h
    split at h
    · rename_i hp
      rw [← Option.some.inj h, List.prefix_append_drop hp]
      simp
    · cases h
  · rintro rfl
    exact after?_append p n

/-- And none for the others. -/
theorem after?_eq_none {p l : List α} : after? p l = none ↔ ¬ p <+: l := by
  simp [after?]

/-- An incomparable leading part hides the list. -/
theorem Incomparable.after?_append_eq_none {p q : List α} (h : Incomparable p q)
    (n : List α) : after? q (p ++ n) = none :=
  after?_eq_none.mpr (h.not_prefix_append n)

end Kroxy.Lib
