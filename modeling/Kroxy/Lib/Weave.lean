import Mathlib.Data.List.Forall2
import Mathlib.Logic.Function.Basic

/-!
# `Kroxy.Lib.Weave`: one history of several parties

A history is a list of entries, each under the party it belongs to. `ownPart k` is the part of
party `k`, in order. `exists_weave` goes the other way: when every party has a list that goes
with its part of a history, there is a history of the new entries that goes with the old one and
of which the lists are the parts.
-/

set_option autoImplicit false

namespace Kroxy.Lib

variable {κ α β γ : Type}

/-! ### Lists that go together -/

/-- Two lists that go with a third go with each other. -/
theorem forall₂_join {R : α → γ → Prop} {S : β → γ → Prop} {T : α → β → Prop}
    (hT : ∀ a b c, R a c → S b c → T a b) {l : List α} {m : List β} {n : List γ}
    (hl : List.Forall₂ R l n) (hm : List.Forall₂ S m n) : List.Forall₂ T l m := by
  induction hl generalizing m with
  | nil => exact List.forall₂_nil_right_iff.mp hm ▸ .nil
  | cons hac _ ih =>
      obtain ⟨b, rest, hbc, hrest, rfl⟩ := List.forall₂_cons_right_iff.mp hm
      exact .cons (hT _ _ _ hac hbc) (ih hrest)

/-- Lists that go together by way of some element go together by way of some list. -/
theorem forall₂_middle {R : α → β → Prop} {S : β → γ → Prop} {l : List α} {n : List γ}
    (h : List.Forall₂ (fun a c => ∃ b, R a b ∧ S b c) l n) :
    ∃ m, List.Forall₂ R l m ∧ List.Forall₂ S m n := by
  induction h with
  | nil => exact ⟨[], .nil, .nil⟩
  | cons hac _ ih =>
      obtain ⟨b, hab, hbc⟩ := hac
      obtain ⟨m, hR, hS⟩ := ih
      exact ⟨b :: m, .cons hab hR, .cons hbc hS⟩

/-! ### Parts of a history -/

variable [DecidableEq κ]

/-- The entries of party `k`. -/
def ownPart (k : κ) (l : List (κ × α)) : List α :=
  (l.filter fun e => e.1 = k).map Prod.snd

/-- An own entry is part of the own part. -/
theorem ownPart_cons_self (k : κ) (a : α) (l : List (κ × α)) :
    ownPart k ((k, a) :: l) = a :: ownPart k l := by
  simp [ownPart]

/-- Another's entry is not. -/
theorem ownPart_cons_of_ne {j k : κ} (h : j ≠ k) (a : α) (l : List (κ × α)) :
    ownPart k ((j, a) :: l) = ownPart k l := by
  simp [ownPart, h]

/-- Without own entries the own part is empty. -/
theorem ownPart_eq_nil {k : κ} {l : List (κ × α)} (h : ∀ e ∈ l, e.1 ≠ k) : ownPart k l = [] := by
  simpa [ownPart] using fun j a hmem => h (j, a) hmem

/-- Every entry is in the part of its owner. -/
theorem mem_ownPart {e : κ × α} {l : List (κ × α)} (h : e ∈ l) : e.2 ∈ ownPart e.1 l :=
  List.mem_map.mpr ⟨e, List.mem_filter.mpr ⟨h, by simp⟩, rfl⟩

/-- Parts are mapped with their history. -/
theorem ownPart_map (f : κ → α → β) (k : κ) (l : List (κ × α)) :
    ownPart k (l.map fun e => (e.1, f e.1 e.2)) = (ownPart k l).map (f k) := by
  induction l with
  | nil => rfl
  | cons e l ih =>
      obtain ⟨j, a⟩ := e
      rw [List.map_cons]
      by_cases hj : j = k
      · subst hj
        rw [ownPart_cons_self, ownPart_cons_self, List.map_cons, ih]
      · rw [ownPart_cons_of_ne hj, ownPart_cons_of_ne hj, ih]

/-- Entries of a history and of its parts, related by `R`, come from a history of pairs. -/
theorem exists_weave {R : κ → α → β → Prop} {l : List (κ × α)} {parts : κ → List β}
    (h : ∀ k, List.Forall₂ (R k) (ownPart k l) (parts k)) :
    ∃ l' : List (κ × β), (∀ k, ownPart k l' = parts k) ∧
      List.Forall₂ (fun e e' => e'.1 = e.1 ∧ R e.1 e.2 e'.2) l l' := by
  induction l generalizing parts with
  | nil => exact ⟨[], fun k => (List.forall₂_nil_left_iff.mp (h k)).symm, .nil⟩
  | cons e l ih =>
      obtain ⟨k, a⟩ := e
      -- The first entry of its party comes first, and the rest is woven from what is left.
      have hk := h k
      rw [ownPart_cons_self] at hk
      obtain ⟨b, rest, hab, hrest, heq⟩ := List.forall₂_cons_left_iff.mp hk
      have hparts : ∀ j, List.Forall₂ (R j) (ownPart j l) (Function.update parts k rest j) := by
        intro j
        by_cases hj : j = k
        · subst hj
          rw [Function.update_self]
          exact hrest
        · rw [Function.update_of_ne hj, ← ownPart_cons_of_ne (Ne.symm hj) a l]
          exact h j
      obtain ⟨l', hown, hall⟩ := ih hparts
      refine ⟨(k, b) :: l', fun j => ?_, .cons ⟨rfl, hab⟩ hall⟩
      by_cases hj : j = k
      · subst hj
        rw [ownPart_cons_self, hown, Function.update_self, heq]
      · rw [ownPart_cons_of_ne (Ne.symm hj), hown, Function.update_of_ne hj]

end Kroxy.Lib
