import Mathlib.Algebra.BigOperators.Group.List.Basic
import Mathlib.Algebra.Ring.Int.Defs
import Mathlib.Data.List.Induction

/-!
# `Kroxy.Lib.Interleave`: components over a shared state, in any order of steps

A system is a shared state and a growing list of components. An event belongs to one component
(`own`) or to the shared state (`common`). A step of a component may bring the whole system
down, and then there is no next state. A run is a list of events, so a statement about all lists
is a statement about all interleavings.

* `System.run_induction`, `System.invariant`: what every step keeps holds after every run.
* `System.parts_invariant`: the same for a property of each component together with the shared
  state.
* `System.evolves`: a relation between a component before a run and after it.
* `System.balance`: a quantity of the shared state and a sum over the components that change by
  the same amount in every step.
* `System.Projects`, `System.run_projects`: a system with more shared state whose steps are steps
  of a smaller one, or nothing to it. What holds along all runs of the smaller one holds along
  the runs of both.
* `System.run_alone`: when what the components see of the shared state is changed by common
  events only, the events of the other components can be left out of a run.
-/

set_option autoImplicit false

namespace Kroxy.Lib

/-- Component `i` takes a step, or something happens to all of them. -/
inductive Move (ε γ : Type) where
  | own (i : Nat) (e : ε)
  | common (g : γ)

/-- Does the event matter to component `i`? -/
def Move.concerns {ε γ : Type} (i : Nat) : Move ε γ → Bool
  | .own j _ => j == i
  | .common _ => true

/-- The event as a system with other common events sees it, if it does. -/
def Move.project {ε γ γ' : Type} (proj : γ' → Option γ) : Move ε γ' → Option (Move ε γ)
  | .own i e => some (.own i e)
  | .common y => (proj y).map .common

/-- The steps of a system. -/
structure System (ρ σ ε γ : Type) where
  /-- A step of one component. `none` brings the system down. -/
  act : ρ → σ → ε → Option (ρ × σ)
  /-- A step of the shared state, which may look at the components. -/
  change : ρ → List σ → γ → ρ
  /-- The components that a step of the shared state starts. -/
  spawn : ρ → γ → List σ

/-- The shared state and the components, oldest first. -/
structure Joint (ρ σ : Type) where
  shared : ρ
  parts : List σ

namespace System

variable {ρ σ ε γ : Type} {S : System ρ σ ε γ} {s s' t : Joint ρ σ}

/-- The state after one event. An event of a component that does not exist changes nothing. -/
def step (S : System ρ σ ε γ) (s : Joint ρ σ) : Move ε γ → Option (Joint ρ σ)
  | .own i e =>
      match s.parts[i]? with
      | none => some s
      | some c => (S.act s.shared c e).map fun r => ⟨r.1, s.parts.set i r.2⟩
  | .common g => some ⟨S.change s.shared s.parts g, s.parts ++ S.spawn s.shared g⟩

/-- The state after a sequence of events, unless the system goes down on the way. -/
def run (S : System ρ σ ε γ) (s : Joint ρ σ) (es : List (Move ε γ)) : Option (Joint ρ σ) :=
  es.foldlM S.step s

/-- No event changes nothing. -/
theorem run_nil : S.run s [] = some s := rfl

/-- A run is its first step and the rest. -/
theorem run_cons {e : Move ε γ} {es : List (Move ε γ)} :
    S.run s (e :: es) = (S.step s e).bind (S.run · es) := rfl

/-- A run that gets through gets through its first step. -/
theorem run_cons_eq_some {e : Move ε γ} {es : List (Move ε γ)}
    (h : S.run s (e :: es) = some s') : ∃ t, S.step s e = some t ∧ S.run t es = some s' :=
  Option.bind_eq_some_iff.mp h

/-- Runs compose. -/
theorem run_append {es es' : List (Move ε γ)} :
    S.run s (es ++ es') = (S.run s es).bind (S.run · es') := List.foldlM_append

/-- All that a step can be. -/
theorem step_cases {e : Move ε γ} (h : S.step s e = some s') :
    (∃ i x, e = .own i x ∧ s.parts[i]? = none ∧ s' = s) ∨
    (∃ i x c r c', e = .own i x ∧ s.parts[i]? = some c ∧ S.act s.shared c x = some (r, c') ∧
      s' = ⟨r, s.parts.set i c'⟩) ∨
    (∃ g, e = .common g ∧
      s' = ⟨S.change s.shared s.parts g, s.parts ++ S.spawn s.shared g⟩) := by
  cases e with
  | common g => exact Or.inr (Or.inr ⟨g, rfl, (Option.some.inj h).symm⟩)
  | own i x =>
      cases hi : s.parts[i]? with
      | none =>
          simp only [step, hi, Option.some.injEq] at h
          exact Or.inl ⟨i, x, rfl, hi, h.symm⟩
      | some c =>
          simp only [step, hi, Option.map_eq_some_iff] at h
          obtain ⟨⟨r, c'⟩, hact, rfl⟩ := h
          exact Or.inr (Or.inl ⟨i, x, c, r, c', rfl, hi, hact, rfl⟩)

/-- A run goes down at one of its steps, or not at all. -/
theorem run_eq_none_iff {es : List (Move ε γ)} :
    S.run s es = none ↔
      ∃ pre e post t, es = pre ++ e :: post ∧ S.run s pre = some t ∧ S.step t e = none := by
  induction es generalizing s with
  | nil => simp [run_nil]
  | cons e es ih =>
      constructor
      · intro h
        cases hstep : S.step s e with
        | none => exact ⟨[], e, es, s, rfl, rfl, hstep⟩
        | some t =>
            rw [run_cons, hstep] at h
            obtain ⟨pre, e', post, t', rfl, hpre, hdown⟩ := ih.mp h
            exact ⟨e :: pre, e', post, t', rfl, by rw [run_cons, hstep]; exact hpre, hdown⟩
      · rintro ⟨pre, e', post, t, heq, hpre, hdown⟩
        rw [heq, run_append, hpre]
        show S.run t (e' :: post) = none
        rw [run_cons, hdown]
        rfl

/-! ### Invariants -/

/-- Induction over a run that gets through, from its end. -/
theorem run_induction {P : List (Move ε γ) → Joint ρ σ → Prop} (start : P [] s)
    (step : ∀ es t e t', P es t → S.step t e = some t' → P (es ++ [e]) t')
    {es : List (Move ε γ)} (h : S.run s es = some s') : P es s' := by
  induction es using List.reverseRecOn generalizing s' with
  | nil => exact Option.some.inj h ▸ start
  | append_singleton es e ih =>
      rw [run_append] at h
      obtain ⟨t, ht, hlast⟩ := Option.bind_eq_some_iff.mp h
      obtain ⟨t', hstep, hend⟩ := run_cons_eq_some hlast
      cases hend
      exact step es t e s' (ih ht) hstep

/-- What every step keeps holds after every run. -/
theorem invariant {P : Joint ρ σ → Prop} (hstep : ∀ s e s', P s → S.step s e = some s' → P s')
    {es : List (Move ε γ)} (h : S.run s es = some s') (hs : P s) : P s' :=
  run_induction (P := fun _ => P) hs (fun _ t e t' => hstep t e t') h

/-- No step takes the shared state out of `R`. -/
structure Keeps (S : System ρ σ ε γ) (R : ρ → Prop) : Prop where
  act : ∀ r c x r' c', R r → S.act r c x = some (r', c') → R r'
  change : ∀ r cs g, R r → R (S.change r cs g)

/-- One step keeps `R`. -/
theorem Keeps.step {R : ρ → Prop} (hR : Keeps S R) {e : Move ε γ} (hs : R s.shared)
    (h : S.step s e = some s') : R s'.shared := by
  obtain ⟨i, x, -, -, rfl⟩ | ⟨i, x, c, r, c', -, -, hact, rfl⟩ | ⟨g, -, rfl⟩ := step_cases h
  · exact hs
  · exact hR.act _ _ _ _ _ hs hact
  · exact hR.change _ _ _ hs

/-- A run keeps `R`. -/
theorem Keeps.run {R : ρ → Prop} (hR : Keeps S R) {es : List (Move ε γ)} (hs : R s.shared)
    (h : S.run s es = some s') : R s'.shared :=
  invariant (P := fun t => R t.shared) (fun _ _ _ ht hstep => hR.step ht hstep) h hs

/-- Nothing is always kept. -/
theorem Keeps.true : Keeps S fun _ => True := ⟨fun _ _ _ _ _ _ _ => trivial, fun _ _ _ _ => trivial⟩

/-- What holds of every component next to the shared state. -/
def Each (Q : ρ → σ → Prop) (s : Joint ρ σ) : Prop := ∀ c ∈ s.parts, Q s.shared c

/-- A property of each component, from what one step does to the component that takes it and to
the shared state the others look at. -/
theorem parts_invariant {R : ρ → Prop} {Q : ρ → σ → Prop} (hR : Keeps S R)
    (own : ∀ r c x r' c', R r → Q r c → S.act r c x = some (r', c') → Q r' c')
    (others : ∀ r c x r' c' d, S.act r c x = some (r', c') → Q r d → Q r' d)
    (common : ∀ r cs g c, Q r c → Q (S.change r cs g) c)
    (spawn : ∀ r cs g, R r → ∀ c ∈ S.spawn r g, Q (S.change r cs g) c)
    {es : List (Move ε γ)} (h : S.run s es = some s') (hr : R s.shared) (hs : Each Q s) :
    Each Q s' := by
  refine (invariant (P := fun t => R t.shared ∧ Each Q t) ?_ h ⟨hr, hs⟩).2
  intro s e s' hboth hstep
  obtain ⟨hr, hs⟩ := hboth
  refine ⟨hR.step hr hstep, ?_⟩
  obtain ⟨i, x, -, -, rfl⟩ | ⟨i, x, c, r, c', -, hi, hact, rfl⟩ | ⟨g, -, rfl⟩ := step_cases hstep
  · exact hs
  · intro d hd
    rcases List.mem_or_eq_of_mem_set hd with hd | rfl
    · exact others _ _ _ _ _ d hact (hs d hd)
    · exact own _ _ _ _ _ hr (hs c (List.mem_of_getElem? hi)) hact
  · intro d hd
    rcases List.mem_append.mp hd with hd | hd
    · exact common _ _ _ d (hs d hd)
    · exact spawn _ _ _ hr d hd

/-- Components are never removed. -/
theorem length_le_of_step {e : Move ε γ} (h : S.step s e = some s') :
    s.parts.length ≤ s'.parts.length := by
  obtain ⟨i, x, -, -, rfl⟩ | ⟨i, x, c, r, c', -, -, -, rfl⟩ | ⟨g, -, rfl⟩ := step_cases h <;>
    simp

/-- Where a component comes from in one step: nothing happened to it, or it took the step, or
the step started it. -/
theorem step_part {e : Move ε γ} (h : S.step s e = some s') {i : Nat} {c' : σ}
    (hc : s'.parts[i]? = some c') :
    s.parts[i]? = some c' ∨
    (∃ x c r, s.parts[i]? = some c ∧ S.act s.shared c x = some (r, c')) ∨
    (s.parts[i]? = none ∧ ∃ g, c' ∈ S.spawn s.shared g) := by
  obtain ⟨j, x, -, -, rfl⟩ | ⟨j, x, d, r, d', -, hj, hact, rfl⟩ | ⟨g, -, rfl⟩ := step_cases h
  · exact Or.inl hc
  · by_cases hij : j = i
    · subst hij
      have hlen : j < s.parts.length := (List.getElem?_eq_some_iff.mp hj).1
      have hd : d' = c' := by simpa [List.getElem?_set, hlen] using hc
      exact Or.inr (Or.inl ⟨x, d, r, hj, hd ▸ hact⟩)
    · rw [List.getElem?_set_ne hij] at hc
      exact Or.inl hc
  · by_cases hlt : i < s.parts.length
    · rw [List.getElem?_append_left hlt] at hc
      exact Or.inl hc
    · have hge : s.parts.length ≤ i := Nat.le_of_not_lt hlt
      rw [List.getElem?_append_right hge] at hc
      exact Or.inr (Or.inr ⟨List.getElem?_eq_none hge, g, List.mem_of_getElem? hc⟩)

/-- What becomes of each component. It was there before the run or was started in it, and `T`
relates the two ends, when each step is in `T` from the states `R` the run goes through. -/
theorem evolves {R : ρ → Prop} {T : σ → σ → Prop} (refl : ∀ c, T c c)
    (trans : ∀ a b c, T a b → T b c → T a c)
    (own : ∀ r c x r' c', R r → S.act r c x = some (r', c') → T c c')
    {es : List (Move ε γ)} (h : S.run s es = some s')
    (hR : ∀ pre t, pre <+: es → S.run s pre = some t → R t.shared) {i : Nat} {c' : σ}
    (hc : s'.parts[i]? = some c') :
    ∃ c, (s.parts[i]? = some c ∨ s.parts[i]? = none ∧ ∃ r g, c ∈ S.spawn r g) ∧ T c c' := by
  induction es generalizing s with
  | nil =>
      cases h
      exact ⟨c', Or.inl hc, refl c'⟩
  | cons e es ih =>
      obtain ⟨t, hstep, hrest⟩ := run_cons_eq_some h
      have hRt : ∀ pre t', pre <+: es → S.run t pre = some t' → R t'.shared := by
        intro pre t' hpre hrun
        refine hR (e :: pre) t' (List.cons_prefix_cons.mpr ⟨rfl, hpre⟩) ?_
        rw [run_cons, hstep]
        exact hrun
      obtain ⟨c, hfrom | ⟨hnone, hnew⟩, hT⟩ := ih hrest hRt
      · rcases step_part hstep hfrom with hsame | ⟨x, d, r, hd, hact⟩ | ⟨hnone, g, hnew⟩
        · exact ⟨c, Or.inl hsame, hT⟩
        · exact ⟨d, Or.inl hd, trans _ _ _ (own _ _ _ _ _ (hR [] s List.nil_prefix rfl) hact) hT⟩
        · exact ⟨c, Or.inr ⟨hnone, _, g, hnew⟩, hT⟩
      · have hlen : s.parts.length ≤ i :=
          Nat.le_trans (length_le_of_step hstep) (List.getElem?_eq_none_iff.mp hnone)
        exact ⟨c, Or.inr ⟨List.getElem?_eq_none hlen, hnew⟩, hT⟩

/-! ### Balances -/

/-- Putting one component in changes the sum by the difference of the two. -/
theorem sum_map_set {f : σ → Int} {l : List σ} {i : Nat} {c c' : σ} (h : l[i]? = some c) :
    ((l.set i c').map f).sum + f c = (l.map f).sum + f c' := by
  induction l generalizing i with
  | nil => cases h
  | cons d l ih =>
      cases i with
      | zero =>
          have hd : d = c := Option.some.inj h
          simp [hd]
          omega
      | succ i =>
          have hrest := ih (i := i) h
          simp only [List.set_cons_succ, List.map_cons, List.sum_cons]
          omega

/-- The quantity `g` of the shared state has grown as much as the sum of `f` over the
components. -/
theorem balance {R : ρ → Prop} {g : ρ → Int} {f : σ → Int} (hR : Keeps S R)
    (own : ∀ r c x r' c', R r → S.act r c x = some (r', c') → g r' - f c' = g r - f c)
    (common : ∀ r cs y, g (S.change r cs y) = g r)
    (spawn : ∀ r y, ∀ c ∈ S.spawn r y, f c = 0)
    {es : List (Move ε γ)} (h : S.run s es = some s') (hr : R s.shared) :
    g s'.shared - (s'.parts.map f).sum = g s.shared - (s.parts.map f).sum := by
  refine (invariant (P := fun t => R t.shared ∧
    g t.shared - (t.parts.map f).sum = g s.shared - (s.parts.map f).sum) ?_ h ⟨hr, rfl⟩).2
  intro t e t' ht hstep
  refine ⟨hR.step ht.1 hstep, Eq.trans ?_ ht.2⟩
  obtain ⟨i, x, -, -, rfl⟩ | ⟨i, x, c, r, c', -, hi, hact, rfl⟩ | ⟨y, -, rfl⟩ := step_cases hstep
  · rfl
  · have hown := own _ _ _ _ _ ht.1 hact
    have hsum : ((t.parts.set i c').map f).sum + f c = (t.parts.map f).sum + f c' :=
      sum_map_set hi
    show g r - ((t.parts.set i c').map f).sum = g t.shared - (t.parts.map f).sum
    omega
  · have hnew : ((S.spawn t.shared y).map f).sum = 0 := by
      apply List.sum_eq_zero
      simpa using spawn t.shared y
    simp [common, hnew]

/-! ### Systems that contain another -/

section
variable {ρ' γ' : Type} {S' : System ρ' σ ε γ'} {R : ρ' → Prop} {f : ρ' → ρ}
variable {proj : γ' → Option γ}

/-- From the states `R`, every step of `S'` does nothing to the part `f` of the shared state and
to the components, or does what a step of `S` does. `proj` says which common event of `S` that
is. -/
structure Projects (S' : System ρ' σ ε γ') (S : System ρ σ ε γ) (R : ρ' → Prop) (f : ρ' → ρ)
    (proj : γ' → Option γ) : Prop where
  keeps : Keeps S' R
  act : ∀ r c x r' c', R r → S'.act r c x = some (r', c') →
    f r' = f r ∧ c' = c ∨ S.act (f r) c x = some (f r', c')
  change : ∀ r cs y, R r → f (S'.change r cs y) = f r ∧ S'.spawn r y = [] ∨
    ∃ g, proj y = some g ∧ f (S'.change r cs y) = S.change (f r) cs g ∧
      S'.spawn r y = S.spawn (f r) g

/-- A step of the larger system is no step or one step of the smaller. -/
theorem Projects.step (hp : Projects S' S R f proj) {t t' : Joint ρ' σ} {e : Move ε γ'}
    (hR : R t.shared) (h : S'.step t e = some t') :
    (⟨f t'.shared, t'.parts⟩ : Joint ρ σ) = ⟨f t.shared, t.parts⟩ ∨
      ∃ e', e.project proj = some e' ∧
        S.step ⟨f t.shared, t.parts⟩ e' = some ⟨f t'.shared, t'.parts⟩ := by
  obtain ⟨i, x, -, -, rfl⟩ | ⟨i, x, c, r, c', rfl, hi, hact, rfl⟩ | ⟨y, rfl, rfl⟩ := step_cases h
  · exact Or.inl rfl
  · rcases hp.act _ _ _ _ _ hR hact with ⟨hr, rfl⟩ | hstep
    · have hset : t.parts.set i c' = t.parts := by
        obtain ⟨hlt, hget⟩ := List.getElem?_eq_some_iff.mp hi
        rw [← hget, List.set_getElem_self]
      exact Or.inl (by simp only [hr, hset])
    · exact Or.inr ⟨.own i x, rfl, by simp [System.step, hi, hstep]⟩
  · rcases hp.change t.shared t.parts y hR with ⟨hr, hnew⟩ | ⟨g, hg, hr, hnew⟩
    · exact Or.inl (by simp only [hr, hnew, List.append_nil])
    · exact Or.inr ⟨.common g, by simp [Move.project, hg],
        by simp only [System.step, hr, hnew]⟩

/-- A run of the larger system is a run of the smaller one, with some of the moves it sees. -/
theorem run_projects (hp : Projects S' S R f proj) {t t' : Joint ρ' σ} {es : List (Move ε γ')}
    (h : S'.run t es = some t') (hR : R t.shared) :
    ∃ es', es'.Sublist (es.filterMap (Move.project proj)) ∧
      S.run ⟨f t.shared, t.parts⟩ es' = some ⟨f t'.shared, t'.parts⟩ := by
  induction es generalizing t with
  | nil =>
      cases h
      exact ⟨[], List.Sublist.refl _, rfl⟩
  | cons e es ih =>
      obtain ⟨t₁, hstep, hrest⟩ := run_cons_eq_some h
      obtain ⟨es', hsub, hrun⟩ := ih hrest (hp.keeps.step hR hstep)
      rcases hp.step hR hstep with hsame | ⟨e', he', hstep'⟩
      · rw [hsame] at hrun
        exact ⟨es', hsub.trans ((List.sublist_cons_self e es).filterMap _), hrun⟩
      · refine ⟨e' :: es', ?_, ?_⟩
        · rw [List.filterMap_cons_some he']
          exact hsub.cons_cons e'
        · rw [run_cons, hstep']
          exact hrun

end

/-! ### Components that do not see each other -/

/-- `R r r₁` says that a component gets along in `r₁` as it does in `r`. The steps of other
components do not break it, and the component's own steps and the common ones keep it. -/
structure Independent (S : System ρ σ ε γ) (R : ρ → ρ → Prop) : Prop where
  other : ∀ r r₁ c x r' c', R r r₁ → S.act r c x = some (r', c') → R r' r₁
  own : ∀ r r₁ c x r' c', R r r₁ → S.act r c x = some (r', c') →
    ∃ r₁', S.act r₁ c x = some (r₁', c') ∧ R r' r₁'
  common : ∀ r r₁ cs cs₁ g, R r r₁ → R (S.change r cs g) (S.change r₁ cs₁ g)
  spawn : ∀ r r₁ g, R r r₁ → S.spawn r₁ g = S.spawn r g

/-- Component `i` is the same in both states, and gets along in the second as in the first. -/
structure Alike (R : ρ → ρ → Prop) (i : Nat) (s t : Joint ρ σ) : Prop where
  shared : R s.shared t.shared
  length : t.parts.length = s.parts.length
  part : t.parts[i]? = s.parts[i]?

section
variable {R : ρ → ρ → Prop}

/-- The step of another component is not seen. -/
theorem Alike.other (hS : Independent S R) {i j : Nat} {x : ε} (hij : j ≠ i)
    (h : Alike R i s t) (hstep : S.step s (.own j x) = some s') : Alike R i s' t := by
  obtain ⟨_, _, -, -, rfl⟩ | ⟨k, y, c, r, c', heq, hk, hact, rfl⟩ | ⟨g, heq, -⟩ :=
    step_cases hstep
  · exact h
  · cases heq
    refine ⟨hS.other _ _ _ _ _ _ h.shared hact, ?_, ?_⟩
    · simp [h.length]
    · rw [h.part, List.getElem?_set_ne hij]
  · cases heq

/-- Component `i` takes the same step in both states. -/
theorem Alike.own (hS : Independent S R) {i : Nat} {x : ε}
    (h : Alike R i s t) (hstep : S.step s (.own i x) = some s') :
    ∃ t', S.step t (.own i x) = some t' ∧ Alike R i s' t' := by
  obtain ⟨k, _, heq, hk, rfl⟩ | ⟨k, y, c, r, c', heq, hk, hact, rfl⟩ | ⟨g, heq, -⟩ :=
    step_cases hstep
  · cases heq
    exact ⟨t, by simp [step, h.part, hk], h⟩
  · cases heq
    obtain ⟨r₁, hact₁, hshared⟩ := hS.own _ _ _ _ _ _ h.shared hact
    refine ⟨⟨r₁, t.parts.set i c'⟩, by simp [step, h.part, hk, hact₁], hshared, ?_, ?_⟩
    · simp [h.length]
    · simp [List.getElem?_set, h.length]
  · cases heq

/-- A common event does the same to both states. -/
theorem Alike.common (hS : Independent S R) {i : Nat} {g : γ}
    (h : Alike R i s t) (hstep : S.step s (.common g) = some s') :
    ∃ t', S.step t (.common g) = some t' ∧ Alike R i s' t' := by
  refine ⟨_, rfl, ?_⟩
  cases hstep
  have hspawn := hS.spawn _ _ g h.shared
  refine ⟨hS.common _ _ _ _ g h.shared, by simp [h.length, hspawn], ?_⟩
  rw [hspawn, List.getElem?_append, List.getElem?_append, h.length, h.part]

/-- Without the events of the other components, and from a state in which it gets along as in
the first, component `i` gets to the same point. -/
theorem run_alone (hS : Independent S R) {i : Nat} {es : List (Move ε γ)}
    (h : S.run s es = some s') (ht : Alike R i s t) :
    ∃ t', S.run t (es.filter (Move.concerns i)) = some t' ∧ Alike R i s' t' := by
  induction es generalizing s t with
  | nil =>
      cases h
      exact ⟨t, rfl, ht⟩
  | cons e es ih =>
      obtain ⟨s₁, hstep, hrest⟩ := run_cons_eq_some h
      by_cases he : e.concerns i = true
      · -- Both runs take the step.
        have hboth : ∃ t₁, S.step t e = some t₁ ∧ Alike R i s₁ t₁ := by
          cases e with
          | common g => exact ht.common hS hstep
          | own j x =>
              have hj : j = i := by simpa [Move.concerns] using he
              subst hj
              exact ht.own hS hstep
        obtain ⟨t₁, ht₁, halike⟩ := hboth
        obtain ⟨t', ht', hend⟩ := ih hrest halike
        refine ⟨t', ?_, hend⟩
        rw [List.filter_cons_of_pos he, run_cons, ht₁]
        exact ht'
      · rw [List.filter_cons_of_neg he]
        cases e with
        | common g => exact absurd rfl he
        | own j x =>
            have hj : j ≠ i := by simpa [Move.concerns] using he
            exact ih hrest (ht.other hS hj hstep)

end

end System

end Kroxy.Lib
