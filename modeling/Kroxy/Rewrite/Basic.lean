import Kroxy.Go.Basic
import Kroxy.Lib.Prefix

/-!
# `Kroxy.Rewrite.Basic`: one name on its way in and out

The five functions of `rewrite/rewrite.go`. `prefixIn` puts the tenant prefix in front of a
name, `stripOut` takes it off again, and `belongsToTenant` tells whether a name carries it.
The `Ptr` variants work on nullable Kafka strings.

The empty name is left alone in both directions. Apart from it, `prefixIn p` is the
embedding of all names into the names that start with `p` (`prefixIn_of_ne_nil`), `stripOut`
is its inverse on the way back (`stripOut_prefixIn`), and a name starts with `p` after
`prefixIn p` exactly when it was not empty (`prefix_prefixIn_iff`).
-/

set_option autoImplicit false

namespace Kroxy.Rewrite

open Kroxy.Go
open Kroxy.Lib

/-- `PrefixIn` prepends `p` to `name`. -/
def prefixIn (p name : GoString) : GoString :=
  if p = [] ∨ name = [] then name else p ++ name

/-- `PrefixInPtr` is the `*string` variant for nullable Kafka string fields. -/
def prefixInPtr (p : GoString) (name : Option GoString) : Option GoString :=
  match name with
  | none => none
  | some n => if n = [] ∨ p = [] then some n else some (p ++ n)

/-- `StripOut` removes `p` from `name`. A name without `p` is returned unchanged. -/
def stripOut (p name : GoString) : GoString :=
  if p = [] then name else trimPrefix name p

/-- `StripOutPtr` is the `*string` variant for nullable Kafka string fields. -/
def stripOutPtr (p : GoString) (name : Option GoString) : Option GoString :=
  match name with
  | none => none
  | some n => if p = [] then some n else some (trimPrefix n p)

/-- `BelongsToTenant` reports whether `name` is owned by the tenant identified by `p`. The
empty prefix matches everything. -/
def belongsToTenant (p name : GoString) : Bool :=
  if p = [] then true else hasPrefix name p

/-! ### What they do under a non-empty prefix -/

/-- The empty name stays empty. -/
@[simp] theorem prefixIn_nil (p : GoString) : prefixIn p [] = [] := by
  simp [prefixIn]

/-- Every other name gets the prefix. -/
theorem prefixIn_of_ne_nil {p n : GoString} (hp : p ≠ []) (hn : n ≠ []) :
    prefixIn p n = p ++ n := by
  rw [prefixIn, if_neg]
  rintro (h | h)
  · exact hp h
  · exact hn h

/-- No other name becomes empty. -/
@[simp] theorem prefixIn_eq_nil {p n : GoString} : prefixIn p n = [] ↔ n = [] := by
  unfold prefixIn
  split <;> simp_all

/-- A rewritten name starts with the prefix, unless there was no name. -/
theorem prefix_prefixIn_iff {p : GoString} (hp : p ≠ []) (n : GoString) :
    p <+: prefixIn p n ↔ n ≠ [] := by
  by_cases hn : n = []
  · subst hn
    simp [hp]
  · rw [prefixIn_of_ne_nil hp hn]
    simp [hn]

/-- The pointer variant is `prefixIn` under the pointer. -/
@[simp] theorem prefixInPtr_eq_map (p : GoString) (n : Option GoString) :
    prefixInPtr p n = n.map (prefixIn p) := by
  cases n with
  | none => rfl
  | some n =>
      simp only [prefixInPtr, prefixIn, Option.map_some, or_comm]
      split <;> rfl

/-- The pointer variant is `stripOut` under the pointer. -/
@[simp] theorem stripOutPtr_eq_map (p : GoString) (n : Option GoString) :
    stripOutPtr p n = n.map (stripOut p) := by
  cases n with
  | none => rfl
  | some n =>
      simp only [stripOutPtr, stripOut, Option.map_some]
      split <;> rfl

/-- The prefix is taken off again. -/
@[simp] theorem stripOut_append {p : GoString} (hp : p ≠ []) (n : GoString) :
    stripOut p (p ++ n) = n := by
  rw [stripOut, if_neg hp, trimPrefix_append]

/-- Out after in gives the client its own name back, also when the name itself begins with
the prefix. -/
@[simp] theorem stripOut_prefixIn (p n : GoString) : stripOut p (prefixIn p n) = n := by
  by_cases hp : p = []
  · simp [stripOut, prefixIn, hp]
  · by_cases hn : n = []
    · subst hn
      rw [prefixIn_nil, stripOut, if_neg hp, trimPrefix_of_not_prefix (by simpa using hp)]
    · rw [prefixIn_of_ne_nil hp hn, stripOut_append hp]

/-- `StripOut` changes the names that start with the prefix. -/
theorem stripOut_eq_self_iff {p n : GoString} (hp : p ≠ []) :
    stripOut p n = n ↔ ¬ p <+: n := by
  constructor
  · intro h hprefix
    obtain ⟨rest, rfl⟩ := hprefix
    have hlen := congrArg List.length h
    have hpos : 0 < p.length := List.length_pos_iff.mpr hp
    rw [stripOut_append hp, List.length_append] at hlen
    omega
  · intro h
    rw [stripOut, if_neg hp, trimPrefix_of_not_prefix h]

/-- `belongsToTenant` decides whether a name starts with a non-empty prefix. -/
theorem belongsToTenant_iff {p : GoString} (hp : p ≠ []) (n : GoString) :
    belongsToTenant p n = true ↔ p <+: n := by
  simp [belongsToTenant, hp]

/-- Names of tenants with incomparable prefixes differ, unless both are empty. -/
theorem prefixIn_eq_prefixIn {p q n m : GoString} (hp : p ≠ []) (hq : q ≠ [])
    (h : Incomparable p q) (heq : prefixIn p n = prefixIn q m) : n = [] ∧ m = [] := by
  by_cases hn : n = []
  · subst hn
    rw [prefixIn_nil] at heq
    exact ⟨rfl, prefixIn_eq_nil.mp heq.symm⟩
  · by_cases hm : m = []
    · subst hm
      rw [prefixIn_nil] at heq
      exact absurd (prefixIn_eq_nil.mp heq) hn
    · rw [prefixIn_of_ne_nil hp hn, prefixIn_of_ne_nil hq hm] at heq
      exact absurd heq (h.append_ne n m)

end Kroxy.Rewrite
