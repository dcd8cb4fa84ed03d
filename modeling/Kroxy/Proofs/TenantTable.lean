import Kroxy.Resolver.Memory
import Kroxy.Rewrite.Basic

/-!
# `Kroxy.Proofs.TenantTable`: which tenant tables isolate their tenants

Two tenants of one upstream cluster are isolated when no client name of one reaches a name
of the other (`IsolatedFrom`): their upstream names never coincide, and the listing filter
of one never accepts a name of the other.

`validateTenant` looks at one record at a time and the table at ids only. Neither compares
prefixes, so a table can hold the prefixes `a` and `ab`, or one prefix twice
(`overlapping_prefixes_meet`). `run_isolates_iff` states what holds instead: after any
history of `Set` and `Delete`, the table isolates its tenants exactly when the prefixes of
tenants on one upstream are pairwise incomparable. `disjoint_apply` is the matching
invariant: a `Set` whose prefix is incomparable with those in place, and every `Delete`,
keeps the prefixes disjoint.
-/

set_option autoImplicit false

namespace Kroxy.Proofs

open Kroxy.Go
open Kroxy.Lib
open Kroxy.Resolver
open Kroxy.Resolver.MemoryResolver
open Kroxy.Rewrite

/-- No non-empty client name of `A` is, or is listed as, a name of `B`. -/
def IsolatedFrom (A B : Tenant) : Prop :=
  ∀ n m : GoString, n ≠ [] → m ≠ [] →
    prefixIn A.topicPrefix n ≠ prefixIn B.topicPrefix m ∧
    belongsToTenant B.topicPrefix (prefixIn A.topicPrefix n) = false

/-- Any two distinct tenants of one upstream are isolated. -/
def Isolates (m : MemoryResolver) : Prop :=
  ∀ A ∈ m.list, ∀ B ∈ m.list, A ≠ B → A.upstream = B.upstream → IsolatedFrom A B

/-- The prefixes of any two distinct tenants of one upstream are incomparable. -/
def PrefixesDisjoint (m : MemoryResolver) : Prop :=
  ∀ A ∈ m.list, ∀ B ∈ m.list, A ≠ B → A.upstream = B.upstream →
    Incomparable A.topicPrefix B.topicPrefix

/-- Two valid tenants are isolated exactly when their prefixes are incomparable. -/
theorem isolatedFrom_iff {A B : Tenant} (hA : A.topicPrefix ≠ []) (hB : B.topicPrefix ≠ []) :
    IsolatedFrom A B ↔ Incomparable A.topicPrefix B.topicPrefix := by
  constructor
  · intro h
    rw [← append_ne_iff_incomparable]
    intro n m hn hm
    have hne := (h n m hn hm).1
    rwa [prefixIn_of_ne_nil hA hn, prefixIn_of_ne_nil hB hm] at hne
  · intro h n m hn hm
    rw [prefixIn_of_ne_nil hA hn, prefixIn_of_ne_nil hB hm]
    refine ⟨h.append_ne n m, ?_⟩
    rw [Bool.eq_false_iff, Ne, belongsToTenant_iff hB]
    exact h.not_prefix_append n

/-- A table isolates its tenants exactly when the prefixes on one upstream are pairwise
incomparable. -/
theorem isolates_iff (m : MemoryResolver) : Isolates m ↔ PrefixesDisjoint m := by
  -- The table holds valid records only, so every prefix in it is non-empty.
  have hpair : ∀ A ∈ m.list, ∀ B ∈ m.list,
      IsolatedFrom A B ↔ Incomparable A.topicPrefix B.topicPrefix := by
    intro A hA B hB
    have hAv := validateTenant_eq_ok.mp (valid_of_mem_list hA)
    have hBv := validateTenant_eq_ok.mp (valid_of_mem_list hB)
    exact isolatedFrom_iff hAv.2.1 hBv.2.1
  constructor
  · intro h A hA B hB hne hup
    exact (hpair A hA B hB).mp (h A hA B hB hne hup)
  · intro h A hA B hB hne hup
    exact (hpair A hA B hB).mpr (h A hA B hB hne hup)

/-- The same for the tables of a run: no sequence of mutations changes what isolation
depends on. -/
theorem run_isolates_iff (m : MemoryResolver) (ops : List Op) :
    Isolates (m.run ops) ↔ PrefixesDisjoint (m.run ops) :=
  isolates_iff (m.run ops)

/-- A configuration with the prefixes `a` and `ab`. The table accepts it, and the first
tenant's name `bx` is the second tenant's name `x`. -/
theorem overlapping_prefixes_meet :
    ¬ ∀ m, newMemoryResolver
        [⟨goString "one", goString "a", goString "kafka:9093"⟩,
          ⟨goString "two", goString "ab", goString "kafka:9093"⟩] = .ok m →
      ∀ ops, Isolates (m.run ops) := by
  intro h
  have hiso := h _ rfl []
  have hpair := hiso ⟨goString "one", goString "a", goString "kafka:9093"⟩ (by decide)
    ⟨goString "two", goString "ab", goString "kafka:9093"⟩ (by decide) (by decide) rfl
  exact (hpair (goString "bx") (goString "x") (by decide) (by decide)).1 (by decide)

/-! ### Keeping the prefixes disjoint -/

/-- A mutation that does not bring two prefixes of one upstream together: a `Delete`, or a
`Set` whose prefix is incomparable with every other prefix of its upstream. -/
def KeepsDisjoint (m : MemoryResolver) : Op → Prop
  | .set t => ∀ A ∈ m.list, A ≠ t → A.upstream = t.upstream →
      Incomparable A.topicPrefix t.topicPrefix
  | .delete _ => True

/-- One mutation. -/
theorem disjoint_apply {m : MemoryResolver} (h : PrefixesDisjoint m) {op : Op}
    (hop : KeepsDisjoint m op) : PrefixesDisjoint (m.apply op) := by
  intro A hA B hB hne hup
  -- Each of the two records was there before, or is the one just set.
  rcases mem_list_apply hA with hAold | rfl
  · rcases mem_list_apply hB with hBold | rfl
    · exact h A hAold B hBold hne hup
    · exact hop A hAold hne hup
  · rcases mem_list_apply hB with hBold | hBnew
    · exact (hop B hBold (Ne.symm hne) hup.symm).symm
    -- Both are the record just set.
    · exact absurd (Op.set.inj hBnew) hne

/-- A whole history of such mutations keeps the tenants isolated. -/
theorem isolates_run {m : MemoryResolver} (h : PrefixesDisjoint m) (ops : List Op)
    (hops : ∀ done op, done ++ [op] <+: ops → KeepsDisjoint (m.run done) op) :
    Isolates (m.run ops) := by
  rw [isolates_iff]
  -- The prefixes stay disjoint along every prefix of the history.
  have key : ∀ done, done <+: ops → PrefixesDisjoint (m.run done) := by
    intro done
    induction done using List.reverseRecOn with
    | nil => intro _; exact h
    | append_singleton done op ih =>
        intro hpre
        have hbefore := ih ((List.prefix_append done [op]).trans hpre)
        rw [run, List.foldl_append]
        exact disjoint_apply hbefore (hops done op hpre)
  exact key ops (List.prefix_refl ops)

end Kroxy.Proofs
