import Kroxy.Go.Basic
import Kroxy.Lib.Store

/-!
# `Kroxy.Resolver.Memory`: the in-memory tenant table

`resolver/resolver.go` and `resolver/memory.go`. A tenant record names the prefix of the
tenant's names and the address of its upstream cluster. The table maps tenant ids to
records. The Go map has no order; the model lists entries in insertion order.

Three facts hold of every table the package can build, and `WellFormed` states them: a
record is stored under its own id, every record passed `validateTenant`, and no id occurs
twice. `MemoryResolver` carries the proof, so every lookup may rely on it.

The constructor and `Set` do the same work under different error messages. `insertTenant`
is that work, and both are instances of it.
-/

set_option autoImplicit false

namespace Kroxy.Resolver

open Kroxy.Go
open Kroxy.Lib

/-- `ErrUnauthorized`. -/
def errUnauthorized : GoError := errorsNew (goString "unauthorized")

/-- `ErrDuplicate`. -/
def errDuplicate : GoError := errorsNew (goString "tenant already exists")

/-- `ErrNotFound`. -/
def errNotFound : GoError := errorsNew (goString "tenant not found")

/-- `ErrInvalidTenant`. -/
def errInvalidTenant : GoError := errorsNew (goString "invalid tenant")

/-- A tenant's mapping onto the shared upstream cluster. The zero value has three empty
fields. -/
structure Tenant where
  id : GoString := []
  topicPrefix : GoString := []
  upstream : GoString := []
  deriving DecidableEq

/-- A record must have an id, a prefix and an upstream. The first empty field is named. -/
def validateTenant (t : Tenant) : Except GoError Unit :=
  if t.id = [] then .error (errInvalidTenant.wrap (goString "empty tenant id"))
  else if t.topicPrefix = [] then
    .error (errInvalidTenant.wrap (goString "empty topic prefix"))
  else if t.upstream = [] then .error (errInvalidTenant.wrap (goString "empty upstream"))
  else .ok ()

/-- A record is valid when no field is empty. -/
theorem validateTenant_eq_ok {t : Tenant} :
    validateTenant t = .ok () ↔ t.id ≠ [] ∧ t.topicPrefix ≠ [] ∧ t.upstream ≠ [] := by
  unfold validateTenant
  split
  · simp_all
  · split
    · simp_all
    · split <;> simp_all

/-- A refused record has an empty field, and the error is a wrapped `ErrInvalidTenant`. -/
theorem validateTenant_eq_error {t : Tenant} {e : GoError} (h : validateTenant t = .error e) :
    (t.id = [] ∨ t.topicPrefix = [] ∨ t.upstream = []) ∧ e.root = errInvalidTenant.root := by
  unfold validateTenant at h
  split at h
  · rename_i hid
    cases h
    exact ⟨Or.inl hid, rfl⟩
  · split at h
    · rename_i hprefix
      cases h
      exact ⟨Or.inr (Or.inl hprefix), rfl⟩
    · split at h
      · rename_i hupstream
        cases h
        exact ⟨Or.inr (Or.inr hupstream), rfl⟩
      · cases h

/-- What every table the package builds satisfies. -/
structure WellFormed (s : Store GoString Tenant) : Prop where
  /-- A record is stored under its own id. -/
  keyed : ∀ e ∈ s, e.2.id = e.1
  /-- Every record passed validation. -/
  valid : ∀ e ∈ s, validateTenant e.2 = .ok ()
  /-- No id occurs twice. -/
  distinct : (Store.keys s).Nodup

/-- The empty map is well-formed. -/
theorem WellFormed.nil : WellFormed [] where
  keyed := by simp
  valid := by simp
  distinct := List.nodup_nil

/-- A valid record with a new id keeps the table well-formed. -/
theorem WellFormed.insert {s : Store GoString Tenant} (h : WellFormed s) {t : Tenant}
    (hv : validateTenant t = .ok ()) (hd : ¬ (Store.get t.id s).isSome) :
    WellFormed (s ++ [(t.id, t)]) where
  keyed := by
    intro e he
    rcases List.mem_append.mp he with he | he
    · exact h.keyed e he
    · rw [List.mem_singleton.mp he]
  valid := by
    intro e he
    rcases List.mem_append.mp he with he | he
    · exact h.valid e he
    · rw [List.mem_singleton.mp he]
      exact hv
  distinct := by
    -- The duplicate check of the source, as a fact about keys.
    have hnew : t.id ∉ Store.keys s := fun hmem => hd (Store.get_isSome_iff.mpr hmem)
    rw [Store.keys, List.map_append, List.nodup_append]
    refine ⟨h.distinct, by simp, ?_⟩
    rintro a ha b hb rfl
    have hab : a = t.id := by simpa using hb
    exact hnew (hab ▸ ha)

/-- Removing an id keeps the table well-formed. -/
theorem WellFormed.erase {s : Store GoString Tenant} (h : WellFormed s) (id : GoString) :
    WellFormed (Store.erase id s) where
  keyed := fun e he => h.keyed e (List.mem_of_mem_filter he)
  valid := fun e he => h.valid e (List.mem_of_mem_filter he)
  distinct := h.distinct.sublist ((List.filter_sublist).map Prod.fst)

/-- The tenant table. -/
structure MemoryResolver where
  tenants : Store GoString Tenant
  wf : WellFormed tenants

namespace MemoryResolver

/-- The empty table. -/
def empty : MemoryResolver := ⟨[], WellFormed.nil⟩

/-- Validate `t`, refuse an id that is taken, store the record. `validMsg` and `dupMsg` wrap
the two errors. -/
def insertTenant (validMsg : GoString) (dupMsg : GoString) (m : MemoryResolver)
    (t : Tenant) : Except GoError MemoryResolver :=
  match hv : validateTenant t with
  | .error e => .error (e.wrap validMsg)
  | .ok () =>
      -- Only the id is compared with the other records, not the prefix.
      if hd : (Store.get t.id m.tenants).isSome then .error (errDuplicate.wrap dupMsg)
      else .ok ⟨m.tenants ++ [(t.id, t)], m.wf.insert hv hd⟩

/-- `newMemoryResolver`: insert the configured records one after the other. The first bad
record fails the whole construction. -/
def newMemoryResolver (ts : List Tenant) : Except GoError MemoryResolver :=
  ts.foldlM (fun m t => insertTenant (goString "newMemoryResolver")
    (goString "newMemoryResolver: " ++ t.id) m t) empty

/-- `Get`. -/
def get (m : MemoryResolver) (id : GoString) : Except GoError Tenant :=
  match Store.get id m.tenants with
  | none => .error errUnauthorized
  | some t => .ok t

/-- `Set` inserts a brand-new tenant. -/
def set (m : MemoryResolver) (t : Tenant) : Except GoError MemoryResolver :=
  insertTenant (goString "memoryResolver.Set") (goString "memoryResolver.Set: " ++ t.id) m t

/-- `Delete` removes a tenant. -/
def delete (m : MemoryResolver) (id : GoString) : Except GoError MemoryResolver :=
  if id = [] then
    .error (errInvalidTenant.wrap (goString "memoryResolver.Delete: empty tenant id"))
  else if (Store.get id m.tenants).isSome then
    .ok ⟨Store.erase id m.tenants, m.wf.erase id⟩
  else .error (errNotFound.wrap (goString "memoryResolver.Delete: " ++ id))

/-- `List` returns every record. -/
def list (m : MemoryResolver) : List Tenant := m.tenants.map Prod.snd

/-- A mutation of the table, as the admin service issues it. -/
inductive Op where
  | set (t : Tenant)
  | delete (id : GoString)

/-- The table after one mutation. One that returns an error leaves the table as it was. -/
def apply (m : MemoryResolver) : Op → MemoryResolver
  | .set t =>
      match m.set t with
      | .ok m' => m'
      | .error _ => m
  | .delete id =>
      match m.delete id with
      | .ok m' => m'
      | .error _ => m

/-- The table after a sequence of mutations. -/
def run (m : MemoryResolver) (ops : List Op) : MemoryResolver := ops.foldl apply m

/-! ### What a lookup and a listing return -/

/-- A record that `Get` returns is stored under the id asked for. -/
theorem get_eq_ok {m : MemoryResolver} {id : GoString} {t : Tenant}
    (h : m.get id = .ok t) : (id, t) ∈ m.tenants := by
  unfold get at h
  split at h
  · cases h
  · rename_i t' ht
    cases h
    exact Store.mem_of_get_eq_some ht

/-- A record that `Get` returns has the id asked for. -/
theorem id_of_get_eq_ok {m : MemoryResolver} {id : GoString} {t : Tenant}
    (h : m.get id = .ok t) : t.id = id := m.wf.keyed _ (get_eq_ok h)

/-- A record that `Get` returns passed validation. -/
theorem valid_of_get_eq_ok {m : MemoryResolver} {id : GoString} {t : Tenant}
    (h : m.get id = .ok t) : validateTenant t = .ok () := m.wf.valid _ (get_eq_ok h)

/-- A listed record passed validation. -/
theorem valid_of_mem_list {m : MemoryResolver} {t : Tenant} (h : t ∈ m.list) :
    validateTenant t = .ok () := by
  obtain ⟨e, he, rfl⟩ := List.mem_map.mp h
  exact m.wf.valid e he

/-- A successful insertion: the record was valid, its id was free, and it is stored last. -/
theorem insertTenant_eq_ok {validMsg dupMsg : GoString} {m m' : MemoryResolver} {t : Tenant}
    (h : insertTenant validMsg dupMsg m t = .ok m') :
    validateTenant t = .ok () ∧ (Store.get t.id m.tenants).isSome = false ∧
      m'.tenants = m.tenants ++ [(t.id, t)] := by
  unfold insertTenant at h
  split at h
  · cases h
  · rename_i hv
    split at h
    · cases h
    · rename_i hd
      cases h
      exact ⟨hv, by simpa using hd, rfl⟩

/-- A successful removal: the id was there, and its entry is gone. -/
theorem delete_eq_ok {m m' : MemoryResolver} {id : GoString} (h : m.delete id = .ok m') :
    (Store.get id m.tenants).isSome = true ∧ m'.tenants = Store.erase id m.tenants := by
  unfold delete at h
  split at h
  · cases h
  · split at h
    · rename_i hd
      cases h
      exact ⟨hd, rfl⟩
    · cases h

/-- What a mutation lists: a stored record was there before, or it is the one just set. -/
theorem mem_list_apply {m : MemoryResolver} {op : Op} {t : Tenant}
    (h : t ∈ (m.apply op).list) : t ∈ m.list ∨ op = .set t := by
  cases op with
  | set t' =>
      cases hset : m.set t' with
      | error e =>
          rw [apply, hset] at h
          exact Or.inl h
      | ok m' =>
          rw [apply, hset] at h
          -- A successful `Set` appends the record and touches no other.
          have hstored := (insertTenant_eq_ok hset).2.2
          have hmem : t ∈ m'.tenants.map Prod.snd := h
          rw [hstored, List.map_append, List.mem_append] at hmem
          rcases hmem with hold | hnew
          · exact Or.inl hold
          · have ht : t = t' := by simpa using hnew
            exact Or.inr (by rw [ht])
  | delete id =>
      cases hdel : m.delete id with
      | error e =>
          rw [apply, hdel] at h
          exact Or.inl h
      | ok m' =>
          rw [apply, hdel] at h
          have hmem : t ∈ m'.tenants.map Prod.snd := h
          -- A successful `Delete` filters the table, so what is listed was listed before.
          rw [(delete_eq_ok hdel).2] at hmem
          obtain ⟨e, he, rfl⟩ := List.mem_map.mp hmem
          exact Or.inl (List.mem_map.mpr ⟨e, List.mem_of_mem_filter he, rfl⟩)

end MemoryResolver

end Kroxy.Resolver
