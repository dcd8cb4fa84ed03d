import Kroxy.Resolver.Memory

/-!
# `Kroxy.Resolver.Calls`: the calls of the resolver on its map

`resolver/memory.go` once more, as the methods run: `memoryResolver` holds one map, and `Get`,
`Set`, `Delete` and `List` are programs over it. A mutator holds the lock from its first look
at the map to its return, so a history of calls is a sequence, and an error leaves behind
whatever the map was at that moment.

`MemoryResolver` is the same table with its invariant. `exec_call` says that a mutation does
to the map what `MemoryResolver.apply` does to the table.
-/

set_option autoImplicit false

namespace Kroxy.Resolver

open Kroxy.Go
open Kroxy.Lib

/-- The Go map `tenants`. -/
abbrev Table := Store GoString Tenant

/-- A method of the resolver. -/
abbrev TableM := EStateM GoError Table

/-- `memoryResolver.Get`. -/
def memoryGet (id : GoString) : TableM Tenant := do
  let m ← get
  match Store.get id m with
  | none => throw errUnauthorized
  | some t => pure t

/-- `memoryResolver.Set`. -/
def memorySet (t : Tenant) : TableM Unit := do
  match validateTenant t with
  | .error e => throw (e.wrap (goString "memoryResolver.Set"))
  | .ok () =>
      let m ← get
      if (Store.get t.id m).isSome then
        throw (errDuplicate.wrap (goString "memoryResolver.Set: " ++ t.id))
      else modify (Store.put t.id t)

/-- `memoryResolver.Delete`. -/
def memoryDelete (id : GoString) : TableM Unit := do
  if id = [] then
    throw (errInvalidTenant.wrap (goString "memoryResolver.Delete: empty tenant id"))
  else
    let m ← get
    if (Store.get id m).isSome then modify (Store.erase id)
    else throw (errNotFound.wrap (goString "memoryResolver.Delete: " ++ id))

/-- `memoryResolver.List`. -/
def memoryList : TableM (List Tenant) := do
  let m ← get
  pure (m.map Prod.snd)

/-! ### What each call does -/

section
variable {s : Table} {t : Tenant} {id : GoString}

/-- `Get` of an unknown id. -/
theorem memoryGet_of_none (h : Store.get id s = none) :
    memoryGet id s = .error errUnauthorized s := by
  rw [memoryGet, get_bind, h]
  rfl

/-- `Get` of a known one. -/
theorem memoryGet_of_some (h : Store.get id s = some t) : memoryGet id s = .ok t s := by
  rw [memoryGet, get_bind, h]
  rfl

/-- Both checks of `Set` come before the write, so a refused `Set` leaves the map alone. -/
theorem memorySet_of_invalid {e : GoError} (h : validateTenant t = .error e) :
    memorySet t s = .error (e.wrap (goString "memoryResolver.Set")) s := by
  rw [memorySet, h]
  rfl

/-- `Set` of a valid record whose id is taken. -/
theorem memorySet_of_taken (hv : validateTenant t = .ok ()) (h : (Store.get t.id s).isSome) :
    memorySet t s = .error (errDuplicate.wrap (goString "memoryResolver.Set: " ++ t.id)) s := by
  rw [memorySet, hv]
  dsimp only
  rw [get_bind, if_pos h]
  rfl

/-- `Set` of a valid record whose id is free. -/
theorem memorySet_of_free (hv : validateTenant t = .ok ()) (h : Store.get t.id s = none) :
    memorySet t s = .ok () (Store.put t.id t s) := by
  rw [memorySet, hv]
  dsimp only
  rw [get_bind, h]
  rfl

/-- The same for `Delete`. -/
theorem memoryDelete_of_empty :
    memoryDelete [] s =
      .error (errInvalidTenant.wrap (goString "memoryResolver.Delete: empty tenant id")) s := rfl

/-- `Delete` of an unknown id. -/
theorem memoryDelete_of_none (hid : id ≠ []) (h : Store.get id s = none) :
    memoryDelete id s =
      .error (errNotFound.wrap (goString "memoryResolver.Delete: " ++ id)) s := by
  rw [memoryDelete, if_neg hid, get_bind, h]
  rfl

/-- `Delete` of a known one. -/
theorem memoryDelete_of_some (hid : id ≠ []) (h : (Store.get id s).isSome) :
    memoryDelete id s = .ok () (Store.erase id s) := by
  rw [memoryDelete, if_neg hid, get_bind, if_pos h]
  rfl

/-- All that `Get` can do. -/
theorem memoryGet_ends {Q : Tenant → Table → Prop} {E : GoError → Table → Prop}
    (found : ∀ t, Store.get id s = some t → Q t s)
    (unknown : Store.get id s = none → E errUnauthorized s) : Ends (memoryGet id) Q E s := by
  unfold Ends
  cases h : Store.get id s with
  | none =>
      rw [memoryGet_of_none h]
      exact unknown h
  | some t =>
      rw [memoryGet_of_some h]
      exact found t h

/-- All that `Set` can do. -/
theorem memorySet_ends {Q : Unit → Table → Prop} {E : GoError → Table → Prop}
    (stored : validateTenant t = .ok () → Store.get t.id s = none → Q () (Store.put t.id t s))
    (invalid : ∀ e, validateTenant t = .error e →
      E (e.wrap (goString "memoryResolver.Set")) s)
    (taken : validateTenant t = .ok () → (Store.get t.id s).isSome →
      E (errDuplicate.wrap (goString "memoryResolver.Set: " ++ t.id)) s) :
    Ends (memorySet t) Q E s := by
  unfold Ends
  cases hv : validateTenant t with
  | error e =>
      rw [memorySet_of_invalid hv]
      exact invalid e hv
  | ok _ =>
      cases h : Store.get t.id s with
      | none =>
          rw [memorySet_of_free hv h]
          exact stored hv h
      | some t' =>
          have htaken : (Store.get t.id s).isSome := by simp [h]
          rw [memorySet_of_taken hv htaken]
          exact taken hv htaken

/-- All that `Delete` can do. -/
theorem memoryDelete_ends {Q : Unit → Table → Prop} {E : GoError → Table → Prop}
    (removed : id ≠ [] → (Store.get id s).isSome → Q () (Store.erase id s))
    (empty : id = [] →
      E (errInvalidTenant.wrap (goString "memoryResolver.Delete: empty tenant id")) s)
    (absent : id ≠ [] → Store.get id s = none →
      E (errNotFound.wrap (goString "memoryResolver.Delete: " ++ id)) s) :
    Ends (memoryDelete id) Q E s := by
  unfold Ends
  by_cases hid : id = []
  · rw [hid, memoryDelete_of_empty]
    exact empty hid
  · cases h : Store.get id s with
    | none =>
        rw [memoryDelete_of_none hid h]
        exact absent hid h
    | some t =>
        have hthere : (Store.get id s).isSome := by simp [h]
        rw [memoryDelete_of_some hid hthere]
        exact removed hid hthere

end

/-! ### The table with its invariant -/

namespace MemoryResolver

variable {m m' : MemoryResolver} {t : Tenant} {id : GoString} {e : GoError}

/-- An accepted `Set` writes to the map what it adds to the table. -/
theorem memorySet_tenants (h : m.set t = .ok m') :
    memorySet t m.tenants = .ok () m'.tenants := by
  obtain ⟨hv, hfree, hstored⟩ := insertTenant_eq_ok h
  have hnone : Store.get t.id m.tenants = none := by simpa using hfree
  rw [memorySet_of_free hv hnone, Store.put_of_get_eq_none hnone, hstored]

/-- A refused one returns the same error and writes nothing. -/
theorem memorySet_tenants_error (h : m.set t = .error e) :
    memorySet t m.tenants = .error e m.tenants := by
  unfold MemoryResolver.set insertTenant at h
  split at h
  · rename_i hinvalid
    cases h
    exact memorySet_of_invalid hinvalid
  · rename_i hv
    split at h
    · rename_i htaken
      cases h
      exact memorySet_of_taken hv htaken
    · cases h

/-- `Delete` does to the map what it does to the table. -/
theorem memoryDelete_tenants (h : m.delete id = .ok m') :
    memoryDelete id m.tenants = .ok () m'.tenants := by
  unfold MemoryResolver.delete at h
  split at h
  · cases h
  · rename_i hid
    split at h
    · rename_i hthere
      cases h
      exact memoryDelete_of_some hid hthere
    · cases h

/-- A refused `Delete` leaves the map as it is. -/
theorem memoryDelete_tenants_error (h : m.delete id = .error e) :
    memoryDelete id m.tenants = .error e m.tenants := by
  unfold MemoryResolver.delete at h
  split at h
  · rename_i hid
    cases h
    rw [hid]
    exact memoryDelete_of_empty
  · rename_i hid
    split at h
    · cases h
    · rename_i hgone
      cases h
      exact memoryDelete_of_none hid (by simpa using hgone)

end MemoryResolver

/-! ### Histories -/

/-- A call of the resolver. -/
inductive Call where
  | get (id : GoString)
  | set (t : Tenant)
  | delete (id : GoString)
  | list

/-- What a call returns. -/
inductive Answer where
  | record (t : Tenant)
  | done
  | records (ts : List Tenant)
  | failed (e : GoError)

/-- The outcome of a method, with its value as an answer. -/
def answered {α : Type} (f : α → Answer) : EStateM.Result GoError Table α → Answer × Table
  | .ok a s => (f a, s)
  | .error e s => (.failed e, s)

/-- What holds of the outcome of a method holds of the answer. -/
theorem answered_of_ends {α : Type} {f : α → Answer} {x : TableM α} {s : Table}
    {T : Answer → Table → Prop}
    (h : Ends x (fun a s' => T (f a) s') (fun e s' => T (.failed e) s') s) :
    T (answered f (x s)).1 (answered f (x s)).2 := by
  unfold Ends at h
  cases hx : x s with
  | ok a s' =>
      rw [hx] at h
      exact h
  | error e s' =>
      rw [hx] at h
      exact h

/-- One call on the map. -/
def Call.exec (s : Table) : Call → Answer × Table
  | .get id => answered .record (memoryGet id s)
  | .set t => answered (fun _ => .done) (memorySet t s)
  | .delete id => answered (fun _ => .done) (memoryDelete id s)
  | .list => answered .records (memoryList s)

/-- A sequence of calls: what each of them returned, and the map afterwards. -/
def runCalls : List Call → Table → List (Call × Answer) × Table
  | [], s => ([], s)
  | call :: calls, s =>
      let first := call.exec s
      let rest := runCalls calls first.2
      ((call, first.1) :: rest.1, rest.2)

/-- A mutation of the table as a call. -/
def MemoryResolver.Op.call : MemoryResolver.Op → Call
  | .set t => .set t
  | .delete id => .delete id

/-- A mutation does to the map what it does to the table. -/
theorem exec_call (m : MemoryResolver) (op : MemoryResolver.Op) :
    (op.call.exec m.tenants).2 = (m.apply op).tenants := by
  cases op with
  | set t =>
      show (answered (fun _ => .done) (memorySet t m.tenants)).2 = _
      cases h : m.set t with
      | ok m' =>
          rw [MemoryResolver.memorySet_tenants h, MemoryResolver.apply, h]
          rfl
      | error e =>
          rw [MemoryResolver.memorySet_tenants_error h, MemoryResolver.apply, h]
          rfl
  | delete id =>
      show (answered (fun _ => .done) (memoryDelete id m.tenants)).2 = _
      cases h : m.delete id with
      | ok m' =>
          rw [MemoryResolver.memoryDelete_tenants h, MemoryResolver.apply, h]
          rfl
      | error e =>
          rw [MemoryResolver.memoryDelete_tenants_error h, MemoryResolver.apply, h]
          rfl

end Kroxy.Resolver
