import Kroxy.Admin.Server
import Kroxy.Lib.Serve

/-!
# `Kroxy.Proofs.TenantStore`: the tenant table as a finite map

The resolver's map is changed by `Set` and `Delete` and read by `Get` and `List`. The meaning
of a history of calls is a finite map: under an id stands the record that the latest
successful mutation of this id inserted (`latest`).

`Outcome` lists what one call can do, and `exec_outcome` says that it does one of these.
`Mirrors` is the invariant: the map is well-formed and holds what `latest` says. One call keeps
it (`Mirrors.exec`), and so does a sequence (`Mirrors.run`). `tenantStore_refines` is the
result for every table the constructor builds and every history after it.

A mutation that is refused changes nothing, and its error has the code that the RPC
documentation gives for the reason (`documentedCode`).
-/

set_option autoImplicit false

namespace Kroxy.Proofs

open Kroxy.Go
open Kroxy.Lib
open Kroxy.Resolver
open Kroxy.Resolver.MemoryResolver
open Kroxy.Admin

/-- Calls with what they returned, the latest at the end. -/
abbrev History := List (Call × Answer)

/-- What a call does to the record of `id`: a `Set` or `Delete` of this id that succeeded
decides it, and everything else leaves it as it was. -/
def touch (id : GoString) (before : Option Tenant) : Call × Answer → Option Tenant
  | (.set t, .done) => if t.id = id then some t else before
  | (.delete i, .done) => if i = id then none else before
  | _ => before

/-- The record that the latest successful mutation of `id` left, if any. -/
def latest (id : GoString) (h : History) : Option Tenant := h.foldl (touch id) none

/-- One more call of a history. -/
theorem latest_append (id : GoString) (h : History) (entry : Call × Answer) :
    latest id (h ++ [entry]) = touch id (latest id h) entry := by
  rw [latest, List.foldl_append]
  rfl

/-! ### One call -/

/-- What a call on the map `s` can return, and the map it leaves. -/
inductive Outcome (s : Table) : Call → Answer → Table → Prop
  | got {id : GoString} {t : Tenant} (h : Store.get id s = some t) :
      Outcome s (.get id) (.record t) s
  | unknown {id : GoString} (h : Store.get id s = none) :
      Outcome s (.get id) (.failed errUnauthorized) s
  | listed : Outcome s .list (.records (s.map Prod.snd)) s
  | stored {t : Tenant} (hv : validateTenant t = .ok ()) (h : Store.get t.id s = none) :
      Outcome s (.set t) .done (Store.put t.id t s)
  | invalid {t : Tenant} {e : GoError} (hv : validateTenant t = .error e) :
      Outcome s (.set t) (.failed (e.wrap (goString "memoryResolver.Set"))) s
  | taken {t : Tenant} (hv : validateTenant t = .ok ()) (h : (Store.get t.id s).isSome) :
      Outcome s (.set t)
        (.failed (errDuplicate.wrap (goString "memoryResolver.Set: " ++ t.id))) s
  | removed {id : GoString} (hid : id ≠ []) (h : (Store.get id s).isSome) :
      Outcome s (.delete id) .done (Store.erase id s)
  | emptyId :
      Outcome s (.delete [])
        (.failed (errInvalidTenant.wrap (goString "memoryResolver.Delete: empty tenant id"))) s
  | absent {id : GoString} (hid : id ≠ []) (h : Store.get id s = none) :
      Outcome s (.delete id)
        (.failed (errNotFound.wrap (goString "memoryResolver.Delete: " ++ id))) s

/-- Every call has one of these outcomes. -/
theorem exec_outcome (s : Table) (call : Call) :
    Outcome s call (call.exec s).1 (call.exec s).2 := by
  cases call with
  | get id => exact answered_of_ends (memoryGet_ends (fun _ h => .got h) fun h => .unknown h)
  | set t =>
      exact answered_of_ends (memorySet_ends (fun hv h => .stored hv h)
        (fun _ hv => .invalid hv) fun hv h => .taken hv h)
  | delete id =>
      refine answered_of_ends (memoryDelete_ends (fun hid h => .removed hid h) ?_
        fun hid h => .absent hid h)
      rintro rfl
      exact .emptyId
  | list => exact .listed

/-! ### Histories -/

/-- The map holds what the history says. -/
structure Mirrors (h : History) (s : Table) : Prop where
  wf : WellFormed s
  get_eq : ∀ id, Store.get id s = latest id h

/-- The empty map holds what the empty history says. -/
theorem Mirrors.nil : Mirrors [] [] := ⟨WellFormed.nil, fun _ => rfl⟩

/-- A call that leaves the map and every record as they were. -/
theorem Mirrors.keep {h : History} {s : Table} (hs : Mirrors h s) {entry : Call × Answer}
    (hkeep : ∀ id before, touch id before entry = before) : Mirrors (h ++ [entry]) s := by
  refine ⟨hs.wf, fun id => ?_⟩
  rw [latest_append, hkeep]
  exact hs.get_eq id

/-- One call. -/
theorem Mirrors.exec {h : History} {s : Table} (hs : Mirrors h s) (call : Call) :
    Mirrors (h ++ [(call, (call.exec s).1)]) (call.exec s).2 := by
  have hout := exec_outcome s call
  generalize (call.exec s).1 = answer at hout ⊢
  generalize (call.exec s).2 = s' at hout ⊢
  cases hout with
  | stored hv hfree =>
      refine ⟨?_, fun id => ?_⟩
      · rw [Store.put_of_get_eq_none hfree]
        exact hs.wf.insert hv (by simp [hfree])
      · rw [latest_append, Store.get_put, hs.get_eq]
        rfl
  | removed hid hthere =>
      refine ⟨hs.wf.erase _, fun id => ?_⟩
      rw [latest_append, Store.get_erase, hs.get_eq]
      rfl
  -- Reads, and the refused mutations.
  | got _ => exact hs.keep fun _ _ => rfl
  | unknown _ => exact hs.keep fun _ _ => rfl
  | listed => exact hs.keep fun _ _ => rfl
  | invalid _ => exact hs.keep fun _ _ => rfl
  | taken _ _ => exact hs.keep fun _ _ => rfl
  | emptyId => exact hs.keep fun _ _ => rfl
  | absent _ _ => exact hs.keep fun _ _ => rfl

/-- A sequence of calls. -/
theorem Mirrors.run {h : History} {s : Table} (hs : Mirrors h s) (calls : List Call) :
    Mirrors (h ++ (runCalls calls s).1) (runCalls calls s).2 := by
  induction calls generalizing h s with
  | nil =>
      rw [runCalls, List.append_nil]
      exact hs
  | cons call calls ih =>
      have hrest := ih (hs.exec call)
      rw [List.append_assoc] at hrest
      exact hrest

/-! ### The constructor -/

/-- An insertion succeeds when the record is valid and its id is free. -/
theorem insertTenant_of_free (validMsg dupMsg : GoString) {m : MemoryResolver} {t : Tenant}
    (hv : validateTenant t = .ok ()) (hfree : Store.get t.id m.tenants = none) :
    ∃ m', insertTenant validMsg dupMsg m t = .ok m' := by
  unfold insertTenant
  split
  · rename_i hinvalid
    rw [hv] at hinvalid
    cases hinvalid
  · rw [dif_neg (by simp [hfree])]
    exact ⟨_, rfl⟩

/-- The loop of the constructor. -/
def insertAll (m : MemoryResolver) (ts : List Tenant) : Except GoError MemoryResolver :=
  ts.foldlM (fun m t => insertTenant (goString "newMemoryResolver")
    (goString "newMemoryResolver: " ++ t.id) m t) m

/-- The ids that are free after an insertion. -/
theorem get_inserted_eq_none {m m' : MemoryResolver} {t : Tenant}
    (hstored : m'.tenants = m.tenants ++ [(t.id, t)]) (hnone : Store.get t.id m.tenants = none)
    (id : GoString) :
    Store.get id m'.tenants = none ↔ t.id ≠ id ∧ Store.get id m.tenants = none := by
  rw [hstored, ← Store.put_of_get_eq_none hnone, Store.get_put]
  by_cases hid : t.id = id
  · simp [hid]
  · simp [hid]

/-- The loop succeeds when the records are valid and their ids are new and distinct. -/
theorem exists_insertAll_iff (ts : List Tenant) : ∀ m : MemoryResolver,
    (∃ m', insertAll m ts = .ok m') ↔
      (∀ t ∈ ts, validateTenant t = .ok ()) ∧ (ts.map (·.id)).Nodup ∧
        ∀ t ∈ ts, Store.get t.id m.tenants = none := by
  induction ts with
  | nil =>
      intro m
      exact ⟨fun _ => by simp, fun _ => ⟨m, rfl⟩⟩
  | cons t ts ih =>
      intro m
      rw [List.forall_mem_cons, List.map_cons, List.nodup_cons, List.forall_mem_cons]
      constructor
      · rintro ⟨m', h⟩
        rw [insertAll, List.foldlM_cons] at h
        obtain ⟨m₁, hfirst, hrest⟩ := bind_eq_ok h
        obtain ⟨hv, hnew, hstored⟩ := insertTenant_eq_ok hfirst
        have hnone : Store.get t.id m.tenants = none := by simpa using hnew
        obtain ⟨hvalid, hnodup, hfree⟩ := (ih m₁).mp ⟨m', hrest⟩
        have hothers : ∀ u ∈ ts, t.id ≠ u.id ∧ Store.get u.id m.tenants = none :=
          fun u hu => (get_inserted_eq_none hstored hnone u.id).mp (hfree u hu)
        refine ⟨⟨hv, hvalid⟩, ⟨?_, hnodup⟩, hnone, fun u hu => (hothers u hu).2⟩
        intro hmem
        obtain ⟨u, hu, heq⟩ := List.mem_map.mp hmem
        exact (hothers u hu).1 heq.symm
      · rintro ⟨⟨hv, hvalid⟩, ⟨hother, hnodup⟩, hnone, hfree⟩
        obtain ⟨m₁, hfirst⟩ := insertTenant_of_free (goString "newMemoryResolver")
          (goString "newMemoryResolver: " ++ t.id) hv hnone
        have hstored := (insertTenant_eq_ok hfirst).2.2
        have hfree₁ : ∀ u ∈ ts, Store.get u.id m₁.tenants = none := by
          intro u hu
          have hne : t.id ≠ u.id := fun heq => hother (List.mem_map.mpr ⟨u, hu, heq.symm⟩)
          exact (get_inserted_eq_none hstored hnone u.id).mpr ⟨hne, hfree u hu⟩
        obtain ⟨m', hrest⟩ := (ih m₁).mpr ⟨hvalid, hnodup, hfree₁⟩
        refine ⟨m', ?_⟩
        rw [insertAll, List.foldlM_cons, hfirst]
        exact hrest

/-- The history of a table that was just built: every record was set. -/
def configured (ts : List Tenant) : History := ts.map fun t => (.set t, .done)

/-- The loop does what a `Set` for each record would do. -/
theorem runCalls_insertAll (ts : List Tenant) : ∀ {m m' : MemoryResolver},
    insertAll m ts = .ok m' →
      runCalls (ts.map .set) m.tenants = (configured ts, m'.tenants) := by
  induction ts with
  | nil =>
      intro m m' h
      cases h
      rfl
  | cons t ts ih =>
      intro m m' h
      rw [insertAll, List.foldlM_cons] at h
      obtain ⟨m₁, hfirst, hrest⟩ := bind_eq_ok h
      obtain ⟨hv, hnew, hstored⟩ := insertTenant_eq_ok hfirst
      have hnone : Store.get t.id m.tenants = none := by simpa using hnew
      have hset : (Call.set t).exec m.tenants = (.done, m₁.tenants) := by
        rw [Call.exec, memorySet_of_free hv hnone, Store.put_of_get_eq_none hnone, hstored]
        rfl
      rw [List.map_cons, runCalls, hset, ih hrest]
      rfl

/-! ### The finite map -/

/-- The code that the documentation of the RPC gives for a call, by the ids that are in use. -/
def documentedCode (inUse : GoString → Bool) : Call → Option Int
  | .set t =>
      if t.id = [] ∨ t.topicPrefix = [] ∨ t.upstream = [] then some codeInvalid
      else if inUse t.id then some codeDuplicate
      else none
  | .delete id =>
      if id = [] then some codeInvalid
      else if inUse id then none
      else some codeNotFound
  | _ => none

/-- `Set` and `Delete`. -/
def Call.Mutates : Call → Prop
  | .set _ => True
  | .delete _ => True
  | _ => False

/-- The map `s` is the finite map of the history `h`. -/
structure Refines (h : History) (s : Table) : Prop where
  /-- `Get` returns the record the latest successful mutation of the id inserted. -/
  get_record : ∀ id t, (Call.get id).exec s = (.record t, s) ↔ latest id h = some t
  own_id : ∀ id t, latest id h = some t → t.id = id
  get_unknown : ∀ id, latest id h = none →
    (Call.get id).exec s = (.failed errUnauthorized, s)
  /-- `List` returns each live record exactly once. -/
  list_once : ∃ ts, Call.list.exec s = (.records ts, s) ∧ ts.Nodup ∧
    ∀ t, t ∈ ts ↔ latest t.id h = some t
  /-- A refused mutation changes nothing, and its error has the documented code. -/
  refused : ∀ call e s', Call.Mutates call → call.exec s = (.failed e, s') →
    s' = s ∧ ∃ code, documentedCode (fun id => (latest id h).isSome) call = some code ∧
      mapErr e = .coded code e.text

/-- The records are listed once each, because each is stored under its own id. -/
theorem nodup_records {s : Table} (hs : WellFormed s) : (s.map Prod.snd).Nodup := by
  have hids : (s.map Prod.snd).map (·.id) = Store.keys s := by
    rw [List.map_map]
    exact List.map_congr_left fun entry hentry => hs.keyed entry hentry
  exact List.Nodup.of_map (·.id) (hids ▸ hs.distinct)

/-- A record is listed when it stands under its id. -/
theorem mem_records_iff {s : Table} (hs : WellFormed s) (t : Tenant) :
    t ∈ s.map Prod.snd ↔ Store.get t.id s = some t := by
  rw [Store.get_eq_some_iff hs.distinct, List.mem_map]
  constructor
  · rintro ⟨⟨id, t'⟩, hentry, rfl⟩
    have hid : t'.id = id := hs.keyed _ hentry
    rwa [hid]
  · intro h
    exact ⟨_, h, rfl⟩

/-- Why a mutation was refused, in the terms of the documentation. -/
theorem documentedCode_of_failed {s s' : Table} {call : Call} {e : GoError}
    (hcall : Call.Mutates call) (h : Outcome s call (.failed e) s') :
    s' = s ∧ ∃ code, documentedCode (fun id => (Store.get id s).isSome) call = some code ∧
      mapErr e = .coded code e.text := by
  cases h with
  | unknown _ => exact absurd hcall id
  | invalid hv =>
      obtain ⟨hempty, hroot⟩ := validateTenant_eq_error hv
      exact ⟨rfl, codeInvalid, if_pos hempty, mapErr_invalid hroot⟩
  | @taken t hv htaken =>
      obtain ⟨hid, hprefix, hupstream⟩ := validateTenant_eq_ok.mp hv
      have hfull : ¬ (t.id = [] ∨ t.topicPrefix = [] ∨ t.upstream = []) := by
        simp [hid, hprefix, hupstream]
      refine ⟨rfl, codeDuplicate, ?_, mapErr_duplicate rfl⟩
      rw [documentedCode, if_neg hfull, if_pos htaken]
  | emptyId => exact ⟨rfl, codeInvalid, rfl, mapErr_invalid rfl⟩
  | @absent id hid habsent =>
      refine ⟨rfl, codeNotFound, ?_, mapErr_notFound rfl⟩
      rw [documentedCode, if_neg hid, if_neg (by simp [habsent])]

/-- A map that mirrors a history is the finite map of this history. -/
theorem Mirrors.refines {h : History} {s : Table} (hs : Mirrors h s) : Refines h s where
  get_record := by
    intro id t
    rw [← hs.get_eq]
    constructor
    · intro hexec
      have hout := exec_outcome s (.get id)
      rw [hexec] at hout
      cases hout with
      | got hget => exact hget
    · intro hget
      rw [Call.exec, memoryGet_of_some hget]
      rfl
  own_id := by
    intro id t hlatest
    rw [← hs.get_eq] at hlatest
    exact hs.wf.keyed _ (Store.mem_of_get_eq_some hlatest)
  get_unknown := by
    intro id hlatest
    rw [← hs.get_eq] at hlatest
    rw [Call.exec, memoryGet_of_none hlatest]
    rfl
  list_once := by
    refine ⟨s.map Prod.snd, rfl, nodup_records hs.wf, fun t => ?_⟩
    rw [mem_records_iff hs.wf, hs.get_eq]
  refused := by
    intro call e s' hcall hexec
    have hout := exec_outcome s call
    rw [hexec] at hout
    have hcode := documentedCode_of_failed hcall hout
    simp only [hs.get_eq] at hcode
    exact hcode

/-- The tenant store is a finite map over any history. The constructor accepts the lists of
valid records with distinct ids, and then has done what setting them one by one does. After
any further calls, the map is the finite map of all that was done. -/
theorem tenantStore_refines (ts : List Tenant) :
    ((∃ m, newMemoryResolver ts = .ok m) ↔
      (∀ t ∈ ts, t.id ≠ [] ∧ t.topicPrefix ≠ [] ∧ t.upstream ≠ []) ∧
        (ts.map (·.id)).Nodup) ∧
    ∀ m, newMemoryResolver ts = .ok m →
      runCalls (ts.map .set) [] = (configured ts, m.tenants) ∧
      ∀ calls, Refines (configured ts ++ (runCalls calls m.tenants).1)
        (runCalls calls m.tenants).2 := by
  constructor
  · have hiff := exists_insertAll_iff ts empty
    simp only [validateTenant_eq_ok] at hiff
    have hfree : ∀ t ∈ ts, Store.get t.id empty.tenants = none := fun t _ => rfl
    rw [← and_assoc, and_iff_left hfree] at hiff
    exact hiff
  · intro m hm
    have hsets : runCalls (ts.map .set) [] = (configured ts, m.tenants) :=
      runCalls_insertAll ts hm
    have hstart := Mirrors.nil.run (ts.map .set)
    rw [hsets, List.nil_append] at hstart
    exact ⟨hsets, fun calls => (hstart.run calls).refines⟩

/-- A record of the tenant `acme`. -/
def acmeWith (topicPrefix : String) : Tenant :=
  ⟨goString "acme", goString topicPrefix, goString "kafka:9093"⟩

/-- A refused attempt to replace the record, and one that is not refused. -/
def replaceAcme : List Call :=
  [.set (acmeWith "b."), .delete (goString "acme"), .set (acmeWith "c.")]

/-- After these calls `Get` returns the last record. -/
theorem tenantStore_refines_replaced :
    ∃ m, newMemoryResolver [acmeWith "a."] = .ok m ∧
      ((Call.get (goString "acme")).exec (runCalls replaceAcme m.tenants).2).1 =
        .record (acmeWith "c.") := by
  obtain ⟨m, hm⟩ := (tenantStore_refines [acmeWith "a."]).1.mpr (by decide)
  have hrefines := ((tenantStore_refines _).2 m hm).2 replaceAcme
  have hlatest : latest (goString "acme")
      (configured [acmeWith "a."] ++ (runCalls replaceAcme m.tenants).1) =
        some (acmeWith "c.") := by
    cases hm
    rfl
  exact ⟨m, hm, congrArg Prod.fst ((hrefines.get_record _ _).mpr hlatest)⟩

/-! ### The service -/

/-- A call of the store that fails, fails with the mapped error. -/
theorem ends_onStore {α : Type} {x : TableM α} {Q : α → Table → Prop}
    {E : RpcError → Table → Prop} {s : Table}
    (h : Ends x Q (fun e s' => E (mapErr e) s') s) : Ends (onStore x) Q E s := by
  unfold Ends onStore at *
  cases hx : x s with
  | ok a s' =>
      rw [hx] at h
      exact h
  | error e s' =>
      rw [hx] at h
      exact h

end Kroxy.Proofs
