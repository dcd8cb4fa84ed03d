import Kroxy.Admin.Client
import Kroxy.Proofs.TenantStore

/-!
# `Kroxy.Proofs.RemoteAdmin`: what a remote call of the admin service tells its caller

A call of the admin client may return before its request arrives, the request may arrive after
that, and the answer may be lost. `remote_linearizable` says what holds all the same, for any
number of calls at the same time.

* The methods that are called run in one order, each call's at most once.
* A call that returns one of the three errors of the resolver was executed, and its result is the
  truth about the table at its place in the order (`Verdict`). The errors pass two mappings on
  their way, `mapErr` and `mapClientErr`. An `ErrInvalidTenant` says that a field is empty, or
  that the parameters did not bind.
* The same holds of a call that returns nil, unless it was given an envelope with neither a
  result nor an error. The client takes that for a success.
* The order respects time: such a call comes before every call that is started after it
  returned.

Any other error says nothing: the call may have been executed, or be executed later.
-/

set_option autoImplicit false

namespace Kroxy.Proofs

open Kroxy.Go
open Kroxy.Lib
open Kroxy.Resolver
open Kroxy.Admin

/-- The tenant that a `Set` creates. -/
def setTenant (L : Libraries) (p : SetParams) : Tenant :=
  ⟨L.carry p.id, L.carry p.topicPrefix, L.carry p.upstream⟩

/-- What the client's `List` shows of a table. -/
def shownTenants (L : Libraries) (s : Table) : ListResult :=
  ListResult.carried L ⟨s.map fun entry =>
    ⟨entry.2.id, entry.2.topicPrefix, entry.2.upstream⟩⟩

/-- Is it one of the errors of the resolver? -/
def Sentinel (e : GoError) : Prop :=
  e.is errDuplicate = true ∨ e.is errNotFound = true ∨ e.is errInvalidTenant = true

/-- Is the result of call `i` the word of the resolver? It is when it is one of its errors, and
when it is no error and the call did not get an empty envelope. -/
def Definite (es : List AdminMove) (i : Nat) : Except GoError Returned → Prop
  | .ok _ => .own i (.lost .empty) ∉ es
  | .error e => Sentinel e

/-- What the result of a call says about the table `s` it was executed on, and the table after
it. The parameters did bind, or `p.Bind` returned an error. -/
inductive Verdict (L : Libraries) (s : Table) :
    Request → Option GoError → Except GoError Returned → Table → Prop where
  | stored (p : SetParams) (valid : validateTenant (setTenant L p) = .ok ())
      (free : Store.get (L.carry p.id) s = none) :
      Verdict L s (.set p) none (.ok .nil) (Store.put (L.carry p.id) (setTenant L p) s)
  | taken (p : SetParams) (message : GoString) (valid : validateTenant (setTenant L p) = .ok ())
      (taken : (Store.get (L.carry p.id) s).isSome) :
      Verdict L s (.set p) none (.error (errDuplicate.wrap message)) s
  | incomplete (p : SetParams) (message : GoString)
      (empty : L.carry p.id = [] ∨ L.carry p.topicPrefix = [] ∨ L.carry p.upstream = []) :
      Verdict L s (.set p) none (.error (errInvalidTenant.wrap message)) s
  | removed (p : DeleteParams) (named : L.carry p.id ≠ [])
      (there : (Store.get (L.carry p.id) s).isSome) :
      Verdict L s (.delete p) none (.ok .nil) (Store.erase (L.carry p.id) s)
  | absent (p : DeleteParams) (message : GoString) (named : L.carry p.id ≠ [])
      (absent : Store.get (L.carry p.id) s = none) :
      Verdict L s (.delete p) none (.error (errNotFound.wrap message)) s
  | emptyId (p : DeleteParams) (message : GoString) (empty : L.carry p.id = []) :
      Verdict L s (.delete p) none (.error (errInvalidTenant.wrap message)) s
  | listed (bind : Option GoError) :
      Verdict L s .list bind (.ok (.tenants (shownTenants L s))) s
  /-- The parameters of a mutation did not bind. -/
  | unbound (request : Request) (e : GoError) (mutation : request ≠ .list) :
      Verdict L s request (some e)
        (.error (errInvalidTenant.wrap (goString "admin: " ++ L.carry e.text))) s

/-! ### Errors on their way -/

section
variable {message : GoString}

/-- The errors of the resolver start with a `t` or an `i`. -/
theorem not_sentinel_of_head {text : GoString}
    (hhead : text.head? ≠ some 116 ∧ text.head? ≠ some 105) :
    ¬ Sentinel (errorsNew text) := by
  have hroot : ∀ {sentinel : GoError}, (errorsNew text).is sentinel = true →
      text.head? = sentinel.root.head? := fun h => congrArg List.head? (beq_iff_eq.mp h)
  intro hdef
  rcases hdef with h | h | h
  · exact hhead.1 ((hroot h).trans (by decide))
  · exact hhead.1 ((hroot h).trans (by decide))
  · exact hhead.2 ((hroot h).trans (by decide))

/-- An error of another package stays one when it is wrapped. -/
theorem not_sentinel_wrap (f : ForeignError) : ¬ Sentinel (f.err.wrap message) := by
  intro hdef
  obtain ⟨hdup, hnot, hinv⟩ := f.foreign
  rcases hdef with h | h | h
  · cases hdup.symm.trans h
  · cases hnot.symm.trans h
  · cases hinv.symm.trans h

/-- An error of the RPC server is none of the resolver. -/
theorem mapClientErr_library (f : LibraryError) :
    ¬ Sentinel (mapClientErr f.toRpcError) := by
  obtain ⟨hdup, hnot, hinv⟩ := f.foreign
  have hhead : ∀ rest, (goString "admin: rpc error " ++ rest).head? = some 97 := fun _ => rfl
  rw [mapClientErr, if_neg hdup, if_neg hnot, if_neg hinv, List.append_assoc, List.append_assoc]
  exact not_sentinel_of_head (by rw [hhead]; decide)

/-- A call that lost its answer returns no error of the resolver, and none only for an empty
envelope. -/
theorem call_lost {α : Type} (zero : α) (why : Lost) :
    (why = .empty ∧ Client.call zero why.http = .ok zero) ∨
      ∃ err, Client.call zero why.http = .error err ∧ ¬ Sentinel err := by
  cases why with
  | failed e => exact Or.inr ⟨_, rfl, not_sentinel_wrap e⟩
  | status code raw notOK =>
      refine Or.inr ⟨_, if_pos notOK, ?_⟩
      rw [List.append_assoc, List.append_assoc]
      have hhead : ∀ rest, (goString "Client.call: HTTP " ++ rest).head? = some 67 :=
        fun _ => rfl
      exact not_sentinel_of_head (by rw [hhead]; decide)
  | body e => exact Or.inr ⟨_, rfl, not_sentinel_wrap e⟩
  | result e => exact Or.inr ⟨_, rfl, not_sentinel_wrap e⟩
  | library e => exact Or.inr ⟨_, rfl, mapClientErr_library e⟩
  | empty => exact Or.inl ⟨rfl, rfl⟩

/-- Such a call returns nothing definite. -/
theorem not_definite_lose {es : List AdminMove} {i : Nat} {why : Lost}
    (hlost : .own i (.lost why) ∈ es) (request : Request) :
    ¬ Definite es i (request.lose why) := by
  -- The three methods return what `call` returns.
  have hmap : ∀ {α : Type} (zero : α) (f : α → Returned),
      ¬ Definite es i ((Client.call zero why.http).map f) := by
    intro α zero f
    rcases call_lost zero why with ⟨rfl, hcall⟩ | ⟨err, hcall, hforeign⟩
    · rw [hcall]
      exact fun hdef => hdef hlost
    · rw [hcall]
      exact hforeign
  have hcomp : ∀ x : Except GoError OKResult,
      (x.map fun _ => ()).map (fun _ => Returned.nil) = x.map fun _ => .nil := by
    intro x
    cases x <;> rfl
  cases request with
  | set p =>
      rw [Request.lose, Client.set, hcomp]
      exact hmap _ _
  | delete p =>
      rw [Request.lose, Client.delete, hcomp]
      exact hmap _ _
  | list => exact hmap _ _

/-- The code for a duplicate becomes `ErrDuplicate`. -/
theorem mapClientErr_duplicate (message : GoString) :
    mapClientErr ⟨codeDuplicate, message⟩ = errDuplicate.wrap (goString "admin: " ++ message) :=
  if_pos rfl

/-- The code for an unknown tenant becomes `ErrNotFound`. -/
theorem mapClientErr_notFound (message : GoString) :
    mapClientErr ⟨codeNotFound, message⟩ = errNotFound.wrap (goString "admin: " ++ message) := by
  have hother : codeNotFound ≠ codeDuplicate := by decide
  rw [mapClientErr, if_neg hother, if_pos rfl]

/-- The code for an invalid tenant becomes `ErrInvalidTenant`. -/
theorem mapClientErr_invalid (message : GoString) :
    mapClientErr ⟨codeInvalid, message⟩ =
      errInvalidTenant.wrap (goString "admin: " ++ message) := by
  have hduplicate : codeInvalid ≠ codeDuplicate := by decide
  have hnotFound : codeInvalid ≠ codeNotFound := by decide
  rw [mapClientErr, if_neg hduplicate, if_neg hnotFound, if_pos rfl]

end

/-! ### One call -/

section
variable {L : Libraries} {s : Table}

/-- What holds of the two ends of a method holds of its envelope and the table. The methods
return errors with codes only. -/
theorem outcome_of_ends {α : Type} {x : ServiceM α} (carried : α → α)
    {T : Client.RpcResponse α → Table → Prop}
    (h : Ends x (fun a s' => T { result := some (.ok (carried a)) } s')
      (fun e s' => ∃ code message, e = .coded code message ∧
        T { error := some ⟨code, L.carry message⟩ } s') s) :
    T (L.envelope carried (outcome (x s)).1) (outcome (x s)).2 := by
  unfold Ends at h
  cases hx : x s with
  | ok a s' =>
      rw [hx] at h
      rw [outcome, L.envelope_ok]
      exact h
  | error e s' =>
      rw [hx] at h
      obtain ⟨code, message, rfl, hT⟩ := h
      rw [outcome, L.envelope_coded]
      exact hT

/-- What `Set` tells its caller. -/
theorem set_verdict (p : SetParams) (bind : Option GoError) :
    Ends (Service.set (bound bind (p.carried L)))
      (fun a s' => Verdict L s (.set p) bind (Reply.set { result := some (.ok a) }).returned s')
      (fun e s' => ∃ code message, e = .coded code message ∧
        Verdict L s (.set p) bind
          (Reply.set { error := some ⟨code, L.carry message⟩ }).returned s') s := by
  have hreturned : ∀ e, (Reply.set { error := some e }).returned = .error (mapClientErr e) :=
    fun _ => rfl
  simp only [hreturned]
  cases bind with
  | some e =>
      refine Ends.bind (Ends.throw ⟨codeInvalid, e.text, rfl, ?_⟩)
      rw [mapClientErr_invalid]
      exact .unbound _ e (by simp)
  | none =>
      refine Ends.bind (Ends.pure (Ends.bind (ends_onStore (memorySet_ends ?_ ?_ ?_))))
      · exact fun valid free => Ends.pure (.stored p valid free)
      · intro e hv
        obtain ⟨hempty, hroot⟩ := validateTenant_eq_error hv
        refine ⟨codeInvalid, _, mapErr_invalid hroot, ?_⟩
        rw [mapClientErr_invalid]
        exact .incomplete p _ hempty
      · intro valid there
        refine ⟨codeDuplicate, _, mapErr_duplicate rfl, ?_⟩
        rw [mapClientErr_duplicate]
        exact .taken p _ valid there

/-- What `Delete` tells its caller. -/
theorem delete_verdict (p : DeleteParams) (bind : Option GoError) :
    Ends (Service.delete (bound bind (p.carried L)))
      (fun a s' =>
        Verdict L s (.delete p) bind (Reply.delete { result := some (.ok a) }).returned s')
      (fun e s' => ∃ code message, e = .coded code message ∧
        Verdict L s (.delete p) bind
          (Reply.delete { error := some ⟨code, L.carry message⟩ }).returned s') s := by
  have hreturned : ∀ e, (Reply.delete { error := some e }).returned = .error (mapClientErr e) :=
    fun _ => rfl
  simp only [hreturned]
  cases bind with
  | some e =>
      refine Ends.bind (Ends.throw ⟨codeInvalid, e.text, rfl, ?_⟩)
      rw [mapClientErr_invalid]
      exact .unbound _ e (by simp)
  | none =>
      refine Ends.bind (Ends.pure (Ends.bind (ends_onStore (memoryDelete_ends ?_ ?_ ?_))))
      · exact fun named there => Ends.pure (.removed p named there)
      · intro hempty
        refine ⟨codeInvalid, _, mapErr_invalid rfl, ?_⟩
        rw [mapClientErr_invalid]
        exact .emptyId p _ hempty
      · intro named habsent
        refine ⟨codeNotFound, _, mapErr_notFound rfl, ?_⟩
        rw [mapClientErr_notFound]
        exact .absent p _ named habsent

/-- `List` shows the table. -/
theorem handle_list (bind : Option GoError) :
    handle L s .list bind = (.list { result := some (.ok (shownTenants L s)) }, s) := by
  have htenants : (s.map fun entry => (⟨entry.2.id, entry.2.topicPrefix, entry.2.upstream⟩ :
      TenantView)) = (s.map Prod.snd).map fun t => ⟨t.id, t.topicPrefix, t.upstream⟩ := by
    rw [List.map_map]
    rfl
  rw [shownTenants, htenants]
  exact congrArg (fun r => (Reply.list r, s)) (L.envelope_ok _ _)

/-- What the caller gets is the truth about the table. -/
theorem handle_verdict (L : Libraries) (s : Table) (request : Request) (bind : Option GoError) :
    Verdict L s request bind (handle L s request bind).1.returned (handle L s request bind).2 := by
  cases request with
  | set p =>
      exact outcome_of_ends id
        (T := fun r s' => Verdict L s (.set p) bind (Reply.set r).returned s') (set_verdict p bind)
  | delete p =>
      exact outcome_of_ends id
        (T := fun r s' => Verdict L s (.delete p) bind (Reply.delete r).returned s')
        (delete_verdict p bind)
  | list =>
      rw [handle_list]
      exact .listed bind

end

/-- The mutation that a request asks for. -/
def mutation (L : Libraries) : Request → Option MemoryResolver.Op
  | .set p => some (.set (setTenant L p))
  | .delete p => some (.delete (L.carry p.id))
  | .list => none

/-- A call does to the table what its mutation does, or nothing. -/
theorem Verdict.table {L : Libraries} {m : MemoryResolver} {request : Request}
    {bind : Option GoError} {r : Except GoError Returned} {t : Table}
    (h : Verdict L m.tenants request bind r t) :
    t = m.tenants ∨ ∃ op, mutation L request = some op ∧ t = (m.apply op).tenants := by
  cases h with
  | stored p valid free =>
      refine Or.inr ⟨_, rfl, ?_⟩
      rw [← exec_call]
      show _ = (answered (fun _ => .done) (memorySet (setTenant L p) m.tenants)).2
      rw [memorySet_of_free valid free]
      rfl
  | removed p named there =>
      refine Or.inr ⟨_, rfl, ?_⟩
      rw [← exec_call]
      show _ = (answered (fun _ => .done) (memoryDelete (L.carry p.id) m.tenants)).2
      rw [memoryDelete_of_some named there]
      rfl
  | _ => exact Or.inl rfl

/-- So an order of calls does what some of its mutations do. -/
theorem replays_mutations {L : Libraries} {m : MemoryResolver}
    {order : List (Executed Request (Option GoError) Reply)} {t : Table}
    (h : Replays (handle L) m.tenants order t) :
    ∃ ops, ops.Sublist (order.filterMap fun e => mutation L e.request) ∧
      t = (m.run ops).tenants := by
  induction h with
  | nil => exact ⟨[], List.nil_sublist _, rfl⟩
  | concat order e before after hbefore hlast ih =>
      obtain ⟨ops, hsub, rfl⟩ := ih
      have hverdict := handle_verdict L (m.run ops).tenants e.request e.env
      rw [hlast] at hverdict
      rw [List.filterMap_append]
      rcases hverdict.table with hsame | ⟨op, hop, hafter⟩
      · exact ⟨ops, hsub.trans (List.sublist_append_left _ _), hsame⟩
      · refine ⟨ops ++ [op], hsub.append ?_, ?_⟩
        · simp [hop]
        · rw [MemoryResolver.run, List.foldl_append]
          exact hafter

/-! ### Many calls -/

/-- A definite result is the answer of the service. -/
theorem answer_of_definite {L : Libraries} {table : Table} {es : List AdminMove} {s : AdminState}
    (h : Linear (remoteAdmin L) table es s) {i : Nat} {c : AdminCall} (hc : s.parts[i]? = some c)
    {r : Except GoError Returned} (hr : c.result = some r) (hdef : Definite es i r) :
    ∃ answer, c.answer = some answer ∧ r = answer.returned := by
  rcases h.results i c r hc hr with hanswer | ⟨why, hlost, rfl⟩
  · exact hanswer
  · exact absurd hdef (not_definite_lose hlost c.request)

/-- Remote calls are linearizable. In every run, whatever the network and the libraries do, the
calls that arrived were executed in one order, each at most once. The table is what this order
makes of the first one, which is what some of its mutations make of it. A call with a definite
result has its place in the order, and its result is the truth about the table there. It comes
before every call that was started after it returned. -/
theorem remote_linearizable {L : Libraries} {m : MemoryResolver} {es : List AdminMove}
    {s : AdminState} (h : (remoteAdmin L).system.run (Remote.idle m.tenants) es = some s) :
    Replays (handle L) m.tenants s.shared.order s.shared.state ∧
    (s.shared.order.map (·.ticket)).Nodup ∧
    (∃ ops, ops.Sublist (s.shared.order.filterMap fun e => mutation L e.request) ∧
      s.shared.state = (m.run ops).tenants) ∧
    (∀ i c r, s.parts[i]? = some c → c.result = some r → Definite es i r →
      ∃ before e later t t', s.shared.order = before ++ e :: later ∧ e.ticket = i ∧
        .own i (.arrive e.env) ∈ es ∧
        Replays (handle L) m.tenants before t ∧ Replays (handle L) m.tenants (before ++ [e]) t' ∧
        Verdict L t c.request e.env r t') ∧
    ∀ pre post t, es = pre ++ post →
      (remoteAdmin L).system.run (Remote.idle m.tenants) pre = some t →
      ∀ i j c r, t.parts[i]? = some c → c.result = some r → Definite pre i r →
        t.parts.length ≤ j →
        ∃ before later, s.shared.order = before ++ later ∧ i ∈ before.map (·.ticket) ∧
          j ∉ before.map (·.ticket) := by
  have hlinear : Linear (remoteAdmin L) m.tenants es s := Remote.linear_run h
  refine ⟨hlinear.replays, hlinear.once, replays_mutations hlinear.replays, ?_, ?_⟩
  · intro i c r hc hr hdef
    obtain ⟨answer, hanswer, rfl⟩ := answer_of_definite hlinear hc hr hdef
    obtain ⟨env, hmem⟩ := hlinear.answers i c answer hc hanswer
    obtain ⟨before, later, t, t', horder, hbefore, hexec⟩ := hlinear.replays.at hmem
    have hverdict := handle_verdict L t c.request env
    rw [show handle L t c.request env = (answer, t') from hexec] at hverdict
    exact ⟨before, _, later, t, t', horder, rfl, hlinear.arrived _ hmem, hbefore,
      .concat _ _ _ _ hbefore hexec, hverdict⟩
  · intro pre post t hes ht i j c r hc hr hdef hj
    have htlinear : Linear (remoteAdmin L) m.tenants pre t := Remote.linear_run ht
    obtain ⟨answer, hanswer, -⟩ := answer_of_definite htlinear hc hr hdef
    rw [hes, System.run_append, ht] at h
    exact htlinear.realTime hc hanswer hj (Remote.order_prefix h)

/-- Libraries that leave strings alone. -/
def plainLibraries : Libraries where
  carry := id
  envelope carried
    | .ok r => { result := some (.ok (carried r)) }
    | .error (.coded code message) => { error := some ⟨code, message⟩ }
    | .error (.other e) => { error := some ⟨-32603, e.text⟩ }
  envelope_ok _ _ := rfl
  envelope_coded _ _ _ := rfl

/-- A `Set` whose caller gives up before it arrives, and a second attempt. -/
def setTwice : List AdminMove :=
  let request : Request := .set ⟨goString "acme", goString "acme.", goString "kafka:9092"⟩
  let timeout : ForeignError := ⟨errorsNew (goString "context deadline exceeded"), by decide⟩
  [.common request, .own 0 (.lost (.failed timeout)), .common request,
    .own 0 (.arrive none), .own 1 (.arrive none), .own 1 .reply]

/-- Is it a duplicate? -/
def isDuplicate : Except GoError Returned → Bool
  | .ok _ => false
  | .error e => e.is errDuplicate

/-- A duplicate is a definite answer. -/
theorem definite_of_isDuplicate {es : List AdminMove} {i : Nat} {r : Except GoError Returned}
    (h : isDuplicate r = true) : Definite es i r := by
  cases r with
  | ok v => cases h
  | error e => exact Or.inl h

/-- The second attempt returns `ErrDuplicate`, and that is true where it stands in the order. -/
theorem remote_linearizable_twice :
    ∃ s c r e t t', (remoteAdmin plainLibraries).system.run
        (Remote.idle MemoryResolver.empty.tenants) setTwice = some s ∧
      s.parts[1]? = some c ∧ c.result = some r ∧ isDuplicate r = true ∧
      e ∈ s.shared.order ∧ Verdict plainLibraries t c.request e.env r t' := by
  obtain ⟨s, hrun, hresult⟩ : ∃ s,
      (remoteAdmin plainLibraries).system.run (Remote.idle MemoryResolver.empty.tenants) setTwice =
        some s ∧ (s.parts[1]?.bind (·.result)).map isDuplicate = some true :=
    Option.map_eq_some_iff.mp (by decide +kernel)
  obtain ⟨r, hbind, hdup⟩ := Option.map_eq_some_iff.mp hresult
  obtain ⟨c, hc, hr⟩ := Option.bind_eq_some_iff.mp hbind
  obtain ⟨before, e, later, t, t', horder, -, -, -, -, hverdict⟩ :=
    (remote_linearizable hrun).2.2.2.1 1 c r hc hr (definite_of_isDuplicate hdup)
  exact ⟨s, c, r, e, t, t', hrun, hc, hr, hdup, by simp [horder], hverdict⟩

/-- A `Set` that gets an empty envelope returns nil, and nothing was executed. -/
example :
    let request : Request := .set ⟨goString "acme", goString "acme.", goString "kafka:9092"⟩
    ((remoteAdmin plainLibraries).system.run (Remote.idle MemoryResolver.empty.tenants)
      [.common request, .own 0 (.lost .empty)]).map
        (fun s => ((s.parts[0]?.bind (·.result)).map (·.isOk), s.shared.order.length)) =
      some (some true, 0) := by
  decide +kernel

end Kroxy.Proofs
