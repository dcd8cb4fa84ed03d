import Kroxy.Cmd.Main
import Kroxy.Proofs.Advertised
import Kroxy.Proofs.Forwarding
import Kroxy.Proofs.TenantStore

/-!
# `Kroxy.Proofs.Startup`: from the configuration file to the clients

`program` adds `run` in `cmd/kroxy` to the server. `program_projects` says that its steps are
steps of `process`, or nothing to it, so the results about `process` hold for the program until
it ends.

* `startup_iff` says which configurations get as far as a server, and with which tenant table.
* `served_tenants`: whoever is served is a configured tenant or one that the admin service set.
-/

set_option autoImplicit false

namespace Kroxy.Proofs

open Kroxy.Go
open Kroxy.Lib
open Kroxy.Kmsg
open Kroxy.Protocol
open Kroxy.Auth
open Kroxy.Proxy
open Kroxy.Resolver
open Kroxy.Observability
open Kroxy.Cmd

/-! ### What starts -/

/-- A check of `validate`, in front of the others. -/
theorem refuse_or {p : Prop} [Decidable p] {msg : GoString} {x y : Except GoError Unit} :
    (if p then (do Config.configError msg; y) else x) = .ok () ↔ ¬ p ∧ x = .ok () := by
  by_cases hp : p
  · simp [hp, Config.configError, bind, Except.bind]
  · simp [hp]

/-- The last check of `validate`. -/
theorem refuse_or_done {p : Prop} [Decidable p] {msg : GoString} :
    (if p then Config.configError msg else pure ()) = .ok () ↔ ¬ p := by
  by_cases hp : p
  · simp [hp, Config.configError]
  · simp [hp, pure, Except.pure]

/-- Two checks pass when both do. -/
theorem seq_eq_ok {x y : Except GoError Unit} :
    (do x; y) = .ok () ↔ x = .ok () ∧ y = .ok () := by
  cases x <;> simp [bind, Except.bind]

/-- The tenants of a configuration need an id and a prefix. -/
theorem validateTenants_eq_ok {ts : List Tenant} {i : Nat} :
    Config.validateTenants ts i = .ok () ↔ ∀ t ∈ ts, t.id ≠ [] ∧ t.topicPrefix ≠ [] := by
  induction ts generalizing i with
  | nil => simp [Config.validateTenants]
  | cons t ts ih =>
      simp only [Config.validateTenants, List.forall_mem_cons]
      split
      · simp_all [Config.tenantFieldError, Config.configError]
      · split
        · simp_all [Config.tenantFieldError, Config.configError]
        · simp_all

/-- There must be tenants, or an admin service to set them. -/
theorem validateMemoryResolver_eq_ok {c : Config} :
    c.validateMemoryResolver = .ok () ↔
      (c.resolver.memory.tenants ≠ [] ∨ c.admin.enabled = true) ∧
        ∀ t ∈ c.resolver.memory.tenants, t.id ≠ [] ∧ t.topicPrefix ≠ [] := by
  unfold Config.validateMemoryResolver
  split
  · rename_i hnone
    simp [Config.configError, hnone.1, hnone.2]
  · rename_i hsome
    rw [validateTenants_eq_ok]
    simp only [not_and_or, Bool.not_eq_false] at hsome
    simp [hsome]

/-- The admin address must split when the service is enabled. -/
theorem validateAdmin_eq_ok {c : Config} :
    c.validateAdmin = .ok () ↔
      (c.admin.enabled = true → (splitHostPort c.admin.listen).isOk = true) := by
  unfold Config.validateAdmin
  cases c.admin.enabled with
  | false => simp
  | true =>
      cases splitHostPort c.admin.listen with
      | ok hp => simp [Except.isOk, Except.toBool]
      | error e => simp [Except.isOk, Except.toBool]

/-- What `validate` lets through. -/
theorem validate_eq_ok {c : Config} :
    c.validate = .ok () ↔
      c.advertised ≠ [] ∧ c.upstream.bootstrap ≠ [] ∧ c.resolver.type = goString "memory" ∧
      ((c.resolver.memory.tenants ≠ [] ∨ c.admin.enabled = true) ∧
        ∀ t ∈ c.resolver.memory.tenants, t.id ≠ [] ∧ t.topicPrefix ≠ []) ∧
      (c.admin.enabled = true → (splitHostPort c.admin.listen).isOk = true) ∧
      (c.tls.enabled = true → c.tls.certFile ≠ [] ∧ c.tls.keyFile ≠ []) ∧
      (c.upstream.sasl.mechanism = [] ∨ isSCRAMMechanism c.upstream.sasl.mechanism = true) := by
  unfold Config.validate
  simp only [refuse_or]
  by_cases htype : c.resolver.type = goString "memory"
  · simp only [if_pos htype, seq_eq_ok, refuse_or, refuse_or_done, validateMemoryResolver_eq_ok,
      validateAdmin_eq_ok]
    simp only [htype, true_and, ne_eq, not_and, not_or, Bool.not_eq_false,
      ← or_iff_not_imp_left]
  · simp [htype, Config.configError, bind, Except.bind]

/-- The tenants of a configuration, each with its upstream. -/
def configuredTenants (c : Config) : List Tenant := c.applyDefaults.resolver.memory.tenants

/-- A configured tenant has the shared bootstrap when it names no upstream. -/
theorem mem_configuredTenants {c : Config} {t : Tenant} :
    t ∈ configuredTenants c ↔ ∃ t₀ ∈ c.resolver.memory.tenants,
      t = { t₀ with upstream := Config.orDefault t₀.upstream c.upstream.bootstrap } := by
  simp only [configuredTenants, Config.applyDefaults, List.mem_map]
  exact exists_congr fun t₀ => and_congr_right fun _ => eq_comm

/-- What a configuration needs for the program to start. -/
structure Acceptable (loadKeyPair : GoString → GoString → Except GoError Unit) (c : Config) :
    Prop where
  advertised : c.advertised ≠ []
  bootstrap : c.upstream.bootstrap ≠ []
  type : c.resolver.type = [] ∨ c.resolver.type = goString "memory"
  tenants : c.resolver.memory.tenants ≠ [] ∨ c.admin.enabled = true
  complete : ∀ t ∈ c.resolver.memory.tenants, t.id ≠ [] ∧ t.topicPrefix ≠ []
  /-- `Load` does not look at this, and `New` does. -/
  distinct : (c.resolver.memory.tenants.map (·.id)).Nodup
  admin : c.admin.enabled = true →
    c.admin.listen = [] ∨ (splitHostPort c.admin.listen).isOk = true
  tls : c.tls.enabled = true → c.tls.certFile ≠ [] ∧ c.tls.keyFile ≠ [] ∧
    loadKeyPair c.tls.certFile c.tls.keyFile = .ok ()
  mechanism : c.upstream.sasl.mechanism = [] ∨
    isSCRAMMechanism c.upstream.sasl.mechanism = true

/-- The defaults touch neither the ids nor the prefixes. -/
theorem complete_configured {c : Config} :
    (∀ t ∈ configuredTenants c, t.id ≠ [] ∧ t.topicPrefix ≠ []) ↔
      ∀ t ∈ c.resolver.memory.tenants, t.id ≠ [] ∧ t.topicPrefix ≠ [] := by
  simp only [configuredTenants, Config.applyDefaults, List.forall_mem_map]

/-- The ids are those of the file. -/
theorem ids_configured (c : Config) :
    (configuredTenants c).map (·.id) = c.resolver.memory.tenants.map (·.id) := by
  simp [configuredTenants, Config.applyDefaults]

/-- The resolver is the memory one when the file says so or nothing. -/
theorem orDefault_memory {type : GoString} :
    Config.orDefault type (goString "memory") = goString "memory" ↔
      type = [] ∨ type = goString "memory" := by
  unfold Config.orDefault
  split <;> simp_all

/-- The default address of the admin server can be split. -/
theorem splits_orDefault {listen : GoString} :
    (splitHostPort (Config.orDefault listen (goString "127.0.0.1:9095"))).isOk = true ↔
      listen = [] ∨ (splitHostPort listen).isOk = true := by
  unfold Config.orDefault
  split
  · rename_i hempty
    exact ⟨fun _ => Or.inl hempty, fun _ => by decide⟩
  · rename_i hsome
    simp [hsome]

/-- The records of a configuration that passed `Load` are valid, because a tenant without an
upstream gets the shared one. -/
theorem valid_configured {c : Config} (hboot : c.upstream.bootstrap ≠ [])
    (hcomplete : ∀ t ∈ c.resolver.memory.tenants, t.id ≠ [] ∧ t.topicPrefix ≠ []) :
    ∀ t ∈ configuredTenants c, validateTenant t = .ok () := by
  intro t ht
  obtain ⟨t₀, ht₀, rfl⟩ := mem_configuredTenants.mp ht
  obtain ⟨hid, hname⟩ := hcomplete t₀ ht₀
  refine validateTenant_eq_ok.mpr ⟨hid, hname, ?_⟩
  show Config.orDefault t₀.upstream c.upstream.bootstrap ≠ []
  unfold Config.orDefault
  split
  · exact hboot
  · assumption

/-- The records are inserted in their order. -/
theorem list_insertAll (ts : List Tenant) : ∀ {m m' : MemoryResolver},
    insertAll m ts = .ok m' → m'.list = m.list ++ ts := by
  induction ts with
  | nil =>
      intro m m' h
      cases h
      simp
  | cons t ts ih =>
      intro m m' h
      rw [insertAll, List.foldlM_cons] at h
      obtain ⟨m₁, hfirst, hrest⟩ := bind_eq_ok h
      have hstored := (MemoryResolver.insertTenant_eq_ok hfirst).2.2
      rw [ih hrest, MemoryResolver.list, hstored]
      simp [MemoryResolver.list]

section
variable {codec : Codec} {scram : ScramClient} {labels : LabelCheck} {config : Config}
variable {loadKeyPair : GoString → GoString → Except GoError Unit}

/-- The key pair must load when TLS is on. -/
theorem tlsBuild_eq_ok {t : Config.TLSConfig} :
    tlsBuild loadKeyPair t = .ok () ↔
      (t.enabled = true → loadKeyPair t.certFile t.keyFile = .ok ()) := by
  unfold tlsBuild
  cases t.enabled with
  | false => simp
  | true => cases loadKeyPair t.certFile t.keyFile <;> simp

/-- The stages of `start`. -/
theorem start_eq_ok {X : Server} {s : Joint ProgramState Client} :
    start codec scram labels loadKeyPair config = .ok (X, s) ↔
      config.applyDefaults.validate = .ok () ∧
      ∃ table, resolverNew config.applyDefaults.resolver = .ok table ∧
        tlsBuild loadKeyPair config.tls = .ok () ∧
        X = { codec, scram, cfg := config.applyDefaults.serverConfig, labels } ∧
        s = ⟨{ server :=
                { resolver := table
                  metrics := if config.metrics.enabled then some {} else none }
               adminEnabled := config.admin.enabled }, []⟩ := by
  constructor
  · intro h
    obtain ⟨cfg, hload, h⟩ := bind_eq_ok h
    obtain ⟨table, hnew, h⟩ := bind_eq_ok h
    obtain ⟨_, htls, h⟩ := bind_eq_ok h
    cases h
    cases Config.load_eq_ok hload
    refine ⟨?_, table, hnew, htls, rfl, rfl⟩
    unfold Config.load at hload
    split at hload
    · assumption
    · cases hload
  · rintro ⟨hvalid, table, hnew, htls, rfl, rfl⟩
    have hload : config.load = .ok config.applyDefaults := by
      rw [Config.load, hvalid]
    have htls' : tlsBuild loadKeyPair config.applyDefaults.tls = .ok () := htls
    rw [start, hload]
    show (resolverNew config.applyDefaults.resolver >>= _) = _
    rw [hnew]
    show (tlsBuild loadKeyPair config.applyDefaults.tls >>= _) = _
    rw [htls']
    rfl

/-- The table the program starts with. -/
theorem list_resolverNew {table : MemoryResolver}
    (h : resolverNew config.applyDefaults.resolver = .ok table) :
    table.list = configuredTenants config := by
  unfold resolverNew at h
  split at h
  · exact (list_insertAll _ h).trans (by simp [MemoryResolver.list, MemoryResolver.empty,
      configuredTenants])
  · cases h

variable (codec scram labels loadKeyPair config)

/-- The program starts exactly when the configuration is acceptable, and then the tenant table
holds the configured tenants, all of them valid. -/
theorem startup_iff :
    ((∃ r, start codec scram labels loadKeyPair config = .ok r) ↔
      Acceptable loadKeyPair config) ∧
    ∀ X s, start codec scram labels loadKeyPair config = .ok (X, s) →
      s.shared.server.resolver.list = configuredTenants config ∧
      ∀ t ∈ configuredTenants config, validateTenant t = .ok () := by
  constructor
  · constructor
    · rintro ⟨⟨X, s⟩, h⟩
      obtain ⟨hvalid, table, hnew, htls, -, -⟩ := start_eq_ok.mp h
      obtain ⟨hadv, hboot, htype, ⟨htenants, hcomplete⟩, hadmin, hfiles, hmech⟩ :=
        validate_eq_ok.mp hvalid
      have htable : insertAll .empty (configuredTenants config) = .ok table := by
        rwa [resolverNew, if_pos (Or.inr htype)] at hnew
      obtain ⟨-, hdistinct, -⟩ := (exists_insertAll_iff _ _).mp ⟨table, htable⟩
      have hkeys := tlsBuild_eq_ok.mp htls
      refine ⟨hadv, hboot, orDefault_memory.mp htype, ?_, complete_configured.mp hcomplete, ?_,
        fun henabled => splits_orDefault.mp (hadmin henabled), ?_, hmech⟩
      · exact htenants.imp_left fun hne hnil => hne (by simp [Config.applyDefaults, hnil])
      · rwa [ids_configured] at hdistinct
      · intro henabled
        exact ⟨(hfiles henabled).1, (hfiles henabled).2, hkeys henabled⟩
    · intro hacc
      have htype : config.applyDefaults.resolver.type = goString "memory" :=
        orDefault_memory.mpr hacc.type
      have hcomplete := complete_configured.mpr hacc.complete
      have hvalid : config.applyDefaults.validate = .ok () := by
        refine validate_eq_ok.mpr ⟨hacc.advertised, hacc.bootstrap, htype, ⟨?_, hcomplete⟩,
          fun henabled => splits_orDefault.mpr (hacc.admin henabled),
          fun henabled => ⟨(hacc.tls henabled).1, (hacc.tls henabled).2.1⟩, hacc.mechanism⟩
        refine hacc.tenants.imp_left fun hne hnil => hne ?_
        simpa [Config.applyDefaults] using hnil
      obtain ⟨table, htable⟩ := (exists_insertAll_iff (configuredTenants config)
        .empty).mpr ⟨valid_configured hacc.bootstrap hacc.complete,
          by rw [ids_configured]; exact hacc.distinct, fun _ _ => rfl⟩
      have hnew : resolverNew config.applyDefaults.resolver = .ok table := by
        rw [resolverNew, if_pos (Or.inr htype)]
        exact htable
      have htls := tlsBuild_eq_ok.mpr fun henabled => (hacc.tls henabled).2.2
      exact ⟨_, start_eq_ok.mpr ⟨hvalid, table, hnew, htls, rfl, rfl⟩⟩
  · intro X s h
    obtain ⟨-, table, hnew, -, -, rfl⟩ := start_eq_ok.mp h
    have hlist := list_resolverNew hnew
    refine ⟨hlist, fun t ht => ?_⟩
    rw [← hlist] at ht
    exact MemoryResolver.valid_of_mem_list ht

end

/-! ### What the program adds to the server -/

/-- What an event around the clients can do to the shared state of the program. -/
inductive ProgramStep (r : ProgramState) (clients : List Client) (y : ProgramEvent) :
    ProgramState → Prop where
  /-- Nothing: the event cannot happen now, or the process is gone. -/
  | stutter (spawn : r.spawn y = []) : ProgramStep r clients y r
  | server (g : ServerEvent) (event : y = .server g) (live : r.main.isExited = false)
      (reaches : r.reaches g = true) :
      ProgramStep r clients y { r with server := r.server.change clients g }
  | bound (spawn : r.spawn y = []) : ProgramStep r clients y { r with bound := true }
  | unbound (e : GoError) (spawn : r.spawn y = []) :
      ProgramStep r clients y { r with runFailed := some e }
  /-- The `select` is left with a nil error. -/
  | waits (spawn : r.spawn y = []) (main : r.main = .selecting)
      (why : r.server.cancelled = true ∨ r.server.loop = .returned) :
      ProgramStep r clients y { r with main := .waiting }
  | fails (e : GoError) (spawn : r.spawn y = []) (main : r.main = .selecting) :
      ProgramStep r clients y { r with main := .exited (.failed e) }
  | counted (spawn : r.spawn y = []) (main : r.main = .waiting)
      (all : ∀ c ∈ clients, c.phase.isReturned = true) :
      ProgramStep r clients y { r with drained := true }
  | done (spawn : r.spawn y = []) (main : r.main = .waiting) (drained : r.drained = true) :
      ProgramStep r clients y { r with main := .exited .drained }
  | gaveUp (spawn : r.spawn y = []) (main : r.main = .waiting) :
      ProgramStep r clients y { r with main := .exited .timedOut }

/-- Every change of the program is a step. -/
theorem program_step (r : ProgramState) (clients : List Client) (y : ProgramEvent) :
    ProgramStep r clients y (r.change clients y) := by
  unfold ProgramState.change
  split
  · rename_i hexited
    refine .stutter ?_
    cases y with
    | server g => simp [ProgramState.spawn, hexited]
    | _ => rfl
  · rename_i hlive
    have hlive : r.main.isExited = false := by simpa using hlive
    cases y with
    | server g =>
        simp only [ProgramState.next]
        split
        · rename_i hreach
          exact .server g rfl hlive hreach
        · rename_i hreach
          exact .stutter (by simp [ProgramState.spawn, hreach])
    | listened err =>
        simp only [ProgramState.next]
        split
        · exact .stutter rfl
        · cases err with
          | none => exact .bound rfl
          | some e => exact .unbound _ rfl
    | ctxDone =>
        simp only [ProgramState.next]
        split
        · rename_i hboth
          exact .waits rfl hboth.1 (Or.inl hboth.2)
        · exact .stutter rfl
    | runReturned =>
        simp only [ProgramState.next]
        split
        · rename_i hmain
          split
          · exact .fails _ rfl hmain
          · split
            · rename_i hloop
              exact .waits rfl hmain (Or.inr hloop)
            · exact .stutter rfl
        · exact .stutter rfl
    | sideReturned side err =>
        simp only [ProgramState.next]
        split
        · rename_i hboth
          cases err with
          | some e => exact .fails e rfl hboth.1
          | none =>
              dsimp only
              split
              · rename_i hctx
                exact .waits rfl hboth.1 (Or.inl hctx)
              · exact .stutter rfl
        · exact .stutter rfl
    | counted =>
        simp only [ProgramState.next]
        split
        · rename_i hboth
          exact .counted rfl hboth.1 (List.all_eq_true.mp hboth.2)
        · exact .stutter rfl
    | done =>
        simp only [ProgramState.next]
        split
        · rename_i hboth
          exact .done rfl hboth.1 hboth.2
        · exact .stutter rfl
    | drainTimeout =>
        simp only [ProgramState.next]
        split
        · rename_i hmain
          exact .gaveUp rfl hmain
        · exact .stutter rfl

/-- What an event of a client does: nothing, or what it does in the server. -/
theorem program_act {X : Server} {r r' : ProgramState} {c c' : Client} {x : ClientEvent}
    (h : ProgramState.act X r c x = some (r', c')) :
    r' = r ∧ c' = c ∨ ∃ server, Client.act X r.server c x = some (server, c') ∧
      r' = { r with server } := by
  unfold ProgramState.act at h
  split at h
  · cases h
    exact Or.inl ⟨rfl, rfl⟩
  · obtain ⟨⟨server, d⟩, hact, heq⟩ := Option.map_eq_some_iff.mp h
    cases heq
    exact Or.inr ⟨server, hact, rfl⟩

/-- The event as the server sees it, when the admin server runs or does not. -/
def serverEvent (admin : Bool) : ProgramEvent → Option ServerEvent
  | .server (.admin op) => if admin then some (.admin op) else none
  | .server g => some g
  | _ => none

/-- What the program lets through, the server sees. -/
theorem serverEvent_eq {r : ProgramState} {g : ServerEvent} (h : r.reaches g = true) :
    serverEvent r.adminEnabled (.server g) = some g := by
  cases g with
  | admin op =>
      have henabled : r.adminEnabled = true := h
      simp [serverEvent, henabled]
  | _ => rfl

/-- Whether there is an admin server does not change. -/
theorem keeps_adminEnabled (X : Server) (admin : Bool) :
    System.Keeps (program X) fun r => r.adminEnabled = admin where
  act := by
    intro r c x r' c' hadmin hact
    obtain ⟨rfl, -⟩ | ⟨server, -, rfl⟩ := program_act hact
    · exact hadmin
    · exact hadmin
  change := by
    intro r cs y hadmin
    show (r.change cs y).adminEnabled = admin
    have hstep := program_step r cs y
    generalize r.change cs y = r' at hstep ⊢
    cases hstep <;> exact hadmin

/-- The steps of the program are steps of the server, or nothing to it. -/
theorem program_projects (X : Server) (admin : Bool) :
    System.Projects (program X) (process X) (fun r => r.adminEnabled = admin)
      ProgramState.server (serverEvent admin) where
  keeps := keeps_adminEnabled X admin
  act := by
    intro r c x r' c' _ hact
    obtain ⟨rfl, rfl⟩ | ⟨server, hserver, rfl⟩ := program_act hact
    · exact Or.inl ⟨rfl, rfl⟩
    · exact Or.inr hserver
  change := by
    intro r cs y hadmin
    show (r.change cs y).server = r.server ∧ r.spawn y = [] ∨ _
    have hstep := program_step r cs y
    rw [show (program X).change r cs y = r.change cs y from rfl,
      show (program X).spawn r y = r.spawn y from rfl]
    generalize r.change cs y = r' at hstep ⊢
    cases hstep with
    | server g event live reaches =>
        subst event
        refine Or.inr ⟨g, hadmin ▸ serverEvent_eq reaches, rfl, ?_⟩
        simp only [ProgramState.spawn, live, reaches, and_self, if_true]
        rfl
    | stutter spawn => exact Or.inl ⟨rfl, spawn⟩
    | bound spawn => exact Or.inl ⟨rfl, spawn⟩
    | unbound e spawn => exact Or.inl ⟨rfl, spawn⟩
    | waits spawn main why => exact Or.inl ⟨rfl, spawn⟩
    | fails e spawn main => exact Or.inl ⟨rfl, spawn⟩
    | counted spawn main all => exact Or.inl ⟨rfl, spawn⟩
    | done spawn main drained => exact Or.inl ⟨rfl, spawn⟩
    | gaveUp spawn main => exact Or.inl ⟨rfl, spawn⟩

section
variable {codec : Codec} {scram : ScramClient} {labels : LabelCheck} {config : Config} {X : Server}
variable {loadKeyPair : GoString → GoString → Except GoError Unit}
variable {s₀ s : Joint ProgramState Client} {es : List (Move ClientEvent ProgramEvent)}

/-- A run of the program is a run of the server, from the configured table. -/
theorem process_of_program (hstart : start codec scram labels loadKeyPair config = .ok (X, s₀))
    (h : (program X).run s₀ es = some s) :
    ∃ table metrics es', table.list = configuredTenants config ∧
      es'.Sublist (es.filterMap
        (Move.project (serverEvent config.admin.enabled))) ∧
      (process X).run (listening table metrics) es' = some ⟨s.shared.server, s.parts⟩ := by
  obtain ⟨-, table, hnew, -, -, rfl⟩ := start_eq_ok.mp hstart
  obtain ⟨es', hsub, hrun⟩ :=
    System.run_projects (program_projects X config.admin.enabled) h rfl
  exact ⟨table, _, es', list_resolverNew hnew, hsub, hrun⟩

end

/-! ### Who is served -/

/-- A connection does not change the tenant table. -/
theorem resolver_run (X : Server) (w : World) (inputs : List Input) :
    (World.run X w inputs).resolver =
      (adminOps inputs).foldl MemoryResolver.apply w.resolver := by
  induction inputs generalizing w with
  | nil => rfl
  | cons input inputs ih =>
      rw [show World.run X w (input :: inputs) = World.run X (w.step X input) inputs from rfl, ih]
      cases input with
      | admin op => rfl
      | frame bytes net =>
          have hsame : (w.step X (.frame bytes net)).resolver = w.resolver := by
            simp only [World.step]
            split
            · rfl
            · split <;> rfl
          rw [hsame]
          rfl

/-- A record of the table was there at the start, or was set. -/
theorem mem_list_foldl {ops : List MemoryResolver.Op} {m : MemoryResolver} {t : Tenant}
    (h : t ∈ (ops.foldl MemoryResolver.apply m).list) : t ∈ m.list ∨ .set t ∈ ops := by
  induction ops generalizing m with
  | nil => exact Or.inl h
  | cons op ops ih =>
      rcases ih h with hlisted | hset
      · rcases MemoryResolver.mem_list_apply hlisted with hold | rfl
        · exact Or.inl hold
        · exact Or.inr List.mem_cons_self
      · exact Or.inr (List.mem_cons_of_mem _ hset)

/-- The calls of a run are among its events. -/
theorem mem_serverOps {es : List (Move ClientEvent ServerEvent)} {op : MemoryResolver.Op}
    (h : op ∈ serverOps es) : .common (.admin op) ∈ es := by
  obtain ⟨e, he, hop⟩ := List.mem_filterMap.mp h
  split at hop
  · cases hop
    exact he
  · cases hop

/-- A looked-up record was in the table the server started with, or an admin call set it. -/
theorem resolved_run {X : Server} {table : MemoryResolver} {metrics : Option Metrics}
    {es : List (Move ClientEvent ServerEvent)} {s : Joint ServerState Client}
    (h : (process X).run (listening table metrics) es = some s) {c : Client} (hc : c ∈ s.parts)
    {e : GoString × Tenant} (he : e ∈ c.conn.resolved) :
    e.2 ∈ table.list ∨ .common (.admin (.set e.2)) ∈ es := by
  obtain ⟨inputs, hlived, hops⟩ := client_lives h c hc
  rw [← hlived.conn] at he
  obtain ⟨pre, bytes, net, hdr, body, hpre, -, -, -, hget⟩ := lookedUp_run X table inputs e he
  have hlisted : e.2 ∈ (World.run X (World.start table) pre).resolver.list :=
    List.mem_map.mpr ⟨_, MemoryResolver.get_eq_ok hget, rfl⟩
  rw [resolver_run] at hlisted
  refine (mem_list_foldl hlisted).imp_right fun hset => ?_
  apply mem_serverOps
  rw [← hops]
  have hinit : adminOps pre <+: adminOps inputs :=
    ((List.prefix_append pre _).trans hpre).filterMap _
  exact hinit.subset hset

section
variable {codec : Codec} {scram : ScramClient} {labels : LabelCheck} {config : Config} {X : Server}
variable {loadKeyPair : GoString → GoString → Except GoError Unit}
variable {s₀ s : Joint ProgramState Client} {es : List (Move ClientEvent ProgramEvent)}

/-- Whoever is logged in, or is on the way in a relayed exchange, is a tenant of the
configuration file or one that was set through the admin service, if there is one. -/
theorem served_tenants (hstart : start codec scram labels loadKeyPair config = .ok (X, s₀))
    (h : (program X).run s₀ es = some s) {c : Client} (hc : c ∈ s.parts)
    (hstate : c.conn.state = .relaySaslInFlight ∨ c.conn.state = .authenticated) :
    c.conn.tenant ∈ configuredTenants config ∨
      config.admin.enabled = true ∧
        .common (.server (.admin (.set c.conn.tenant))) ∈ es := by
  obtain ⟨table, metrics, es', hlist, hsub, hrun⟩ := process_of_program hstart h
  obtain ⟨inputs, hlived, -⟩ := client_lives hrun c hc
  have hsound := sound_run X table inputs
  rw [hlived.conn] at hsound
  obtain ⟨username, hknown⟩ := hsound.known hstate
  rcases resolved_run hrun hc hknown with hlisted | hset
  · exact Or.inl (hlist ▸ hlisted)
  · -- The call reached the server, so there is an admin server.
    obtain ⟨e, he, hproj⟩ := List.mem_filterMap.mp (hsub.subset hset)
    cases e with
    | own i x => cases hproj
    | common y =>
        obtain ⟨g, hg, hcommon⟩ := Option.map_eq_some_iff.mp hproj
        cases hcommon
        unfold serverEvent at hg
        split at hg
        · split at hg
          · rename_i henabled
            cases hg
            exact Or.inr ⟨henabled, he⟩
          · cases hg
        · rename_i hother
          cases hg
          exact absurd rfl (hother _)
        · cases hg

end

/-! ### A program -/

/-- `run` with the configuration of the manual. -/
def sampleStart : Except GoError (Server × Joint ProgramState Client) :=
  start .sasl ⟨fun _ _ _ _ => .error errNotEnoughData⟩ .utf8 (fun _ _ => .ok ())
    (sampleConfig (goString "kroxy:9092"))

/-- A run that starts with it. -/
theorem exists_sampleStart {β : Type} {es : List (Move ClientEvent ProgramEvent)}
    {f : Joint ProgramState Client → β} {v : β}
    (h : (sampleStart.toOption.bind fun r => (program r.1).run r.2 es).map f = some v) :
    ∃ X s₀ s, sampleStart = .ok (X, s₀) ∧ (program X).run s₀ es = some s ∧ f s = v := by
  obtain ⟨s, hs, hv⟩ := Option.map_eq_some_iff.mp h
  obtain ⟨⟨X, s₀⟩, hstart, hrun⟩ := Option.bind_eq_some_iff.mp hs
  refine ⟨X, s₀, s, ?_, hrun, hv⟩
  cases hsample : sampleStart with
  | error e =>
      rw [hsample] at hstart
      cases hstart
  | ok r =>
      rw [hsample] at hstart
      cases hstart
      rfl

/-- A client of the configured tenant logs in. -/
def sampleLogin : List (Move ClientEvent ProgramEvent) :=
  [.common (.listened none), .common (.server .accepted), .own 0 (.turn quietNet)] ++
    sends (saslBroker [0]) 0 ((clientSession "tenantA" []).take 2)

/-- The tenant of the client is the configured one. -/
theorem served_tenants_sample :
    ∃ X s₀ s c, sampleStart = .ok (X, s₀) ∧ (program X).run s₀ sampleLogin = some s ∧
      s.parts = [c] ∧ c.conn.state = .authenticated ∧
      c.conn.tenant ∈ configuredTenants (sampleConfig (goString "kroxy:9092")) := by
  have hlogin : (sampleStart.toOption.bind fun r => (program r.1).run r.2 sampleLogin).map
      (fun s => s.parts.map (·.conn.state)) = some [.authenticated] := by decide +kernel
  obtain ⟨X, s₀, s, hstart, hrun, hstates⟩ := exists_sampleStart hlogin
  obtain ⟨c, hc⟩ := List.length_eq_one_iff.mp (by simpa using congrArg List.length hstates)
  have hstate : c.conn.state = .authenticated := by simpa [hc] using hstates
  refine ⟨X, s₀, s, c, hstart, hrun, hc, hstate, ?_⟩
  rcases served_tenants hstart hrun (c := c) (by simp [hc]) (Or.inr hstate) with hmem | ⟨hoff, -⟩
  · exact hmem
  · -- The manual's configuration has no admin server.
    cases hoff

end Kroxy.Proofs
