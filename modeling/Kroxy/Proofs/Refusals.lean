import Kroxy.Proofs.ScramRelay

/-!
# `Kroxy.Proofs.Refusals`: what a refused authentication leaves behind

The two SASL handlers refuse in nine places: the request comes in the wrong state, the
mechanism or the payload is not one they know, the tenant is unknown, or its upstream cannot be
dialled. The refusal is an ordinary response with an error code, and the connection goes on.

Eight of the nine refusals come before anything is assigned. The ninth is the dial of a SCRAM
client's upstream, and the tenant is stored before it (`openRelay`). `leavesNoTrace_iff` says
that this is the one case: a refusal changes none of the connection's fields exactly when no
dial was refused for a tenant other than the one stored.

The record that stays is not used to let the client in, but `serve` counts requests under its
id (`tenantLabel`), as in `refused_dial_is_counted`.
-/

set_option autoImplicit false

namespace Kroxy.Proofs

open Kroxy.Go
open Kroxy.Lib
open Kroxy.Kmsg
open Kroxy.Protocol
open Kroxy.Auth
open Kroxy.Resolver
open Kroxy.Proxy
open Kroxy.Upstream (Peer Dialled dialForSCRAM headerLength drop_encodeResponse)

/-! ### Refusals -/

/-- `kmsg` writes the error code of the two SASL responses first, in every version. -/
structure CodeFirst (K : Codec) : Prop where
  handshake : ∀ version resp, ∃ rest,
    K.appendSASLHandshakeResponse version resp = appendInt16 resp.errorCode ++ rest
  authenticate : ∀ version resp, ∃ rest,
    K.appendSASLAuthenticateResponse version resp = appendInt16 resp.errorCode ++ rest

/-- The error code of a SASL response, behind the response header. -/
def answerCode (hdr : RequestHeader) (frame : Bytes) : Int16 :=
  (getBE16 (frame.drop (headerLength hdr.apiKey hdr.apiVersion))).toInt16

/-- The request was answered with a non-zero error code. -/
def Refused (hdr : RequestHeader) (c c' : Conn) : Prop :=
  ∃ frame, c'.written = c.written ++ [frame] ∧ answerCode hdr frame ≠ 0

/-- The request is one whose payload goes to an upstream connection: a further message of a
SCRAM client, or a first one that was dialled for. -/
def Relays (X : Server) (E : Env) (hdr : RequestHeader) (body : Bytes) (c : Conn) : Prop :=
  hdr.apiKey = saslAuthenticateKey ∧ isSCRAMMechanism c.clientMechanism = true ∧
    ∃ payload, X.codec.readSASLAuthenticateRequest hdr.apiVersion body = .ok payload ∧
      (c.state = .relaySaslInFlight ∨ c.state = .awaitAuth ∧ ∃ username tenant up,
        parseSCRAMClientFirstUsername payload = .ok username ∧
        E.resolver.get username = .ok tenant ∧
        dialForSCRAM X.codec (E.dial tenant.upstream) c.clientMechanism = .connected up)

/-- The fields of the connection are the same. What was written and looked up is history. -/
structure SameLogin (c c' : Conn) : Prop where
  state : c'.state = c.state
  clientMechanism : c'.clientMechanism = c.clientMechanism
  tenant : c'.tenant = c.tenant
  password : c'.password = c.password
  upstream : c'.upstream = c.upstream
  scramRoundsCompleted : c'.scramRoundsCompleted = c.scramRoundsCompleted

/-- A refusal of the proxy's own leaves the connection as it was, and requests are counted
under the label they were counted under. -/
def LeavesNoTrace (X : Server) (E : Env) (hdr : RequestHeader) (frame body : Bytes)
    (c : Conn) : Prop :=
  ∀ c', dispatch X E hdr frame body c = .ok () c' → Refused hdr c c' →
    ¬ Relays X E hdr body c → SameLogin c c' ∧ tenantLabel c' = tenantLabel c

/-- The dial for the first message of a SCRAM client of `tenant` fails, and the client is
told. -/
structure DialRefused (X : Server) (E : Env) (hdr : RequestHeader) (body : Bytes) (c : Conn)
    (tenant : Tenant) : Prop where
  key : hdr.apiKey = saslAuthenticateKey
  told : E.clientWrite = none
  mech : isSCRAMMechanism c.clientMechanism = true
  state : c.state = .awaitAuth
  failed : ∃ payload username e closed,
    X.codec.readSASLAuthenticateRequest hdr.apiVersion body = .ok payload ∧
    parseSCRAMClientFirstUsername payload = .ok username ∧
    E.resolver.get username = .ok tenant ∧
    dialForSCRAM X.codec (E.dial tenant.upstream) c.clientMechanism = .failed (.err e) closed

section
variable {X : Server} {E : Env} {hdr : RequestHeader} {body : Bytes} {c c₁ : Conn}

/-- An answer is a refusal by the code in front of its body. -/
theorem refused_iff {b : Bytes} (hwritten : c₁.written = c.written) :
    Refused hdr c { c₁ with written := c₁.written ++
        [encodeResponse b hdr.correlationID hdr.apiKey hdr.apiVersion] } ↔
      (getBE16 b).toInt16 ≠ 0 := by
  have hcode : answerCode hdr (encodeResponse b hdr.correlationID hdr.apiKey hdr.apiVersion) =
      (getBE16 b).toInt16 := by
    rw [answerCode, drop_encodeResponse]
  constructor
  · rintro ⟨frame, hframe, hne⟩
    rw [hwritten] at hframe
    have hsame := List.append_cancel_left hframe
    cases hsame
    rwa [hcode] at hne
  · intro hne
    exact ⟨_, by rw [hwritten], by rwa [hcode]⟩

/-- An answer that ends a handler, and the write that may fail. -/
theorem ends_writeResponse {b : Bytes} {P F : Conn → Prop}
    (h : E.clientWrite = none → P { c₁ with written := c₁.written ++
      [encodeResponse b hdr.correlationID hdr.apiKey hdr.apiVersion] })
    (hfail : E.clientWrite ≠ none → F c₁) :
    Ends (writeResponse E hdr b) (fun _ => P) (fun _ => F) c₁ := by
  refine ends_wrapErr ?_
  unfold writeFrame
  cases hwrite : E.clientWrite with
  | some e => exact Ends.throw (hfail (by simp [hwrite]))
  | none => exact Ends.modify (h hwrite)

/-- The fields are kept, if the request was refused. -/
def KeptOnRefusal (hdr : RequestHeader) (c c' : Conn) : Prop := Refused hdr c c' → SameLogin c c'

/-- An answer on a connection whose fields did not change. -/
theorem kept_of_same {b : Bytes} (h : SameLogin c c₁) :
    Ends (writeResponse E hdr b) (fun _ => KeptOnRefusal hdr c) (fun _ _ => True) c₁ :=
  ends_writeResponse (fun _ _ => ⟨h.1, h.2, h.3, h.4, h.5, h.6⟩) fun _ => trivial

/-- An answer that is no refusal. -/
theorem kept_of_accepted {b : Bytes} (hwritten : c₁.written = c.written)
    (hcode : (getBE16 b).toInt16 = 0) :
    Ends (writeResponse E hdr b) (fun _ => KeptOnRefusal hdr c) (fun _ _ => True) c₁ :=
  ends_writeResponse (fun _ hrefused => absurd hcode ((refused_iff hwritten).mp hrefused))
    fun _ => trivial

/-- A connection has its own login. -/
theorem SameLogin.refl : SameLogin c c := ⟨rfl, rfl, rfl, rfl, rfl, rfl⟩

/-- The code a SaslHandshake response begins with. -/
theorem CodeFirst.code_handshake {K : Codec} (h : CodeFirst K) (version : Int16)
    (resp : SASLHandshakeResponse) :
    (getBE16 (K.appendSASLHandshakeResponse version resp)).toInt16 = resp.errorCode := by
  obtain ⟨rest, hrest⟩ := h.handshake version resp
  rw [hrest, getBE16_appendInt16]

/-- The code a SaslAuthenticate response begins with. -/
theorem CodeFirst.code_authenticate {K : Codec} (h : CodeFirst K) (version : Int16)
    (resp : SASLAuthenticateResponse) :
    (getBE16 (K.appendSASLAuthenticateResponse version resp)).toInt16 = resp.errorCode := by
  obtain ⟨rest, hrest⟩ := h.authenticate version resp
  rw [hrest, getBE16_appendInt16]

/-! ### The three handlers -/

/-- A refused handshake keeps the login. -/
theorem handleSaslHandshake_keeps (hK : CodeFirst X.codec) :
    Ends (handleSaslHandshake X E hdr body) (fun _ => KeptOnRefusal hdr c)
      (fun _ _ => True) c := by
  refine Ends.bind (ends_liftErr ?_ trivial)
  intro mech _
  refine Ends.bind (Ends.get ?_)
  split
  · exact kept_of_same SameLogin.refl
  · split
    · exact kept_of_same SameLogin.refl
    · exact Ends.bind (kept_of_accepted rfl (hK.code_handshake _ _))

/-- So does a refused PLAIN login. -/
theorem handleSaslAuthenticatePlain_keeps (hK : CodeFirst X.codec) :
    Ends (handleSaslAuthenticatePlain X E hdr body) (fun _ => KeptOnRefusal hdr c)
      (fun _ _ => True) c := by
  refine Ends.bind (ends_liftErr ?_ trivial)
  intro payload _
  refine Ends.bind (Ends.get ?_)
  split
  · exact kept_of_same SameLogin.refl
  · split
    · exact kept_of_same SameLogin.refl
    · refine Ends.bind (resolve_spec ?_ ?_)
      · intro tenant _
        exact Ends.bind (Ends.modify (kept_of_accepted rfl (hK.code_authenticate _ _)))
      · intro e _
        exact kept_of_same SameLogin.refl

/-- So does a SCRAM message that is not relayed, unless a dial failed for another tenant. -/
theorem handleSaslAuthenticateSCRAM_keeps (key : hdr.apiKey = saslAuthenticateKey)
    (mech : isSCRAMMechanism c.clientMechanism = true) (hrelays : ¬ Relays X E hdr body c)
    (hdial : ∀ tenant, DialRefused X E hdr body c tenant → tenant = c.tenant) :
    Ends (handleSaslAuthenticateSCRAM X E hdr body) (fun _ => KeptOnRefusal hdr c)
      (fun _ _ => True) c := by
  refine Ends.bind (ends_liftErr ?_ trivial)
  intro payload hrequest
  refine Ends.bind (Ends.get ?_)
  split
  · rename_i hstate
    unfold openRelay
    split
    · exact kept_of_same SameLogin.refl
    · rename_i username hparsed
      refine Ends.bind (resolve_spec ?_ ?_)
      · intro tenant hknown
        refine Ends.bind (Ends.modify (Ends.bind (Ends.get ?_)))
        dsimp only
        split
        · exact Ends.bind (Ends.modify (Ends.throw trivial))
        -- The refusal after the assignment. The dial may only have been for the same tenant.
        · rename_i e closed hfailed
          refine Ends.bind (Ends.modify (ends_writeResponse (fun htold _ => ?_) fun _ => trivial))
          have hsame := hdial tenant ⟨key, htold, mech, hstate, payload, username, e, closed,
            hrequest, hparsed, hknown, hfailed⟩
          exact ⟨rfl, rfl, hsame, rfl, rfl, rfl⟩
        · rename_i up hconnected
          exact absurd ⟨key, mech, payload, hrequest, Or.inr ⟨hstate, username, tenant, up,
            hparsed, hknown, hconnected⟩⟩ hrelays
      · intro e _
        exact kept_of_same SameLogin.refl
  · split
    · rename_i hstate
      exact absurd ⟨key, mech, payload, hrequest, Or.inl hstate⟩ hrelays
    · exact kept_of_same SameLogin.refl

/-- All three together. -/
theorem dispatch_keeps (hK : CodeFirst X.codec)
    (key : hdr.apiKey = saslHandshakeKey ∨ hdr.apiKey = saslAuthenticateKey)
    (hrelays : ¬ Relays X E hdr body c)
    (hdial : ∀ tenant, DialRefused X E hdr body c tenant → tenant = c.tenant)
    (frame : Bytes) :
    Ends (dispatch X E hdr frame body) (fun _ => KeptOnRefusal hdr c) (fun _ _ => True) c := by
  rcases key with key | key
  · rw [dispatch_handshake key]
    exact handleSaslHandshake_keeps hK
  · rw [dispatch_authenticate key]
    refine Ends.bind (Ends.get ?_)
    split
    · rename_i hmech
      exact handleSaslAuthenticateSCRAM_keeps key hmech hrelays hdial
    · exact handleSaslAuthenticatePlain_keeps hK

/-! ### The refused dial -/

/-- A message whose dial failed is not relayed. -/
theorem DialRefused.not_relays {tenant : Tenant} (h : DialRefused X E hdr body c tenant) :
    ¬ Relays X E hdr body c := by
  obtain ⟨-, -, -, hstate, payload, username, e, closed, hrequest, hparsed, hknown, hfailed⟩ := h
  rintro ⟨-, -, payload', hrequest', hrelay⟩
  rw [hrequest] at hrequest'
  cases hrequest'
  rcases hrelay with hflight | ⟨-, username', tenant', up, hparsed', hknown', hconnected⟩
  · rw [hstate] at hflight
    cases hflight
  · rw [hparsed] at hparsed'
    cases hparsed'
    rw [hknown] at hknown'
    cases hknown'
    rw [hfailed] at hconnected
    cases hconnected

/-- After a refused dial the tenant is stored. -/
theorem DialRefused.stores (hK : CodeFirst X.codec) {tenant : Tenant}
    (h : DialRefused X E hdr body c tenant) (frame : Bytes) :
    ∃ c', dispatch X E hdr frame body c = .ok () c' ∧ Refused hdr c c' ∧
      c'.tenant = tenant ∧ c'.state = c.state := by
  obtain ⟨key, htold, mech, hstate, payload, username, e, closed, hrequest, hparsed, hknown,
    hfailed⟩ := h
  have hrun : Ends (dispatch X E hdr frame body)
      (fun _ c' => Refused hdr c c' ∧ c'.tenant = tenant ∧ c'.state = c.state)
      (fun _ _ => False) c := by
    rw [dispatch_authenticate key]
    refine Ends.bind (Ends.get ?_)
    rw [if_pos mech]
    unfold handleSaslAuthenticateSCRAM
    rw [hrequest]
    refine Ends.bind (Ends.pure (Ends.bind (Ends.get ?_)))
    rw [if_pos hstate]
    unfold openRelay
    rw [hparsed]
    dsimp only
    refine Ends.bind ?_
    unfold resolve
    rw [hknown]
    refine Ends.bind (Ends.modify (Ends.pure (Ends.bind (Ends.modify (Ends.bind
      (Ends.get ?_))))))
    dsimp only
    rw [hfailed]
    refine Ends.bind (Ends.modify (ends_writeResponse (fun _ => ⟨?_, rfl, rfl⟩)
      fun hne => hne htold))
    exact (refused_iff rfl).mpr (by rw [hK.code_authenticate]; decide)
  obtain ⟨_, c', hok, hafter⟩ := hrun.exists_ok
  exact ⟨c', hok, hafter⟩

/-- A refusal leaves no trace exactly when no dial was refused for a tenant other than the one
stored. -/
theorem leavesNoTrace_iff (hK : CodeFirst X.codec)
    (key : hdr.apiKey = saslHandshakeKey ∨ hdr.apiKey = saslAuthenticateKey) (frame : Bytes) :
    LeavesNoTrace X E hdr frame body c ↔
      ∀ tenant, DialRefused X E hdr body c tenant → tenant = c.tenant := by
  constructor
  · intro h tenant hrefused
    obtain ⟨c', hok, hcode, htenant, -⟩ := hrefused.stores hK frame
    have hsame := (h c' hok hcode hrefused.not_relays).1.tenant
    rw [← htenant, hsame]
  · intro h c' hok hcode hrelays
    have hsame := (dispatch_keeps hK key hrelays h frame).of_ok hok hcode
    exact ⟨hsame, by rw [tenantLabel, tenantLabel, hsame.tenant]⟩

end

/-! ### Two clients whose upstream is down -/

/-- The sample codec writes the code first. -/
theorem codeFirst_sasl : CodeFirst Codec.sasl where
  handshake := fun _ _ => ⟨_, List.append_assoc _ _ _⟩
  authenticate := fun _ _ => ⟨_, by
    show Kmsg.appendSASLAuthenticateResponse _ _ = _
    rw [Kmsg.appendSASLAuthenticateResponse, List.append_assoc, List.append_assoc]⟩

/-- A SCRAM client after its handshake. -/
def awaitingScram : Conn := { state := .awaitAuth, clientMechanism := mechanismSCRAMSHA256 }

/-- A deployment with the tenant `acme` and no upstream that answers. -/
def unreachableEnv : Env where
  dial := fun _ => .error (errorsNew (goString "connection refused"))
  resolver := acmeTable

/-- The header of a SaslAuthenticate v1 request without a client id. -/
def authHeader : RequestHeader where
  apiKey := saslAuthenticateKey
  apiVersion := 1
  correlationID := 7
  clientID := []
  headerVersion := 1
  headerSize := 10

/-- The body of a SaslAuthenticate request with a client-first message. -/
def firstMessage (username : String) : Bytes :=
  appendBytes (goString "n,,n=" ++ goString username ++ goString ",r=abc")

/-- The frame of that request. -/
def firstFrame (username : String) : Bytes :=
  requestFrame saslAuthenticateKey 1 7 (firstMessage username)

/-- The refusal of an unknown tenant. -/
theorem leavesNoTrace_unknown :
    LeavesNoTrace relayServer unreachableEnv authHeader (firstFrame "nobody")
        (firstMessage "nobody") awaitingScram ∧
      ∃ c', dispatch relayServer unreachableEnv authHeader (firstFrame "nobody")
          (firstMessage "nobody") awaitingScram = .ok () c' ∧
        c'.written.map (answerCode authHeader) = [errSaslAuthFailed] := by
  constructor
  · refine (leavesNoTrace_iff codeFirst_sasl (Or.inr rfl) _).mpr ?_
    rintro tenant ⟨-, -, -, -, payload, username, e, closed, hrequest, hparsed, hknown, -⟩
    cases hrequest
    cases hparsed
    cases hknown
  · exact ⟨_, rfl, by decide⟩

/-- The record that `acme` has in the table. -/
def acmeRecord : Tenant := ⟨goString "acme", goString "acme.", goString "kafka:9092"⟩

/-- The sample message finds its broker unreachable. -/
theorem dialRefused_acme :
    DialRefused relayServer unreachableEnv authHeader (firstMessage "acme") awaitingScram
      acmeRecord where
  key := rfl
  told := rfl
  mech := rfl
  state := rfl
  failed := ⟨goString "n,,n=acme,r=abc", goString "acme", _, _, rfl, rfl, rfl, rfl⟩

/-- A client names a known tenant whose upstream is down. It is refused and not authenticated,
and from then on it is counted as that tenant. -/
theorem refused_dial_is_counted :
    ∃ c', dispatch relayServer unreachableEnv authHeader (firstFrame "acme")
        (firstMessage "acme") awaitingScram = .ok () c' ∧
      Refused authHeader awaitingScram c' ∧
      ¬ Relays relayServer unreachableEnv authHeader (firstMessage "acme") awaitingScram ∧
      c'.state = .awaitAuth ∧ c'.tenant ≠ awaitingScram.tenant ∧
      tenantLabel awaitingScram = goString "_unauth" ∧ tenantLabel c' = goString "acme" ∧
      ¬ LeavesNoTrace relayServer unreachableEnv authHeader (firstFrame "acme")
        (firstMessage "acme") awaitingScram := by
  obtain ⟨c', hok, hrefused, htenant, hstate⟩ :=
    dialRefused_acme.stores codeFirst_sasl (firstFrame "acme")
  have hrelays := dialRefused_acme.not_relays
  have hother : c'.tenant ≠ awaitingScram.tenant := by
    rw [htenant]
    decide
  have hlabel : tenantLabel c' = goString "acme" := by
    rw [tenantLabel, htenant]
    decide
  refine ⟨c', hok, hrefused, hrelays, hstate, hother, by decide, hlabel, ?_⟩
  intro h
  exact hother (h c' hok hrefused hrelays).1.tenant

end Kroxy.Proofs
