import Kroxy.Go.Basic

/-!
# `Kroxy.Auth.Sasl`: what the proxy reads out of SASL payloads

`auth/sasl_plain.go` and `auth/sasl_scram.go`. A PLAIN payload is split at its first two
NUL bytes. Of a SCRAM exchange only the first client message is read, for the user name in
it, which is the tenant id.

Both parsers scan bytes by index in Go. `scanNul` and `decodeEscapes` are those loops as
recursions over the bytes that are left.
-/

set_option autoImplicit false

namespace Kroxy.Auth

open Kroxy.Go

def mechanismPlain : GoString := goString "PLAIN"

def mechanismSCRAMSHA256 : GoString := goString "SCRAM-SHA-256"

def mechanismSCRAMSHA512 : GoString := goString "SCRAM-SHA-512"

/-- `IsSCRAMMechanism`. -/
def isSCRAMMechanism (mech : GoString) : Bool :=
  mech == mechanismSCRAMSHA256 || mech == mechanismSCRAMSHA512

/-! ### `sasl_plain.go` -/

/-- What a PLAIN payload carries. -/
structure PlainCredentials where
  authzid : GoString
  username : GoString
  password : GoString
  deriving DecidableEq

/-- The loop of `ParsePlain`: the positions of the first two NUL bytes. `i` is the position
of the next byte, `first` that of the first NUL once it is found. -/
def scanNul : Bytes → Nat → Option Nat → Option (Nat × Nat)
  | [], _, _ => none
  | b :: rest, i, first =>
      if b ≠ 0 then scanNul rest (i + 1) first
      else
        match first with
        | none => scanNul rest (i + 1) (some i)
        -- The scan stops here: a NUL in the password is part of the password.
        | some f => some (f, i)

/-- `ParsePlain`. -/
def parsePlain (payload : Bytes) : Except GoError PlainCredentials :=
  match scanNul payload 0 none with
  | none => .error (errorsNew (goString "ParsePlain: malformed PLAIN payload"))
  | some (first, second) =>
      .ok { authzid := payload.take first
            username := (payload.take second).drop (first + 1)
            password := payload.drop (second + 1) }

/-! ### `sasl_scram.go` -/

/-- The byte `,`. -/
def comma : UInt8 := 0x2C

/-- The byte `=`. -/
def equals : UInt8 := 0x3D

/-- `cutByte`: what stands before and after the first `sep`. -/
def cutByte (s : GoString) (sep : UInt8) : Option (GoString × GoString) :=
  (indexByte s sep).map fun i => (s.take i, s.drop (i + 1))

/-- `cutByte` undoes joining two parts with the separator, when it is not in the first. -/
theorem cutByte_append {sep : UInt8} {before : GoString} (h : sep ∉ before)
    (after : GoString) : cutByte (before ++ sep :: after) sep = some (before, after) := by
  unfold cutByte
  rw [indexByte_append h, Option.map_some, List.take_left, List.drop_length_add_append]
  rfl

/-- What `cutByte` returns are the two parts. -/
theorem cutByte_eq_some {sep : UInt8} {s before after : GoString} :
    cutByte s sep = some (before, after) ↔ s = before ++ sep :: after ∧ sep ∉ before := by
  constructor
  · intro h
    obtain ⟨i, hi, -⟩ := Option.map_eq_some_iff.mp h
    obtain ⟨front, back, rfl, hfront, -⟩ := indexByte_eq_some hi
    rw [cutByte_append hfront] at h
    cases h
    exact ⟨rfl, hfront⟩
  · rintro ⟨rfl, hbefore⟩
    exact cutByte_append hbefore after

/-- A text is cut at the first separator in one way only. -/
theorem cut_inj {sep : UInt8} {a b a' b' : GoString} (ha : sep ∉ a) (ha' : sep ∉ a')
    (h : a ++ sep :: b = a' ++ sep :: b') : a = a' ∧ b = b' := by
  have hcut := cutByte_append ha b
  rw [h, cutByte_append ha'] at hcut
  cases hcut
  exact ⟨rfl, rfl⟩

/-- The escape loop of `decodeSASLname`. -/
def decodeEscapes : GoString → Except GoError GoString
  | [] => .ok []
  | c :: rest =>
      if c = comma then .error (errorsNew (goString "decodeSASLname: unescaped comma"))
      else if c = equals then
        -- `=` and the two bytes behind it are one escape; only `=2C` and `=3D` are known.
        match rest with
        | c₁ :: c₂ :: rest =>
            if [c₁, c₂] = goString "2C" then (comma :: ·) <$> decodeEscapes rest
            else if [c₁, c₂] = goString "3D" then (equals :: ·) <$> decodeEscapes rest
            else .error (errorsNew (goString "decodeSASLname: invalid escape =" ++ [c₁, c₂]))
        | _ => .error (errorsNew (goString "decodeSASLname: truncated escape"))
      else (c :: ·) <$> decodeEscapes rest

/-- `decodeSASLname`, with its fast path for names without an escape. -/
def decodeSASLname (raw : GoString) : Except GoError GoString :=
  if equals ∉ raw then
    if comma ∈ raw then .error (errorsNew (goString "decodeSASLname: unescaped comma"))
    else .ok raw
  else decodeEscapes raw

/-- An error of `ParseSCRAMClientFirstUsername`. -/
def scramError {α : Type} (msg : GoString) : Except GoError α :=
  .error (errorsNew (goString "ParseSCRAMClientFirstUsername: " ++ msg))

/-- The check of the channel-binding flag. -/
def checkCbindFlag (cb : GoString) : Except GoError Unit :=
  if cb = goString "n" then .ok ()
  else if cb = goString "y" ∨ hasPrefix cb (goString "p=") then
    scramError (goString "channel binding not supported")
  else scramError (goString "invalid gs2 cbind-flag " ++ quote cb)

/-- The message behind an `m=` attribute, when it starts with one. -/
def skipReservedMext (bare : GoString) : Except GoError GoString :=
  if hasPrefix bare (goString "m=") then
    match cutByte bare comma with
    | none => scramError (goString "malformed reserved-mext")
    | some (_, after) => .ok after
  else .ok bare

/-- The user name at the front of a client-first-message-bare. -/
def usernameOf (bare : GoString) : Except GoError GoString :=
  if hasPrefix bare (goString "n=") then
    match cutByte (bare.drop 2) comma with
    | none => scramError (goString "missing nonce separator")
    | some (rawName, _) =>
        if rawName = [] then scramError (goString "empty username")
        else
          match decodeSASLname rawName with
          | .ok name => .ok name
          | .error e => .error (e.wrap (goString "ParseSCRAMClientFirstUsername"))
  else scramError (goString "missing n= attribute")

/-- `ParseSCRAMClientFirstUsername`. -/
def parseSCRAMClientFirstUsername (payload : Bytes) : Except GoError GoString :=
  match cutByte payload comma with
  | none => scramError (goString "missing gs2 cbind-flag separator")
  | some (cb, rest) => do
      checkCbindFlag cb
      match cutByte rest comma with
      | none => scramError (goString "missing authzid separator")
      -- The authzid between the separators is not looked at.
      | some (_, bare) =>
          let bare ← skipReservedMext bare
          usernameOf bare

end Kroxy.Auth
