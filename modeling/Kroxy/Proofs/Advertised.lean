import Kroxy.Config.Config
import Kroxy.Kmsg.Wire
import Kroxy.Proxy.Serve

/-!
# `Kroxy.Proofs.Advertised`: from the accepted configuration to the advertised address

The address clients are sent to is written in the configuration. `validate` asks for a text
that is not empty. A connection splits it at its last colon and reads the port with `Atoi`
when a Metadata or FindCoordinator response needs it, and keeps 32 bits of the number.

`Advertisable` says what the address should look like: a host and a port in one of the two
forms of `SplitHostPort`, with a decimal port number from 1 to 65535. `advertised_exact_iff`
says that among the accepted configurations these are the ones whose address comes out as it
was written. The others fail with the first such response, or lose the upper bits of the port
without a word (`accepted_not_advertised`).
-/

set_option autoImplicit false

namespace Kroxy.Proofs

open Kroxy.Go
open Kroxy.Kmsg
open Kroxy.Proxy

/-! ### Port numbers -/

/-- The text behind a plus sign, or the whole text. -/
def behindPlus (s : GoString) : GoString := if s.head? = some 0x2B then s.drop 1 else s

/-- The number that an optional sign and decimal digits write, of any size. -/
def writtenNumber (s : GoString) : Int :=
  if s.head? = some 0x2D then - (digitsValue (s.drop 1) : Int)
  else digitsValue (behindPlus s)

/-- A text of decimal digits. -/
def IsDigits (s : GoString) : Prop := s ≠ [] ∧ ∀ d ∈ s, 0x30 ≤ d ∧ d ≤ 0x39

/-- A port number from 1 to 65535 in decimal, perhaps with a plus sign in front. -/
def IsPort (port : GoString) : Prop :=
  IsDigits (behindPlus port) ∧ 1 ≤ digitsValue (behindPlus port) ∧
    digitsValue (behindPlus port) ≤ 65535

/-- A minus sign is not a digit. -/
theorem head?_ne_minus {s : GoString} (h : IsDigits (behindPlus s)) : s.head? ≠ some 0x2D := by
  intro hhead
  cases s with
  | nil => cases hhead
  | cons d s =>
      cases hhead
      exact absurd (h.2 0x2D List.mem_cons_self).1 (by decide)

/-- `Atoi` of a text without a minus sign. -/
theorem atoi_eq_ok {s : GoString} {n : Int64} (h : s.head? ≠ some 0x2D) :
    atoi s = .ok n ↔ IsDigits (behindPlus s) ∧ digitsValue (behindPlus s) < 2 ^ 63 ∧
      n = Int64.ofNat (digitsValue (behindPlus s)) := by
  unfold atoi
  simp only [h, false_or, if_false]
  rw [show (if s.head? = some 0x2B then s.drop 1 else s) = behindPlus s from rfl]
  unfold IsDigits
  split
  · rename_i hempty
    exact iff_of_false nofun fun hdigits => hdigits.1.1 hempty
  · rename_i hsome
    cases hparse : parseUint 0 (behindPlus s) with
    | error why =>
        refine iff_of_false nofun ?_
        rintro ⟨⟨-, hdigits⟩, hsmall, -⟩
        have hread := (parseUint_eq_ok (by decide)).mpr
          ⟨hdigits, rfl, Nat.lt_trans hsmall (by decide)⟩
        cases hparse.symm.trans hread
    | ok v =>
        obtain ⟨hdigits, rfl, -⟩ := (parseUint_eq_ok (by decide)).mp hparse
        dsimp only
        split
        · rename_i hsmall
          exact ⟨fun hn => ⟨⟨hsome, hdigits⟩, hsmall, (Except.ok.inj hn).symm⟩,
            fun hn => congrArg Except.ok hn.2.2.symm⟩
        · rename_i hlarge
          exact iff_of_false nofun fun hn => hlarge hn.2.1

/-- A port number is read as it is written. -/
theorem atoi_of_isPort {port : GoString} (h : IsPort port) :
    atoi port = .ok (Int64.ofNat (digitsValue (behindPlus port))) := by
  obtain ⟨hdigits, -, hle⟩ := h
  have hsmall : digitsValue (behindPlus port) < 2 ^ 63 := Nat.lt_of_le_of_lt hle (by decide)
  exact (atoi_eq_ok (head?_ne_minus hdigits)).mpr ⟨hdigits, hsmall, rfl⟩

/-- What `Atoi` reads is a port number, when it is in the range of one. -/
theorem isPort_of_atoi {port : GoString} {n : Int64} (h : atoi port = .ok n)
    (hpos : 1 ≤ writtenNumber port) (hle : writtenNumber port ≤ 65535) : IsPort port := by
  unfold writtenNumber at hpos hle
  by_cases hminus : port.head? = some 0x2D
  · -- Behind a minus sign stands no positive number.
    rw [if_pos hminus] at hpos
    omega
  · rw [if_neg hminus] at hpos hle
    exact ⟨((atoi_eq_ok hminus).mp h).1, by omega, by omega⟩

/-- A port number survives the conversion to `int32`. -/
theorem toInt_port {n : Nat} (h : n ≤ 65535) : (Int64.ofNat n).toInt32.toInt = n := by
  have hwide : (Int64.ofNat n).toInt = n := Int64.toInt_ofNat_of_lt (by omega)
  rw [Int64.toInt_toInt32, hwide]
  exact Int.bmod_eq_of_le (by omega) (by omega)

/-! ### The address of a server -/

/-- An address with a host and a port number. -/
def Advertisable (addr : GoString) : Prop := ∃ host port, HostPort host port addr ∧ IsPort port

/-- The server advertises what its configuration says: the host as it stands there, and a port
from 1 to 65535 that is the number written. -/
def AdvertisesWritten (X : Server) : Prop :=
  ∃ host portText port, splitHostPort X.cfg.advertised = .ok (host, portText) ∧
    advertised X = .ok (host, port) ∧ 1 ≤ port.toInt ∧ port.toInt ≤ 65535 ∧
    port.toInt = writtenNumber portText

/-- `advertised` succeeds when the address splits and the port is a number. -/
theorem advertised_eq_ok {X : Server} {host : GoString} {port : Int32} :
    advertised X = .ok (host, port) ↔
      ∃ portText n, splitHostPort X.cfg.advertised = .ok (host, portText) ∧
        atoi portText = .ok n ∧ n.toInt32 = port := by
  unfold advertised
  cases hsplit : splitHostPort X.cfg.advertised with
  | error e => simp [Except.mapError]
  | ok parts =>
      obtain ⟨host', portText⟩ := parts
      cases hport : atoi portText with
      | error e => simp [Except.mapError, hport]
      | ok n => simp [Except.mapError, hport, and_assoc]

/-- A server advertises what is written exactly when the address has a host and a port
number. -/
theorem advertisesWritten_iff {X : Server} :
    AdvertisesWritten X ↔ Advertisable X.cfg.advertised := by
  constructor
  · rintro ⟨host, portText, port, hsplit, hadv, hpos, hle, hport⟩
    obtain ⟨portText', n, hsplit', hatoi, -⟩ := advertised_eq_ok.mp hadv
    rw [hsplit] at hsplit'
    cases hsplit'
    exact ⟨host, portText, splitHostPort_eq_ok_iff.mp hsplit,
      isPort_of_atoi hatoi (hport ▸ hpos) (hport ▸ hle)⟩
  · rintro ⟨host, port, haddr, hport⟩
    have hsplit := splitHostPort_eq_ok_iff.mpr haddr
    have hnumber := toInt_port hport.2.2
    have hwritten : writtenNumber port = digitsValue (behindPlus port) :=
      if_neg (head?_ne_minus hport.1)
    refine ⟨host, port, _, hsplit, advertised_eq_ok.mpr ⟨port, _, hsplit, atoi_of_isPort hport,
      rfl⟩, ?_, ?_, ?_⟩
    · rw [hnumber]
      exact_mod_cast hport.2.1
    · rw [hnumber]
      exact_mod_cast hport.2.2
    · rw [hnumber, hwritten]

/-- An accepted configuration is advertised as it is written exactly when its address has a
host and a port number. -/
theorem advertised_exact_iff {c accepted : Config} (h : Config.load c = .ok accepted)
    {X : Server} (hX : X.cfg = accepted.serverConfig) :
    AdvertisesWritten X ↔ Advertisable c.advertised := by
  rw [advertisesWritten_iff, hX, Config.load_eq_ok h]
  rfl

/-! ### Two configurations -/

/-- The configuration of the manual, with another advertised address. -/
def sampleConfig (addr : GoString) : Config where
  advertised := addr
  upstream := { bootstrap := goString "kafka:9093" }
  resolver :=
    { memory := { tenants := [{ id := goString "tenantA", topicPrefix := goString "tenantA." }] } }

/-- A server that runs the accepted configuration. -/
def sampleServer (addr : GoString) : Server where
  codec := .sasl
  scram := ⟨fun _ _ _ _ => .error errNotEnoughData⟩
  labels := .utf8
  cfg := (Config.applyDefaults (sampleConfig addr)).serverConfig

/-- The address of the manual. -/
theorem advertised_exact_sample :
    AdvertisesWritten (sampleServer (goString "kroxy:9092")) := by
  have hload : Config.load (sampleConfig (goString "kroxy:9092")) =
      .ok (Config.applyDefaults (sampleConfig (goString "kroxy:9092"))) := rfl
  have haddr : HostPort (goString "kroxy") (goString "9092") (goString "kroxy:9092") :=
    splitHostPort_eq_ok_iff.mp (by decide)
  have hport : IsPort (goString "9092") :=
    ⟨⟨by decide, by decide +kernel⟩, by decide, by decide⟩
  exact (advertised_exact_iff hload rfl).mpr ⟨_, _, haddr, hport⟩

/-- Two addresses that are accepted all the same. A host without a port cannot be advertised
at all. A port of more than 32 bits is advertised as another one. -/
theorem accepted_not_advertised :
    (Config.load (sampleConfig (goString "kroxy"))).isOk ∧
      advertised (sampleServer (goString "kroxy")) =
        .error ((errorsNew (goString "address kroxy: missing port in address")).wrap
          (goString "advertised")) ∧
      ¬ AdvertisesWritten (sampleServer (goString "kroxy")) ∧
      (Config.load (sampleConfig (goString "kroxy:4294976388"))).isOk ∧
      advertised (sampleServer (goString "kroxy:4294976388")) = .ok (goString "kroxy", 9092) ∧
      ¬ AdvertisesWritten (sampleServer (goString "kroxy:4294976388")) := by
  refine ⟨rfl, by decide, ?_, rfl, by decide, ?_⟩
  · rintro ⟨host, portText, port, hsplit, -⟩
    cases hsplit
  · rintro ⟨host, portText, port, hsplit, -, -, hle, hport⟩
    have hparts : splitHostPort (goString "kroxy:4294976388") =
        .ok (goString "kroxy", goString "4294976388") := by decide
    obtain rfl : goString "4294976388" = portText :=
      (Prod.mk.inj (Except.ok.inj (hparts.symm.trans hsplit))).2
    have hwritten : writtenNumber (goString "4294976388") = 4294976388 := by decide
    omega

end Kroxy.Proofs
