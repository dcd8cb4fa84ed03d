import Kroxy.Auth.Sasl

/-!
# `Kroxy.Proofs.ClientFirst`: the user name in a SCRAM client-first message

`ParseSCRAMClientFirstUsername` reads the tenant id out of the first message of a SCRAM
client. Two levels are compared with what they read.

* A name is written with `=2C` for a comma and `=3D` for an equals sign (`enc`).
  `decodeSASLname` undoes this and accepts nothing else (`decodeSASLname_eq_ok_iff`), and its
  fast path agrees with its escape loop (`decodeSASLname_eq_decodeEscapes`).
* A message is the flag `n`, an authzid, perhaps a reserved-mext, the name, and what stands
  behind the comma after it. `ClientFirst` is that shape, and
  `parseSCRAMClientFirstUsername_eq_ok_iff` says that the parser accepts exactly it.

The grammar in the parser's comment has the nonce `r=` behind the name. The parser drops that
part unread, so it accepts more than the grammar: `clientFirst_exact_iff` says on which
payloads the two agree.
-/

set_option autoImplicit false

namespace Kroxy.Proofs

open Kroxy.Go
open Kroxy.Auth

/-! ### Names -/

/-- One byte of a name as it is written in a message. -/
def encByte (b : UInt8) : GoString :=
  if b = comma then goString "=2C" else if b = equals then goString "=3D" else [b]

/-- A name as it is written in a message. -/
def enc (u : GoString) : GoString := u.flatMap encByte

/-- A name is escaped byte by byte. -/
theorem enc_cons (b : UInt8) (u : GoString) : enc (b :: u) = encByte b ++ enc u := rfl

/-- The escape of a byte has no comma. -/
theorem comma_notMem_encByte (b : UInt8) : comma ∉ encByte b := by
  unfold encByte
  split
  · decide
  · rename_i hcomma
    split
    · decide
    · simpa using fun h => hcomma h.symm

/-- A written name has no comma, so the next comma of a message ends it. -/
theorem comma_notMem_enc (u : GoString) : comma ∉ enc u := by
  intro h
  obtain ⟨b, -, hb⟩ := List.mem_flatMap.mp h
  exact comma_notMem_encByte b hb

/-- No byte is escaped to nothing. -/
theorem encByte_ne_nil (b : UInt8) : encByte b ≠ [] := by
  unfold encByte
  split
  · decide
  · split
    · decide
    · exact List.cons_ne_nil _ _

/-- Only the empty name is escaped to nothing. -/
theorem enc_eq_nil_iff {u : GoString} : enc u = [] ↔ u = [] := by
  cases u with
  | nil => exact ⟨fun _ => rfl, fun _ => rfl⟩
  | cons b u => simp [enc_cons, encByte_ne_nil]

/-- The escape loop reads one written byte back, whatever follows it. -/
theorem decodeEscapes_encByte (b : UInt8) (rest : GoString) :
    decodeEscapes (encByte b ++ rest) = (b :: ·) <$> decodeEscapes rest := by
  unfold encByte
  split
  · rename_i hb
    rw [hb]
    rfl
  · rename_i hcomma
    split
    · rename_i hb
      rw [hb]
      rfl
    · rename_i hequals
      rw [List.singleton_append]
      conv => lhs; unfold decodeEscapes
      rw [if_neg hcomma, if_neg hequals]

/-- `decodeEscapes` undoes the escapes. -/
theorem decodeEscapes_enc (u : GoString) : decodeEscapes (enc u) = .ok u := by
  induction u with
  | nil => rfl
  | cons b u ih =>
      rw [enc_cons, decodeEscapes_encByte, ih]
      rfl

/-- The escape loop accepts written names only. -/
theorem enc_of_decodeEscapes {raw u : GoString} (h : decodeEscapes raw = .ok u) :
    enc u = raw := by
  fun_induction decodeEscapes raw generalizing u with
  | case1 =>
      cases h
      rfl
  | case2 => cases h
  | case3 c₁ c₂ rest hesc _ ih =>
      -- `=2C`, which the loop turned into a comma.
      obtain ⟨v, hv, rfl⟩ := map_eq_ok h
      rw [enc_cons, ih hv]
      show equals :: (goString "2C" ++ rest) = equals :: c₁ :: c₂ :: rest
      rw [← hesc]
      rfl
  | case4 c₁ c₂ rest _ hesc _ ih =>
      -- `=3D`, which it turned into an equals sign.
      obtain ⟨v, hv, rfl⟩ := map_eq_ok h
      rw [enc_cons, ih hv]
      show equals :: (goString "3D" ++ rest) = equals :: c₁ :: c₂ :: rest
      rw [← hesc]
      rfl
  | case5 => cases h
  | case6 => cases h
  | case7 c rest hcomma hequals ih =>
      obtain ⟨v, hv, rfl⟩ := map_eq_ok h
      rw [enc_cons, ih hv, encByte, if_neg hcomma, if_neg hequals]
      rfl

/-- Without an escape the loop copies the bytes up to the first comma, which it refuses. -/
theorem decodeEscapes_of_notMem {raw : GoString} (h : equals ∉ raw) :
    decodeEscapes raw =
      if comma ∈ raw then .error (errorsNew (goString "decodeSASLname: unescaped comma"))
      else .ok raw := by
  induction raw with
  | nil => rfl
  | cons c rest ih =>
      have hc : c ≠ equals := fun heq => h (by simp [heq])
      have hrest : equals ∉ rest := fun hmem => h (List.mem_cons_of_mem c hmem)
      conv => lhs; unfold decodeEscapes
      by_cases hcomma : c = comma
      · rw [if_pos hcomma, if_pos (by simp [hcomma])]
      · rw [if_neg hcomma, if_neg hc, ih hrest]
        by_cases hmem : comma ∈ rest
        · rw [if_pos hmem, if_pos (List.mem_cons_of_mem c hmem)]
          rfl
        · rw [if_neg hmem, if_neg (by simpa [hmem] using fun heq => hcomma heq.symm)]
          rfl

/-- The fast path returns what the escape loop would. -/
theorem decodeSASLname_eq_decodeEscapes (raw : GoString) :
    decodeSASLname raw = decodeEscapes raw := by
  unfold decodeSASLname
  by_cases h : equals ∉ raw
  · rw [if_pos h, decodeEscapes_of_notMem h]
  · rw [if_neg h]

/-- `decodeSASLname` accepts the written names, each as the name it writes. -/
theorem decodeSASLname_eq_ok_iff {raw u : GoString} :
    decodeSASLname raw = .ok u ↔ enc u = raw := by
  rw [decodeSASLname_eq_decodeEscapes]
  constructor
  · exact enc_of_decodeEscapes
  · rintro rfl
    exact decodeEscapes_enc u

/-- Decoding a name is an exact inverse of writing it: it returns every name from its written
form, it returns no name from anything else, and the fast path changes no result. -/
theorem decodeSASLname_inverse :
    (∀ u, decodeSASLname (enc u) = .ok u) ∧
    (∀ raw u, decodeSASLname raw = .ok u → enc u = raw) ∧
    (∀ raw, decodeSASLname raw = decodeEscapes raw) :=
  ⟨fun _ => decodeSASLname_eq_ok_iff.mpr rfl, fun _ _ => decodeSASLname_eq_ok_iff.mp,
    decodeSASLname_eq_decodeEscapes⟩

/-- A name with an escape at its end, read and written back. -/
theorem decodeSASLname_inverse_escaped :
    decodeSASLname (goString "al=2Cice=3D") = .ok (goString "al,ice=") ∧
      enc (goString "al,ice=") = goString "al=2Cice=3D" := by
  have hread : decodeSASLname (goString "al=2Cice=3D") = .ok (goString "al,ice=") := by decide
  exact ⟨hread, decodeSASLname_inverse.2.1 _ _ hread⟩

/-! ### Messages -/

/-- A reserved-mext with its comma, or nothing. -/
def mextBytes : Option GoString → GoString
  | none => []
  | some m => goString "m=" ++ m ++ [comma]

/-- A client-first message cut into its parts. `tail` is all that stands behind the comma
after the name. -/
structure ClientFirst where
  authzid : GoString
  mext : Option GoString
  name : GoString
  tail : GoString
  authzid_plain : comma ∉ authzid
  mext_plain : ∀ m ∈ mext, comma ∉ m
  name_ne_nil : name ≠ []

/-- The message behind the authzid. -/
def ClientFirst.bare (m : ClientFirst) : Bytes :=
  mextBytes m.mext ++ (goString "n=" ++ (enc m.name ++ comma :: m.tail))

/-- The message on the wire. -/
def ClientFirst.bytes (m : ClientFirst) : Bytes :=
  goString "n" ++ comma :: (m.authzid ++ comma :: m.bare)

/-- A message of the grammar in the parser's comment: the nonce stands behind the name. -/
def Documented (payload : Bytes) (u : GoString) : Prop :=
  ∃ m : ClientFirst, m.bytes = payload ∧ m.name = u ∧ goString "r=" <+: m.tail

/-- Only the flag `n` passes. -/
theorem checkCbindFlag_eq_ok {cb : GoString} :
    checkCbindFlag cb = .ok () ↔ cb = goString "n" := by
  unfold checkCbindFlag
  split
  · rename_i h
    exact ⟨fun _ => h, fun _ => rfl⟩
  · rename_i h
    constructor
    · intro hok
      split at hok <;> cases hok
    · exact fun heq => absurd heq h

/-- The name is read from `n=`, a written name and a comma. What follows is not looked at. -/
theorem usernameOf_eq_ok {bare u : GoString} :
    usernameOf bare = .ok u ↔
      u ≠ [] ∧ ∃ tail, bare = goString "n=" ++ (enc u ++ comma :: tail) := by
  constructor
  · intro h
    unfold usernameOf at h
    split at h
    · rename_i hn
      obtain ⟨rest, rfl⟩ := hasPrefix_iff.mp hn
      have hdrop : (goString "n=" ++ rest).drop 2 = rest := rfl
      rw [hdrop] at h
      split at h
      · cases h
      · rename_i rawName tail hcut
        obtain ⟨rfl, -⟩ := cutByte_eq_some.mp hcut
        split at h
        · cases h
        · rename_i hne
          split at h
          · rename_i name hname
            cases h
            have hraw := decodeSASLname_eq_ok_iff.mp hname
            subst hraw
            exact ⟨fun hu => hne (enc_eq_nil_iff.mpr hu), tail, rfl⟩
          · cases h
    · cases h
  · rintro ⟨hu, tail, rfl⟩
    have hprefix : hasPrefix (goString "n=" ++ (enc u ++ comma :: tail)) (goString "n=") :=
      hasPrefix_iff.mpr (List.prefix_append _ _)
    have hdrop : (goString "n=" ++ (enc u ++ comma :: tail)).drop 2 = enc u ++ comma :: tail :=
      rfl
    have hname : decodeSASLname (enc u) = .ok u := decodeSASLname_eq_ok_iff.mpr rfl
    unfold usernameOf
    rw [if_pos hprefix, hdrop, cutByte_append (comma_notMem_enc u)]
    simp only [enc_eq_nil_iff, if_neg hu, hname]

/-- A reserved-mext has no comma in front of the one that ends it. -/
theorem comma_notMem_mext {m : GoString} (h : comma ∉ m) : comma ∉ goString "m=" ++ m := by
  rw [List.mem_append]
  rintro (hm | hm)
  · exact absurd hm (by decide)
  · exact h hm

/-- Skipping returns the message behind the reserved-mext, when what follows is a name. -/
theorem skipReservedMext_mextBytes {mext : Option GoString} (h : ∀ m ∈ mext, comma ∉ m)
    (rest : GoString) :
    skipReservedMext (mextBytes mext ++ (goString "n=" ++ rest)) =
      .ok (goString "n=" ++ rest) := by
  unfold skipReservedMext
  cases mext with
  | none =>
      -- The message starts with an `n`, so the test for `m=` fails on its first byte.
      have hno : ¬ hasPrefix (mextBytes none ++ (goString "n=" ++ rest)) (goString "m=") := by
        rw [hasPrefix_iff]
        intro hm
        exact absurd (List.cons_prefix_cons.mp hm).1 (by decide)
      rw [if_neg hno]
      rfl
  | some m =>
      have hshape : mextBytes (some m) ++ (goString "n=" ++ rest) =
          (goString "m=" ++ m) ++ comma :: (goString "n=" ++ rest) := by
        simp [mextBytes]
      have hyes : hasPrefix ((goString "m=" ++ m) ++ comma :: (goString "n=" ++ rest))
          (goString "m=") = true := by
        rw [hasPrefix_iff, List.append_assoc]
        exact List.prefix_append _ _
      rw [hshape, if_pos hyes, cutByte_append (comma_notMem_mext (h m rfl))]

/-- What skipping returns stands behind a reserved-mext or is the whole message. -/
theorem exists_mext_of_skipReservedMext {bare rest : GoString}
    (h : skipReservedMext bare = .ok rest) :
    ∃ mext : Option GoString, (∀ m ∈ mext, comma ∉ m) ∧ bare = mextBytes mext ++ rest := by
  unfold skipReservedMext at h
  split at h
  · rename_i hm
    obtain ⟨attr, rfl⟩ := hasPrefix_iff.mp hm
    split at h
    · cases h
    · rename_i before after hcut
      cases h
      obtain ⟨heq, hbefore⟩ := cutByte_eq_some.mp hcut
      -- The comma that was found is not one of the two bytes `m=`.
      have hmem : comma ∈ attr := by
        have hall : comma ∈ goString "m=" ++ attr := by simp [heq]
        rcases List.mem_append.mp hall with hhead | hattr
        · exact absurd hhead (by decide)
        · exact hattr
      obtain ⟨m, back, rfl, hplain⟩ := List.eq_append_cons_of_mem hmem
      rw [← List.append_assoc] at heq
      obtain ⟨-, rfl⟩ := cut_inj (comma_notMem_mext hplain) hbefore heq
      refine ⟨some m, ?_, by simp [mextBytes]⟩
      rintro m' ⟨⟩
      exact hplain
  · cases h
    exact ⟨none, by simp, rfl⟩

/-- The parser accepts a message cut into its parts, as the name in it. -/
theorem parseSCRAMClientFirstUsername_bytes (m : ClientFirst) :
    parseSCRAMClientFirstUsername m.bytes = .ok m.name := by
  have hflag : comma ∉ goString "n" := by decide
  have hname : usernameOf (goString "n=" ++ (enc m.name ++ comma :: m.tail)) = .ok m.name :=
    usernameOf_eq_ok.mpr ⟨m.name_ne_nil, m.tail, rfl⟩
  unfold parseSCRAMClientFirstUsername ClientFirst.bytes ClientFirst.bare
  rw [cutByte_append hflag]
  simp only [checkCbindFlag_eq_ok.mpr rfl, ok_bind]
  rw [cutByte_append m.authzid_plain]
  simp only [skipReservedMext_mextBytes m.mext_plain, ok_bind]
  exact hname

/-- The parser accepts exactly the messages that can be cut into their parts. -/
theorem parseSCRAMClientFirstUsername_eq_ok_iff {payload : Bytes} {u : GoString} :
    parseSCRAMClientFirstUsername payload = .ok u ↔
      ∃ m : ClientFirst, m.bytes = payload ∧ m.name = u := by
  constructor
  · intro h
    unfold parseSCRAMClientFirstUsername at h
    split at h
    · cases h
    · rename_i cb rest hflag
      obtain ⟨rfl, -⟩ := cutByte_eq_some.mp hflag
      obtain ⟨_, hcb, hmsg⟩ := bind_eq_ok h
      obtain rfl := checkCbindFlag_eq_ok.mp hcb
      split at hmsg
      · cases hmsg
      · rename_i authzid bare hcut
        obtain ⟨rfl, hauthzid⟩ := cutByte_eq_some.mp hcut
        obtain ⟨rest, hskip, hname⟩ := bind_eq_ok hmsg
        obtain ⟨mext, hmext, rfl⟩ := exists_mext_of_skipReservedMext hskip
        obtain ⟨hu, tail, rfl⟩ := usernameOf_eq_ok.mp hname
        exact ⟨⟨authzid, mext, u, tail, hauthzid, hmext, hu⟩, rfl, rfl⟩
  · rintro ⟨m, rfl, rfl⟩
    exact parseSCRAMClientFirstUsername_bytes m

/-- A message is cut in one way: what stands behind the name is determined. -/
theorem ClientFirst.tail_eq {m m' : ClientFirst} (h : m.bytes = m'.bytes) : m.tail = m'.tail := by
  have hflag : comma ∉ goString "n" := by decide
  obtain ⟨-, hrest⟩ := cut_inj hflag hflag h
  obtain ⟨-, hbare⟩ := cut_inj m.authzid_plain m'.authzid_plain hrest
  -- Skipping the reserved-mext leaves the same message on both sides.
  have hskip := skipReservedMext_mextBytes m.mext_plain (enc m.name ++ comma :: m.tail)
  have hskip' := skipReservedMext_mextBytes m'.mext_plain (enc m'.name ++ comma :: m'.tail)
  have hmsg : skipReservedMext m.bare = skipReservedMext m'.bare := congrArg _ hbare
  rw [ClientFirst.bare, ClientFirst.bare, hskip, hskip'] at hmsg
  have hname := List.append_cancel_left (Except.ok.inj hmsg)
  exact (cut_inj (comma_notMem_enc m.name) (comma_notMem_enc m'.name) hname).2

/-- On which payloads the parser and the grammar of its comment agree: those in which a nonce
stands behind the name, and those that are refused before the name is read. -/
theorem clientFirst_exact_iff (payload : Bytes) :
    (∀ u, parseSCRAMClientFirstUsername payload = .ok u ↔ Documented payload u) ↔
      ∀ m : ClientFirst, m.bytes = payload → goString "r=" <+: m.tail := by
  constructor
  · rintro h m rfl
    obtain ⟨m', hbytes, -, hnonce⟩ := (h m.name).mp (parseSCRAMClientFirstUsername_bytes m)
    rwa [ClientFirst.tail_eq hbytes] at hnonce
  · intro h u
    rw [parseSCRAMClientFirstUsername_eq_ok_iff]
    constructor
    · rintro ⟨m, hbytes, hname⟩
      exact ⟨m, hbytes, hname, h m hbytes⟩
    · rintro ⟨m, hbytes, hname, -⟩
      exact ⟨m, hbytes, hname⟩

/-- A message with something else in the place of the nonce. -/
def acmeWithoutNonce : ClientFirst where
  authzid := []
  mext := none
  name := goString "acme"
  tail := goString "x"
  authzid_plain := by decide
  mext_plain := by simp
  name_ne_nil := by decide

/-- The parser takes `acme` for the tenant of that message, and the grammar does not have it. -/
theorem clientFirst_without_nonce :
    parseSCRAMClientFirstUsername (goString "n,,n=acme,x") = .ok (goString "acme") ∧
      ¬ Documented (goString "n,,n=acme,x") (goString "acme") := by
  refine ⟨by decide, ?_⟩
  rintro ⟨m, hbytes, -, hnonce⟩
  have hcut : acmeWithoutNonce.bytes = goString "n,,n=acme,x" := by decide
  rw [ClientFirst.tail_eq (hbytes.trans hcut.symm)] at hnonce
  exact absurd hnonce (by decide)

end Kroxy.Proofs
