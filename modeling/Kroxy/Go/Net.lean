import Kroxy.Go.Basic

/-!
# `Kroxy.Go.Net`: `net.SplitHostPort` and `strconv.Atoi`

The two library functions `advertised` parses the configured address with, as their
documentation and error texts have them. `splitHostPort_eq_ok_iff` says which addresses the
first one accepts: `HostPort` is the two forms its documentation names.
-/

set_option autoImplicit false

namespace Kroxy.Go

/-- `strings.LastIndexByte`, with `none` for `-1`. -/
def lastIndexByte (s : GoString) (b : UInt8) : Option Nat :=
  (indexByte s.reverse b).map fun i => s.length - 1 - i

/-- A `net.AddrError`, which names the address when there is one. -/
def addrError {α : Type} (addr : GoString) (why : String) : Except GoError α :=
  .error (errorsNew (if addr = [] then goString why
    else goString "address " ++ addr ++ goString ": " ++ goString why))

/-- The host of `SplitHostPort` and the two positions from which no further bracket may
stand, for an address whose last colon is at `i`. -/
def splitHost (hostport : GoString) (i : Nat) : Except GoError (GoString × Nat × Nat) :=
  if hostport.head? = some 0x5B then
    match indexByte hostport 0x5D with
    | none => addrError hostport "missing ']' in address"
    | some close =>
        if close + 1 = hostport.length then addrError hostport "missing port in address"
        else if close + 1 = i then .ok ((hostport.take close).drop 1, 1, close + 1)
        else if hostport[close + 1]? = some 0x3A then
          addrError hostport "too many colons in address"
        else addrError hostport "missing port in address"
  else if 0x3A ∈ hostport.take i then addrError hostport "too many colons in address"
  else .ok (hostport.take i, 0, 0)

/-- `net.SplitHostPort`: the host and the port of `host:port` or `[host]:port`. -/
def splitHostPort (hostport : GoString) : Except GoError (GoString × GoString) :=
  match lastIndexByte hostport 0x3A with
  | none => addrError hostport "missing port in address"
  | some i => do
      let (host, j, k) ← splitHost hostport i
      if 0x5B ∈ hostport.drop j then addrError hostport "unexpected '[' in address"
      else if 0x5D ∈ hostport.drop k then addrError hostport "unexpected ']' in address"
      else pure (host, hostport.drop (i + 1))

/-- A `strconv.NumError` of `Atoi`. -/
def atoiError {α : Type} (s : GoString) (why : String) : Except GoError α :=
  .error (errorsNew (goString "strconv.Atoi: parsing " ++ quote s ++ goString ": " ++
    goString why))

/-- The number `n` with one more decimal digit. -/
def addDigit (n : Nat) (d : UInt8) : Nat := 10 * n + (d.toNat - 0x30)

/-- The number that decimal digits write. -/
def digitsValue (digits : GoString) : Nat := digits.foldl addDigit 0

/-- The loop of `strconv.ParseUint` with 64 bits, behind the number `n`. It stops at the first
byte that is no digit or makes the number too large, whichever comes first. -/
def parseUint (n : Nat) : GoString → Except String Nat
  | [] => .ok n
  | d :: digits =>
      if ¬ (0x30 ≤ d ∧ d ≤ 0x39) then .error "invalid syntax"
      else if 2 ^ 64 ≤ addDigit n d then .error "value out of range"
      else parseUint (addDigit n d) digits

/-- `strconv.Atoi` with a 64-bit `int`: an optional sign and decimal digits. -/
def atoi (s : GoString) : Except GoError Int64 :=
  let negative := s.head? = some 0x2D
  let digits := if negative ∨ s.head? = some 0x2B then s.drop 1 else s
  if digits = [] then atoiError s "invalid syntax"
  else
    match parseUint 0 digits with
    | .error why => atoiError s why
    | .ok n =>
        if negative then
          if n ≤ 2 ^ 63 then .ok (Int64.ofInt (- n)) else atoiError s "value out of range"
        else if n < 2 ^ 63 then .ok (Int64.ofNat n)
        else atoiError s "value out of range"

/-- More digits make no smaller number. -/
theorem le_foldl_addDigit (digits : GoString) (n : Nat) : n ≤ digits.foldl addDigit n := by
  induction digits generalizing n with
  | nil => exact Nat.le_refl n
  | cons d digits ih =>
      have hstep : n ≤ addDigit n d := by
        unfold addDigit
        omega
      exact hstep.trans (ih (addDigit n d))

/-- The loop returns the number that digits write when it fits into 64 bits. -/
theorem parseUint_eq_ok {digits : GoString} {n v : Nat} (hn : n < 2 ^ 64) :
    parseUint n digits = .ok v ↔
      (∀ d ∈ digits, 0x30 ≤ d ∧ d ≤ 0x39) ∧ digits.foldl addDigit n = v ∧ v < 2 ^ 64 := by
  induction digits generalizing n with
  | nil =>
      simp only [parseUint, Except.ok.injEq, List.not_mem_nil, false_implies, implies_true,
        true_and, List.foldl_nil]
      exact ⟨fun h => ⟨h, h ▸ hn⟩, And.left⟩
  | cons d digits ih =>
      rw [parseUint, List.forall_mem_cons, List.foldl_cons]
      split
      · rename_i hbad
        simp [hbad]
      · rename_i hdigit
        split
        · rename_i hlarge
          -- The number only grows from here.
          have hgrows := le_foldl_addDigit digits (addDigit n d)
          refine iff_of_false nofun ?_
          rintro ⟨-, rfl, hfits⟩
          omega
        · rename_i hfits
          rw [ih (not_le.mp hfits), and_iff_right (not_not.mp hdigit)]

example : splitHostPort (goString "[::1]:9092") = .ok (goString "::1", goString "9092") := by
  decide

example : atoi (goString "9092") = .ok 9092 := by decide

example : atoi (goString "99999999999999999999x") =
    atoiError (goString "99999999999999999999x") "value out of range" := by decide +kernel

/-! ### What `SplitHostPort` accepts -/

/-- The last `b` stands in front of the bytes that are not `b`. -/
theorem lastIndexByte_append {b : UInt8} {back : GoString} (h : b ∉ back) (front : GoString) :
    lastIndexByte (front ++ b :: back) b = some front.length := by
  have hrev : (front ++ b :: back).reverse = back.reverse ++ b :: front.reverse := by simp
  have hback : b ∉ back.reverse := by simpa using h
  unfold lastIndexByte
  rw [hrev, indexByte_append hback, Option.map_some, List.length_reverse, List.length_append,
    List.length_cons]
  congr 1
  omega

/-- Where the search from the end succeeds, the text is cut at the last occurrence. -/
theorem lastIndexByte_eq_some {b : UInt8} {s : GoString} {i : Nat}
    (h : lastIndexByte s b = some i) :
    ∃ front back, s = front ++ b :: back ∧ b ∉ back ∧ front.length = i := by
  obtain ⟨j, hj, -⟩ := Option.map_eq_some_iff.mp h
  obtain ⟨f, k, hs, hf, -⟩ := indexByte_eq_some hj
  have hcut : s = k.reverse ++ b :: f.reverse := by
    rw [← List.reverse_reverse s, hs]
    simp
  have hback : b ∉ f.reverse := by simpa using hf
  rw [hcut, lastIndexByte_append hback] at h
  exact ⟨k.reverse, f.reverse, hcut, hback, Option.some.inj h⟩

/-- A text without a colon and without a square bracket. -/
def Plain (s : GoString) : Prop := 0x3A ∉ s ∧ 0x5B ∉ s ∧ 0x5D ∉ s

/-- The addresses of a host and a port: `host:port`, and `[host]:port` for a host with colons
in it. -/
inductive HostPort (host port : GoString) : GoString → Prop
  | plain (hhost : Plain host) (hport : Plain port) : HostPort host port (host ++ 0x3A :: port)
  | bracketed (hopen : 0x5B ∉ host) (hclose : 0x5D ∉ host) (hport : Plain port) :
      HostPort host port (0x5B :: (host ++ 0x5D :: 0x3A :: port))

/-- A host without colons is split off at the colon. -/
theorem splitHostPort_plain {host port : GoString} (hhost : Plain host) (hport : Plain port) :
    splitHostPort (host ++ 0x3A :: port) = .ok (host, port) := by
  have hhead : (host ++ 0x3A :: port).head? ≠ some 0x5B := by
    cases host with
    | nil => simp
    | cons b host =>
        intro h
        exact hhost.2.1 (by simp [← Option.some.inj h])
  have hsplit : splitHost (host ++ 0x3A :: port) host.length = .ok (host, 0, 0) := by
    rw [splitHost, if_neg hhead, List.take_left, if_neg hhost.1]
  have hopen : (0x5B : UInt8) ∉ host ++ 0x3A :: port := by simp [hhost.2.1, hport.2.1]
  have hclose : (0x5D : UInt8) ∉ host ++ 0x3A :: port := by simp [hhost.2.2, hport.2.2]
  have hdrop : (host ++ 0x3A :: port).drop (host.length + 1) = port := by
    rw [List.drop_length_add_append]
    rfl
  rw [splitHostPort, lastIndexByte_append hport.1]
  simp only [hsplit, ok_bind, List.drop_zero, if_neg hopen, if_neg hclose, hdrop]
  rfl

/-- A host in brackets is split off without them. -/
theorem splitHostPort_bracketed {host port : GoString} (hopen : 0x5B ∉ host)
    (hclose : 0x5D ∉ host) (hport : Plain port) :
    splitHostPort (0x5B :: (host ++ 0x5D :: 0x3A :: port)) = .ok (host, port) := by
  -- The address cut at its last colon and at its first closing bracket.
  have hcolon : 0x5B :: (host ++ 0x5D :: 0x3A :: port) =
      (0x5B :: host ++ [0x5D]) ++ 0x3A :: port := by simp
  have hbracket : 0x5B :: (host ++ 0x5D :: 0x3A :: port) =
      (0x5B :: host) ++ 0x5D :: 0x3A :: port := by simp
  have hlast : lastIndexByte (0x5B :: (host ++ 0x5D :: 0x3A :: port)) 0x3A =
      some (host.length + 2) := by
    rw [hcolon, lastIndexByte_append hport.1]
    simp
  have hfirst : indexByte (0x5B :: (host ++ 0x5D :: 0x3A :: port)) 0x5D =
      some (host.length + 1) := by
    rw [hbracket, indexByte_append (by simpa using hclose), List.length_cons]
  have hhead : (0x5B :: (host ++ 0x5D :: 0x3A :: port)).head? = some 0x5B := rfl
  have hsplit : splitHost (0x5B :: (host ++ 0x5D :: 0x3A :: port)) (host.length + 2) =
      .ok (host, 1, host.length + 2) := by
    rw [splitHost, if_pos hhead, hfirst]
    simp
  have hrest : (host ++ 0x5D :: 0x3A :: port).drop (host.length + 1) = 0x3A :: port := by
    rw [List.drop_length_add_append]
    rfl
  have hdrop : (host ++ 0x5D :: 0x3A :: port).drop (host.length + 2) = port := by
    rw [List.drop_length_add_append]
    rfl
  have hnoopen : (0x5B : UInt8) ∉ host ++ 0x5D :: 0x3A :: port := by simp [hopen, hport.2.1]
  have hnoclose : (0x5D : UInt8) ∉ 0x3A :: port := by simp [hport.2.2]
  rw [splitHostPort, hlast]
  simp only [hsplit, ok_bind, List.drop_succ_cons, List.drop_zero, if_neg hnoopen, hrest,
    if_neg hnoclose, hdrop]
  rfl

/-- How `splitHost` reads the part in front of the last colon. -/
theorem splitHost_eq_ok {front back host : GoString} {j k : Nat}
    (h : splitHost (front ++ 0x3A :: back) front.length = .ok (host, j, k)) :
    (front = host ∧ 0x3A ∉ host ∧ j = 0 ∧ k = 0) ∨
      (front = 0x5B :: host ++ [0x5D] ∧ 0x5D ∉ host ∧ j = 1 ∧ k = front.length) := by
  unfold splitHost at h
  split at h
  · rename_i hhead
    right
    split at h
    · cases h
    · rename_i close hfirst
      obtain ⟨inner, rest, hcut, hinner, rfl⟩ := indexByte_eq_some hfirst
      split at h
      · cases h
      · split at h
        · rename_i hnext
          -- The bracket closes right in front of the colon.
          have hparts : front ++ 0x3A :: back = (inner ++ [0x5D]) ++ rest := by simp [hcut]
          obtain ⟨rfl, -⟩ := List.append_inj hparts (by simp [hnext])
          cases inner with
          | nil => cases hhead
          | cons b host' =>
              cases hhead
              have htake : ((0x5B :: host' ++ [0x5D] ++ 0x3A :: back).take
                  (0x5B :: host').length).drop 1 = host' := by
                rw [List.append_assoc, List.take_left]
                rfl
              rw [htake] at h
              cases h
              exact ⟨rfl, fun hmem => hinner (List.mem_cons_of_mem _ hmem), rfl, by simp⟩
        · split at h <;> cases h
  · left
    split at h
    · cases h
    · rename_i hcolon
      rw [List.take_left] at h hcolon
      cases h
      exact ⟨rfl, hcolon, rfl, rfl⟩

/-- `SplitHostPort` accepts exactly the two forms of an address. -/
theorem splitHostPort_eq_ok_iff {addr host port : GoString} :
    splitHostPort addr = .ok (host, port) ↔ HostPort host port addr := by
  constructor
  · intro h
    unfold splitHostPort at h
    split at h
    · cases h
    · rename_i i hlast
      obtain ⟨front, back, rfl, hback, rfl⟩ := lastIndexByte_eq_some hlast
      obtain ⟨⟨host', j, k⟩, hsplit, hrest⟩ := bind_eq_ok h
      dsimp only at hrest
      split at hrest
      · cases hrest
      · rename_i hopen
        split at hrest
        · cases hrest
        · rename_i hclose
          have hparts : host' = host ∧ (front ++ 0x3A :: back).drop (front.length + 1) = port :=
            Prod.mk.inj (Except.ok.inj hrest)
          rw [List.drop_length_add_append] at hparts
          obtain ⟨rfl, rfl⟩ := hparts
          rcases splitHost_eq_ok hsplit with ⟨rfl, hcolon, rfl, rfl⟩ | ⟨rfl, hbracket, rfl, rfl⟩
          · rw [List.drop_zero, List.mem_append, not_or] at hopen hclose
            have hport : Plain back := ⟨hback, fun h => hopen.2 (List.mem_cons_of_mem _ h),
              fun h => hclose.2 (List.mem_cons_of_mem _ h)⟩
            exact HostPort.plain ⟨hcolon, hopen.1, hclose.1⟩ hport
          · have hshape : 0x5B :: host' ++ [0x5D] ++ 0x3A :: back =
                0x5B :: (host' ++ 0x5D :: 0x3A :: back) := by simp
            rw [List.drop_left] at hclose
            rw [hshape, List.drop_succ_cons, List.drop_zero, List.mem_append, not_or] at hopen
            have hport : Plain back :=
              ⟨hback, fun h => hopen.2 (List.mem_cons_of_mem _ (List.mem_cons_of_mem _ h)),
                fun h => hclose (List.mem_cons_of_mem _ h)⟩
            rw [hshape]
            exact HostPort.bracketed hopen.1 hbracket hport
  · intro h
    cases h with
    | plain hhost hport => exact splitHostPort_plain hhost hport
    | bracketed hopen hclose hport => exact splitHostPort_bracketed hopen hclose hport

end Kroxy.Go
