import Mathlib.Algebra.Ring.Nat
import Mathlib.Data.List.Infix
import Kroxy.Lib.Program

/-!
# `Kroxy.Go.Basic`: the Go values and effects the model is written in

A Go `string` is a sequence of bytes with no encoding attached, so `GoString` is a list of
bytes and equality on it is Go's `==`. `goString` turns a Lean literal into the bytes Go
stores for the same literal.

An error is the chain `errors.New` / `errors.Wrap` builds: the root and the wrapping
messages, outermost first. `GoError.text` is what `err.Error()` prints. Go tells root errors
apart by their identity, the model by their text (`GoError.is`).

A Go function over a mutable receiver is an `EStateM` program. Its state survives a
failure, as the receiver's fields survive a returned error, and it stops in one of two
ways: with an error value (`Stop.err`) or with a run-time panic (`Stop.panic`).
-/

set_option autoImplicit false

namespace Kroxy.Go

/-- A byte slice. -/
abbrev Bytes := List UInt8

/-- A Go string: its bytes. -/
abbrev GoString := List UInt8

/-- The bytes of a string literal. -/
def goString (s : String) : GoString := s.toUTF8.data.toList

/-- An error value: `root` is the innermost error, `wraps` the messages put around it by
`errors.Wrap`, outermost first. -/
structure GoError where
  /-- The text of the error at the bottom of the chain. -/
  root : GoString
  /-- The messages of `errors.Wrap`, outermost first. -/
  wraps : List GoString
  deriving DecidableEq, Repr

/-- `errors.New`, and `errors.Errorf` with the formatted text. -/
def errorsNew (text : GoString) : GoError := ⟨text, []⟩

/-- What `%d` prints. -/
def decimal (i : Int) : GoString := goString (toString i)

/-- `errors.Wrap`. -/
def GoError.wrap (e : GoError) (msg : GoString) : GoError := { e with wraps := msg :: e.wraps }

/-- `err.Error()`: the wrapping messages and the root, joined by `": "`. -/
def GoError.text (e : GoError) : GoString :=
  e.wraps.foldr (fun m rest => m ++ goString ": " ++ rest) e.root

/-- `errors.Is` against a sentinel. Wrapping keeps the root, so only the roots are compared. Go
compares the identity of the root errors. Here it is their text, so an error of another package
with the text of a sentinel counts as the sentinel. -/
def GoError.is (e sentinel : GoError) : Bool := e.root == sentinel.root

/-- Why a Go function did not return normally: it returned an error, or it panicked. -/
inductive Stop where
  | err (e : GoError)
  | panic
  deriving DecidableEq, Repr

/-- `errors.Wrap` on the way out of a function. A panic passes through unwrapped. -/
def Stop.wrap (msg : GoString) : Stop → Stop
  | .err e => .err (e.wrap msg)
  | .panic => .panic

/-- A Go function over a receiver of type `σ`. -/
abbrev GoM (σ α : Type) := EStateM Stop σ α

/-- `if err := x(); err != nil { return errors.Wrap(err, msg) }`. -/
def wrapErr {σ α : Type} (msg : String) (x : GoM σ α) : GoM σ α := fun s =>
  match x s with
  | .ok a s' => .ok a s'
  | .error e s' => .error (e.wrap (goString msg)) s'

/-- `return errors.New(msg)`. -/
def fail {σ α : Type} (msg : GoString) : GoM σ α := throw (.err (errorsNew msg))

/-- A value or the error a pure call returned, raised with a wrapping message. -/
def liftErr {σ α : Type} (msg : String) : Except GoError α → GoM σ α
  | .ok a => pure a
  | .error e => throw (.err (e.wrap (goString msg)))

section
open Kroxy.Lib
variable {σ α : Type} {Q : α → σ → Prop} {E : σ → Prop} {s : σ}

/-- Wrapping an error changes where a program ends in nothing but the error. -/
theorem ends_wrapErr {msg : String} {x : GoM σ α} (h : Ends x Q (fun _ => E) s) :
    Ends (wrapErr msg x) Q (fun _ => E) s := by
  unfold Ends wrapErr at *
  cases hx : x s with
  | ok a s' =>
      rw [hx] at h
      exact h
  | error e s' =>
      rw [hx] at h
      exact h

/-- Wrapping makes no panic of an error. -/
theorem ends_wrapErr_err {msg : String} {x : GoM σ α}
    (h : Ends x Q (fun stop s' => stop ≠ .panic ∧ E s') s) :
    Ends (wrapErr msg x) Q (fun stop s' => stop ≠ .panic ∧ E s') s := by
  unfold Ends wrapErr at *
  cases hx : x s with
  | ok a s' =>
      rw [hx] at h
      exact h
  | error stop s' =>
      rw [hx] at h
      cases stop with
      | err e => exact ⟨by simp [Stop.wrap], h.2⟩
      | panic => exact absurd rfl h.1

/-- A returned error leaves the state as it is. -/
theorem ends_fail {msg : GoString} (h : E s) : Ends (fail msg : GoM σ α) Q (fun _ => E) s := h

/-- A lifted result is the value or the failure, in the same state. -/
theorem ends_liftErr {msg : String} {r : Except GoError α} (hok : ∀ a, r = .ok a → Q a s)
    (herr : E s) : Ends (liftErr msg r : GoM σ α) Q (fun _ => E) s := by
  cases r with
  | ok a => exact hok a rfl
  | error e => exact herr

end

/-- A call that returns a value goes on. -/
@[simp] theorem ok_bind {ε α β : Type} (a : α) (f : α → Except ε β) :
    (Except.ok a >>= f) = f a := rfl

/-- A call that returns an error ends the sequence. -/
@[simp] theorem error_bind {ε α β : Type} (e : ε) (f : α → Except ε β) :
    (Except.error e >>= f) = .error e := rfl

/-- A sequence of two calls returns normally only when both do. -/
theorem bind_eq_ok {ε α β : Type} {x : Except ε α} {f : α → Except ε β} {b : β}
    (h : x >>= f = .ok b) : ∃ a, x = .ok a ∧ f a = .ok b := by
  cases x with
  | error e => cases h
  | ok a => exact ⟨a, rfl, h⟩

/-- A mapped result is a value only when what was mapped is one. -/
theorem map_eq_ok {ε α β : Type} {f : α → β} {x : Except ε α} {b : β}
    (h : f <$> x = .ok b) : ∃ a, x = .ok a ∧ f a = b := by
  cases x with
  | error e => cases h
  | ok a => exact ⟨a, rfl, Except.ok.inj h⟩

/-! ### `unicode/utf8` -/

/-- A continuation byte of UTF-8. -/
def isTail (b : UInt8) : Bool := 0x80 ≤ b && b ≤ 0xBF

/-- The second byte of a sequence of three or four: the first byte narrows it for the overlong
forms, the surrogates and the end of the range. -/
def isSecond (a b : UInt8) : Bool :=
  isTail b && (a ≠ 0xE0 || 0xA0 ≤ b) && (a ≠ 0xED || b ≤ 0x9F) && (a ≠ 0xF0 || 0x90 ≤ b) &&
    (a ≠ 0xF4 || b ≤ 0x8F)

/-- The length of the sequence of two to four bytes that a text starts with, and 0 when it
starts with none. -/
def runeWidth : GoString → Nat
  | a :: b :: rest =>
      if 0xC2 ≤ a ∧ a ≤ 0xDF ∧ isTail b then 2
      else
        match rest with
        | [] => 0
        | c :: rest =>
            if 0xE0 ≤ a ∧ a ≤ 0xEF ∧ isSecond a b ∧ isTail c then 3
            else
              match rest with
              | [] => 0
              | d :: _ =>
                  if 0xF0 ≤ a ∧ a ≤ 0xF4 ∧ isSecond a b ∧ isTail c ∧ isTail d then 4 else 0
  | _ => 0

/-- Is the text UTF-8 behind its first `skip` bytes? -/
def validBehind (skip : Nat) : GoString → Bool
  | [] => true
  | a :: s =>
      match skip with
      | skip + 1 => validBehind skip s
      | 0 =>
          if a < 0x80 then validBehind 0 s
          else
            match runeWidth (a :: s) with
            | 0 => false
            | width + 1 => validBehind width s

/-- `utf8.ValidString`. -/
def validUTF8 (s : GoString) : Bool := validBehind 0 s

/-- ASCII is UTF-8. -/
theorem validUTF8_of_ascii {s : GoString} (h : ∀ b ∈ s, b < 0x80) : validUTF8 s = true := by
  induction s with
  | nil => rfl
  | cons b s ih =>
      unfold validUTF8 validBehind
      dsimp only
      rw [if_pos (h b List.mem_cons_self)]
      exact ih fun c hc => h c (List.mem_cons_of_mem b hc)

/-! ### `strconv.Quote` -/

/-- A hexadecimal digit. -/
def lowerhex (n : UInt8) : UInt8 := if n < 10 then 0x30 + n else 0x57 + n

/-- A byte as an escape of two hexadecimal digits. -/
def escapeByte (b : UInt8) : GoString := goString "\\x" ++ [lowerhex (b / 16), lowerhex (b % 16)]

/-- An ASCII byte between quotes. -/
def quoteASCII (b : UInt8) : GoString :=
  if b = 0x22 ∨ b = 0x5C then [0x5C, b]
  else if 0x20 ≤ b ∧ b < 0x7F then [b]
  else if b = 0x07 then goString "\\a"
  else if b = 0x08 then goString "\\b"
  else if b = 0x09 then goString "\\t"
  else if b = 0x0A then goString "\\n"
  else if b = 0x0B then goString "\\v"
  else if b = 0x0C then goString "\\f"
  else if b = 0x0D then goString "\\r"
  else escapeByte b

/-- A text between quotes, behind `skip` bytes of a rune that stands there as it is. A byte that
belongs to no rune is escaped. -/
def quoteBehind (skip : Nat) : GoString → GoString
  | [] => []
  | a :: s =>
      match skip with
      | skip + 1 => a :: quoteBehind skip s
      | 0 =>
          if a < 0x80 then quoteASCII a ++ quoteBehind 0 s
          else
            match runeWidth (a :: s) with
            | 0 => escapeByte a ++ quoteBehind 0 s
            | width + 1 => a :: quoteBehind width s

/-- What `%q` prints. Every rune beyond ASCII counts as printable: the table that says which are
is not modelled. -/
def quote (s : GoString) : GoString := [0x22] ++ quoteBehind 0 s ++ [0x22]

example : quote (goString "a\"é\n") ++ quote [0xff] = goString "\"a\\\"é\\n\"\"\\xff\"" := by
  decide +kernel

/-! ### `strings` -/

/-- `strings.TrimPrefix`. -/
def trimPrefix (s p : GoString) : GoString := if p <+: s then s.drop p.length else s

/-- `strings.HasPrefix`. -/
def hasPrefix (s p : GoString) : Bool := decide (p <+: s)

/-- `strings.IndexByte`, with `none` for `-1`. -/
def indexByte (s : GoString) (b : UInt8) : Option Nat := s.findIdx? (· == b)

/-- The prefix is trimmed where it is there. -/
theorem trimPrefix_append (p s : GoString) : trimPrefix (p ++ s) p = s := by
  simp [trimPrefix]

/-- And nothing is trimmed where it is not. -/
theorem trimPrefix_of_not_prefix {p s : GoString} (h : ¬ p <+: s) : trimPrefix s p = s :=
  if_neg h

/-- `HasPrefix` is the prefix relation. -/
@[simp] theorem hasPrefix_iff {s p : GoString} : hasPrefix s p = true ↔ p <+: s := by
  simp [hasPrefix]

/-- The first `b` stands behind the bytes that are not `b`. -/
theorem indexByte_append {b : UInt8} {front : GoString} (h : b ∉ front) (back : GoString) :
    indexByte (front ++ b :: back) b = some front.length := by
  induction front with
  | nil => simp [indexByte, List.findIdx?_cons]
  | cons c front ih =>
      have hc : c ≠ b := fun heq => h (by simp [heq])
      have hfront : b ∉ front := fun hmem => h (List.mem_cons_of_mem c hmem)
      have hstep := ih hfront
      unfold indexByte at hstep ⊢
      rw [List.cons_append, List.findIdx?_cons, if_neg (by simpa using hc), hstep]
      rfl

/-- The search fails exactly when the byte does not occur. -/
theorem indexByte_eq_none {b : UInt8} {s : GoString} : indexByte s b = none ↔ b ∉ s := by
  unfold indexByte
  rw [List.findIdx?_eq_none_iff]
  constructor
  · intro h hmem
    exact absurd (h b hmem) (by simp)
  · rintro h c hc
    exact beq_false_of_ne (fun heq => h (heq ▸ hc))

/-- Where a search succeeds, the text is cut at the first occurrence. -/
theorem indexByte_eq_some {b : UInt8} {s : GoString} {i : Nat} (h : indexByte s b = some i) :
    ∃ front back, s = front ++ b :: back ∧ b ∉ front ∧ front.length = i := by
  have hmem : b ∈ s := by
    by_contra hnone
    rw [indexByte_eq_none.mpr hnone] at h
    cases h
  obtain ⟨front, back, rfl, hfront⟩ := List.eq_append_cons_of_mem hmem
  rw [indexByte_append hfront] at h
  exact ⟨front, back, rfl, hfront, Option.some.inj h⟩

end Kroxy.Go
