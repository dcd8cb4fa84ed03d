import Mathlib.Algebra.Ring.Int.Defs
import Kroxy.Proofs.Uvarint
import Kroxy.Protocol.Framing

/-!
# `Kroxy.Proofs.HeaderBounds`: where `ParseRequestHeader` slices the frame

The parser's offset is a Go `int`. As long as it is inside the frame it behaves like a
natural number (`sliceFrom_ofNat`, `uvarintAt_ofNat`), and the only operation that can take it
out is the addition of a tagged field's length. `FieldStep` lists what one iteration of the
tagged-field loop can do from an offset in the frame, in terms of the field that stands there
(`taggedFieldAt`).

A length of about `2 ^ 63` or more makes the sum wrap around. `lengthsFit` says that no field
the loop comes to has such a length, and `parsesInBounds_iff` that this is exactly what the
parser needs in order to stay in the frame and to move forward.
-/

set_option autoImplicit false

namespace Kroxy.Proofs

open Kroxy.Go
open Kroxy.Lib
open Kroxy.Protocol

/-! ### Offsets inside the frame -/

/-- A frame whose length is a Go `int`. -/
def IntLength (frame : Bytes) : Prop := frame.length < 2 ^ 63

section
variable {frame : Bytes} (hframe : IntLength frame)
include hframe

/-- The length of the frame as an `int`. -/
theorem toInt_goLen : (goLen frame).toInt = frame.length := Int64.toInt_ofNat_of_lt hframe

/-- So is every offset in it. -/
theorem toInt_ofNat_off {off : Nat} (hoff : off ≤ frame.length) :
    (Int64.ofNat off).toInt = off :=
  Int64.toInt_ofNat_of_lt (Nat.lt_of_le_of_lt hoff hframe)

/-- Slicing at an offset inside the frame. -/
theorem sliceFrom_ofNat {off : Nat} (hoff : off ≤ frame.length) :
    sliceFrom frame (Int64.ofNat off) = .ok (frame.drop off) := by
  have hoffInt := toInt_ofNat_off hframe hoff
  have hrange : 0 ≤ Int64.ofNat off ∧ Int64.ofNat off ≤ goLen frame := by
    rw [Int64.le_iff_toInt_le, Int64.le_iff_toInt_le, hoffInt, toInt_goLen hframe]
    have hzero : (0 : Int64).toInt = 0 := rfl
    omega
  rw [sliceFrom, if_pos hrange,
    Int64.toNatClampNeg_ofNat_of_lt (Nat.lt_of_le_of_lt hoff hframe)]

end

/-- A varint takes at least one byte and no more than there are. -/
theorem readUvarint_consumed {buf : Bytes} {x : UInt64} {consumed : Nat}
    (h : readUvarint buf = .ok (x, consumed)) : 1 ≤ consumed ∧ consumed ≤ buf.length := by
  obtain ⟨w, hw, rfl, -⟩ := readUvarint_eq_ok_iff.mp h
  exact ⟨by rw [w.length_bytes]; omega, hw.length_le⟩

/-- Reading a varint inside the frame. -/
theorem uvarintAt_ofNat {frame : Bytes} (hframe : IntLength frame) {off : Nat}
    (hoff : off ≤ frame.length) :
    uvarintAt frame (Int64.ofNat off) =
      match readUvarint (frame.drop off) with
      | .ok (x, consumed) => .ok (x, Int64.ofNat (off + consumed))
      | .error e => .error (.err (e.wrap (goString "ParseRequestHeader"))) := by
  rw [uvarintAt, sliceFrom_ofNat hframe hoff]
  show (match readUvarint (frame.drop off) with
    | .ok (x, consumed) => Except.ok (x, Int64.ofNat off + Int64.ofNat consumed)
    | .error e => .error (Stop.err (e.wrap (goString "ParseRequestHeader")))) = _
  cases readUvarint (frame.drop off) with
  | error e => rfl
  | ok r =>
      obtain ⟨x, consumed⟩ := r
      show Except.ok (x, Int64.ofNat off + Int64.ofNat consumed) = _
      rw [← Int64.ofNat_add]

/-! ### One tagged field -/

/-- The front of a tagged field: how many bytes its tag and its length take, and the
length. -/
structure TaggedField where
  size : Nat
  length : UInt64
  deriving DecidableEq

/-- The tagged field at an offset. -/
def taggedFieldAt (frame : Bytes) (off : Nat) : Option TaggedField :=
  match readUvarint (frame.drop off) with
  | .error _ => none
  | .ok (_, c₁) =>
      match readUvarint (frame.drop (off + c₁)) with
      | .error _ => none
      | .ok (length, c₂) => some ⟨c₁ + c₂, length⟩

/-- A tagged field takes two bytes at least and ends inside the frame. -/
theorem taggedFieldAt_size {frame : Bytes} {off : Nat} {f : TaggedField}
    (h : taggedFieldAt frame off = some f) : 2 ≤ f.size ∧ off + f.size ≤ frame.length := by
  unfold taggedFieldAt at h
  cases h₁ : readUvarint (frame.drop off) with
  | error e =>
      rw [h₁] at h
      cases h
  | ok r₁ =>
      obtain ⟨tag, c₁⟩ := r₁
      rw [h₁] at h
      cases h₂ : readUvarint (frame.drop (off + c₁)) with
      | error e =>
          simp only [h₂] at h
          cases h
      | ok r₂ =>
          obtain ⟨length, c₂⟩ := r₂
          simp only [h₂] at h
          cases h
          have hc₁ := readUvarint_consumed h₁
          have hc₂ := readUvarint_consumed h₂
          rw [List.length_drop] at hc₁ hc₂
          show 2 ≤ c₁ + c₂ ∧ off + (c₁ + c₂) ≤ frame.length
          omega

/-- The offset behind a field at `off`, had the sum no limit. -/
def TaggedField.behind (f : TaggedField) (off : Nat) : Nat := off + f.size + f.length.toNat

/-- The sum the code computes is the true one, or less by `2 ^ 64`. -/
theorem toInt_add_length {p : Nat} (hp : p < 2 ^ 63) (x : UInt64) :
    (Int64.ofNat p + x.toInt64).toInt =
      if p + x.toNat < 2 ^ 63 then ((p + x.toNat : Nat) : Int)
      else ((p + x.toNat : Nat) : Int) - 2 ^ 64 := by
  have hx : x.toNat < 2 ^ 64 := x.toNat_lt
  have hxInt : x.toInt64.toInt = (x.toNat : Int).bmod (2 ^ 64) :=
    BitVec.toInt_eq_toNat_bmod x.toBitVec
  rw [Int64.toInt_add, Int64.toInt_ofNat_of_lt hp, hxInt, Int.add_bmod_bmod, Int.bmod_def]
  split <;> split <;> omega

/-- What one iteration of the loop does at an offset in the frame. -/
inductive FieldStep (frame : Bytes) (off : Nat) : Except Stop Int64 → Prop where
  /-- The tag or the length does not parse. -/
  | broken (e : GoError) (h : taggedFieldAt frame off = none) :
      FieldStep frame off (.error (.err e))
  /-- The field ends behind the frame. -/
  | truncated {f : TaggedField} (e : GoError) (h : taggedFieldAt frame off = some f)
      (hbehind : f.behind off < 2 ^ 63) (hlong : frame.length < f.behind off) :
      FieldStep frame off (.error (.err e))
  | skipped {f : TaggedField} {next : Int64} (h : taggedFieldAt frame off = some f)
      (hbehind : f.behind off < 2 ^ 63) (hfits : f.behind off ≤ frame.length)
      (hnext : next = Int64.ofNat (f.behind off)) : FieldStep frame off (.ok next)
  /-- The sum wraps around, and the check lets it pass. -/
  | wrapped {f : TaggedField} {next : Int64} (h : taggedFieldAt frame off = some f)
      (hbehind : 2 ^ 63 ≤ f.behind off)
      (hnext : next.toInt = (f.behind off : Int) - 2 ^ 64) : FieldStep frame off (.ok next)

/-- The loop is its first iteration and the rest. -/
theorem skipTaggedFields_succ (frame : Bytes) (n : Nat) (off : Int64) :
    skipTaggedFields frame (n + 1) off =
      skipTaggedFields frame 1 off >>= skipTaggedFields frame n := by
  simp only [skipTaggedFields, bind_assoc]
  congr 1
  funext r₁
  congr 1
  funext r₂
  split
  · rfl
  · rfl

/-- One iteration: two varints, then the length is checked and added. -/
theorem skipTaggedFields_one (frame : Bytes) (off : Int64) :
    skipTaggedFields frame 1 off = (do
      let r₁ ← uvarintAt frame off
      let r₂ ← uvarintAt frame r₁.2
      if goLen frame < r₂.2 + r₂.1.toInt64 then
        headerError "ParseRequestHeader: truncated tagged field"
      else .ok (r₂.2 + r₂.1.toInt64)) := rfl

/-- The end of an iteration: the length is checked and added. -/
theorem fieldStep_length {frame : Bytes} (hframe : IntLength frame) {off p : Nat}
    {f : TaggedField} (hfield : taggedFieldAt frame off = some f) (hp : p = off + f.size) :
    FieldStep frame off
      (if goLen frame < Int64.ofNat p + f.length.toInt64 then
        headerError "ParseRequestHeader: truncated tagged field"
      else .ok (Int64.ofNat p + f.length.toInt64)) := by
  have hsize := taggedFieldAt_size hfield
  have hlen : frame.length < 2 ^ 63 := hframe
  have hsum := toInt_add_length (p := p) (by omega) f.length
  have hbehind : p + f.length.toNat = f.behind off := by rw [hp, TaggedField.behind]
  rw [hbehind] at hsum
  by_cases hwrap : f.behind off < 2 ^ 63
  · rw [if_pos hwrap] at hsum
    have hnext : Int64.ofNat p + f.length.toInt64 = Int64.ofNat (f.behind off) := by
      rw [← Int64.toInt_inj, hsum, Int64.toInt_ofNat_of_lt hwrap]
    have hcheck : goLen frame < Int64.ofNat p + f.length.toInt64 ↔
        frame.length < f.behind off := by
      rw [Int64.lt_iff_toInt_lt, hsum, toInt_goLen hframe]
      omega
    by_cases hlong : frame.length < f.behind off
    · rw [if_pos (hcheck.mpr hlong)]
      exact .truncated _ hfield hwrap hlong
    · rw [if_neg (fun h => hlong (hcheck.mp h))]
      exact .skipped hfield hwrap (by omega) hnext
  · -- The wrapped sum is below the end of the field's front, so the check lets it pass.
    rw [if_neg hwrap] at hsum
    have hlength : f.length.toNat < 2 ^ 64 := f.length.toNat_lt
    have hcheck : ¬ goLen frame < Int64.ofNat p + f.length.toInt64 := by
      rw [Int64.lt_iff_toInt_lt, hsum, toInt_goLen hframe]
      omega
    rw [if_neg hcheck]
    exact .wrapped hfield (by omega) hsum

/-- Skipping one tagged field. -/
theorem fieldStep {frame : Bytes} (hframe : IntLength frame) {off : Nat}
    (hoff : off ≤ frame.length) :
    FieldStep frame off (skipTaggedFields frame 1 (Int64.ofNat off)) := by
  rw [skipTaggedFields_one, uvarintAt_ofNat hframe hoff]
  cases h₁ : readUvarint (frame.drop off) with
  | error e => exact .broken _ (by simp only [taggedFieldAt, h₁])
  | ok r₁ =>
      obtain ⟨tag, c₁⟩ := r₁
      have hc₁ := readUvarint_consumed h₁
      rw [List.length_drop] at hc₁
      show FieldStep frame off (uvarintAt frame (Int64.ofNat (off + c₁)) >>= _)
      rw [uvarintAt_ofNat hframe (by omega)]
      cases h₂ : readUvarint (frame.drop (off + c₁)) with
      | error e => exact .broken _ (by simp only [taggedFieldAt, h₁, h₂])
      | ok r₂ =>
          obtain ⟨length, c₂⟩ := r₂
          have hfield : taggedFieldAt frame off = some ⟨c₁ + c₂, length⟩ := by
            simp only [taggedFieldAt, h₁, h₂]
          have hp : off + c₁ + c₂ = off + (c₁ + c₂) := Nat.add_assoc _ _ _
          have hstep := fieldStep_length hframe hfield hp
          simp only [ok_bind]
          exact hstep

/-! ### The loop -/

/-- No field from `off` on takes the offset back to its own start or before it. A length that
falls short of `2 ^ 64` by less than the front of its field does not: the wrapped sum is
still behind the start. -/
def lengthsFit (frame : Bytes) : Nat → Nat → Bool
  | 0, _ => true
  | n + 1, off =>
      match taggedFieldAt frame off with
      | none => true
      | some f =>
          if f.behind off < 2 ^ 63 then
            decide (frame.length < f.behind off) || lengthsFit frame n (f.behind off)
          else
            decide (2 ^ 64 < f.size + f.length.toNat) &&
              lengthsFit frame n (f.behind off - 2 ^ 64)

/-- Each of the `n` iterations from `off` on that ends leaves the offset behind the one it
started from. -/
def LoopForward (frame : Bytes) (n : Nat) (off : Int64) : Prop :=
  ∀ i < n, ∀ a b, skipTaggedFields frame i off = .ok a →
    skipTaggedFields frame (i + 1) off = .ok b → a < b

/-- A loop whose first iteration fails has no iteration that ends. -/
theorem loopForward_of_error {frame : Bytes} {off : Int64} {stop : Stop}
    (h : skipTaggedFields frame 1 off = .error stop) (n : Nat) :
    LoopForward frame n off := by
  intro i _ a b _ hb
  rw [skipTaggedFields_succ, h, error_bind] at hb
  cases hb

/-- Behind its first iteration the loop goes forward when the rest of it does. -/
theorem loopForward_succ {frame : Bytes} {off next : Int64}
    (h : skipTaggedFields frame 1 off = .ok next) (n : Nat) :
    LoopForward frame (n + 1) off ↔ off < next ∧ LoopForward frame n next := by
  have hsucc : ∀ i, skipTaggedFields frame (i + 1) off = skipTaggedFields frame i next := by
    intro i
    rw [skipTaggedFields_succ, h, ok_bind]
  constructor
  · intro hloop
    refine ⟨hloop 0 (Nat.succ_pos n) off next rfl h, ?_⟩
    intro i hi a b ha hb
    rw [← hsucc] at ha hb
    exact hloop (i + 1) (Nat.succ_lt_succ hi) a b ha hb
  · intro hrest i hi a b ha hb
    rw [hsucc] at hb
    cases i with
    | zero =>
        cases ha
        cases hb
        exact hrest.1
    | succ i =>
        rw [hsucc] at ha
        exact hrest.2 i (Nat.lt_of_succ_lt_succ hi) a b ha hb

/-- An iteration that moves the offset forward leaves it in the frame, and the other
lengths decide. -/
theorem FieldStep.exists_next {frame : Bytes} (hframe : IntLength frame) {off : Nat}
    {next : Int64} (h : FieldStep frame off (.ok next))
    (hforward : (off : Int) < next.toInt) :
    ∃ m, m ≤ frame.length ∧ next = Int64.ofNat m ∧
      ∀ n, lengthsFit frame (n + 1) off = lengthsFit frame n m := by
  have hlen : frame.length < 2 ^ 63 := hframe
  cases h with
  | skipped hfield hbehind hfits hnext =>
      rename_i f
      refine ⟨f.behind off, hfits, hnext, ?_⟩
      intro n
      simp only [lengthsFit, hfield, hbehind, if_true, Nat.not_lt.mpr hfits, decide_false,
        Bool.false_or]
  | wrapped hfield hbehind hnext =>
      rename_i f
      have hsize := taggedFieldAt_size hfield
      have hlength : f.length.toNat < 2 ^ 64 := f.length.toNat_lt
      -- The wrap takes the offset back by less than the length took it forward.
      have hshort : 2 ^ 64 < f.size + f.length.toNat := by
        rw [hnext, TaggedField.behind] at hforward
        omega
      have hback : f.behind off - 2 ^ 64 ≤ frame.length := by
        rw [TaggedField.behind]
        omega
      refine ⟨f.behind off - 2 ^ 64, hback, ?_, ?_⟩
      · rw [← Int64.toInt_inj, hnext, toInt_ofNat_off hframe hback]
        omega
      · intro n
        simp only [lengthsFit, hfield, Nat.not_lt.mpr hbehind, if_false, hshort, decide_true,
          Bool.true_and]

/-- An iteration that takes the offset back has a length that does not fit. -/
theorem FieldStep.lengthsFit_eq_false {frame : Bytes} {off : Nat} {next : Int64}
    (h : FieldStep frame off (.ok next)) (hback : ¬ (off : Int) < next.toInt) (n : Nat) :
    lengthsFit frame (n + 1) off = false := by
  cases h with
  | skipped hfield hbehind hfits hnext =>
      have hsize := taggedFieldAt_size hfield
      rw [hnext, Int64.toInt_ofNat_of_lt hbehind, TaggedField.behind] at hback
      omega
  | wrapped hfield hbehind hnext =>
      rename_i f
      have hlong : ¬ 2 ^ 64 < f.size + f.length.toNat := by
        rw [hnext, TaggedField.behind] at hback
        omega
      simp only [lengthsFit, hfield, Nat.not_lt.mpr hbehind, if_false, hlong, decide_false,
        Bool.false_and]

/-- An iteration that fails has no length that takes the offset back. -/
theorem FieldStep.lengthsFit_of_error {frame : Bytes} {off : Nat} {stop : Stop}
    (h : FieldStep frame off (.error stop)) (n : Nat) :
    lengthsFit frame (n + 1) off = true := by
  cases h with
  | broken e hfield => simp only [lengthsFit, hfield]
  | truncated e hfield hbehind hlong =>
      simp only [lengthsFit, hfield, hbehind, hlong, if_true, decide_true, Bool.true_or]

/-- The loop goes forward exactly when the lengths fit. -/
theorem loopForward_iff {frame : Bytes} (hframe : IntLength frame) (n : Nat) {off : Nat}
    (hoff : off ≤ frame.length) :
    LoopForward frame n (Int64.ofNat off) ↔ lengthsFit frame n off = true := by
  induction n generalizing off with
  | zero =>
      refine iff_of_true ?_ rfl
      intro i hi
      omega
  | succ n ih =>
      have hstep := fieldStep hframe hoff
      cases hres : skipTaggedFields frame 1 (Int64.ofNat off) with
      | error stop =>
          rw [hres] at hstep
          exact iff_of_true (loopForward_of_error hres _) (hstep.lengthsFit_of_error n)
      | ok next =>
          rw [hres] at hstep
          rw [loopForward_succ hres, Int64.lt_iff_toInt_lt, toInt_ofNat_off hframe hoff]
          by_cases hforward : (off : Int) < next.toInt
          · obtain ⟨m, hm, rfl, hrest⟩ := hstep.exists_next hframe hforward
            rw [hrest n, ← ih hm]
            exact and_iff_right hforward
          · rw [hstep.lengthsFit_eq_false hforward n]
            exact iff_of_false (fun h => hforward h.1) (by simp)

/-- An iteration comes after the ones before it. -/
theorem skipTaggedFields_snoc (frame : Bytes) (i : Nat) (off : Int64) :
    skipTaggedFields frame (i + 1) off =
      skipTaggedFields frame i off >>= skipTaggedFields frame 1 := by
  induction i generalizing off with
  | zero => rfl
  | succ i ih =>
      rw [skipTaggedFields_succ, skipTaggedFields_succ frame i, bind_assoc]
      congr 1
      funext next
      exact ih next

/-- Going forward, the offset stays in the frame, at least as far on as iterations were
made. -/
theorem LoopForward.offset {frame : Bytes} (hframe : IntLength frame) {n off : Nat}
    (hoff : off ≤ frame.length) (h : LoopForward frame n (Int64.ofNat off)) {i : Nat}
    (hi : i ≤ n) {a : Int64} (ha : skipTaggedFields frame i (Int64.ofNat off) = .ok a) :
    ∃ m, a = Int64.ofNat m ∧ off + i ≤ m ∧ m ≤ frame.length := by
  induction i generalizing a with
  | zero =>
      cases ha
      exact ⟨off, rfl, Nat.le_refl _, hoff⟩
  | succ i ih =>
      have hprev := ha
      rw [skipTaggedFields_snoc] at hprev
      obtain ⟨b, hb, hstep⟩ := bind_eq_ok hprev
      obtain ⟨m, hm, hle, hmLen⟩ := ih (Nat.le_of_succ_le hi) hb
      have hlt := Int64.lt_iff_toInt_lt.mp (h i hi b a hb ha)
      rw [hm, toInt_ofNat_off hframe hmLen] at hlt
      have hfield := fieldStep hframe hmLen
      rw [← hm, hstep] at hfield
      obtain ⟨m', hm', rfl, -⟩ := hfield.exists_next hframe hlt
      rw [toInt_ofNat_off hframe hm'] at hlt
      exact ⟨m', rfl, by omega, hm'⟩

/-- Going forward, the loop does not panic. -/
theorem LoopForward.noPanic {frame : Bytes} (hframe : IntLength frame) {n off : Nat}
    (hoff : off ≤ frame.length) (h : LoopForward frame n (Int64.ofNat off)) {i : Nat}
    (hi : i ≤ n) : skipTaggedFields frame i (Int64.ofNat off) ≠ .error .panic := by
  induction i with
  | zero => exact nofun
  | succ i ih =>
      rw [skipTaggedFields_snoc]
      cases hprev : skipTaggedFields frame i (Int64.ofNat off) with
      | error stop =>
          rw [error_bind, ← hprev]
          exact ih (Nat.le_of_succ_le hi)
      | ok b =>
          obtain ⟨m, rfl, -, hmLen⟩ := h.offset hframe hoff (Nat.le_of_succ_le hi) hprev
          rw [ok_bind]
          have hfield := fieldStep hframe hmLen
          intro hpanic
          rw [hpanic] at hfield
          cases hfield

/-! ### The header -/

/-- The number of tagged fields and the offset of the first, in a frame whose header has
tagged fields: behind ten bytes, the client id and the count. -/
def taggedSection (frame : Bytes) : Option (Nat × Nat) :=
  if frame.length < 10 ∨
      requestHeaderVersion (getBE16 frame).toInt16 (getBE16 (frame.drop 2)).toInt16 < 2 then none
  else
    let off := 10 + (getBE16 (frame.drop 8)).toInt16.toNatClampNeg
    match readUvarint (frame.drop off) with
    | .error _ => none
    | .ok (n, consumed) => some (n.toNat, off + consumed)

/-- No tagged field of the header takes the parser back. -/
def headerLengthsFit (frame : Bytes) : Bool :=
  match taggedSection frame with
  | none => true
  | some (n, off) => lengthsFit frame n off

/-- The parser enters the tagged-field loop with count `n` at offset `off`. -/
def EntersLoop (frame : Bytes) (n : UInt64) (off : Int64) : Prop :=
  8 ≤ frame.length ∧
    requestHeaderVersion (getBE16 frame).toInt16 (getBE16 (frame.drop 2)).toInt16 ≥ 2 ∧
    ∃ clientID off₀, readClientID frame = .ok (clientID, off₀) ∧
      uvarintAt frame off₀ = .ok (n, off)

/-- `ParseRequestHeader` stays in the frame. -/
structure ParsesInBounds (frame : Bytes) : Prop where
  noPanic : parseRequestHeader frame ≠ .error .panic
  /-- An iteration of the tagged-field loop moves the offset forward. -/
  forward : ∀ n off, EntersLoop frame n off → ∀ i < n.toNat, ∀ a b,
    skipTaggedFields frame i off = .ok a → skipTaggedFields frame (i + 1) off = .ok b → a < b
  /-- The loop starts no more iterations than there are bytes. -/
  iterations : ∀ n off, EntersLoop frame n off → ∀ i < n.toNat, ∀ a,
    skipTaggedFields frame i off = .ok a → i + 1 ≤ frame.length
  headerSize : ∀ hdr, parseRequestHeader frame = .ok hdr →
    8 ≤ hdr.headerSize.toInt ∧ hdr.headerSize.toInt ≤ frame.length
  /-- The slice `serve` takes. -/
  body : ∀ hdr, parseRequestHeader frame = .ok hdr → ∃ b, sliceFrom frame hdr.headerSize = .ok b

/-- Every request header has at least version 1. -/
theorem one_le_requestHeaderVersion (apiKey apiVersion : Int16) :
    requestHeaderVersion apiKey apiVersion ≥ 1 := by
  unfold requestHeaderVersion
  split
  · split <;> decide
  · split <;> decide

/-- The client id is whole, or the parser returns an error. -/
theorem readClientID_cases (frame : Bytes) :
    (∃ e, readClientID frame = .error (.err e) ∧
        frame.length < 10 + (getBE16 (frame.drop 8)).toInt16.toNatClampNeg) ∨
      ∃ clientID, readClientID frame = .ok (clientID,
          Int64.ofNat (10 + (getBE16 (frame.drop 8)).toInt16.toNatClampNeg)) ∧
        10 + (getBE16 (frame.drop 8)).toInt16.toNatClampNeg ≤ frame.length := by
  unfold readClientID headerError
  generalize (getBE16 (frame.drop 8)).toInt16 = clen
  by_cases hten : frame.length < 10
  · exact Or.inl ⟨_, if_pos hten, by omega⟩
  · rw [if_neg hten]
    by_cases hpos : clen > 0
    · simp only [hpos, if_true]
      by_cases hshort : frame.length < 10 + clen.toNatClampNeg
      · exact Or.inl ⟨_, if_pos hshort, hshort⟩
      · exact Or.inr ⟨_, if_neg hshort, by omega⟩
    · have hnull : clen.toNatClampNeg = 0 := by
        have hle := Int16.not_lt.mp hpos
        rw [Int16.le_iff_toInt_le] at hle
        exact Int.toNat_eq_zero.mpr hle
      simp only [hpos, if_false, hnull]
      exact Or.inr ⟨[], rfl, by omega⟩

/-- What `ParseRequestHeader` makes of a frame: an error before the tagged fields, a header
without them, or a header that ends where the loop does. -/
inductive HeaderShape (frame : Bytes) : Prop where
  | refused (e : GoError) (hparse : parseRequestHeader frame = .error (.err e))
      (hsection : taggedSection frame = none) (henter : ∀ n off, ¬ EntersLoop frame n off)
  | plain (hdr : RequestHeader) (off : Nat) (hparse : parseRequestHeader frame = .ok hdr)
      (hsize : hdr.headerSize = Int64.ofNat off) (hmin : 10 ≤ off)
      (hmax : off ≤ frame.length) (hsection : taggedSection frame = none)
      (henter : ∀ n off, ¬ EntersLoop frame n off)
  | tagged (hdr : RequestHeader) (n : UInt64) (off : Nat)
      (hparse : parseRequestHeader frame =
        (skipTaggedFields frame n.toNat (Int64.ofNat off)).map
          fun o => { hdr with headerSize := o })
      (hmin : 10 ≤ off) (hmax : off ≤ frame.length)
      (hsection : taggedSection frame = some (n.toNat, off))
      (henter : ∀ n' off', EntersLoop frame n' off' ↔ n' = n ∧ off' = Int64.ofNat off)

/-- The fields in front of the client id. -/
def fixedHeader (frame : Bytes) (clientID : GoString) (headerSize : Int64) : RequestHeader :=
  let apiKey := (getBE16 frame).toInt16
  let apiVersion := (getBE16 (frame.drop 2)).toInt16
  { apiKey, apiVersion, correlationID := (getBE32 (frame.drop 4)).toInt32, clientID,
    headerVersion := requestHeaderVersion apiKey apiVersion, headerSize }

/-- The header of a frame that has its fixed part. -/
theorem parseRequestHeader_eq {frame : Bytes} (hlen : 8 ≤ frame.length) :
    parseRequestHeader frame = readClientID frame >>= fun r =>
      (if requestHeaderVersion (getBE16 frame).toInt16 (getBE16 (frame.drop 2)).toInt16 ≥ 2
        then readTaggedFields frame r.2 else .ok r.2).map (fixedHeader frame r.1) := by
  unfold parseRequestHeader
  rw [if_neg (by omega)]
  simp only [one_le_requestHeaderVersion, if_true]
  rfl

/-- Without a whole client id there is no tagged-field section. -/
theorem taggedSection_of_short {frame : Bytes}
    (h : frame.length < 10 + (getBE16 (frame.drop 8)).toInt16.toNatClampNeg) :
    taggedSection frame = none := by
  unfold taggedSection
  split
  · rfl
  · simp only [List.drop_of_length_le (Nat.le_of_lt h)]
    rfl

/-- Behind the client id, the parser enters the loop when the count parses. -/
theorem entersLoop_iff {frame : Bytes} {clientID : GoString} {off₀ : Int64}
    (hlen : 8 ≤ frame.length)
    (hversion : requestHeaderVersion (getBE16 frame).toInt16
      (getBE16 (frame.drop 2)).toInt16 ≥ 2)
    (hread : readClientID frame = .ok (clientID, off₀)) (n : UInt64) (off : Int64) :
    EntersLoop frame n off ↔ uvarintAt frame off₀ = .ok (n, off) := by
  constructor
  · intro henter
    obtain ⟨-, -, id, off₁, hok, huvarint⟩ := henter
    cases hread.symm.trans hok
    exact huvarint
  · exact fun huvarint => ⟨hlen, hversion, clientID, off₀, hread, huvarint⟩

/-- The section of tagged fields, behind a whole client id. -/
theorem taggedSection_eq {frame : Bytes}
    (hversion : requestHeaderVersion (getBE16 frame).toInt16
      (getBE16 (frame.drop 2)).toInt16 ≥ 2)
    (hfits : 10 + (getBE16 (frame.drop 8)).toInt16.toNatClampNeg ≤ frame.length) :
    taggedSection frame =
      match readUvarint (frame.drop (10 + (getBE16 (frame.drop 8)).toInt16.toNatClampNeg)) with
      | .error _ => none
      | .ok (n, consumed) =>
          some (n.toNat, 10 + (getBE16 (frame.drop 8)).toInt16.toNatClampNeg + consumed) := by
  have hlong : ¬ (frame.length < 10 ∨ requestHeaderVersion (getBE16 frame).toInt16
      (getBE16 (frame.drop 2)).toInt16 < 2) := by
    intro h
    rcases h with h | h
    · omega
    · exact Int8.not_lt.mpr hversion h
  exact if_neg hlong

/-- A frame with a whole client id and a header of version 2. -/
theorem headerShape_flexible {frame : Bytes} (hframe : IntLength frame) {clientID : GoString}
    (hlen : 8 ≤ frame.length)
    (hversion : requestHeaderVersion (getBE16 frame).toInt16
      (getBE16 (frame.drop 2)).toInt16 ≥ 2)
    (hread : readClientID frame = .ok (clientID,
      Int64.ofNat (10 + (getBE16 (frame.drop 8)).toInt16.toNatClampNeg)))
    (hfits : 10 + (getBE16 (frame.drop 8)).toInt16.toNatClampNeg ≤ frame.length) :
    HeaderShape frame := by
  have hparse := parseRequestHeader_eq hlen
  have hsection := taggedSection_eq hversion hfits
  have henter := entersLoop_iff hlen hversion hread
  rw [hread, ok_bind, if_pos hversion, readTaggedFields, uvarintAt_ofNat hframe hfits]
    at hparse
  rw [uvarintAt_ofNat hframe hfits] at henter
  cases hcount : readUvarint (frame.drop
      (10 + (getBE16 (frame.drop 8)).toInt16.toNatClampNeg)) with
  | error e =>
      rw [hcount] at hparse hsection henter
      refine .refused _ hparse hsection ?_
      intro n off hin
      cases (henter n off).mp hin
  | ok r =>
      obtain ⟨n, consumed⟩ := r
      have hconsumed := readUvarint_consumed hcount
      rw [List.length_drop] at hconsumed
      rw [hcount] at hparse hsection henter
      refine .tagged (fixedHeader frame clientID 0) n
        (10 + (getBE16 (frame.drop 8)).toInt16.toNatClampNeg + consumed) ?_ (by omega)
        (by omega) hsection ?_
      · rw [hparse]
        rfl
      · intro n' off'
        rw [henter]
        constructor
        · intro heq
          cases heq
          exact ⟨rfl, rfl⟩
        · intro heq
          obtain ⟨rfl, rfl⟩ := heq
          rfl

/-- How the header of any frame is parsed. -/
theorem headerShape {frame : Bytes} (hframe : IntLength frame) : HeaderShape frame := by
  by_cases hlen : 8 ≤ frame.length
  · have hparse := parseRequestHeader_eq hlen
    obtain ⟨e, hread, hshort⟩ | ⟨clientID, hread, hfits⟩ := readClientID_cases frame
    · refine .refused e ?_ (taggedSection_of_short hshort) ?_
      · rw [hparse, hread, error_bind]
      · intro n off henter
        obtain ⟨-, -, id, off₀, hok, -⟩ := henter
        rw [hread] at hok
        cases hok
    · by_cases hversion : requestHeaderVersion (getBE16 frame).toInt16
          (getBE16 (frame.drop 2)).toInt16 ≥ 2
      · exact headerShape_flexible hframe hlen hversion hread hfits
      · rw [hread, ok_bind, if_neg hversion] at hparse
        refine .plain _ _ hparse rfl (by omega) hfits ?_ ?_
        · rw [taggedSection, if_pos (Or.inr (Int8.not_le.mp hversion))]
        · intro n off henter
          exact hversion henter.2.1
  · refine .refused (errorsNew (goString "ParseRequestHeader: frame shorter than header"))
      ?_ ?_ ?_
    · rw [parseRequestHeader, if_pos (by omega)]
      rfl
    · rw [taggedSection, if_pos (Or.inl (by omega))]
    · intro n off henter
      exact hlen henter.1

/-- The parser stays in the frame when its loop goes forward and its header ends inside. -/
theorem parsesInBounds_of_forward {frame : Bytes} (hframe : IntLength frame)
    (noPanic : parseRequestHeader frame ≠ .error .panic)
    (hloop : ∀ n off, EntersLoop frame n off → ∃ start, 10 ≤ start ∧ start ≤ frame.length ∧
      off = Int64.ofNat start ∧ LoopForward frame n.toNat off)
    (hsize : ∀ hdr, parseRequestHeader frame = .ok hdr →
      ∃ m, hdr.headerSize = Int64.ofNat m ∧ 8 ≤ m ∧ m ≤ frame.length) :
    ParsesInBounds frame where
  noPanic := noPanic
  forward := by
    intro n off henter
    obtain ⟨start, -, -, -, hforward⟩ := hloop n off henter
    exact hforward
  iterations := by
    intro n off henter i hi a ha
    obtain ⟨start, hmin, hmax, rfl, hforward⟩ := hloop n off henter
    obtain ⟨m, -, hle, hlen⟩ := hforward.offset hframe hmax (Nat.le_of_lt hi) ha
    omega
  headerSize := by
    intro hdr hok
    obtain ⟨m, hm, hmin, hmax⟩ := hsize hdr hok
    rw [hm, toInt_ofNat_off hframe hmax]
    omega
  body := by
    intro hdr hok
    obtain ⟨m, hm, -, hmax⟩ := hsize hdr hok
    rw [hm]
    exact ⟨_, sliceFrom_ofNat hframe hmax⟩

/-- `ParseRequestHeader` stays in the frame exactly when no tagged field has a length that
takes it back. -/
theorem parsesInBounds_iff {frame : Bytes} (h : frame.length ≤ Framing.maxFrameSize) :
    ParsesInBounds frame ↔ headerLengthsFit frame = true := by
  have hframe : IntLength frame := by
    have hmax : Framing.maxFrameSize < 2 ^ 63 := by decide
    show frame.length < 2 ^ 63
    omega
  unfold headerLengthsFit
  cases headerShape hframe with
  | refused e hparse hsection henter =>
      rw [hsection]
      refine iff_of_true (parsesInBounds_of_forward hframe ?_ ?_ ?_) rfl
      · rw [hparse]
        exact nofun
      · exact fun n off hin => absurd hin (henter n off)
      · intro hdr hok
        rw [hparse] at hok
        cases hok
  | plain hdr off hparse hsize hmin hmax hsection henter =>
      rw [hsection]
      refine iff_of_true (parsesInBounds_of_forward hframe ?_ ?_ ?_) rfl
      · rw [hparse]
        exact nofun
      · exact fun n off hin => absurd hin (henter n off)
      · intro hdr' hok
        rw [hparse] at hok
        cases hok
        exact ⟨off, hsize, by omega, hmax⟩
  | tagged hdr n off hparse hmin hmax hsection henter =>
      rw [hsection]
      show ParsesInBounds frame ↔ lengthsFit frame n.toNat off = true
      rw [← loopForward_iff hframe n.toNat hmax]
      constructor
      · intro hbounds i hi a b ha hb
        exact hbounds.forward n _ ((henter n _).mpr ⟨rfl, rfl⟩) i hi a b ha hb
      · intro hforward
        refine parsesInBounds_of_forward hframe ?_ ?_ ?_
        · have hloop := hforward.noPanic hframe hmax (Nat.le_refl _)
          rw [hparse]
          cases hres : skipTaggedFields frame n.toNat (Int64.ofNat off) with
          | error stop =>
              rw [hres] at hloop
              intro hpanic
              cases hpanic
              exact hloop rfl
          | ok o => exact nofun
        · intro n' off' hin
          obtain ⟨rfl, rfl⟩ := (henter n' off').mp hin
          exact ⟨off, hmin, hmax, rfl, hforward⟩
        · -- The header ends where the loop does, which is inside the frame.
          intro hdr' hok
          rw [hparse] at hok
          cases hres : skipTaggedFields frame n.toNat (Int64.ofNat off) with
          | error stop =>
              rw [hres] at hok
              cases hok
          | ok o =>
              rw [hres] at hok
              cases hok
              obtain ⟨m, hm, hle, hlen⟩ := hforward.offset hframe hmax (Nat.le_refl _) hres
              exact ⟨m, hm, by omega, hlen⟩

/-- The first ten bytes of an ApiVersions v3 request with a null client id. -/
def apiVersionsFrame : Bytes := [0, 18, 0, 3, 0, 0, 0, 1, 0xff, 0xff]

/-- One tagged field of two bytes, in front of a body of three. -/
theorem parsesInBounds_iff_taggedField :
    ParsesInBounds (apiVersionsFrame ++ [1, 5, 2, 7, 7, 1, 2, 3]) :=
  (parsesInBounds_iff (by decide)).mpr (by decide)

/-- One tagged field of length `2 ^ 64 - 30`. -/
def backwardFrame : Bytes :=
  apiVersionsFrame ++ [1, 5, 0xe2, 0xff, 0xff, 0xff, 0xff, 0xff, 0xff, 0xff, 0xff, 1]

/-- The length takes the offset from 22 to -8, the parser returns a header, and the slice
`serve` takes panics. -/
theorem taggedLength_moves_back :
    (parseRequestHeader backwardFrame).map RequestHeader.headerSize = .ok (-8) ∧
      sliceFrom backwardFrame (-8) = .error .panic ∧ ¬ ParsesInBounds backwardFrame := by
  have hback : (parseRequestHeader backwardFrame).map RequestHeader.headerSize = .ok (-8) := by
    decide
  refine ⟨hback, rfl, ?_⟩
  intro h
  cases hparse : parseRequestHeader backwardFrame with
  | error stop =>
      rw [hparse] at hback
      cases hback
  | ok hdr =>
      rw [hparse] at hback
      have hsize : hdr.headerSize = -8 := by
        injection hback
      have hmin := (h.headerSize hdr hparse).1
      rw [hsize] at hmin
      exact absurd hmin (by decide)

end Kroxy.Proofs
