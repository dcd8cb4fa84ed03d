import Kroxy.Kmsg.Wire
import Kroxy.Lib.Format

/-!
# `Kroxy.Kmsg.Fields`: the fields of the non-flexible versions as formats

The readers and writers of `Kroxy.Kmsg.Wire` with the values they carry. Integers carry
every value. A string carries up to `maxString` bytes, because its length is a 16-bit
integer and the writer lets it wrap. Byte fields and arrays carry up to `maxInt32` bytes
or elements.
-/

set_option autoImplicit false

namespace Kroxy.Kmsg

open Kroxy.Go
open Kroxy.Lib

/-- The longest string a 16-bit length can tell. -/
def maxString : Nat := 32767

/-- The largest 32-bit length. -/
def maxInt32 : Nat := 2147483647

/-! ### Integers -/

/-- An INT16. -/
def int16Format : Format GoError Int16 where
  read := readInt16
  append := appendInt16
  Fits _ := True
  read_append := by
    intro x _ rest
    rw [readInt16, if_pos (by simp), getBE16_appendInt16]
    rfl
  fits_of_read _ := trivial

/-- An INT32. -/
def int32Format : Format GoError Int32 where
  read := readInt32
  append := appendInt32
  Fits _ := True
  read_append := by
    intro x _ rest
    rw [readInt32, if_pos (by simp), getBE32_appendInt32]
    rfl
  fits_of_read _ := trivial

/-- The two halves of a 64-bit integer. -/
theorem ofNat_halves (x : Int64) :
    Int64.ofNat ((UInt32.ofNat (x.toUInt64.toNat / 2 ^ 32)).toNat * 2 ^ 32 +
      (UInt32.ofNat x.toUInt64.toNat).toNat) = x := by
  have hx : x.toUInt64.toNat < 2 ^ 64 := x.toUInt64.toNat_lt
  have hsum : (UInt32.ofNat (x.toUInt64.toNat / 2 ^ 32)).toNat * 2 ^ 32 +
      (UInt32.ofNat x.toUInt64.toNat).toNat = x.toUInt64.toNat := by
    simp only [UInt32.toNat_ofNat']
    omega
  rw [hsum]
  show (UInt64.ofNat x.toUInt64.toNat).toInt64 = x
  rw [UInt64.ofNat_toNat, Int64.toInt64_toUInt64]

/-- An INT64. -/
def int64Format : Format GoError Int64 where
  read := readInt64
  append := appendInt64
  Fits _ := True
  read_append := by
    intro x _ rest
    have hhigh : getBE32 (appendInt64 x ++ rest) =
        UInt32.ofNat (x.toUInt64.toNat / 2 ^ 32) := by
      rw [appendInt64, List.append_assoc, getBE32_putBE32_append]
    have hlow : getBE32 ((appendInt64 x ++ rest).drop 4) = UInt32.ofNat x.toUInt64.toNat := by
      show getBE32 (putBE32 _ ++ rest) = _
      rw [getBE32_putBE32_append]
    have hlen : 8 ≤ (appendInt64 x ++ rest).length := by
      simp only [appendInt64, List.length_append, length_putBE32]
      omega
    rw [readInt64, if_pos hlen, hhigh, hlow, ofNat_halves]
    rfl
  fits_of_read _ := trivial

/-- Read an INT8. -/
def readInt8 : Bytes → Except GoError (Int8 × Bytes)
  | [] => .error errNotEnoughData
  | b :: rest => .ok (b.toInt8, rest)

/-- Write an INT8. -/
def appendInt8 (x : Int8) : Bytes := [x.toUInt8]

/-- An INT8. -/
def int8Format : Format GoError Int8 where
  read := readInt8
  append := appendInt8
  Fits _ := True
  read_append := by
    intro x _ rest
    show Except.ok (x.toUInt8.toInt8, rest) = _
    rw [Int8.toInt8_toUInt8]
  fits_of_read _ := trivial

/-- Any byte but 0 is true. -/
def readBool : Bytes → Except GoError (Bool × Bytes)
  | [] => .error errNotEnoughData
  | b :: rest => .ok (b != 0, rest)

/-- Write a BOOLEAN. -/
def appendBool (x : Bool) : Bytes := [if x then 1 else 0]

/-- A BOOLEAN. -/
def boolFormat : Format GoError Bool where
  read := readBool
  append := appendBool
  Fits _ := True
  read_append := by
    intro x _ rest
    cases x <;> rfl
  fits_of_read _ := trivial

/-! ### Strings and bytes -/

/-- What stands behind a length field is read back when the field holds the length. -/
theorem readSpan_append {width : Nat} {count : Int} {front s : Bytes}
    (hfront : front.length = width) (hcount : count = s.length) (rest : Bytes) :
    readSpan width count (front ++ s ++ rest) = .ok (s, rest) := by
  have hbound : 0 ≤ count ∧ width + count.toNat ≤ (front ++ s ++ rest).length := by
    simp only [List.length_append]
    omega
  have hnat : count.toNat = s.length := by omega
  have hafter : (front ++ s ++ rest).drop width = s ++ rest := by
    rw [List.append_assoc, ← hfront, List.drop_left]
  have hend : (front ++ s ++ rest).drop (width + s.length) = rest := by
    rw [← List.drop_drop, hafter, List.drop_left]
  rw [readSpan, if_pos hbound, hnat, hafter, hend, List.take_left]

/-- A span has the length that was asked for. -/
theorem length_of_readSpan {width : Nat} {count : Int} {b s rest : Bytes}
    (h : readSpan width count b = .ok (s, rest)) : (s.length : Int) = count := by
  unfold readSpan at h
  split at h
  · rename_i hbound
    cases h
    rw [List.length_take, List.length_drop]
    omega
  · cases h

/-- A string that fits is read back. -/
theorem readString_append {s : GoString} (h : s.length ≤ maxString) (rest : Bytes) :
    readString (appendString s ++ rest) = .ok (s, rest) := by
  have hlen : s.length < 2 ^ 15 := Nat.lt_succ_of_le h
  have hcount : (getBE16 (appendString s ++ rest)).toInt16.toInt = s.length := by
    rw [appendString, List.append_assoc, getBE16_appendInt16, Int16.toInt_ofNat_of_lt hlen]
  rw [readString, hcount, appendString]
  exact readSpan_append (length_appendInt16 _) rfl rest

/-- No longer string is read. -/
theorem length_of_readString {b s rest : Bytes} (h : readString b = .ok (s, rest)) :
    s.length ≤ maxString := by
  have hlen : (s.length : Int) = (getBE16 b).toInt16.toInt := length_of_readSpan h
  have hmax : (getBE16 b).toInt16.toInt < 2 ^ 15 := Int16.toInt_lt _
  show s.length ≤ 32767
  omega

/-- A STRING. -/
def stringFormat : Format GoError GoString where
  read := readString
  append := appendString
  Fits s := s.length ≤ maxString
  read_append := readString_append
  fits_of_read := length_of_readString

/-- A BYTES field. -/
def bytesFormat : Format GoError Bytes where
  read := readBytes
  append := appendBytes
  Fits b := b.length ≤ maxInt32
  read_append := by
    intro b hb rest
    have hlen : b.length < 2 ^ 31 := Nat.lt_succ_of_le hb
    have hcount : (getBE32 (appendBytes b ++ rest)).toInt32.toInt = b.length := by
      rw [appendBytes, List.append_assoc, getBE32_appendInt32, Int32.toInt_ofNat_of_lt hlen]
    have hnull : ¬ (4 ≤ (appendBytes b ++ rest).length ∧
        (getBE32 (appendBytes b ++ rest)).toInt32 = -1) := by
      rintro ⟨-, hneg⟩
      rw [hneg] at hcount
      have : (-1 : Int32).toInt = -1 := rfl
      omega
    rw [readBytes, if_neg hnull, hcount, appendBytes]
    exact readSpan_append (length_appendInt32 _) rfl rest
  fits_of_read := by
    intro bs b rest h
    unfold readBytes at h
    split at h
    · cases h
      exact Nat.zero_le _
    · have hlen : (b.length : Int) = (getBE32 bs).toInt32.toInt := length_of_readSpan h
      have hmax : (getBE32 bs).toInt32.toInt < 2 ^ 31 := Int32.toInt_lt _
      show b.length ≤ 2147483647
      omega

/-- A string is missing when its length is negative. -/
def nullableStringFormat : Format GoError (Option GoString) :=
  stringFormat.nullable (appendInt16 (-1))
    (fun b => 2 ≤ b.length ∧ (getBE16 b).toInt16 < 0)
    (by
      intro rest
      rw [getBE16_appendInt16]
      exact ⟨by simp, by decide⟩)
    (by
      intro s hs rest h
      have hlen : s.length < 2 ^ 15 := Nat.lt_succ_of_le hs
      have hneg : (getBE16 (appendString s ++ rest)).toInt16 < 0 := h.2
      rw [appendString, List.append_assoc, getBE16_appendInt16, Int16.lt_iff_toInt_lt,
        Int16.toInt_ofNat_of_lt hlen] at hneg
      exact absurd hneg (Int.not_lt.mpr (Int.natCast_nonneg _)))

/-- Bytes are missing when their length is negative. -/
def nullableBytesFormat : Format GoError (Option Bytes) :=
  bytesFormat.nullable (appendInt32 (-1))
    (fun b => 4 ≤ b.length ∧ (getBE32 b).toInt32 < 0)
    (by
      intro rest
      rw [getBE32_appendInt32]
      exact ⟨by simp, by decide⟩)
    (by
      intro b hb rest h
      have hlen : b.length < 2 ^ 31 := Nat.lt_succ_of_le hb
      have hneg : (getBE32 (appendBytes b ++ rest)).toInt32 < 0 := h.2
      rw [appendBytes, List.append_assoc, getBE32_appendInt32, Int32.lt_iff_toInt_lt,
        Int32.toInt_ofNat_of_lt hlen] at hneg
      exact absurd hneg (Int.not_lt.mpr (Int.natCast_nonneg _)))

/-- The reader and the writer are those of `Kroxy.Kmsg.Wire`. -/
theorem nullableStringFormat_read : nullableStringFormat.read = readNullableString := rfl

/-- The format writes what the function writes. -/
theorem nullableStringFormat_append (o : Option GoString) :
    nullableStringFormat.append o = appendNullableString o := by
  cases o <;> rfl

/-! ### Arrays -/

section
variable {α : Type} (f : Format GoError α)

/-- As many elements are read as were written. -/
theorem readMany_append :
    ∀ {xs : List α}, (∀ x ∈ xs, f.Fits x) → ∀ rest,
      readMany f.read xs.length (xs.flatMap f.append ++ rest) = .ok (xs, rest) := by
  intro xs
  induction xs with
  | nil => exact fun _ _ => rfl
  | cons x xs ih =>
      intro hfits rest
      have hx : f.Fits x := hfits x List.mem_cons_self
      have hxs : ∀ y ∈ xs, f.Fits y := fun y hy => hfits y (List.mem_cons_of_mem x hy)
      rw [List.flatMap_cons, List.append_assoc, List.length_cons, readMany,
        f.read_append hx]
      simp only [bind, Except.bind, ih hxs rest, pure, Except.pure]

/-- What `readMany` returns are `n` values that fit. -/
theorem fits_of_readMany :
    ∀ {n : Nat} {bs rest : Bytes} {xs : List α}, readMany f.read n bs = .ok (xs, rest) →
      xs.length = n ∧ ∀ x ∈ xs, f.Fits x := by
  intro n
  induction n with
  | zero =>
      intro bs rest xs h
      cases h
      exact ⟨rfl, fun x hx => by cases hx⟩
  | succ n ih =>
      intro bs rest xs h
      rw [readMany] at h
      cases hread : f.read bs with
      | error e =>
          simp only [hread, bind, Except.bind] at h
          cases h
      | ok r =>
          cases hmany : readMany f.read n r.2 with
          | error e =>
              simp only [hread, hmany, bind, Except.bind] at h
              cases h
          | ok s =>
              simp only [hread, hmany, bind, Except.bind, pure, Except.pure] at h
              cases h
              obtain ⟨hlen, hfits⟩ := ih hmany
              refine ⟨congrArg Nat.succ hlen, ?_⟩
              intro x hx
              rcases List.mem_cons.mp hx with rfl | hrest
              · exact f.fits_of_read hread
              · exact hfits x hrest

/-- The elements behind their number. -/
def appendArray (xs : List α) : Bytes :=
  appendInt32 (Int32.ofNat xs.length) ++ xs.flatMap f.append

/-- An ARRAY of another format. -/
def arrayFormat : Format GoError (List α) where
  read := readArray f.read
  append := appendArray f
  Fits xs := xs.length ≤ maxInt32 ∧ ∀ x ∈ xs, f.Fits x
  read_append := by
    intro xs hxs rest
    have hlen : xs.length < 2 ^ 31 := Nat.lt_succ_of_le hxs.1
    have hcount : readInt32 (appendInt32 (Int32.ofNat xs.length) ++
        (xs.flatMap f.append ++ rest)) =
          .ok (Int32.ofNat xs.length, xs.flatMap f.append ++ rest) :=
      int32Format.read_append trivial _
    have hnat : (Int32.ofNat xs.length).toInt.toNat = xs.length := by
      rw [Int32.toInt_ofNat_of_lt hlen]
      rfl
    rw [readArray, appendArray, List.append_assoc, hcount]
    simp only [bind, Except.bind, hnat]
    exact readMany_append f hxs.2 rest
  fits_of_read := by
    intro bs xs rest h
    unfold readArray at h
    cases hcount : readInt32 bs with
    | error e =>
        simp only [hcount, bind, Except.bind] at h
        cases h
    | ok r =>
        simp only [hcount, bind, Except.bind] at h
        obtain ⟨hlen, hfits⟩ := fits_of_readMany f h
        have hmax : r.1.toInt < 2 ^ 31 := Int32.toInt_lt _
        refine ⟨?_, hfits⟩
        show xs.length ≤ 2147483647
        omega

/-- Changing the elements of an array that fits: the number stays, so the elements decide. -/
theorem fits_array_map {xs : List α} (h : (arrayFormat f).Fits xs) (g : α → α) :
    (arrayFormat f).Fits (xs.map g) ↔ ∀ x ∈ xs, f.Fits (g x) := by
  have hlen : (xs.map g).length ≤ maxInt32 := by
    rw [List.length_map]
    exact h.1
  show _ ∧ _ ↔ _
  rw [List.forall_mem_map]
  exact and_iff_right hlen

end

end Kroxy.Kmsg
