import Mathlib.Algebra.Ring.Nat
import Mathlib.Data.List.Basic

/-!
# `Kroxy.Lib.BigEndian`: fixed-width integers at the front of a byte list

`putBE16` and `putBE32` write a value as two or four bytes, most significant first, and
`getBE16` and `getBE32` read one. A reader looks at the front of the list only, and a list
that is too short reads as zero: callers check the length first.

`getBE16_putBE16_append` and `getBE32_putBE32_append` are the round trips, and
`putBE32_getBE32` is the one in the other direction.
-/

set_option autoImplicit false

namespace Kroxy.Lib

/-- The 16-bit value in the first two bytes. -/
def getBE16 : List UInt8 → UInt16
  | a :: b :: _ => UInt16.ofNat (a.toNat * 2 ^ 8 + b.toNat)
  | _ => 0

/-- The 32-bit value in the first four bytes. -/
def getBE32 : List UInt8 → UInt32
  | a :: b :: c :: d :: _ =>
      UInt32.ofNat (a.toNat * 2 ^ 24 + b.toNat * 2 ^ 16 + c.toNat * 2 ^ 8 + d.toNat)
  | _ => 0

/-- The two bytes of a 16-bit value. -/
def putBE16 (x : UInt16) : List UInt8 := [UInt8.ofNat (x.toNat / 2 ^ 8), UInt8.ofNat x.toNat]

/-- The four bytes of a 32-bit value. -/
def putBE32 (x : UInt32) : List UInt8 :=
  [UInt8.ofNat (x.toNat / 2 ^ 24), UInt8.ofNat (x.toNat / 2 ^ 16),
    UInt8.ofNat (x.toNat / 2 ^ 8), UInt8.ofNat x.toNat]

/-- Four bytes are written. -/
@[simp] theorem length_putBE32 (x : UInt32) : (putBE32 x).length = 4 := rfl

/-- Reading back what was written. -/
@[simp] theorem getBE16_putBE16_append (x : UInt16) (rest : List UInt8) :
    getBE16 (putBE16 x ++ rest) = x := by
  have hx : x.toNat < 2 ^ 16 := x.toNat_lt
  apply UInt16.toNat_inj.mp
  show (UInt16.ofNat _).toNat = x.toNat
  rw [UInt16.toNat_ofNat']
  simp only [UInt8.toNat_ofNat']
  omega

/-- What was written is read back, whatever follows. -/
@[simp] theorem getBE32_putBE32_append (x : UInt32) (rest : List UInt8) :
    getBE32 (putBE32 x ++ rest) = x := by
  have hx : x.toNat < 2 ^ 32 := x.toNat_lt
  apply UInt32.toNat_inj.mp
  show (UInt32.ofNat _).toNat = x.toNat
  rw [UInt32.toNat_ofNat']
  simp only [UInt8.toNat_ofNat']
  omega

/-- Writing what was read gives the four bytes back. -/
theorem putBE32_getBE32 {r : List UInt8} (h : 4 ≤ r.length) : putBE32 (getBE32 r) = r.take 4 := by
  match r, h with
  | a :: b :: c :: d :: rest, _ =>
      have ha : a.toNat < 2 ^ 8 := a.toNat_lt
      have hb : b.toNat < 2 ^ 8 := b.toNat_lt
      have hc : c.toNat < 2 ^ 8 := c.toNat_lt
      have hd : d.toNat < 2 ^ 8 := d.toNat_lt
      simp only [getBE32, putBE32, UInt32.toNat_ofNat', List.take_succ_cons, List.take_zero,
        List.cons.injEq, and_true, ← UInt8.toNat_inj, UInt8.toNat_ofNat']
      omega

end Kroxy.Lib
