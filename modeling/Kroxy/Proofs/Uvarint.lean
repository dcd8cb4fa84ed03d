import Mathlib.Data.Nat.Digits.Defs
import Kroxy.Protocol.Header

/-!
# `Kroxy.Proofs.Uvarint`: the value of an unsigned varint

An unsigned varint is a number in groups of seven bits, low group first. Every byte but the
last has its high bit set. `Uvarint` is that shape and `Uvarint.value` the number, unbounded.

`readUvarint` adds the groups up in a `uint64`. `readUvarintLoop_eq_ok_iff` is its loop: the
value so far stays below the weight of the next group, so that or-ing a group in is an
addition, and the addition is modulo `2 ^ 64`. `readUvarint_eq_ok_iff` is the whole function.

Ten groups are 70 bits. The loop counts bytes and not bits, so of the tenth byte all but the
lowest bit is shifted out. `readUvarint_exact_iff` says that this is the one case in which the
value is not the one written.
-/

set_option autoImplicit false

namespace Kroxy.Proofs

open Kroxy.Go
open Kroxy.Protocol

/-- The bytes of an unsigned varint. -/
structure Uvarint where
  more : Bytes
  last : UInt8
  more_continues : ∀ b ∈ more, 0x80 ≤ b
  last_stops : last < 0x80

namespace Uvarint

/-- The bytes of the varint. -/
def bytes (w : Uvarint) : Bytes := w.more ++ [w.last]

/-- The number that groups of seven bits write. -/
def groupsValue (bs : Bytes) : Nat := Nat.ofDigits 128 (bs.map fun b => b.toNat % 128)

/-- The number written, of any size. -/
def value (w : Uvarint) : Nat := groupsValue w.bytes

/-- The first group is the lowest. -/
theorem groupsValue_cons (b : UInt8) (bs : Bytes) :
    groupsValue (b :: bs) = b.toNat % 128 + 128 * groupsValue bs := by
  unfold groupsValue
  rw [List.map_cons, Nat.ofDigits_cons]

/-- One group. -/
theorem groupsValue_singleton (b : UInt8) : groupsValue [b] = b.toNat % 128 := by
  simp [groupsValue]

/-- Each group has seven bits. -/
theorem groupsValue_lt (bs : Bytes) : groupsValue bs < 128 ^ bs.length := by
  have hdigits : ∀ d ∈ bs.map (fun b : UInt8 => b.toNat % 128), d < 128 := by
    intro d hd
    obtain ⟨b, -, rfl⟩ := List.mem_map.mp hd
    exact Nat.mod_lt _ (by decide)
  have h := Nat.ofDigits_lt_base_pow_length (by decide) hdigits
  rwa [List.length_map] at h

/-- The last group stands on top of the others. -/
theorem value_eq (w : Uvarint) :
    w.value = groupsValue w.more + 128 ^ w.more.length * w.last.toNat := by
  have hlast : w.last.toNat % 128 = w.last.toNat := Nat.mod_eq_of_lt w.last_stops
  unfold value bytes groupsValue
  rw [List.map_append, Nat.ofDigits_append, List.length_map, List.map_singleton,
    Nat.ofDigits_singleton, hlast]

/-- The bytes of a varint, its last included. -/
theorem length_bytes (w : Uvarint) : w.bytes.length = w.more.length + 1 := by
  simp [bytes]

/-- Only a tenth byte can take the value past `2 ^ 64`. -/
theorem value_lt_iff {w : Uvarint} (h : w.bytes.length ≤ 10) :
    w.value < 2 ^ 64 ↔ (w.bytes.length = 10 → w.last < 2) := by
  have hmore := groupsValue_lt w.more
  have hstop : w.last.toNat < 128 := w.last_stops
  rw [value_eq]
  rw [length_bytes] at h ⊢
  by_cases hten : w.more.length = 9
  · -- Nine groups are 63 bits, so the tenth has room for one.
    rw [hten] at hmore ⊢
    have hlt : w.last < 2 ↔ w.last.toNat < 2 := UInt8.lt_iff_toNat_lt
    rw [hlt]
    omega
  · have hpow : 128 ^ (w.more.length + 1) ≤ 128 ^ 9 :=
      Nat.pow_le_pow_right (by decide) (by omega)
    have hsum : groupsValue w.more + 128 ^ w.more.length * w.last.toNat <
        128 ^ (w.more.length + 1) := by
      have hgroup : 128 ^ w.more.length * (w.last.toNat + 1) ≤ 128 ^ w.more.length * 128 :=
        Nat.mul_le_mul_left _ hstop
      rw [Nat.mul_succ] at hgroup
      rw [Nat.pow_succ]
      omega
    exact ⟨fun _ hlen => absurd hlen (by omega), fun _ => by omega⟩

/-- A varint of one byte. -/
def stop (b : UInt8) (hb : b < 0x80) : Uvarint := ⟨[], b, by simp, hb⟩

/-- A group below the groups of a varint. -/
def below (b : UInt8) (hb : 0x80 ≤ b) (w : Uvarint) : Uvarint where
  more := b :: w.more
  last := w.last
  more_continues := by
    intro c hc
    rcases List.mem_cons.mp hc with rfl | hc
    · exact hb
    · exact w.more_continues c hc
  last_stops := w.last_stops

/-- One more group is one more byte. -/
theorem length_below (b : UInt8) (hb : 0x80 ≤ b) (w : Uvarint) :
    (below b hb w).bytes.length = w.bytes.length + 1 := rfl

/-- A byte that stops is its own value. -/
theorem value_stop (b : UInt8) (hb : b < 0x80) : (stop b hb).value = b.toNat :=
  (groupsValue_singleton b).trans (Nat.mod_eq_of_lt hb)

/-- A byte that does not adds its seven bits. -/
theorem value_below (b : UInt8) (hb : 0x80 ≤ b) (w : Uvarint) :
    (below b hb w).value = b.toNat % 128 + 128 * w.value := groupsValue_cons b w.bytes

/-- A byte without the high bit is the whole varint. -/
theorem bytes_prefix_stop {w : Uvarint} {b : UInt8} {rest : Bytes} (hb : b < 0x80) :
    w.bytes <+: b :: rest ↔ w = stop b hb := by
  obtain ⟨more, last, hmore, hlast⟩ := w
  constructor
  · intro h
    cases more with
    | nil =>
        obtain ⟨rfl, -⟩ := List.cons_prefix_cons.mp h
        rfl
    | cons c more =>
        obtain ⟨rfl, -⟩ := List.cons_prefix_cons.mp h
        exact absurd hb (UInt8.not_lt.mpr (hmore c List.mem_cons_self))
  · intro h
    rw [h]
    exact List.prefix_append [b] rest

/-- A byte with the high bit is the low group of a longer varint. -/
theorem bytes_prefix_below {w : Uvarint} {b : UInt8} {rest : Bytes} (hb : 0x80 ≤ b) :
    w.bytes <+: b :: rest ↔ ∃ w' : Uvarint, w = below b hb w' ∧ w'.bytes <+: rest := by
  constructor
  · intro h
    obtain ⟨more, last, hmore, hlast⟩ := w
    cases more with
    | nil =>
        obtain ⟨rfl, -⟩ := List.cons_prefix_cons.mp h
        exact absurd hlast (UInt8.not_lt.mpr hb)
    | cons c more =>
        obtain ⟨rfl, hrest⟩ := List.cons_prefix_cons.mp h
        exact ⟨⟨more, last, fun d hd => hmore d (List.mem_cons_of_mem c hd), hlast⟩, rfl, hrest⟩
  · rintro ⟨w', rfl, hrest⟩
    exact List.cons_prefix_cons.mpr ⟨rfl, hrest⟩

end Uvarint

/-! ### The loop -/

/-- Or-ing a group in above the value so far adds its weight, modulo `2 ^ 64`. -/
theorem toNat_or_shiftLeft {x g : UInt64} {k : Nat} (hk : k < 64) (hx : x.toNat < 2 ^ k) :
    (x ||| (g <<< UInt64.ofNat k)).toNat = (x.toNat + 2 ^ k * g.toNat) % 2 ^ 64 := by
  have hsplit : 2 ^ 64 = 2 ^ k * 2 ^ (64 - k) := by
    rw [← Nat.pow_add]
    congr 1
    omega
  have hcount : (UInt64.ofNat k).toNat % 64 = k := by
    rw [UInt64.toNat_ofNat_of_lt' (Nat.lt_trans hk (by decide))]
    exact Nat.mod_eq_of_lt hk
  have hshift : (g <<< UInt64.ofNat k).toNat = 2 ^ k * (g.toNat % 2 ^ (64 - k)) := by
    rw [UInt64.toNat_shiftLeft, hcount, Nat.shiftLeft_eq, Nat.mul_comm, hsplit,
      Nat.mul_mod_mul_left]
  have hquot : (x.toNat + 2 ^ k * g.toNat) / 2 ^ k = g.toNat := by
    rw [Nat.add_mul_div_left _ _ (Nat.two_pow_pos k), Nat.div_eq_of_lt hx, Nat.zero_add]
  have hrem : (x.toNat + 2 ^ k * g.toNat) % 2 ^ k = x.toNat := by
    rw [Nat.add_mul_mod_self_left, Nat.mod_eq_of_lt hx]
  rw [UInt64.toNat_or, hshift, Nat.or_comm, ← Nat.two_pow_add_eq_or_of_lt hx, hsplit,
    Nat.mod_mul, hquot, hrem, Nat.add_comm]

/-- The seven low bits of a byte. -/
theorem toNat_and_low (b : UInt8) : (b &&& 0x7f).toUInt64.toNat = b.toNat % 128 := by
  rw [UInt8.toNat_toUInt64, UInt8.toNat_and]
  exact Nat.and_two_pow_sub_one_eq_mod b.toNat 7

/-- A group that is not the tenth fits: the value so far stays below the next weight. -/
theorem toNat_or_group {x : UInt64} {i : Nat} (hi : i < 9) (hx : x.toNat < 2 ^ (7 * i))
    (b : UInt8) :
    (x ||| ((b &&& 0x7f).toUInt64 <<< UInt64.ofNat (7 * i))).toNat =
        x.toNat + 2 ^ (7 * i) * (b.toNat % 128) ∧
      x.toNat + 2 ^ (7 * i) * (b.toNat % 128) < 2 ^ (7 * (i + 1)) := by
  have hgroup : b.toNat % 128 + 1 ≤ 128 := Nat.mod_lt _ (by decide)
  have hweight := Nat.mul_le_mul_left (2 ^ (7 * i)) hgroup
  have hnext : 2 ^ (7 * (i + 1)) = 2 ^ (7 * i) * 128 := by
    rw [Nat.mul_succ, Nat.pow_add]
  have hroom : 2 ^ (7 * (i + 1)) ≤ 2 ^ 63 := Nat.pow_le_pow_right (by decide) (by omega)
  have hlt : x.toNat + 2 ^ (7 * i) * (b.toNat % 128) < 2 ^ (7 * (i + 1)) := by
    rw [Nat.mul_succ] at hweight
    omega
  rw [toNat_or_shiftLeft (by omega) hx, toNat_and_low]
  exact ⟨Nat.mod_eq_of_lt (by omega), hlt⟩

/-- No eleventh byte is read, and the end of the bytes is an error too. -/
theorem readUvarintLoop_of_ten {buf : Bytes} {i : Nat} {x s : UInt64} {r : UInt64 × Nat}
    (hi : 10 ≤ i) : readUvarintLoop buf i x s ≠ .ok r := by
  cases buf with
  | nil => exact fun h => nomatch h
  | cons b rest =>
      rw [readUvarintLoop, if_pos hi]
      exact fun h => nomatch h

/-- The loop after `i` bytes: it returns what the varint in front of it adds to the value so
far, modulo `2 ^ 64`. The induction is on the bytes that are left, and the invariant is that
the value so far is below the weight of the next group. -/
theorem readUvarintLoop_eq_ok_iff {v : UInt64} {n : Nat} (buf : Bytes) :
    ∀ (i : Nat) (x : UInt64), i ≤ 9 → x.toNat < 2 ^ (7 * i) →
      (readUvarintLoop buf i x (UInt64.ofNat (7 * i)) = .ok (v, n) ↔
        ∃ w : Uvarint, w.bytes <+: buf ∧ i + w.bytes.length = n ∧ n ≤ 10 ∧
          v.toNat = (x.toNat + 2 ^ (7 * i) * w.value) % 2 ^ 64) := by
  induction buf with
  | nil =>
      intro i x _ _
      constructor
      · intro h
        cases h
      · rintro ⟨w, hw, -⟩
        have hlen := hw.length_le
        rw [w.length_bytes] at hlen
        cases hlen
  | cons b rest ih =>
      intro i x hi hx
      rw [readUvarintLoop, if_neg (by omega)]
      by_cases hb : b < 0x80
      · -- The last byte, returned without a look at what is shifted out.
        have hval : (x ||| (b.toUInt64 <<< UInt64.ofNat (7 * i))).toNat =
            (x.toNat + 2 ^ (7 * i) * (Uvarint.stop b hb).value) % 2 ^ 64 := by
          rw [toNat_or_shiftLeft (by omega) hx, UInt8.toNat_toUInt64, Uvarint.value_stop]
        rw [if_pos hb]
        constructor
        · intro h
          cases h
          exact ⟨Uvarint.stop b hb, (Uvarint.bytes_prefix_stop hb).mpr rfl, rfl, by omega, hval⟩
        · rintro ⟨w, hw, rfl, -, hv⟩
          obtain rfl := (Uvarint.bytes_prefix_stop hb).mp hw
          have hsame : x ||| (b.toUInt64 <<< UInt64.ofNat (7 * i)) = v :=
            UInt64.toNat_inj.mp (hval.trans hv.symm)
          rw [hsame]
          rfl
      · have hmore : 0x80 ≤ b := UInt8.not_lt.mp hb
        rw [if_neg hb]
        by_cases hnine : i = 9
        · -- Ten bytes that all continue: whatever follows is refused.
          constructor
          · intro h
            exact absurd h (readUvarintLoop_of_ten (by omega))
          · rintro ⟨w, hw, hn, hten, -⟩
            obtain ⟨w', rfl, -⟩ := (Uvarint.bytes_prefix_below hmore).mp hw
            rw [Uvarint.length_below, w'.length_bytes] at hn
            omega
        · obtain ⟨hval, hlt⟩ := toNat_or_group (by omega : i < 9) hx b
          have hcount : UInt64.ofNat (7 * i) + 7 = UInt64.ofNat (7 * (i + 1)) := by
            rw [Nat.mul_succ, UInt64.ofNat_add]
            rfl
          -- The groups above `b` weigh the same on both sides.
          have hweigh : ∀ w : Uvarint,
              x.toNat + 2 ^ (7 * i) * (b.toNat % 128) + 2 ^ (7 * (i + 1)) * w.value =
                x.toNat + 2 ^ (7 * i) * (Uvarint.below b hmore w).value := by
            intro w
            rw [Uvarint.value_below, Nat.mul_succ, Nat.pow_add, Nat.mul_add, Nat.add_assoc,
              Nat.mul_assoc]
          rw [hcount, ih (i + 1) _ (by omega) (by rw [hval]; exact hlt), hval]
          constructor
          · rintro ⟨w, hw, hn, hten, hv⟩
            rw [hweigh] at hv
            refine ⟨Uvarint.below b hmore w, (Uvarint.bytes_prefix_below hmore).mpr ⟨w, rfl, hw⟩,
              ?_, hten, hv⟩
            rw [Uvarint.length_below]
            omega
          · rintro ⟨w, hw, hn, hten, hv⟩
            obtain ⟨w', rfl, hrest⟩ := (Uvarint.bytes_prefix_below hmore).mp hw
            rw [← hweigh] at hv
            rw [Uvarint.length_below] at hn
            exact ⟨w', hrest, by omega, hten, hv⟩

/-- What `readUvarint` returns: the first varint of the buffer, of at most ten bytes, with its
value modulo `2 ^ 64`. -/
theorem readUvarint_eq_ok_iff {buf : Bytes} {v : UInt64} {n : Nat} :
    readUvarint buf = .ok (v, n) ↔
      ∃ w : Uvarint, w.bytes <+: buf ∧ w.bytes.length = n ∧ n ≤ 10 ∧
        v.toNat = w.value % 2 ^ 64 := by
  have h := readUvarintLoop_eq_ok_iff (v := v) (n := n) buf 0 0 (by decide) (by decide)
  simpa [readUvarint] using h

/-! ### Exact values -/

/-- `readUvarint` returns a value exactly when the buffer starts with a varint of at most ten
bytes that writes it, and otherwise an error. -/
def ReadsExactly (buf : Bytes) : Prop :=
  ∀ (v : UInt64) (n : Nat), readUvarint buf = .ok (v, n) ↔
    ∃ w : Uvarint, w.bytes <+: buf ∧ w.bytes.length = n ∧ n ≤ 10 ∧
      w.value < 2 ^ 64 ∧ w.value = v.toNat

/-- The value is exact unless the buffer starts with a varint of ten bytes whose last is above
one. -/
theorem readUvarint_exact_iff (buf : Bytes) :
    ReadsExactly buf ↔
      ∀ w : Uvarint, w.bytes <+: buf → w.bytes.length = 10 → w.last < 2 := by
  constructor
  · intro h w hw hten
    have hread : readUvarint buf = .ok (UInt64.ofNat w.value, 10) :=
      readUvarint_eq_ok_iff.mpr ⟨w, hw, hten, le_refl 10, UInt64.toNat_ofNat'⟩
    obtain ⟨w', hw', hten', -, hlt, -⟩ := (h _ _).mp hread
    -- Two varints of ten bytes at the front of one buffer are the same bytes.
    have hbytes : w.bytes = w'.bytes :=
      (List.prefix_of_prefix_length_le hw hw' (by omega)).eq_of_length (by omega)
    have hvalue : w.value = w'.value := congrArg Uvarint.groupsValue hbytes
    exact (Uvarint.value_lt_iff (by omega)).mp (hvalue ▸ hlt) hten
  · intro h v n
    rw [readUvarint_eq_ok_iff]
    constructor
    · rintro ⟨w, hw, hn, hten, hv⟩
      have hlt : w.value < 2 ^ 64 := (Uvarint.value_lt_iff (by omega)).mpr (h w hw)
      rw [Nat.mod_eq_of_lt hlt] at hv
      exact ⟨w, hw, hn, hten, hlt, hv.symm⟩
    · rintro ⟨w, hw, hn, hten, hlt, hv⟩
      exact ⟨w, hw, hn, hten, by rw [Nat.mod_eq_of_lt hlt, hv]⟩

/-- Nine bytes that continue and a tenth that is 2 write `2 ^ 64`. It is read as zero. -/
theorem readUvarint_truncates :
    readUvarint (List.replicate 9 0x80 ++ [0x02]) = .ok (0, 10) ∧
      ¬ ReadsExactly (List.replicate 9 0x80 ++ [0x02]) := by
  have hread : readUvarint (List.replicate 9 0x80 ++ [0x02]) = .ok (0, 10) := by decide
  refine ⟨hread, ?_⟩
  intro h
  obtain ⟨w, hw, hten, -, -, hzero⟩ := (h 0 10).mp hread
  have hbytes : w.bytes = List.replicate 9 0x80 ++ [0x02] := hw.eq_of_length hten
  have hvalue : w.value = 2 ^ 64 := by
    rw [Uvarint.value, hbytes]
    decide
  rw [hvalue] at hzero
  exact absurd hzero (by decide)

end Kroxy.Proofs
