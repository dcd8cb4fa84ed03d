import Kroxy.Protocol.Framing

/-!
# `Kroxy.Proofs.FrameStream`: reading a stream of frames that is cut off

`written_eq` says what `WriteFrame` puts on a stream: the frames of the bodies one after the
other. `readFrame_take` says what `ReadFrame` makes of a stream that starts with a frame and
ends `k` bytes later. When the whole frame is there it returns the body, and otherwise
`cutError k`: `io.EOF` where nothing was read, but also where exactly the four bytes of the
length were. `reads_cut` repeats this over all frames of the stream.

`decodesCut_iff` is the result. A stream that is cut anywhere decodes to the bodies it has
whole. The error at its end is an `io.EOF` at frame boundaries, and nowhere else as long as
the cut is not right behind a length.
-/

set_option autoImplicit false

namespace Kroxy.Proofs

open Kroxy.Go
open Kroxy.Lib
open Kroxy.Protocol
open Kroxy.Protocol.Framing

/-! ### What is on the stream -/

/-- The bytes of one frame: its length and its body. -/
def frameBytes (body : Bytes) : Bytes := putBE32 (UInt32.ofNat body.length) ++ body

/-- A frame is four bytes longer than its body. -/
@[simp] theorem length_frameBytes (body : Bytes) :
    (frameBytes body).length = 4 + body.length := by
  rw [frameBytes, List.length_append, length_putBE32]

/-- `WriteFrame` on a writer that does not fail. -/
theorem writeFrame_eq (body : Bytes) {w : Writer} (hw : w.fault = fun _ => none) :
    writeFrame body w =
      .ok () { w with out := w.out ++ frameBytes body, calls := w.calls + 2 } := by
  obtain ⟨out, calls, fault⟩ := w
  subst hw
  rw [frameBytes, ← List.append_assoc]
  rfl

/-- Without a fault the frames are written one behind the other. -/
theorem writeFrames_eq (bodies : List Bytes) {w : Writer} (hw : w.fault = fun _ => none) :
    ∃ w', writeFrames bodies w = .ok () w' ∧
      w'.out = w.out ++ (bodies.map frameBytes).flatten := by
  induction bodies generalizing w with
  | nil => exact ⟨w, rfl, by simp⟩
  | cons body rest ih =>
      obtain ⟨w', hrun, hout⟩ := ih (w := { w with
        out := w.out ++ frameBytes body, calls := w.calls + 2 }) hw
      refine ⟨w', ?_, ?_⟩
      · rw [writeFrames, bind_of_ok (writeFrame_eq body hw)]
        exact hrun
      · rw [hout, List.append_assoc, List.map_cons, List.flatten_cons]

/-- The stream is the frames one after the other. -/
theorem written_eq (bodies : List Bytes) : written bodies = (bodies.map frameBytes).flatten := by
  obtain ⟨w', hrun, hout⟩ := writeFrames_eq bodies (w := {}) rfl
  rw [written, hrun]
  exact hout

/-- The first frame comes first. -/
theorem written_cons (body : Bytes) (rest : List Bytes) :
    written (body :: rest) = frameBytes body ++ written rest := by
  rw [written_eq, written_eq, List.map_cons, List.flatten_cons]

/-! ### One frame -/

/-- A body of 1 to `maxFrameSize` bytes. -/
def FitsFrame (body : Bytes) : Prop := 1 ≤ body.length ∧ body.length ≤ maxFrameSize

/-- The error of `ReadFrame` on a frame of which only `k` bytes are there. -/
def cutError (k : Nat) : GoError :=
  if k = 0 then ioEOF
  -- The read of the body finds nothing at all, and its `io.EOF` gets wrapped.
  else if k = 4 then ioEOF.wrap (goString "ReadFrame")
  else ioErrUnexpectedEOF.wrap (goString "ReadFrame")

/-- The two places of a cut that look like a clean end of the stream. -/
theorem cutError_is_ioEOF (k : Nat) : (cutError k).is ioEOF = true ↔ k = 0 ∨ k = 4 := by
  unfold cutError
  split
  · simp [*, GoError.is]
  · split
    · simp [*, GoError.is, GoError.wrap]
    · have hne : (ioErrUnexpectedEOF.wrap (goString "ReadFrame")).is ioEOF = false := by decide
      simp [*]

/-- The length prefix, or the error when it is cut. -/
theorem readHeader_eq (r : Bytes) :
    readHeader r = if 4 ≤ r.length then .ok (r.take 4) (r.drop 4)
      else .error (.err (cutError r.length)) [] := by
  unfold readHeader readFull
  by_cases hlen : 4 ≤ r.length
  · rw [if_pos hlen, if_pos hlen]
  · rw [if_neg hlen, if_neg hlen]
    by_cases hnil : r = []
    · subst hnil
      rfl
    · have hpos : 0 < r.length := List.length_pos_iff.mpr hnil
      have hcut : cutError r.length = ioErrUnexpectedEOF.wrap (goString "ReadFrame") := by
        rw [cutError, if_neg (by omega), if_neg (by omega)]
      rw [if_neg hnil, hcut]
      rfl

/-- The body behind the length prefix, or the error when it is cut. -/
theorem wrapErr_readFull (n : Nat) (r : Bytes) :
    wrapErr "ReadFrame" (readFull n) r = if n ≤ r.length then .ok (r.take n) (r.drop n)
      else .error (.err (cutError (4 + r.length))) [] := by
  unfold wrapErr readFull
  by_cases hlen : n ≤ r.length
  · rw [if_pos hlen, if_pos hlen]
  · rw [if_neg hlen, if_neg hlen]
    by_cases hnil : r = []
    · subst hnil
      rfl
    · have hpos : 0 < r.length := List.length_pos_iff.mpr hnil
      have hcut : cutError (4 + r.length) =
          ioErrUnexpectedEOF.wrap (goString "ReadFrame") := by
        rw [cutError, if_neg (by omega), if_neg (by omega)]
      rw [if_neg hnil, hcut]
      rfl

/-- `ReadFrame` at the end of the stream. -/
theorem readFrame_nil : readFrame [] = .error (.err ioEOF) [] := rfl

/-- `ReadFrame` behind a whole length prefix. -/
theorem readFrame_putBE32 {body : Bytes} (h : FitsFrame body)
    (r : Bytes) :
    readFrame (putBE32 (UInt32.ofNat body.length) ++ r) =
      wrapErr "ReadFrame" (readFull body.length) r := by
  obtain ⟨hpos, hmax⟩ := h
  have hsize : (UInt32.ofNat body.length).toNat = body.length := by
    rw [UInt32.toNat_ofNat']
    have : maxFrameSize < 2 ^ 32 := by decide
    omega
  have hzero : UInt32.ofNat body.length ≠ 0 := by
    intro hzero
    rw [hzero] at hsize
    have : (0 : UInt32).toNat = 0 := rfl
    omega
  have hhdr : readHeader (putBE32 (UInt32.ofNat body.length) ++ r) =
      .ok (putBE32 (UInt32.ofNat body.length) ++ []) r := by
    rw [readHeader_eq, if_pos (by simp), List.take_left' (length_putBE32 _),
      List.drop_left' (length_putBE32 _), List.append_nil]
  rw [readFrame, bind_of_ok hhdr, getBE32_putBE32_append, if_neg hzero, hsize,
    if_neg (Nat.not_lt.mpr hmax)]

/-- `ReadFrame` on a stream that starts with a frame and ends after `k` bytes. -/
theorem readFrame_take {body : Bytes} (h : FitsFrame body)
    (rest : Bytes) {k : Nat} (hk : k ≤ (frameBytes body ++ rest).length) :
    readFrame ((frameBytes body ++ rest).take k) =
      if 4 + body.length ≤ k then .ok body (rest.take (k - (4 + body.length)))
      else .error (.err (cutError k)) [] := by
  by_cases hprefix : 4 ≤ k
  · -- The length is there, and the body or the part of it that is left.
    obtain ⟨m, rfl⟩ := Nat.exists_eq_add_of_le hprefix
    have htake : (frameBytes body ++ rest).take (4 + m) =
        putBE32 (UInt32.ofNat body.length) ++ (body ++ rest).take m := by
      rw [frameBytes, List.append_assoc, List.take_append, length_putBE32,
        List.take_of_length_le (by simp), Nat.add_sub_cancel_left]
    have hlen : ((body ++ rest).take m).length = m := by
      simp only [List.length_append, length_frameBytes] at hk
      rw [List.length_take, List.length_append]
      omega
    rw [htake, readFrame_putBE32 h, wrapErr_readFull, hlen]
    by_cases hwhole : body.length ≤ m
    · rw [if_pos hwhole, if_pos (by omega)]
      have hbody : ((body ++ rest).take m).take body.length = body := by
        rw [List.take_take, Nat.min_eq_left hwhole, List.take_left]
      have hrest : ((body ++ rest).take m).drop body.length =
          rest.take (4 + m - (4 + body.length)) := by
        rw [List.drop_take, List.drop_left]
        congr 1
        omega
      rw [hbody, hrest]
    · rw [if_neg hwhole, if_neg (by omega)]
  · -- Not even the length is whole.
    have hlen : ((frameBytes body ++ rest).take k).length = k := List.length_take_of_le hk
    have hhdr : readHeader ((frameBytes body ++ rest).take k) =
        .error (.err (cutError k)) [] := by
      rw [readHeader_eq, hlen, if_neg hprefix]
    rw [readFrame, bind_of_error hhdr, if_neg (by omega)]

/-! ### The whole stream -/

/-- Where the frame with number `j` starts, and the one before it ends. -/
def frameStart (bodies : List Bytes) (j : Nat) : Nat := (written (bodies.take j)).length

/-- The first frame starts the stream. -/
@[simp] theorem frameStart_zero (bodies : List Bytes) : frameStart bodies 0 = 0 := rfl

/-- Every other frame starts behind the frames before it. -/
@[simp] theorem frameStart_cons_succ (body : Bytes) (rest : List Bytes) (j : Nat) :
    frameStart (body :: rest) (j + 1) = 4 + body.length + frameStart rest j := by
  rw [frameStart, List.take_succ_cons, written_cons, List.length_append, length_frameBytes]
  rfl

/-- The cut point is behind a whole number of frames. -/
def FrameBoundary (bodies : List Bytes) (k : Nat) : Prop :=
  ∃ j ≤ bodies.length, k = frameStart bodies j

/-- Reading the first `k` bytes returns the bodies that end there or before, in order, and
then an error that is an `io.EOF` exactly at a frame boundary. -/
def DecodesCut (bodies : List Bytes) (k : Nat) : Prop :=
  ∃ j e, j ≤ bodies.length ∧ (∀ i ≤ bodies.length, frameStart bodies i ≤ k ↔ i ≤ j) ∧
    Reads ((written bodies).take k) (bodies.take j) e ∧
    (e.is ioEOF = true ↔ FrameBoundary bodies k)

/-- What is left of a cut stream behind its whole frames: `m` bytes of frame number `j`, or
nothing when there is no such frame. -/
inductive Cut : List Bytes → Nat → Nat → Nat → Prop where
  | done : Cut [] 0 0 0
  | inside {body : Bytes} {rest : List Bytes} {k : Nat} (h : k < 4 + body.length) :
      Cut (body :: rest) k 0 k
  | skip {body : Bytes} {rest : List Bytes} {k j m : Nat} (h : Cut rest k j m) :
      Cut (body :: rest) (4 + body.length + k) (j + 1) m

/-- Repeated reads return the whole frames in front of the cut. -/
theorem reads_cut {bodies : List Bytes} (h : ∀ b ∈ bodies, FitsFrame b)
    {k : Nat} (hk : k ≤ (written bodies).length) :
    ∃ j m, Cut bodies k j m ∧ Reads ((written bodies).take k) (bodies.take j) (cutError m) := by
  induction bodies generalizing k with
  | nil =>
      have hzero : k = 0 := Nat.le_zero.mp hk
      subst hzero
      exact ⟨0, 0, .done, .stop readFrame_nil⟩
  | cons body rest ih =>
      have hbody := h body List.mem_cons_self
      rw [written_cons] at hk ⊢
      have hread := readFrame_take hbody (written rest) hk
      by_cases hwhole : 4 + body.length ≤ k
      · obtain ⟨k', rfl⟩ := Nat.exists_eq_add_of_le hwhole
        have hk' : k' ≤ (written rest).length := by
          rw [List.length_append, length_frameBytes] at hk
          omega
        obtain ⟨j, m, hcut, hreads⟩ := ih (fun b hb => h b (List.mem_cons_of_mem _ hb)) hk'
        rw [if_pos hwhole, Nat.add_sub_cancel_left] at hread
        exact ⟨j + 1, m, .skip hcut, .frame hread hreads⟩
      · rw [if_neg hwhole] at hread
        exact ⟨0, k, .inside (by omega), .stop hread⟩

/-- A cut leaves `m` bytes of the frame that starts at `frameStart bodies j`. -/
theorem Cut.eq_add {bodies : List Bytes} {k j m : Nat} (h : Cut bodies k j m) :
    j ≤ bodies.length ∧ k = frameStart bodies j + m ∧ (j = bodies.length → m = 0) := by
  induction h with
  | done => exact ⟨Nat.le_refl _, rfl, fun _ => rfl⟩
  | inside h => exact ⟨Nat.zero_le _, by simp, fun hj => by simp at hj⟩
  | skip _ ih =>
      obtain ⟨hj, hk, hend⟩ := ih
      refine ⟨Nat.succ_le_succ hj, ?_, ?_⟩
      · rw [frameStart_cons_succ]
        omega
      · intro hlen
        exact hend (Nat.succ.inj hlen)

/-- The frames in front of a cut are the ones that end there or before. -/
theorem Cut.frameStart_le_iff {bodies : List Bytes} {k j m : Nat} (h : Cut bodies k j m) :
    ∀ i ≤ bodies.length, frameStart bodies i ≤ k ↔ i ≤ j := by
  induction h with
  | done =>
      intro i hi
      have hzero : i = 0 := Nat.le_zero.mp hi
      simp [hzero]
  | inside h =>
      intro i _
      cases i with
      | zero => simp
      | succ i =>
          rw [frameStart_cons_succ]
          omega
  | skip _ ih =>
      intro i hi
      cases i with
      | zero => simp
      | succ i =>
          have := ih i (Nat.succ_le_succ_iff.mp hi)
          rw [frameStart_cons_succ]
          omega

/-- A frame ends more than four bytes behind its start. -/
theorem frameStart_lt {bodies : List Bytes} (h : ∀ b ∈ bodies, FitsFrame b) {i j : Nat}
    (hij : i < j) (hj : j ≤ bodies.length) :
    frameStart bodies i + 4 < frameStart bodies j := by
  induction bodies generalizing i j with
  | nil =>
      rw [List.length_nil] at hj
      omega
  | cons body rest ih =>
      have hbody : 1 ≤ body.length := (h body List.mem_cons_self).1
      cases j with
      | zero => omega
      | succ j =>
          cases i with
          | zero =>
              rw [frameStart_zero, frameStart_cons_succ]
              omega
          | succ i =>
              have := ih (fun b hb => h b (List.mem_cons_of_mem _ hb))
                (Nat.lt_of_succ_lt_succ hij) (Nat.succ_le_succ_iff.mp hj)
              rw [frameStart_cons_succ, frameStart_cons_succ]
              omega

/-- The last frame start at or before the cut point leaves `m` bytes, so no other frame start
is four bytes or less before it. -/
theorem Cut.eq_of_add {bodies : List Bytes} (h : ∀ b ∈ bodies, FitsFrame b) {k i j m d : Nat}
    (hcut : Cut bodies k j m) (hi : i ≤ bodies.length) (hd : d ≤ 4)
    (hk : k = frameStart bodies i + d) : m = d := by
  obtain ⟨hj, hkm, -⟩ := hcut.eq_add
  have hij : i ≤ j := (hcut.frameStart_le_iff i hi).mp (by omega)
  rcases Nat.lt_or_eq_of_le hij with hlt | heq
  · have := frameStart_lt h hlt hj
    omega
  · subst heq
    omega

/-- A cut is at a boundary when it leaves nothing of a frame. -/
theorem Cut.boundary_iff {bodies : List Bytes} (h : ∀ b ∈ bodies, FitsFrame b) {k j m : Nat}
    (hcut : Cut bodies k j m) : FrameBoundary bodies k ↔ m = 0 := by
  obtain ⟨hj, hkm, -⟩ := hcut.eq_add
  constructor
  · intro hb
    obtain ⟨i, hi, hk⟩ := hb
    exact hcut.eq_of_add h hi (by omega) hk
  · intro hm
    exact ⟨j, hj, by omega⟩

/-- Four bytes are left exactly when the cut is right behind a length. -/
theorem Cut.behindLength_iff {bodies : List Bytes} (h : ∀ b ∈ bodies, FitsFrame b)
    {k j m : Nat} (hcut : Cut bodies k j m) :
    (∃ i < bodies.length, k = frameStart bodies i + 4) ↔ m = 4 := by
  obtain ⟨hj, hkm, hend⟩ := hcut.eq_add
  constructor
  · intro hb
    obtain ⟨i, hi, hk⟩ := hb
    exact hcut.eq_of_add h (Nat.le_of_lt hi) (Nat.le_refl 4) hk
  · intro hm
    refine ⟨j, ?_, by omega⟩
    rcases Nat.lt_or_eq_of_le hj with hlt | heq
    · exact hlt
    · have := hend heq
      omega

/-- A stream is read in one way only. -/
theorem reads_unique {r : Bytes} {bs bs' : List Bytes} {e e' : GoError} (h : Reads r bs e)
    (h' : Reads r bs' e') : bs = bs' ∧ e = e' := by
  induction h generalizing bs' with
  | stop hread =>
      cases h' with
      | stop hread' =>
          rw [hread] at hread'
          cases hread'
          exact ⟨rfl, rfl⟩
      | frame hread' _ =>
          rw [hread] at hread'
          cases hread'
  | frame hread _ ih =>
      cases h' with
      | stop hread' =>
          rw [hread] at hread'
          cases hread'
      | frame hread' hrest' =>
          rw [hread] at hread'
          cases hread'
          obtain ⟨hbs, he⟩ := ih hrest'
          exact ⟨by rw [hbs], he⟩

/-- A cut stream decodes to its whole bodies, and the error at its end tells a clean end from
a broken one, unless the cut is right behind the length of a frame. -/
theorem decodesCut_iff {bodies : List Bytes} (h : ∀ b ∈ bodies, FitsFrame b) {k : Nat}
    (hk : k ≤ (written bodies).length) :
    DecodesCut bodies k ↔ ¬ ∃ j < bodies.length, k = frameStart bodies j + 4 := by
  obtain ⟨j, m, hcut, hreads⟩ := reads_cut h hk
  rw [hcut.behindLength_iff h]
  constructor
  · intro hdec hm
    -- The error is a wrapped `io.EOF`, which only a boundary would allow.
    obtain ⟨j', e, -, -, hreads', heof⟩ := hdec
    obtain ⟨-, he⟩ := reads_unique hreads hreads'
    have heof' : e.is ioEOF = true := by
      rw [← he, cutError_is_ioEOF]
      exact Or.inr hm
    have hzero := (hcut.boundary_iff h).mp (heof.mp heof')
    omega
  · intro hm
    refine ⟨j, cutError m, hcut.eq_add.1, hcut.frameStart_le_iff, hreads, ?_⟩
    rw [cutError_is_ioEOF, hcut.boundary_iff h]
    omega

/-- Two frames, cut behind the first: one body and a clean end. -/
theorem decodesCut_iff_at_boundary :
    DecodesCut [[7, 8, 9], [1]] 7 ∧ FrameBoundary [[7, 8, 9], [1]] 7 := by
  refine ⟨(decodesCut_iff ?_ (by decide)).mpr ?_, 1, by decide, by decide⟩
  · intro b hb
    simp only [List.mem_cons, List.not_mem_nil, or_false] at hb
    rcases hb with rfl | rfl
    · exact ⟨by decide, by decide⟩
    · exact ⟨by decide, by decide⟩
  · decide

/-- A stream that ends behind the length of its only frame ends in an `io.EOF`, in the middle
of the frame. -/
theorem wrappedEOF_inside_frame :
    Reads ((written [[7, 8, 9]]).take 4) [] (ioEOF.wrap (goString "ReadFrame")) ∧
      (ioEOF.wrap (goString "ReadFrame")).is ioEOF = true ∧
      ¬ FrameBoundary [[7, 8, 9]] 4 ∧ ¬ DecodesCut [[7, 8, 9]] 4 := by
  have hreads : Reads ((written [[7, 8, 9]]).take 4) []
      (ioEOF.wrap (goString "ReadFrame")) :=
    .stop (show readFrame _ = .error (.err _) [] from rfl)
  have hboundary : ¬ FrameBoundary [[7, 8, 9]] 4 := by
    intro hb
    obtain ⟨j, hj, hk⟩ := hb
    have hcases : j = 0 ∨ j = 1 := by
      rw [List.length_singleton] at hj
      omega
    rcases hcases with rfl | rfl
    · exact absurd hk (by decide)
    · exact absurd hk (by decide)
  refine ⟨hreads, by decide, hboundary, ?_⟩
  intro hdec
  obtain ⟨j, e, -, -, hreads', heof⟩ := hdec
  obtain ⟨-, he⟩ := reads_unique hreads hreads'
  rw [← he] at heof
  exact hboundary (heof.mp (by decide))

end Kroxy.Proofs
