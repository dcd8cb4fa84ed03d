import Mathlib.Logic.Equiv.Defs

/-!
# `Kroxy.Lib.Format`: binary formats with length fields

A format reads a value off the front of a byte string and writes one. Writers do not check
anything: a length that is too large for its field is written as it wraps. So a format says
which values it can carry (`Fits`), with two laws.

* `read_append`: a value that fits is read back, and what follows it is left.
* `fits_of_read`: a value that was read fits.

Together they make `Fits` exact. `decode_append_iff` says that a value is read back if and
only if it fits.

`pair` puts two formats one behind the other, and `andThen` lets the first value decide about
the second format. `iso` changes the representation of a value, `nullable` adds a missing
value, and `since` is a field that is on the wire under a condition only and has a default
otherwise.
-/

set_option autoImplicit false

namespace Kroxy.Lib

/-- A reader and a writer of values, and the values they can carry. -/
structure Format (ε α : Type) where
  read : List UInt8 → Except ε (α × List UInt8)
  append : α → List UInt8
  Fits : α → Prop
  read_append : ∀ {a : α}, Fits a → ∀ rest, read (append a ++ rest) = .ok (a, rest)
  fits_of_read : ∀ {bs : List UInt8} {a : α} {rest : List UInt8},
    read bs = .ok (a, rest) → Fits a

namespace Format

variable {ε α β : Type}

/-- Read one value and do not look at what follows it. -/
def decode (f : Format ε α) (bs : List UInt8) : Except ε α := (f.read bs).map Prod.fst

/-- Decoding ignores what is left. -/
theorem decode_eq_ok {f : Format ε α} {bs : List UInt8} {a : α} :
    f.decode bs = .ok a ↔ ∃ rest, f.read bs = .ok (a, rest) := by
  unfold decode
  cases hread : f.read bs with
  | error e => simp [Except.map]
  | ok r =>
      obtain ⟨a', rest⟩ := r
      simp [Except.map]

/-- A value that was decoded fits. -/
theorem fits_of_decode {f : Format ε α} {bs : List UInt8} {a : α}
    (h : f.decode bs = .ok a) : f.Fits a := by
  obtain ⟨rest, hread⟩ := decode_eq_ok.mp h
  exact f.fits_of_read hread

/-- A value is decoded from its own encoding exactly when it fits. -/
theorem decode_append_iff (f : Format ε α) (a : α) :
    f.decode (f.append a) = .ok a ↔ f.Fits a := by
  constructor
  · exact fits_of_decode
  · intro h
    have hread : f.read (f.append a ++ []) = .ok (a, []) := f.read_append h []
    rw [List.append_nil] at hread
    exact decode_eq_ok.mpr ⟨[], hread⟩

/-! ### Combining formats -/

/-- One format behind the other, where the first value may decide about the second. -/
def andThen (f : Format ε α) (g : α → Format ε β) : Format ε (α × β) where
  read bs := do
    let (a, bs) ← f.read bs
    let (b, bs) ← (g a).read bs
    pure ((a, b), bs)
  append x := f.append x.1 ++ (g x.1).append x.2
  Fits x := f.Fits x.1 ∧ (g x.1).Fits x.2
  read_append := by
    intro x hx rest
    have hfirst := f.read_append hx.1 ((g x.1).append x.2 ++ rest)
    have hsecond := (g x.1).read_append hx.2 rest
    rw [List.append_assoc]
    simp only [hfirst, hsecond, bind, Except.bind, pure, Except.pure]
  fits_of_read := by
    intro bs x rest h
    cases hfirst : f.read bs with
    | error e =>
        simp only [hfirst, bind, Except.bind] at h
        cases h
    | ok r =>
        cases hsecond : (g r.1).read r.2 with
        | error e =>
            simp only [hfirst, hsecond, bind, Except.bind] at h
            cases h
        | ok s =>
            simp only [hfirst, hsecond, bind, Except.bind, pure, Except.pure] at h
            cases h
            exact ⟨f.fits_of_read hfirst, (g r.1).fits_of_read hsecond⟩

/-- One format behind the other. -/
def pair (f : Format ε α) (g : Format ε β) : Format ε (α × β) := f.andThen fun _ => g

/-- The same bytes for another representation of the values. -/
def iso (f : Format ε α) (e : α ≃ β) : Format ε β where
  read bs := (f.read bs).map fun x => (e x.1, x.2)
  append b := f.append (e.symm b)
  Fits b := f.Fits (e.symm b)
  read_append := by
    intro b hb rest
    rw [f.read_append hb rest]
    simp [Except.map]
  fits_of_read := by
    intro bs b rest h
    cases hread : f.read bs with
    | error err =>
        rw [hread] at h
        cases h
    | ok r =>
        rw [hread] at h
        cases h
        rw [Equiv.symm_apply_apply]
        exact f.fits_of_read hread

/-- A value that may be missing. `null` is written for a missing one, and `isNull` tells it
from the encoding of a value. -/
def nullable (f : Format ε α) (null : List UInt8) (isNull : List UInt8 → Prop)
    [DecidablePred isNull] (hnull : ∀ rest, isNull (null ++ rest))
    (hvalue : ∀ {a : α}, f.Fits a → ∀ rest, ¬ isNull (f.append a ++ rest)) :
    Format ε (Option α) where
  read bs :=
    if isNull bs then .ok (none, bs.drop null.length)
    else (f.read bs).map fun x => (some x.1, x.2)
  append o := o.elim null f.append
  Fits o := ∀ a ∈ o, f.Fits a
  read_append := by
    intro o ho rest
    cases o with
    | none =>
        rw [Option.elim_none, if_pos (hnull rest), List.drop_left]
    | some a =>
        have ha : f.Fits a := ho a rfl
        rw [Option.elim_some, if_neg (hvalue ha rest), f.read_append ha]
        rfl
  fits_of_read := by
    intro bs o rest h a ha
    split at h
    · cases h
      cases ha
    · cases hread : f.read bs with
      | error e =>
          rw [hread] at h
          cases h
      | ok r =>
          rw [hread] at h
          cases h
          cases ha
          exact f.fits_of_read hread

/-- A field that is not on the wire. Its only value is the default. -/
def absent (default : α) : Format ε α where
  read bs := .ok (default, bs)
  append _ := []
  Fits a := a = default
  read_append := by
    intro a ha rest
    rw [ha]
    rfl
  fits_of_read := by
    intro bs a rest h
    cases h
    rfl

/-- A field that is on the wire when `onWire` holds. -/
def since (onWire : Prop) [Decidable onWire] (default : α) (f : Format ε α) : Format ε α :=
  if onWire then f else absent default

/-- A pair fits when its parts do. -/
@[simp] theorem fits_pair (f : Format ε α) (g : Format ε β) (x : α × β) :
    (f.pair g).Fits x ↔ f.Fits x.1 ∧ g.Fits x.2 := Iff.rfl

/-- A value fits when its image under the other format does. -/
@[simp] theorem fits_iso (f : Format ε α) (e : α ≃ β) (b : β) :
    (f.iso e).Fits b ↔ f.Fits (e.symm b) := Iff.rfl

/-- A field that is not on the wire fits with its default only. -/
theorem fits_since (onWire : Prop) [Decidable onWire] (default : α) (f : Format ε α) (a : α) :
    (since onWire default f).Fits a ↔ if onWire then f.Fits a else a = default := by
  unfold since
  split <;> rfl

/-- Another value for a field, when it fits if the old one did and is the default if the old
one was. -/
theorem fits_since_of {onWire : Prop} [Decidable onWire] {default a b : α} {f : Format ε α}
    (h : (since onWire default f).Fits a) (hfits : f.Fits a → f.Fits b)
    (hdefault : a = default → b = default) : (since onWire default f).Fits b := by
  rw [fits_since] at h ⊢
  by_cases hwire : onWire
  · rw [if_pos hwire] at h ⊢
    exact hfits h
  · rw [if_neg hwire] at h ⊢
    exact hdefault h

end Format

end Kroxy.Lib
