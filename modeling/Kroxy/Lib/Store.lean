import Mathlib.Data.List.Dedup

/-!
# `Kroxy.Lib.Store`: finite maps with an order of entries, and views of them

A `Store κ ν` is an association list. `get` reads the first entry of a key, `alter` writes
or removes a key, and `entries` are listed in insertion order.

`view φ s` keeps the entries whose key `φ` accepts, under the key `φ` gives them. When `φ`
is injective where it is defined, the view of a store behaves as a store in its own right:

* `get_view`: a lookup in the view is a lookup in the store.
* `view_alter`: a write to an accepted key is the same write in the view.
* `view_alter_of_none`: a write to a rejected key does not show in the view.

These three are what a simulation between a shared store and a private one needs.
-/

set_option autoImplicit false

namespace Kroxy.Lib

/-- An association list read as a finite map. -/
abbrev Store (κ ν : Type) := List (κ × ν)

/-- `φ` sends no two keys to the same key. -/
def PInj {κ κ' : Type} (φ : κ → Option κ') : Prop :=
  ∀ a b c, φ a = some c → φ b = some c → a = b

variable {κ κ' ν : Type}

/-- Two accepted keys get the same key exactly when they are the same. -/
theorem PInj.eq_iff {φ : κ → Option κ'} (hφ : PInj φ) {a b : κ} {c d : κ'}
    (ha : φ a = some c) (hb : φ b = some d) : c = d ↔ a = b := by
  constructor
  · rintro rfl
    exact hφ a b c ha hb
  · rintro rfl
    exact Option.some.inj (ha.symm.trans hb)

/-- A rejected key is not an accepted one. -/
theorem ne_of_rejected {φ : κ → Option κ'} {a b : κ} {c : κ'} (ha : φ a = none)
    (hb : φ b = some c) : a ≠ b := by
  rintro rfl
  rw [hb] at ha
  cases ha

namespace Store

section
variable [DecidableEq κ] [DecidableEq κ']

/-- The value of the first entry for `k`. -/
def get (k : κ) : Store κ ν → Option ν
  | [] => none
  | e :: s => if e.1 = k then some e.2 else get k s

/-- Remove every entry for `k`. -/
def erase (k : κ) (s : Store κ ν) : Store κ ν := s.filter fun e => e.1 ≠ k

/-- Overwrite the value of `k` in place, or add an entry at the end. -/
def put (k : κ) (v : ν) : Store κ ν → Store κ ν
  | [] => [(k, v)]
  | e :: s => if e.1 = k then (k, v) :: s else e :: put k v s

/-- Write `k`, or remove it when there is no value to write. -/
def alter (k : κ) : Option ν → Store κ ν → Store κ ν
  | some v, s => put k v s
  | none, s => erase k s

end

/-- The keys, in entry order. -/
def keys (s : Store κ ν) : List κ := s.map Prod.fst

/-- The entries whose key `φ` accepts, renamed by `φ`. -/
def view (φ : κ → Option κ') (s : Store κ ν) : Store κ' ν :=
  s.filterMap fun e => (φ e.1).map fun k' => (k', e.2)

/-- An entry that is seen stands in the view under its new key. -/
theorem view_cons_some {φ : κ → Option κ'} {e : κ × ν} {s : Store κ ν} {k' : κ'}
    (h : φ e.1 = some k') : view φ (e :: s) = (k', e.2) :: view φ s := by
  simp [view, h]

/-- An entry that is not seen is left out. -/
theorem view_cons_none {φ : κ → Option κ'} {e : κ × ν} {s : Store κ ν}
    (h : φ e.1 = none) : view φ (e :: s) = view φ s := by
  simp [view, h]

/-- The keys of a view are the keys that are seen. -/
theorem keys_view (φ : κ → Option κ') (s : Store κ ν) :
    keys (view φ s) = (keys s).filterMap φ := by
  simp only [keys, view, List.map_filterMap, List.filterMap_map]
  congr 1
  funext e
  cases h : φ e.1 <;> simp [h]

section
variable [DecidableEq κ] [DecidableEq κ']

/-- A key has a value exactly when it is among the keys. -/
theorem get_isSome_iff {k : κ} {s : Store κ ν} : (get k s).isSome ↔ k ∈ keys s := by
  induction s with
  | nil => simp [get, keys]
  | cons e s ih =>
      by_cases he : e.1 = k
      · simp [get, keys, he]
      · have hk : k ≠ e.1 := fun h => he h.symm
        simpa [get, keys, he, hk] using ih

/-- What is found is in the store. -/
theorem mem_of_get_eq_some {k : κ} {v : ν} {s : Store κ ν} (h : get k s = some v) :
    (k, v) ∈ s := by
  induction s with
  | nil => cases h
  | cons e s ih =>
      unfold get at h
      split at h
      · rename_i he
        obtain ⟨k', v'⟩ := e
        cases h
        exact he ▸ List.mem_cons_self
      · exact List.mem_cons_of_mem _ (ih h)

/-- A lookup after a write. -/
theorem get_put (k k' : κ) (v : ν) (s : Store κ ν) :
    get k' (put k v s) = if k = k' then some v else get k' s := by
  induction s with
  | nil => rfl
  | cons e s ih =>
      unfold put
      by_cases he : e.1 = k
      · rw [if_pos he, get, get, he]
        split <;> rfl
      · rw [if_neg he, get, get, ih]
        -- The entry in front is for another key than the one written.
        by_cases hk : e.1 = k'
        · rw [if_pos hk, if_neg (fun h => he (hk.trans h.symm)), if_pos hk]
        · rw [if_neg hk, if_neg hk]

/-- A lookup after a removal. -/
theorem get_erase (k k' : κ) (s : Store κ ν) :
    get k' (erase k s) = if k = k' then none else get k' s := by
  induction s with
  | nil => simp [erase, get]
  | cons e s ih =>
      unfold erase at ih ⊢
      by_cases he : e.1 = k
      · rw [List.filter_cons_of_neg (by simpa using he), ih, get, he]
        split <;> rfl
      · rw [List.filter_cons_of_pos (by simpa using he), get, get, ih]
        by_cases hk : e.1 = k'
        · rw [if_pos hk, if_neg (fun h => he (hk.trans h.symm)), if_pos hk]
        · rw [if_neg hk, if_neg hk]

/-- Writing a new key adds an entry at the end. -/
theorem put_of_get_eq_none {k : κ} {s : Store κ ν} (h : get k s = none) (v : ν) :
    put k v s = s ++ [(k, v)] := by
  induction s with
  | nil => rfl
  | cons e s ih =>
      unfold get at h
      split at h
      · cases h
      · rename_i he
        rw [put, if_neg he, ih h]
        rfl

/-- A lookup in the view is the lookup of the key it stands for. -/
theorem get_view {φ : κ → Option κ'} (hφ : PInj φ) {k : κ} {k' : κ'}
    (hk : φ k = some k') (s : Store κ ν) : get k' (view φ s) = get k s := by
  induction s with
  | nil => rfl
  | cons e s ih =>
      cases he : φ e.1 with
      -- A rejected entry is not the one looked for.
      | none => rw [view_cons_none he, ih, get, if_neg (ne_of_rejected he hk)]
      | some c =>
          rw [view_cons_some he, get, get, ih]
          -- Under the view the comparison of keys has the same outcome.
          simp only [hφ.eq_iff he hk]

/-- Removing an accepted key removes it from the view. -/
theorem view_erase {φ : κ → Option κ'} (hφ : PInj φ) {k : κ} {k' : κ'}
    (hk : φ k = some k') (s : Store κ ν) : view φ (erase k s) = erase k' (view φ s) := by
  induction s with
  | nil => rfl
  | cons e s ih =>
      unfold erase at ih ⊢
      cases he : φ e.1 with
      | none =>
          rw [List.filter_cons_of_pos (by simpa using ne_of_rejected he hk),
            view_cons_none he, view_cons_none he, ih]
      | some c =>
          rw [view_cons_some he]
          by_cases hek : e.1 = k
          · have hc : c = k' := (hφ.eq_iff he hk).mpr hek
            rw [List.filter_cons_of_neg (by simpa using hek),
              List.filter_cons_of_neg (by simpa using hc), ih]
          · have hc : c ≠ k' := fun h => hek ((hφ.eq_iff he hk).mp h)
            rw [List.filter_cons_of_pos (by simpa using hek),
              List.filter_cons_of_pos (by simpa using hc), view_cons_some he, ih]

/-- Writing an accepted key writes it in the view. -/
theorem view_put {φ : κ → Option κ'} (hφ : PInj φ) {k : κ} {k' : κ'}
    (hk : φ k = some k') (v : ν) (s : Store κ ν) :
    view φ (put k v s) = put k' v (view φ s) := by
  induction s with
  | nil => simp [put, view, hk]
  | cons e s ih =>
      cases he : φ e.1 with
      | none =>
          rw [put, if_neg (ne_of_rejected he hk), view_cons_none he, view_cons_none he, ih]
      | some c =>
          rw [view_cons_some he, put, put]
          by_cases hek : e.1 = k
          · rw [if_pos hek, if_pos ((hφ.eq_iff he hk).mpr hek), view_cons_some hk]
          · have hc : c ≠ k' := fun h => hek ((hφ.eq_iff he hk).mp h)
            rw [if_neg hek, if_neg hc, view_cons_some he, ih]

/-- A write to an accepted key is the same write in the view. -/
theorem view_alter {φ : κ → Option κ'} (hφ : PInj φ) {k : κ} {k' : κ'}
    (hk : φ k = some k') (v : Option ν) (s : Store κ ν) :
    view φ (alter k v s) = alter k' v (view φ s) := by
  cases v with
  | none => exact view_erase hφ hk s
  | some v => exact view_put hφ hk v s

omit [DecidableEq κ'] in
/-- A write to a rejected key does not show in the view. -/
theorem view_alter_of_none {φ : κ → Option κ'} {k : κ} (hk : φ k = none)
    (v : Option ν) (s : Store κ ν) : view φ (alter k v s) = view φ s := by
  induction s with
  | nil =>
      cases v with
      | none => rfl
      | some v => exact view_cons_none hk
  | cons e s ih =>
      by_cases hek : e.1 = k
      · have he : φ e.1 = none := hek ▸ hk
        cases v with
        | none =>
            rw [alter, erase, List.filter_cons_of_neg (by simpa using hek), view_cons_none he]
            exact ih
        | some v => rw [alter, put, if_pos hek, view_cons_none hk, view_cons_none he]
      -- An entry of another key stays where it is.
      · have hstep : alter k v (e :: s) = e :: alter k v s := by
          cases v with
          | none => rw [alter, erase, List.filter_cons_of_pos (by simpa using hek)]; rfl
          | some v => exact if_neg hek
        rw [hstep]
        cases he : φ e.1 with
        | none => rw [view_cons_none he, view_cons_none he, ih]
        | some c => rw [view_cons_some he, view_cons_some he, ih]

end

end Store

end Kroxy.Lib
