import Kroxy.Lib.Serve

/-!
# `Kroxy.Lib.Rows`: stores with two-part keys

A store whose keys are pairs has rows: the entries with one first part (`row`), the first
parts there are (`rowKeys`), and the removal of a row (`eraseRow`).

`both φ χ` views the two parts through `φ` and `χ`. It can hide an entry of a row that `φ`
accepts, when `χ` rejects its second part. In an `Owned` store that never happens, and then
the rows of the view are the rows of the store (`values_row`, `rowKeys_view`).
-/

set_option autoImplicit false

namespace Kroxy.Lib

variable {α α' β β' ν : Type}

/-- Both parts of a key, each through its own view. -/
def both (φ : α → Option α') (χ : β → Option β') (k : α × β) : Option (α' × β') :=
  (φ k.1).bind fun a => (χ k.2).map fun b => (a, b)

/-- A pair is not seen when its first part is not. -/
theorem both_eq_none {φ : α → Option α'} {χ : β → Option β'} {k : α × β}
    (h : φ k.1 = none) : both φ χ k = none := by
  simp [both, h]

/-- Two embeddings embed pairs. -/
theorem Embedding.both {ψ : α' → α} {φ : α → Option α'} {ω : β' → β} {χ : β → Option β'}
    (h : Embedding ψ φ) (h' : Embedding ω χ) :
    Embedding (Prod.map ψ ω) (Lib.both φ χ) where
  undo := fun k => by simp [Lib.both, h.undo, h'.undo]
  only := by
    intro k k' hk
    simp only [Lib.both, Option.bind_eq_some_iff, Option.map_eq_some_iff] at hk
    obtain ⟨a, ha, b, hb, rfl⟩ := hk
    exact Prod.ext (h.only ha) (h'.only hb)

namespace Store

/-- Entries whose first part is accepted have an accepted second part. -/
def Owned (φ : α → Option α') (χ : β → Option β') (s : Store (α × β) ν) : Prop :=
  ∀ k ∈ keys s, (φ k.1).isSome → (χ k.2).isSome

/-- Fewer entries are owned no less. -/
theorem Owned.of_subset {φ : α → Option α'} {χ : β → Option β'} {s s' : Store (α × β) ν}
    (h : Owned φ χ s) (hsub : ∀ k ∈ keys s', k ∈ keys s) : Owned φ χ s' :=
  fun k hk => h k (hsub k hk)

/-- The order of the entries does not matter. -/
theorem Owned.perm {φ : α → Option α'} {χ : β → Option β'} {s s' : Store (α × β) ν}
    (h : Owned φ χ s) (hperm : s'.Perm s) : Owned φ χ s' :=
  h.of_subset fun _ hk => (hperm.map _).mem_iff.mp hk

section
variable [DecidableEq α]

/-- The entries with first part `a`, under their second parts. -/
def row (a : α) (s : Store (α × β) ν) : Store β ν :=
  view (fun k => if k.1 = a then some k.2 else none) s

/-- The first parts, each once. -/
def rowKeys (s : Store (α × β) ν) : List α := ((keys s).map Prod.fst).dedup

/-- Remove the entries with first part `a`. -/
def eraseRow (a : α) (s : Store (α × β) ν) : Store (α × β) ν := s.filter fun e => e.1.1 ≠ a

/-- What is left after a row is erased was there. -/
theorem mem_keys_eraseRow {a : α} {s : Store (α × β) ν} {k : α × β}
    (h : k ∈ keys (eraseRow a s)) : k ∈ keys s := by
  obtain ⟨e, he, rfl⟩ := List.mem_map.mp h
  exact List.mem_map_of_mem (List.mem_of_mem_filter he)

/-- A key of a row is the second part of a key. -/
theorem mem_keys_row {a : α} {s : Store (α × β) ν} {b : β} (h : b ∈ keys (row a s)) :
    (a, b) ∈ keys s := by
  rw [row, keys_view, List.mem_filterMap] at h
  obtain ⟨k, hk, hkb⟩ := h
  split at hkb
  · rename_i hka
    cases hkb
    exact hka ▸ hk
  · cases hkb

end

variable [DecidableEq α] [DecidableEq α'] {ψ : α' → α} {φ : α → Option α'}
  {χ : β → Option β'}

/-- A row of the view is a view of the row. -/
theorem row_view (h : Embedding ψ φ) (a : α') (s : Store (α × β) ν) :
    row a (view (both φ χ) s) = view χ (row (ψ a) s) := by
  rw [row, row, view_view, view_view]
  congr 1
  funext k
  -- Either both sides look at the second part, or neither does.
  by_cases hk : k.1 = ψ a
  · simp only [both, hk, h.undo, if_true, Option.bind_some]
    cases χ k.2 <;> simp
  · have hne : ∀ a', φ k.1 = some a' → a' ≠ a := by
      rintro a' ha' rfl
      exact hk (h.only ha')
    simp only [hk, if_false, Option.bind_none]
    cases hφ : φ k.1 with
    | none => rw [both_eq_none hφ, Option.bind_none]
    | some a' =>
        simp only [both, hφ, Option.bind_some]
        cases χ k.2 <;> simp [hne a' hφ]

/-- In an owned store a row of the view has the same entries, under embedded second parts. -/
theorem row_eq_map {ω : β' → β} (h : Embedding ψ φ) (h' : Embedding ω χ) (a : α')
    {s : Store (α × β) ν} (hs : Owned φ χ s) :
    row (ψ a) s = (row a (view (both φ χ) s)).map (Prod.map ω id) := by
  -- In an owned store the view hides nothing of this row.
  have hseen : ∀ b ∈ keys (row (ψ a) s), (χ b).isSome := by
    intro b hb
    refine hs _ (mem_keys_row hb) ?_
    rw [h.undo]
    rfl
  rw [row_view h]
  generalize row (ψ a) s = r at hseen
  induction r with
  | nil => rfl
  | cons e r ih =>
      obtain ⟨b, hb⟩ := Option.isSome_iff_exists.mp (hseen e.1 List.mem_cons_self)
      have hrest := ih fun b' hb' => hseen b' (List.mem_cons_of_mem _ hb')
      rw [view_cons_some hb, List.map_cons, ← hrest]
      obtain ⟨k, v⟩ := e
      exact congrArg (fun x => (x, v) :: r) (h'.only hb)

/-- A row of the view has the values of the row it shows. -/
theorem values_row {ω : β' → β} (h : Embedding ψ φ) (h' : Embedding ω χ) (a : α')
    {s : Store (α × β) ν} (hs : Owned φ χ s) :
    (row (ψ a) s).map Prod.snd = (row a (view (both φ χ) s)).map Prod.snd := by
  rw [row_eq_map h h' a hs, List.map_map]
  rfl

/-- Removing duplicates commutes with an injective selection. -/
theorem dedup_filterMap (hφ : PInj φ) (l : List α) :
    (l.filterMap φ).dedup = l.dedup.filterMap φ := by
  induction l with
  | nil => rfl
  | cons a l ih =>
      cases ha : φ a with
      | none =>
          rw [List.filterMap_cons_none ha, ih]
          by_cases hmem : a ∈ l
          · rw [List.dedup_cons_of_mem hmem]
          · rw [List.dedup_cons_of_notMem hmem, List.filterMap_cons_none ha]
      | some c =>
          -- `c` comes from `a` alone, so it is a duplicate exactly when `a` is.
          have hiff : c ∈ l.filterMap φ ↔ a ∈ l := by
            rw [List.mem_filterMap]
            constructor
            · rintro ⟨b, hb, hbc⟩
              exact hφ b a c hbc ha ▸ hb
            · intro hmem
              exact ⟨a, hmem, ha⟩
          rw [List.filterMap_cons_some ha]
          by_cases hmem : a ∈ l
          · rw [List.dedup_cons_of_mem (hiff.mpr hmem), List.dedup_cons_of_mem hmem, ih]
          · rw [List.dedup_cons_of_notMem (fun hc => hmem (hiff.mp hc)),
              List.dedup_cons_of_notMem hmem, List.filterMap_cons_some ha, ih]

/-- In an owned store the rows of the view are the accepted rows. -/
theorem rowKeys_view (hφ : PInj φ) {s : Store (α × β) ν} (hs : Owned φ χ s) :
    rowKeys (view (both φ χ) s) = (rowKeys s).filterMap φ := by
  have hfirst : ((keys s).filterMap (both φ χ)).map Prod.fst =
      ((keys s).map Prod.fst).filterMap φ := by
    rw [List.map_filterMap, List.filterMap_map]
    refine List.filterMap_congr ?_
    intro k hk
    have hk' := hs k hk
    show ((both φ χ) k).map Prod.fst = φ k.1
    cases hφk : φ k.1 with
    | none => rw [both_eq_none hφk, Option.map_none]
    | some a =>
        rw [hφk] at hk'
        obtain ⟨b, hb⟩ := Option.isSome_iff_exists.mp (hk' rfl)
        simp [both, hφk, hb]
  rw [rowKeys, rowKeys, keys_view, hfirst, dedup_filterMap hφ]

/-- Removing an embedded row removes the row from the view. -/
theorem view_eraseRow (h : Embedding ψ φ) (a : α') (s : Store (α × β) ν) :
    view (both φ χ) (eraseRow (ψ a) s) = eraseRow a (view (both φ χ) s) := by
  induction s with
  | nil => rfl
  | cons e s ih =>
      unfold eraseRow at ih ⊢
      cases he : both φ χ e.1 with
      | none =>
          rw [view_cons_none he, ← ih]
          by_cases hrow : e.1.1 = ψ a
          · rw [List.filter_cons_of_neg (by simpa using hrow)]
          · rw [List.filter_cons_of_pos (by simpa using hrow), view_cons_none he]
      | some c =>
          have hfirst : φ e.1.1 = some c.1 := by
            simp only [both, Option.bind_eq_some_iff, Option.map_eq_some_iff] at he
            obtain ⟨a', ha', b, -, rfl⟩ := he
            exact ha'
          -- Both sides decide about the entry in the same way.
          have hiff : c.1 = a ↔ e.1.1 = ψ a := h.pInj.eq_iff hfirst (h.undo a)
          rw [view_cons_some he]
          by_cases hrow : e.1.1 = ψ a
          · rw [List.filter_cons_of_neg (by simpa using hrow),
              List.filter_cons_of_neg (by simpa using hiff.mpr hrow), ih]
          · rw [List.filter_cons_of_pos (by simpa using hrow),
              List.filter_cons_of_pos (by simpa using fun hc => hrow (hiff.mp hc)),
              view_cons_some he, ih]

omit [DecidableEq α'] in
/-- Removing a rejected row does not show in the view. -/
theorem view_eraseRow_of_none {a : α} (ha : φ a = none) (s : Store (α × β) ν) :
    view (both φ χ) (eraseRow a s) = view (both φ χ) s := by
  induction s with
  | nil => rfl
  | cons e s ih =>
      unfold eraseRow at ih ⊢
      by_cases hrow : e.1.1 = a
      · have he : both φ χ e.1 = none := both_eq_none (hrow ▸ ha)
        rw [List.filter_cons_of_neg (by simpa using hrow), view_cons_none he, ih]
      · rw [List.filter_cons_of_pos (by simpa using hrow)]
        cases he : both φ χ e.1 with
        | none => rw [view_cons_none he, view_cons_none he, ih]
        | some c => rw [view_cons_some he, view_cons_some he, ih]

end Store

end Kroxy.Lib
