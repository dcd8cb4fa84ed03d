import Kroxy.Lib.Store

/-!
# `Kroxy.Lib.Serve`: lists of requests to a store, seen through a view

`serve` works through a list of entries. Each entry reads its key, writes it back and gets
a result. The results come under the keys that were asked, in order.

Let `φ` be the inverse of an embedding `ψ` of keys (`Embedding`). A list of entries whose
keys are embedded does to the view what the same list with plain keys does to a store of its
own, and gets the same results under embedded keys (`serve_embedded`). A list whose keys `φ`
rejects does nothing to the view (`serve_hidden`).
-/

set_option autoImplicit false

namespace Kroxy.Lib

/-- `φ` undoes `ψ`, and accepts nothing else. -/
structure Embedding {κ κ' : Type} (ψ : κ' → κ) (φ : κ → Option κ') : Prop where
  undo : ∀ k, φ (ψ k) = some k
  only : ∀ {k : κ} {k' : κ'}, φ k = some k' → k = ψ k'

/-- What an embedding shows comes from one key. -/
theorem Embedding.pInj {κ κ' : Type} {ψ : κ' → κ} {φ : κ → Option κ'}
    (h : Embedding ψ φ) : PInj φ := by
  intro a b c ha hb
  rw [h.only ha, h.only hb]

namespace Store

variable {κ κ' ν ε ε' ρ : Type}

/-- The view does not depend on the order of the entries, up to order. -/
theorem view_perm {s s' : Store κ ν} (h : s.Perm s') (φ : κ → Option κ') :
    (view φ s).Perm (view φ s') := h.filterMap _

/-- A view of a view. -/
theorem view_view {κ'' : Type} (φ : κ → Option κ') (χ : κ' → Option κ'') (s : Store κ ν) :
    view χ (view φ s) = view (fun k => (φ k).bind χ) s := by
  simp only [view, List.filterMap_filterMap]
  congr 1
  funext e
  cases φ e.1 with
  | none => rfl
  | some k =>
      cases χ k with
      | none => simp
      | some k' => simp

variable [DecidableEq κ] [DecidableEq κ']

/-- Work through a list of entries. `op` gets the current value of the entry's key and gives
the next one and a result. -/
def serve (op : ε → Option ν → Option ν × ρ) (key : ε → κ) :
    List ε → Store κ ν → Store κ ν × List (κ × ρ)
  | [], s => (s, [])
  | e :: es, s =>
      let (v, r) := op e (get (key e) s)
      let (s', rs) := serve op key es (alter (key e) v s)
      (s', (key e, r) :: rs)

section
variable {op : ε → Option ν → Option ν × ρ} {key : ε → κ} {ψ : κ' → κ} {φ : κ → Option κ'}

/-- Embedded entries do to the view what plain entries do to a store of their own. -/
theorem serve_embedded (h : Embedding ψ φ) (op : ε → Option ν → Option ν × ρ)
    (op' : ε' → Option ν → Option ν × ρ) (key : ε → κ) (key' : ε' → κ') (f : ε' → ε)
    {es : List ε'} (hkey : ∀ e ∈ es, key (f e) = ψ (key' e)) (hop : ∀ e ∈ es, op (f e) = op' e)
    (s : Store κ ν) :
    view φ (serve op key (es.map f) s).1 = (serve op' key' es (view φ s)).1 ∧
      (serve op key (es.map f) s).2 =
        (serve op' key' es (view φ s)).2.map (Prod.map ψ id) := by
  induction es generalizing s with
  | nil => exact ⟨rfl, rfl⟩
  | cons e es ih =>
      have hke : key (f e) = ψ (key' e) := hkey e List.mem_cons_self
      have hopen : φ (key (f e)) = some (key' e) := by rw [hke, h.undo]
      -- Both sides read the same value, so they write the same value and get the same result.
      have hread : op (f e) (get (key (f e)) s) = op' e (get (key' e) (view φ s)) := by
        rw [hop e List.mem_cons_self, get_view h.pInj hopen]
      have hnext := ih (fun e' he' => hkey e' (List.mem_cons_of_mem _ he'))
        (fun e' he' => hop e' (List.mem_cons_of_mem _ he'))
        (alter (key (f e)) (op (f e) (get (key (f e)) s)).1 s)
      rw [view_alter h.pInj hopen, hread] at hnext
      simp only [List.map_cons, serve, hread]
      refine ⟨hnext.1, ?_⟩
      rw [hnext.2, hke]
      rfl

omit [DecidableEq κ'] in
/-- Results may be changed while the list is served, or afterwards. -/
theorem serve_map_result {ρ' : Type} (op : ε → Option ν → Option ν × ρ) (g : ρ → ρ')
    (key : ε → κ) (es : List ε) (s : Store κ ν) :
    serve (fun e v => Prod.map id g (op e v)) key es s =
      Prod.map id (List.map (Prod.map id g)) (serve op key es s) := by
  induction es generalizing s with
  | nil => rfl
  | cons e es ih =>
      simp only [serve, Prod.map_fst, Prod.map_snd, id_eq, ih]
      rfl

omit [DecidableEq κ'] in
/-- Entries whose keys are rejected do not show in the view. -/
theorem serve_hidden (op : ε → Option ν → Option ν × ρ) (key : ε → κ) {es : List ε}
    (hkey : ∀ e ∈ es, φ (key e) = none) (s : Store κ ν) :
    view φ (serve op key es s).1 = view φ s := by
  induction es generalizing s with
  | nil => rfl
  | cons e es ih =>
      have hrest := ih (fun e' he' => hkey e' (List.mem_cons_of_mem _ he'))
        (alter (key e) (op e (get (key e) s)).1 s)
      rw [view_alter_of_none (hkey e List.mem_cons_self)] at hrest
      exact hrest

/-- An altered store has its old keys and the altered one. -/
theorem mem_keys_alter {k k' : κ} {v : Option ν} {s : Store κ ν}
    (h : k' ∈ keys (alter k v s)) : k' = k ∨ k' ∈ keys s := by
  cases v with
  | none =>
      obtain ⟨e, he, rfl⟩ := List.mem_map.mp h
      exact Or.inr (List.mem_map_of_mem (List.mem_of_mem_filter he))
  | some v =>
      induction s with
      | nil => exact Or.inl (by simpa [alter, put, keys] using h)
      | cons e s ih =>
          -- `put` replaces the entry of `k` in place, or goes on behind another key's.
          have hcons : k' ∈ keys (if e.1 = k then (k, v) :: s else e :: put k v s) := h
          split at hcons
          · rcases List.mem_cons.mp hcons with hk | hs
            · exact Or.inl hk
            · exact Or.inr (List.mem_cons_of_mem _ hs)
          · rcases List.mem_cons.mp hcons with hk | hs
            · exact Or.inr (List.mem_cons.mpr (Or.inl hk))
            · exact (ih hs).imp id (List.mem_cons_of_mem _)

/-- Altering keeps the keys distinct. -/
theorem nodup_keys_alter {k : κ} {v : Option ν} {s : Store κ ν} (h : (keys s).Nodup) :
    (keys (alter k v s)).Nodup := by
  cases v with
  | none => exact h.sublist (List.filter_sublist.map _)
  | some v =>
      induction s with
      | nil => simp [alter, put, keys]
      | cons e s ih =>
          obtain ⟨hnew, hs⟩ := List.nodup_cons.mp h
          show (keys (if e.1 = k then (k, v) :: s else e :: put k v s)).Nodup
          split
          · rename_i hek
            exact List.nodup_cons.mpr ⟨hek ▸ hnew, hs⟩
          · rename_i hek
            refine List.nodup_cons.mpr ⟨?_, ih hs⟩
            intro hmem
            -- The key of `e` is neither `k` nor a key further on.
            rcases mem_keys_alter (v := some v) hmem with heq | hold
            · exact hek heq
            · exact hnew hold

/-- So does serving a list of entries. -/
theorem nodup_keys_serve {es : List ε} {s : Store κ ν} (h : (keys s).Nodup) :
    (keys (serve op key es s).1).Nodup := by
  induction es generalizing s with
  | nil => exact h
  | cons e es ih => exact ih (nodup_keys_alter h)

/-- With distinct keys, looking up a key finds its entry. -/
theorem get_eq_some_iff {k : κ} {v : ν} {s : Store κ ν} (h : (keys s).Nodup) :
    get k s = some v ↔ (k, v) ∈ s := by
  refine ⟨mem_of_get_eq_some, ?_⟩
  intro hmem
  induction s with
  | nil => cases hmem
  | cons e s ih =>
      obtain ⟨hnew, hs⟩ := List.nodup_cons.mp h
      rcases List.mem_cons.mp hmem with rfl | hlater
      · simp [get]
      · have hek : e.1 ≠ k := by
          rintro rfl
          exact hnew (List.mem_map.mpr ⟨_, hlater, rfl⟩)
        rw [get, if_neg hek, ih hs hlater]

/-- A lookup does not depend on the order of the entries when no key occurs twice. -/
theorem get_perm {k : κ} {s s' : Store κ ν} (h : s'.Perm s) (hs : (keys s).Nodup) :
    get k s' = get k s := by
  have hs' : (keys s').Nodup := (h.map Prod.fst).nodup_iff.mpr hs
  ext v
  rw [get_eq_some_iff hs, get_eq_some_iff hs', h.mem_iff]

/-- The keys afterwards are old ones or keys of the entries. -/
theorem mem_keys_serve {es : List ε} {s : Store κ ν} {k : κ}
    (h : k ∈ keys (serve op key es s).1) : k ∈ es.map key ∨ k ∈ keys s := by
  induction es generalizing s with
  | nil => exact Or.inr h
  | cons e es ih =>
      rcases ih h with hlater | hnow
      · exact Or.inl (List.mem_cons_of_mem _ hlater)
      · rcases mem_keys_alter hnow with rfl | hold
        · exact Or.inl List.mem_cons_self
        · exact Or.inr hold

end

end Store

end Kroxy.Lib
