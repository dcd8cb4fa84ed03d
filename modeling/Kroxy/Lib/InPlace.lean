import Mathlib.Data.List.Basic

/-!
# `Kroxy.Lib.InPlace`: loops that overwrite the array they read

A slice is the front of an array. Two common loops over a slice write to the array while
they read it.

* The update loop replaces each element by a function of it (`updateLoop`).
* The filter loop appends the elements it keeps, possibly changed, to an empty slice of the
  same array (`filterLoop`). An append writes into the array as long as there is room. From
  then on it goes to an array of its own.

`updateLoop_eq_map` and `filterLoop_eq_filterMap` say that both compute what the same loop
over an untouched copy would. For the filter loop the reason is the invariant `Filtering`: the
loop has never written to a cell it has not read yet.
-/

set_option autoImplicit false

namespace Kroxy.Lib

variable {α : Type}

/-! ### Slices -/

/-- The first `len` cells of an array. The cells behind them are spare. -/
structure Slice (α : Type) where
  cells : List α
  len : Nat
  len_le : len ≤ cells.length

/-- A slice with the given elements and spare cells. -/
def Slice.ofList (xs spare : List α) : Slice α where
  cells := xs ++ spare
  len := xs.length
  len_le := by simp

/-- The elements of a slice. -/
def Slice.items (s : Slice α) : List α := s.cells.take s.len

/-- The spare cells are no items. -/
@[simp] theorem Slice.items_ofList (xs spare : List α) : (Slice.ofList xs spare).items = xs :=
  List.take_left

/-! ### The update loop -/

/-- `for i := range xs { xs[i] = g(xs[i]) }` -/
def updateLoop (g : α → α) (xs : List α) : List α :=
  (List.range xs.length).foldl (fun cells i => cells.modify i g) xs

/-- After `i` iterations the first `i` cells are updated and the others are as they were. -/
theorem foldl_modify_range (g : α → α) (xs : List α) {i : Nat} (hi : i ≤ xs.length) :
    (List.range i).foldl (fun cells i => cells.modify i g) xs =
      (xs.take i).map g ++ xs.drop i := by
  induction i with
  | zero => simp
  | succ i ih =>
      have hlen : ((xs.take i).map g).length = i := by
        rw [List.length_map, List.length_take]
        omega
      have hdrop : xs.drop i = xs[i] :: xs.drop (i + 1) := List.drop_eq_getElem_cons hi
      have htake : xs.take (i + 1) = xs.take i ++ [xs[i]] := List.take_succ_eq_append_getElem hi
      rw [List.range_succ, List.foldl_append, ih (Nat.le_of_succ_le hi), List.foldl_cons,
        List.foldl_nil, hdrop, htake]
      rw [List.modify_eq_take_drop, List.take_left' hlen, List.drop_left' hlen,
        List.modifyHead_cons, List.map_append, List.append_assoc]
      rfl

/-- The update loop is a map. -/
theorem updateLoop_eq_map (g : α → α) (xs : List α) : updateLoop g xs = xs.map g := by
  rw [updateLoop, foldl_modify_range g xs (Nat.le_refl _)]
  simp

/-! ### The filter loop -/

/-- What a loop appends to: the front of the array it reads, or an array of its own. -/
inductive Dest (α : Type) where
  | front (len : Nat)
  | own (items : List α)

/-- The array and the slice that is appended to. -/
structure LoopState (α : Type) where
  cells : List α
  dest : Dest α

/-- The elements appended so far. -/
def LoopState.items (s : LoopState α) : List α :=
  match s.dest with
  | .front n => s.cells.take n
  | .own xs => xs

/-- `out = append(out, y)` -/
def LoopState.append (s : LoopState α) (y : α) : LoopState α :=
  match s.dest with
  | .front n =>
      if n < s.cells.length then { cells := s.cells.set n y, dest := .front (n + 1) }
      -- No room: the elements move to a new array.
      else { s with dest := .own (s.cells.take n ++ [y]) }
  | .own xs => { s with dest := .own (xs ++ [y]) }

/-- One iteration: read the cell `i` as it is now, and append what `f` makes of it. -/
def filterStep (f : α → Option α) (s : LoopState α) (i : Nat) : LoopState α :=
  match s.cells[i]? with
  | none => s
  | some x =>
      match f x with
      | none => s
      | some y => s.append y

/-- `out := xs[:0]; for _, x := range xs { if keep { out = append(out, y) } }`. The range is
over the elements the slice had at the start. -/
def filterLoop (f : α → Option α) (xs : Slice α) : List α :=
  ((List.range xs.len).foldl (filterStep f) { cells := xs.cells, dest := .front 0 }).items

/-- The invariant after `i` iterations: at most `i` cells are written, they hold what was kept
of the first `i` elements, and the cells from `i` on are as they were. -/
structure Filtering (f : α → Option α) (cells : List α) (i : Nat) (s : LoopState α) : Prop where
  length : s.cells.length = cells.length
  unread : s.cells.drop i = cells.drop i
  written : ∃ w ≤ i, s.dest = .front w ∧ s.cells.take w = (cells.take i).filterMap f

/-- Nothing has been looked at. -/
theorem Filtering.start (f : α → Option α) (cells : List α) :
    Filtering f cells 0 { cells, dest := .front 0 } :=
  ⟨rfl, rfl, 0, Nat.le_refl 0, rfl, by simp⟩

/-- Writing the cell behind the first `w`. -/
theorem take_succ_set {xs : List α} {w : Nat} (hw : w < xs.length) (y : α) :
    (xs.set w y).take (w + 1) = xs.take w ++ [y] := by
  have hlen : (xs.take w).length = w := List.length_take_of_le (Nat.le_of_lt hw)
  rw [List.set_eq_take_append_cons_drop, if_pos hw, List.take_append, hlen,
    List.take_of_length_le (by omega), Nat.add_sub_cancel_left]
  rfl

/-- An iteration keeps the invariant: it reads the element that was there at the start, and
writes at or before the cell it read. -/
theorem Filtering.step {f : α → Option α} {cells : List α} {i : Nat} {s : LoopState α}
    (h : Filtering f cells i s) (hi : i < cells.length) :
    Filtering f cells (i + 1) (filterStep f s i) := by
  obtain ⟨w, hw, hdest, htake⟩ := h.written
  have hread : s.cells[i]? = some cells[i] := by
    rw [← List.head?_drop, h.unread, List.head?_drop, List.getElem?_eq_getElem hi]
  have hrest : s.cells.drop (i + 1) = cells.drop (i + 1) := by
    rw [← List.drop_drop, h.unread, List.drop_drop]
  have hsucc : cells.take (i + 1) = cells.take i ++ [cells[i]] :=
    List.take_succ_eq_append_getElem hi
  cases hkeep : f cells[i] with
  | none =>
      have hskip : filterStep f s i = s := by simp only [filterStep, hread, hkeep]
      rw [hskip]
      refine ⟨h.length, hrest, w, by omega, hdest, ?_⟩
      rw [hsucc, List.filterMap_append, htake]
      simp [hkeep]
  | some y =>
      have hroom : w < s.cells.length := by
        rw [h.length]
        omega
      have happend : filterStep f s i =
          { cells := s.cells.set w y, dest := .front (w + 1) } := by
        simp only [filterStep, hread, hkeep, LoopState.append, hdest, if_pos hroom]
      rw [happend]
      refine ⟨?_, ?_, w + 1, by omega, rfl, ?_⟩
      · rw [List.length_set, h.length]
      · rw [List.drop_set_of_lt (by omega), hrest]
      · rw [take_succ_set hroom, hsucc, List.filterMap_append, htake]
        simp [hkeep]

/-- The invariant after any number of steps. -/
theorem Filtering.run (f : α → Option α) (cells : List α) {i : Nat} (hi : i ≤ cells.length) :
    Filtering f cells i
      ((List.range i).foldl (filterStep f) { cells, dest := .front 0 }) := by
  induction i with
  | zero => exact Filtering.start f cells
  | succ i ih =>
      rw [List.range_succ, List.foldl_append]
      exact (ih (Nat.le_of_succ_le hi)).step hi

/-- The filter loop keeps what a filter of the elements at the start keeps. -/
theorem filterLoop_eq_filterMap (f : α → Option α) (xs : Slice α) :
    filterLoop f xs = xs.items.filterMap f := by
  obtain ⟨w, -, hdest, htake⟩ := (Filtering.run f xs.cells xs.len_le).written
  rw [filterLoop, LoopState.items, hdest]
  exact htake

end Kroxy.Lib
