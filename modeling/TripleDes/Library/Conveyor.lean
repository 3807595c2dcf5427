import Mathlib.Data.List.Basic

/-!
# Conveyors

A row of cells, each empty or holding an item, moves every item one cell
further in each cycle and works on it on the way.  Seen from outside, such a
row is the list of its items, each of them carried on by itself: which cells
are empty, and what an empty cell contains, cannot be seen.
-/

namespace Conveyor

variable {Item : Type*}

/-- The items in the first cells, the one that is farthest on first. -/
def items (cell : Nat → Option Item) : Nat → List Item
  | 0 => []
  | length + 1 => (cell length).toList ++ items cell length

/-- The contents of the cells before and after one cycle in which every item
moves on. -/
structure Moves (length : Nat) (advance : Item → Option Item)
    (entering : Option Item) (cell cell' : Nat → Option Item) : Prop where
  enter : cell' 0 = entering
  shift : ∀ position, position + 1 < length →
    cell' (position + 1) = (cell position).bind advance

/-- Two rows of cells, one behind the other. -/
def joined (length : Nat) (front back : Nat → Option Item) (position : Nat) :
    Option Item :=
  if position < length then front position else back (position - length)

variable {length : Nat} {advance : Item → Option Item}
  {entering : Option Item} {cell cell' : Nat → Option Item}

theorem filterMap_toList (item : Option Item) :
    item.toList.filterMap advance = (item.bind advance).toList := by
  cases item with
  | none => rfl
  | some item => cases moved : advance item <;> simp [moved]

/-- What enters the second row is what leaves the first one. -/
theorem Moves.joined {length' : Nat} {back back' : Nat → Option Item}
    (positive : 0 < length) (front : Moves length advance entering cell cell')
    (rest : Moves length' advance ((cell (length - 1)).bind advance) back
      back') :
    Moves (length + length') advance entering
      (Conveyor.joined length cell back)
      (Conveyor.joined length cell' back') where
  enter := by
    rw [Conveyor.joined, if_pos positive, front.enter]
  shift position bound := by
    unfold Conveyor.joined
    by_cases inside : position + 1 < length
    · rw [if_pos inside, if_pos (by omega), front.shift position inside]
    by_cases crossing : position + 1 = length
    · have last : position = length - 1 := by omega
      rw [if_neg inside, if_pos (by omega), crossing, Nat.sub_self,
        rest.enter, last]
    · have later : position + 1 - length = position - length + 1 := by omega
      rw [if_neg inside, if_neg (by omega), later,
        rest.shift (position - length) (by omega)]

/-- A cycle carries on each item by itself. -/
theorem Moves.items_succ {last : Nat}
    (moves : Moves (last + 1) advance entering cell cell') :
    items cell' (last + 1) =
      (items cell last).filterMap advance ++ entering.toList := by
  induction last with
  | zero => simp [items, moves.enter]
  | succ last ih =>
      have before : Moves (last + 1) advance entering cell cell' :=
        ⟨moves.enter, fun position bound => moves.shift position (by omega)⟩
      rw [items, moves.shift last (by omega), ih before, items,
        List.filterMap_append, filterMap_toList, List.append_assoc]

/-- The item in the last cell leaves the row if it cannot be carried on. -/
theorem Moves.items (positive : 0 < length)
    (moves : Moves length advance entering cell cell')
    (leaves : (cell (length - 1)).bind advance = none) :
    Conveyor.items cell' length =
      (Conveyor.items cell length).filterMap advance ++ entering.toList := by
  obtain ⟨last, rfl⟩ : ∃ last, length = last + 1 := ⟨length - 1, by omega⟩
  rw [Nat.add_sub_cancel] at leaves
  rw [moves.items_succ, Conveyor.items, List.filterMap_append,
    filterMap_toList, leaves]
  rfl

/-- Clearing some of the cells drops their items. -/
theorem items_of_kept {kept : Item → Bool}
    (clears : ∀ position < length,
      cell' position = (cell position).filter kept) :
    items cell' length = (items cell length).filter kept := by
  induction length with
  | zero => rfl
  | succ length ih =>
      rw [items, items, clears length (Nat.lt_succ_self length),
        ih fun position below => clears position (by omega),
        List.filter_append]
      congr 1
      cases cell length with
      | none => rfl
      | some item => cases keep : kept item <;> simp [keep, Option.filter]

theorem findSome?_items {Value : Type*} {shown : Item → Option Value}
    {last : Nat}
    (hidden : ∀ position < last, (cell position).bind shown = none) :
    (items cell (last + 1)).findSome? shown = (cell last).bind shown := by
  have others : (items cell last).findSome? shown = none := by
    induction last with
    | zero => rfl
    | succ last ih =>
        have this := hidden last (Nat.lt_succ_self last)
        rw [items, List.findSome?_append,
          ih fun position below => hidden position (by omega)]
        cases held : cell last with
        | none => rfl
        | some item =>
            rw [held] at this
            simpa using this
  rw [items, List.findSome?_append, others]
  cases cell last with
  | none => rfl
  | some item => cases seen : shown item <;> simp [seen]

theorem any_items {shown : Item → Bool} :
    (items cell length).any shown = true ↔
      ∃ position < length, (cell position).any shown = true := by
  induction length with
  | zero => simp [items]
  | succ length ih =>
      have last : (cell length).toList.any shown = (cell length).any shown := by
        cases cell length <;> simp
      rw [items, List.any_append, Bool.or_eq_true, ih, last]
      constructor
      · rintro (now | ⟨position, below, holds⟩)
        · exact ⟨length, Nat.lt_succ_self length, now⟩
        · exact ⟨position, by omega, holds⟩
      · rintro ⟨position, below, holds⟩
        rcases Nat.lt_or_eq_of_le (Nat.le_of_lt_succ below) with less | rfl
        · exact .inr ⟨position, less, holds⟩
        · exact .inl holds

end Conveyor
