import Mathlib.Data.List.GetD

namespace SharedCells

/-!
# Cells behind pointers

A list of cells is read through positions that several holders may keep.  The
lemmas say what a holder sees after a cell was changed, and when a change of
one cell is a change of what one holder sees.
-/

variable {α β ω : Type}

/-- A changed cell reads as changed, every other cell as before. -/
theorem getD_modify
    {cells : List α}
    {default : α}
    {cell : Nat}
    (allocated : cell < cells.length)
    (change : α → α)
    (other : Nat) :
    (cells.modify cell change).getD other default =
      if other = cell then
        change (cells.getD cell default)
      else
        cells.getD other default := by
  simp only [List.getD_eq_getElem?_getD, List.getElem?_modify]
  by_cases same : cell = other
  · subst other
    simp [List.getElem?_eq_getElem allocated]
  · simp [same, Ne.symm same]

/-- A change that keeps the element at the index keeps the list. -/
theorem modify_eq_self
    {elements : List α}
    {change : α → α}
    {index : Nat}
    (keeps :
      ∀ element,
        elements[index]? = some element → change element = element) :
    elements.modify index change = elements := by
  apply List.ext_getElem?
  intro other
  rw [List.getElem?_modify]
  by_cases same : index = other
  · subst other
    cases present : elements[index]? with
    | none =>
        rfl
    | some element =>
        simp [keeps element present]
  · simp [same]

/-- What is found after something was added was there or is what was added. -/
theorem getElem?_concat_cases
    {elements : List α}
    {added found : α}
    {index : Nat}
    (present : (elements ++ [added])[index]? = some found) :
    elements[index]? = some found ∨
      index = elements.length ∧ found = added := by
  rw [List.getElem?_append] at present
  split at present
  next =>
    exact Or.inl present
  next outside =>
    rw [List.getElem?_singleton] at present
    split at present
    next isFirst =>
      cases present
      exact Or.inr
        ⟨Nat.le_antisymm (Nat.sub_eq_zero_iff_le.mp isFirst)
          (Nat.le_of_not_lt outside), rfl⟩
    next =>
      cases present

/-- Writing what is there already keeps the list. -/
theorem set_eq_self
    {elements : List α}
    {element : α}
    {index : Nat}
    (present : elements[index]? = some element) :
    elements.set index element = elements := by
  obtain ⟨inRange, rfl⟩ := List.getElem?_eq_some_iff.mp present
  exact List.set_getElem_self inRange

/-- When one holder sees a change and the others do not, one view changes. -/
theorem map_eq_modify
    {holders : List ω}
    {before after : ω → β}
    {change : β → β}
    {index : Nat}
    (changed :
      ∀ holder,
        holders[index]? = some holder →
        after holder = change (before holder))
    (unchanged :
      ∀ other holder,
        holders[other]? = some holder →
        other ≠ index →
        after holder = before holder) :
    holders.map after = (holders.map before).modify index change := by
  apply List.ext_getElem?
  intro other
  rw [List.getElem?_modify, List.getElem?_map, List.getElem?_map]
  cases present : holders[other]? with
  | none =>
      rfl
  | some holder =>
      by_cases same : index = other
      · subst other
        simp [changed holder present]
      · simp [same, unchanged other holder present (Ne.symm same)]

end SharedCells
