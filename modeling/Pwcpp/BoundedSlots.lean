import Mathlib.Data.List.Basic

namespace BoundedSlots

/-!
# Filling a bounded array of optional slots

A loop reads inputs in order, keeps the ones that an extraction function
accepts and stores them in a fixed number of slots from the front.

* `ofList` is the array that holds a list from slot 0 on, and `Filled` says
  slot by slot that an array holds a list and nothing else.
* `remaining` is what is left of the inputs once a number of them were
  accepted; whether it is empty, and whether it still holds an acceptable
  input, are the two ways to ask whether the slots were enough.
-/

section Slots

variable {α : Type}

/-- Slot `k` holds item `k` of the list; slots past its end are empty. -/
def ofList (capacity : Nat) (items : List α) :
    Vector (Option α) capacity :=
  Vector.ofFn fun slot => items[slot.val]?

@[simp] theorem getElem_ofList
    {capacity : Nat}
    {items : List α}
    {slot : Nat}
    (inBounds : slot < capacity) :
    (ofList capacity items)[slot] = items[slot]? := by
  simp [ofList]

/-- No item leaves every slot empty. -/
theorem ofList_nil (capacity : Nat) :
    ofList capacity ([] : List α) = Vector.replicate capacity none := by
  ext slot inBounds : 1
  simp [ofList]

/-- Storing one more item right after the others. -/
theorem ofList_push
    (capacity : Nat)
    (items : List α)
    (item : α) :
    (ofList capacity items).setIfInBounds items.length (some item) =
      ofList capacity (items ++ [item]) := by
  ext slot inBounds : 1
  rw [Vector.getElem_setIfInBounds inBounds, getElem_ofList, getElem_ofList]
  rcases Nat.lt_trichotomy slot items.length with before | at_ | after
  · rw [if_neg (by omega), List.getElem?_append_left before]
  · simp [at_]
  · rw [if_neg (by omega), List.getElem?_eq_none (by omega),
      List.getElem?_eq_none (by simp; omega)]

/-- Arrays of the same size agree exactly when the lists do up to that size. -/
theorem ofList_inj
    {capacity : Nat}
    {first second : List α}
    (firstFits : first.length ≤ capacity)
    (secondFits : second.length ≤ capacity) :
    ofList capacity first = ofList capacity second ↔ first = second := by
  constructor
  · intro same
    apply List.ext_getElem?
    intro slot
    by_cases inBounds : slot < capacity
    · have := congrArg (fun slots => slots[slot]) same
      simpa using this
    · rw [List.getElem?_eq_none (by omega),
        List.getElem?_eq_none (by omega)]
  · rintro rfl
    rfl

/-- The array holds the items in its first slots, in order, and nothing else. -/
structure Filled
    {capacity : Nat}
    (items : List α)
    (slots : Vector (Option α) capacity) : Prop where
  fits :
    items.length ≤ capacity
  stored :
    ∀ (slot : Nat) (isItem : slot < items.length),
      slots[slot]? = some (some items[slot])
  empty :
    ∀ slot,
      items.length ≤ slot →
      slot < capacity →
      slots[slot]? = some none

/-- An array that holds a list is filled with it. -/
theorem filled_ofList
    {capacity : Nat}
    {items : List α}
    (fits : items.length ≤ capacity) :
    Filled items (ofList capacity items) where
  fits := fits
  stored := by
    intro slot isItem
    have inBounds : slot < capacity := Nat.lt_of_lt_of_le isItem fits
    rw [Vector.getElem?_eq_getElem inBounds, getElem_ofList,
      List.getElem?_eq_getElem isItem]
  empty := by
    intro slot pastEnd inBounds
    rw [Vector.getElem?_eq_getElem inBounds, getElem_ofList,
      List.getElem?_eq_none pastEnd]

end Slots

section Remaining

variable {α β : Type}

/-- The inputs after the first `count` accepted ones. -/
def remaining (extract : α → Option β) : Nat → List α → List α
  | 0, inputs =>
      inputs
  | _ + 1, [] =>
      []
  | count + 1, input :: rest =>
      match extract input with
      | some _ =>
          remaining extract count rest
      | none =>
          remaining extract (count + 1) rest

/-- Accepted inputs are left over exactly when there are too many of them. -/
theorem any_remaining_iff
    (extract : α → Option β)
    (count : Nat)
    (inputs : List α) :
    (remaining extract count inputs).any (fun input => (extract input).isSome) =
        true ↔
      count < (inputs.filterMap extract).length := by
  induction inputs generalizing count with
  | nil =>
      cases count <;> simp [remaining]
  | cons input rest inductionHypothesis =>
      cases count with
      | zero =>
          have restZero := inductionHypothesis 0
          simp only [remaining] at restZero ⊢
          cases extracts : extract input with
          | none =>
              simp [extracts, restZero]
          | some item =>
              simp [extracts]
      | succ count =>
          cases extracts : extract input with
          | none =>
              simpa [remaining, extracts] using
                inductionHypothesis (count + 1)
          | some item =>
              simpa [remaining, extracts] using
                inductionHypothesis count

/-- When nothing is left over, the slots were enough. -/
theorem length_le_of_remaining_eq_nil
    {extract : α → Option β}
    {count : Nat}
    {inputs : List α}
    (noneLeft : remaining extract count inputs = []) :
    (inputs.filterMap extract).length ≤ count := by
  apply Nat.le_of_not_lt
  intro tooMany
  have someLeft := (any_remaining_iff extract count inputs).mpr tooMany
  rw [noneLeft] at someLeft
  exact Bool.noConfusion someLeft

/-- Once every input is accepted, what is left over was accepted too. -/
theorem remaining_filter
    (extract : α → Option β)
    (count : Nat)
    (inputs : List α) :
    remaining extract count
        (inputs.filter fun input => (extract input).isSome) =
      (remaining extract count inputs).filter
        fun input => (extract input).isSome := by
  induction inputs generalizing count with
  | nil =>
      cases count <;> simp [remaining]
  | cons input rest inductionHypothesis =>
      cases count with
      | zero =>
          simp [remaining]
      | succ count =>
          cases extracts : extract input with
          | none =>
              simpa [remaining, extracts] using
                inductionHypothesis (count + 1)
          | some item =>
              simpa [remaining, extracts] using
                inductionHypothesis count

end Remaining

end BoundedSlots
