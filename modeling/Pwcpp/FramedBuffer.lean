import Mathlib.Algebra.Order.Ring.Nat
import Mathlib.Data.List.Basic

namespace FramedBuffer

/-!
# A bounded buffer written through nested frames

A writer appends items to a buffer of fixed capacity.  A write that does not
fit records nothing, but still advances the offset and the sizes of all open
frames, so that the offset says how much room the whole output would take.
Closing a frame succeeds only if the frame, as it was counted, fits.

`Appends` is the calculus for such writers: it says what a piece of output adds
to the innermost open frame, and it composes.  `Consistent` is the invariant of
a writer whose items and headers have sizes of their own: the frames count what
they recorded.
-/

/-- One open frame: where it starts, what it has counted and recorded. -/
structure Frame (Head Item : Type) where
  head : Head
  start : Nat
  size : Nat
  items : List Item

/-- The state of a writer; the innermost open frame comes first. -/
structure State (Head Item : Type) where
  capacity : Nat
  offset : Nat
  frames : List (Frame Head Item)

section Operations

variable {Head Item : Type}

namespace Frame

/-- Count `bytes` more bytes in a frame. -/
def grow (bytes : Nat) (frame : Frame Head Item) : Frame Head Item :=
  { frame with size := frame.size + bytes }

/-- Record an item in a frame. -/
def record (item : Item) (frame : Frame Head Item) : Frame Head Item :=
  { frame with items := frame.items ++ [item] }

/-- The frame, as counted, lies inside a buffer of this capacity. -/
def Fits (capacity : Nat) (frame : Frame Head Item) : Prop :=
  frame.start + frame.size ≤ capacity

instance (capacity : Nat) (frame : Frame Head Item) :
    Decidable (frame.Fits capacity) :=
  inferInstanceAs (Decidable (_ ≤ _))

end Frame

namespace State

/-- A write of `bytes` bytes at the current offset lies inside the buffer. -/
def Fits (state : State Head Item) (bytes : Nat) : Prop :=
  state.offset + bytes ≤ state.capacity

instance (state : State Head Item) (bytes : Nat) :
    Decidable (state.Fits bytes) :=
  inferInstanceAs (Decidable (_ ≤ _))

/-- An empty buffer without open frames. -/
def init (capacity : Nat) : State Head Item where
  capacity := capacity
  offset := 0
  frames := []

/-- Record an item in the innermost open frame, if there is one. -/
def record (item : Item) :
    List (Frame Head Item) → List (Frame Head Item)
  | [] =>
      []
  | frame :: outer =>
      frame.record item :: outer

/-- Write an item of `bytes` bytes. -/
def write
    (state : State Head Item)
    (bytes : Nat)
    (item : Item) :
    State Head Item :=
  { state with
    offset := state.offset + bytes
    frames :=
      (if state.Fits bytes then
        record item state.frames
      else
        state.frames).map (Frame.grow bytes) }

/-- Write a header of `bytes` bytes and open a frame that starts with it. -/
def push
    (state : State Head Item)
    (head : Head)
    (bytes : Nat) :
    State Head Item :=
  { state with
    offset := state.offset + bytes
    frames :=
      { head := head, start := state.offset, size := bytes, items := [] } ::
        state.frames.map (Frame.grow bytes) }

/-- Close the innermost frame, recording it in the next one as `item`. -/
def close
    (state : State Head Item)
    (item : Item) :
    State Head Item :=
  { state with frames := record item state.frames.tail }

/-- Close the innermost frame without recording it. -/
def abandon (state : State Head Item) : State Head Item :=
  { state with frames := state.frames.tail }

end State

end Operations

section Appending

variable {Head Item : Type}

/--
From `before` to `after`, `bytes` bytes were output into the innermost open
frame; if all of them fitted, the frame has recorded exactly `added`.
-/
structure Appends
    (bytes : Nat)
    (added : List Item)
    (before after : State Head Item) : Prop where
  capacity :
    after.capacity = before.capacity
  offset :
    after.offset = before.offset + bytes
  frames :
    ∃ frame outer items,
      before.frames = frame :: outer ∧
        after.frames =
          { frame with size := frame.size + bytes, items := items } ::
            outer.map (Frame.grow bytes) ∧
        (after.offset ≤ after.capacity → items = frame.items ++ added)

namespace Appends

/-- Nothing was output. -/
theorem refl
    {state : State Head Item}
    (isOpen : state.frames ≠ []) :
    Appends 0 [] state state := by
  obtain ⟨frame, outer, shape⟩ := List.exists_cons_of_ne_nil isOpen
  refine ⟨rfl, rfl, frame, outer, frame.items, shape, ?_, by simp⟩
  have grown : outer.map (Frame.grow 0) = outer :=
    List.map_id outer
  rw [shape, grown]
  rfl

/-- Output after output appends both. -/
theorem trans
    {firstBytes secondBytes : Nat}
    {firstAdded secondAdded : List Item}
    {before middle after : State Head Item}
    (first : Appends firstBytes firstAdded before middle)
    (second : Appends secondBytes secondAdded middle after) :
    Appends (firstBytes + secondBytes) (firstAdded ++ secondAdded)
      before after := by
  obtain ⟨frame, outer, items, beforeShape, middleShape, recorded⟩ :=
    first.frames
  obtain ⟨frame', outer', items', middleShape', afterShape, recorded'⟩ :=
    second.frames
  rw [middleShape, List.cons.injEq] at middleShape'
  obtain ⟨rfl, rfl⟩ := middleShape'
  refine ⟨second.capacity.trans first.capacity, ?_,
    frame, outer, items', beforeShape, ?_, ?_⟩
  · rw [second.offset, first.offset, Nat.add_assoc]
  · rw [afterShape, List.map_map]
    simp [Frame.grow, Function.comp_def, Nat.add_assoc]
  · intro fits
    have middleFits : middle.offset ≤ middle.capacity := by
      have := second.offset
      have := second.capacity
      omega
    rw [recorded' fits, recorded middleFits, List.append_assoc]

/-- The innermost frame stays open. -/
theorem isOpen
    {bytes : Nat}
    {added : List Item}
    {before after : State Head Item}
    (appends : Appends bytes added before after) :
    after.frames ≠ [] := by
  obtain ⟨frame, outer, items, -, shape, -⟩ := appends.frames
  simp [shape]

/-- One write appends its item. -/
theorem write
    {state : State Head Item}
    (isOpen : state.frames ≠ [])
    (bytes : Nat)
    (item : Item) :
    Appends bytes [item] state (state.write bytes item) := by
  obtain ⟨frame, outer, shape⟩ := List.exists_cons_of_ne_nil isOpen
  by_cases fits : state.Fits bytes
  · refine ⟨rfl, rfl, frame, outer, frame.items ++ [item], shape, ?_,
      fun _ => rfl⟩
    simp [State.write, fits, shape, State.record, Frame.record, Frame.grow]
  · refine ⟨rfl, rfl, frame, outer, frame.items, shape, ?_, ?_⟩
    · simp [State.write, fits, shape, Frame.grow]
    · intro afterFits
      exact (fits afterFits).elim

/-- Right after a frame was pushed, it is innermost and fits iff it fitted. -/
theorem frame_of_push
    {state closing : State Head Item}
    {head : Head}
    {headerBytes bytes : Nat}
    {added : List Item}
    (inside : Appends bytes added (state.push head headerBytes) closing) :
    ∃ items,
      closing.frames =
          { head := head
            start := state.offset
            size := headerBytes + bytes
            items := items } ::
            state.frames.map (Frame.grow (headerBytes + bytes)) ∧
        closing.capacity = state.capacity ∧
        closing.offset = state.offset + (headerBytes + bytes) ∧
        (closing.offset ≤ closing.capacity → items = added) := by
  obtain ⟨frame, outer, items, beforeShape, afterShape, recorded⟩ :=
    inside.frames
  rw [State.push, List.cons.injEq] at beforeShape
  obtain ⟨rfl, rfl⟩ := beforeShape
  refine ⟨items, ?_, inside.capacity, ?_, ?_⟩
  · rw [afterShape, List.map_map]
    simp [Frame.grow, Function.comp_def, Nat.add_assoc]
  · rw [inside.offset]
    simp [State.push, Nat.add_assoc]
  · intro fits
    simpa using recorded fits

/-- A frame that was pushed first is the only one and starts the buffer. -/
theorem frame_of_init
    {capacity headerBytes bytes : Nat}
    {head : Head}
    {added : List Item}
    {closing : State Head Item}
    (inside :
      Appends bytes added
        ((State.init capacity).push head headerBytes) closing) :
    ∃ frame,
      closing.frames = [frame] ∧
        frame.start = 0 ∧
        frame.size = headerBytes + bytes := by
  obtain ⟨items, frames, -⟩ := frame_of_push inside
  exact ⟨_, frames, rfl, rfl⟩

/--
A frame that was pushed, filled and closed appends one item to the frame
around it.
-/
theorem close
    {state closing : State Head Item}
    {head : Head}
    {headerBytes bytes : Nat}
    {added : List Item}
    (isOpen : state.frames ≠ [])
    (inside : Appends bytes added (state.push head headerBytes) closing)
    (item : Item) :
    Appends (headerBytes + bytes) [item] state (closing.close item) := by
  obtain ⟨frame, outer, shape⟩ := List.exists_cons_of_ne_nil isOpen
  obtain ⟨items, framesShape, capacity, offset, -⟩ := frame_of_push inside
  refine ⟨capacity, offset, frame, outer, frame.items ++ [item], shape, ?_,
    fun _ => rfl⟩
  simp [State.close, framesShape, shape, State.record, Frame.record,
    Frame.grow]

/-- A frame that was pushed, filled and abandoned did not fit. -/
theorem abandon
    {state closing : State Head Item}
    {head : Head}
    {headerBytes bytes : Nat}
    {added : List Item}
    (isOpen : state.frames ≠ [])
    (inside : Appends bytes added (state.push head headerBytes) closing)
    (overflows : ¬ closing.offset ≤ closing.capacity)
    (items : List Item) :
    Appends (headerBytes + bytes) items state closing.abandon := by
  obtain ⟨frame, outer, shape⟩ := List.exists_cons_of_ne_nil isOpen
  obtain ⟨_, framesShape, capacity, offset, -⟩ := frame_of_push inside
  refine ⟨capacity, offset, frame, outer, frame.items, shape, ?_,
    fun fits => (overflows fits).elim⟩
  simp [State.abandon, framesShape, shape, Frame.grow]

end Appends

end Appending

section Counting

variable
  {Head Item : Type}
  {headBytes : Head → Nat}
  {itemBytes : Item → Nat}
  {state : State Head Item}

/-- The bytes of a frame's header and of the items that it recorded. -/
def Frame.recordedBytes
    (headBytes : Head → Nat)
    (itemBytes : Item → Nat)
    (frame : Frame Head Item) :
    Nat :=
  headBytes frame.head + (frame.items.map itemBytes).sum

/-- Every frame counts what it recorded and the frame that is open in it. -/
def Counted
    (headBytes : Head → Nat)
    (itemBytes : Item → Nat) :
    Nat → List (Frame Head Item) → Prop
  | _, [] =>
      True
  | inner, frame :: outer =>
      frame.size = frame.recordedBytes headBytes itemBytes + inner ∧
        Counted headBytes itemBytes frame.size outer

/-- Every open frame reaches to the offset. -/
def Reach (offset : Nat) (frames : List (Frame Head Item)) : Prop :=
  ∀ frame ∈ frames, frame.start + frame.size = offset

/--
Every open frame reaches to the offset, and as long as all output fitted it
counts exactly the bytes that were recorded in it.
-/
structure Consistent
    (headBytes : Head → Nat)
    (itemBytes : Item → Nat)
    (state : State Head Item) : Prop where
  reach :
    Reach state.offset state.frames
  counted :
    state.offset ≤ state.capacity →
      Counted headBytes itemBytes 0 state.frames

/-- Frames that grow reach as far as the offset does then. -/
theorem Reach.grow
    {offset : Nat}
    {frames : List (Frame Head Item)}
    (reach : Reach offset frames)
    (bytes : Nat) :
    Reach (offset + bytes) (frames.map (Frame.grow bytes)) := by
  intro grown member
  obtain ⟨frame, isOpen, rfl⟩ := List.mem_map.mp member
  change frame.start + (frame.size + bytes) = offset + bytes
  rw [← Nat.add_assoc, reach frame isOpen]

/-- Recording moves no frame. -/
theorem Reach.record
    {offset : Nat}
    {frames : List (Frame Head Item)}
    (reach : Reach offset frames)
    (item : Item) :
    Reach offset (State.record item frames) := by
  cases frames with
  | nil =>
      exact reach
  | cons innermost outer =>
      intro frame member
      rcases List.mem_cons.mp member with rfl | isOuter
      · exact reach innermost List.mem_cons_self
      · exact reach frame (List.mem_cons_of_mem _ isOuter)

/-- Frames around the innermost one reach as far. -/
theorem Reach.tail
    {offset : Nat}
    {frames : List (Frame Head Item)}
    (reach : Reach offset frames) :
    Reach offset frames.tail :=
  fun frame member => reach frame (List.mem_of_mem_tail member)

/-- What grows inside of open frames makes all of them grow. -/
theorem Counted.grow
    {inner : Nat}
    {frames : List (Frame Head Item)}
    (counted : Counted headBytes itemBytes inner frames)
    (bytes : Nat) :
    Counted headBytes itemBytes (inner + bytes)
      (frames.map (Frame.grow bytes)) := by
  induction frames generalizing inner with
  | nil =>
      trivial
  | cons frame outer inductionHypothesis =>
      obtain ⟨count, outerCounted⟩ := counted
      refine ⟨?_, inductionHypothesis outerCounted⟩
      change frame.size + bytes =
        frame.recordedBytes headBytes itemBytes + (inner + bytes)
      rw [count, Nat.add_assoc]

/-- The item that fills the room of the frame open inside is recorded. -/
theorem Counted.record
    {item : Item}
    {frames : List (Frame Head Item)}
    (counted : Counted headBytes itemBytes (itemBytes item) frames) :
    Counted headBytes itemBytes 0 (State.record item frames) := by
  cases frames with
  | nil =>
      trivial
  | cons frame outer =>
      obtain ⟨count, outerCounted⟩ := counted
      refine ⟨?_, outerCounted⟩
      rw [Frame.recordedBytes, Frame.record, List.map_append,
        List.sum_append, List.map_singleton, List.sum_singleton,
        ← Nat.add_assoc]
      exact count

namespace Consistent

/-- An empty buffer is consistent. -/
theorem init (capacity : Nat) :
    Consistent headBytes itemBytes (State.init capacity) where
  reach _ member :=
    (List.not_mem_nil member).elim
  counted _ :=
    trivial

/-- Writing an item of its own size keeps the buffer consistent. -/
theorem write
    (consistent : Consistent headBytes itemBytes state)
    (item : Item) :
    Consistent headBytes itemBytes (state.write (itemBytes item) item) := by
  by_cases fits : state.Fits (itemBytes item)
  · have frames :
        (state.write (itemBytes item) item).frames =
          State.record item
            (state.frames.map (Frame.grow (itemBytes item))) := by
      rw [State.write, if_pos fits]
      cases state.frames <;> rfl
    have grown :=
      (consistent.counted (Nat.le_of_add_right_le fits)).grow
        (itemBytes item)
    rw [Nat.zero_add] at grown
    constructor
    · rw [frames]
      exact (consistent.reach.grow _).record item
    · intro _
      rw [frames]
      exact grown.record
  · have frames :
        (state.write (itemBytes item) item).frames =
          state.frames.map (Frame.grow (itemBytes item)) := by
      rw [State.write, if_neg fits]
    constructor
    · rw [frames]
      exact consistent.reach.grow _
    · intro afterFits
      exact (fits afterFits).elim

/-- Opening a frame by its header keeps the buffer consistent. -/
theorem push
    (consistent : Consistent headBytes itemBytes state)
    (head : Head) :
    Consistent headBytes itemBytes
      (state.push head (headBytes head)) := by
  constructor
  · intro frame member
    rcases List.mem_cons.mp member with rfl | isOuter
    · rfl
    · exact consistent.reach.grow _ frame isOuter
  · intro fits
    have grown :=
      (consistent.counted (Nat.le_of_add_right_le fits)).grow
        (headBytes head)
    rw [Nat.zero_add] at grown
    exact ⟨rfl, grown⟩

/-- A frame that fits counts exactly what was recorded in it. -/
theorem size_eq
    (consistent : Consistent headBytes itemBytes state)
    {frame : Frame Head Item}
    {outer : List (Frame Head Item)}
    (shape : state.frames = frame :: outer)
    (fits : frame.Fits state.capacity) :
    frame.size = frame.recordedBytes headBytes itemBytes ∧
      Counted headBytes itemBytes frame.size outer := by
  have reaches :=
    consistent.reach frame (shape ▸ List.mem_cons_self)
  rw [Frame.Fits, reaches] at fits
  have counted := consistent.counted fits
  rw [shape] at counted
  exact counted

/-- Closing a frame as an item of its size keeps the buffer consistent. -/
theorem close
    (consistent : Consistent headBytes itemBytes state)
    {frame : Frame Head Item}
    {outer : List (Frame Head Item)}
    (shape : state.frames = frame :: outer)
    (fits : frame.Fits state.capacity)
    {item : Item}
    (same : itemBytes item = frame.size) :
    Consistent headBytes itemBytes (state.close item) := by
  obtain ⟨-, outerCounted⟩ := consistent.size_eq shape fits
  constructor
  · exact consistent.reach.tail.record item
  · intro _
    rw [← same] at outerCounted
    rw [State.close, shape]
    exact outerCounted.record

/-- Abandoning a frame that does not fit keeps the buffer consistent. -/
theorem abandon
    (consistent : Consistent headBytes itemBytes state)
    {frame : Frame Head Item}
    {outer : List (Frame Head Item)}
    (shape : state.frames = frame :: outer)
    (overflows : ¬ frame.Fits state.capacity) :
    Consistent headBytes itemBytes state.abandon := by
  have reaches :=
    consistent.reach frame (shape ▸ List.mem_cons_self)
  rw [Frame.Fits, reaches] at overflows
  constructor
  · exact consistent.reach.tail
  · intro fits
    exact (overflows fits).elim

end Consistent

end Counting

end FramedBuffer
