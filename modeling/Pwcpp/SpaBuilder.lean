import Pwcpp.FramedBuffer
import Pwcpp.SpaPod

namespace Pwcpp

/-!
# Writing SPA pods

The pod builder is a parameter as well.  What the code relies on is stated in
`BuilderContract`: through an abstraction function `view`, every builder call
acts on a `FramedBuffer` of the builder's size.  A call whose bytes do not fit
writes nothing, returns a negative code and still advances the offset and the
sizes of the open frames; `spa_pod_builder_pop` returns null when its frame
does not fit and the finished pod otherwise.

The offset of a builder is a 32-bit number, so nothing is assumed of a call
that would move it to `2 ^ 32` or beyond.
-/

/-- The kinds of frames the code opens. -/
inductive PodFrame where
  | struct
  | object (type id : UInt32)
  deriving Repr, DecidableEq

/-- What a frame records: property headers and whole pods. -/
inductive PodItem (Pod : Type) where
  | prop (key flags : UInt32)
  | pod (pod : Pod)

/-- The SPA functions that build pods; each returns the builder and a code. -/
structure Spa (Pod Builder : Type) extends PodReader Pod where
  spaPodBuilderInit : UInt32 → Builder
  /-- `spa_pod_builder_push_object(builder, &frame, type, id)` -/
  spaPodBuilderPushObject : Builder → UInt32 → UInt32 → Builder × Int
  /-- `spa_pod_builder_push_struct(builder, &frame)` -/
  spaPodBuilderPushStruct : Builder → Builder × Int
  /-- `spa_pod_builder_pop(builder, &frame)` of the frame opened last -/
  spaPodBuilderPop : Builder → Builder × Option Pod
  spaPodBuilderProp : Builder → UInt32 → UInt32 → Builder × Int
  spaPodBuilderNone : Builder → Builder × Int
  spaPodBuilderBool : Builder → Bool → Builder × Int
  spaPodBuilderInt : Builder → Int32 → Builder × Int
  spaPodBuilderLong : Builder → Int64 → Builder × Int
  spaPodBuilderFloat : Builder → UInt32 → Builder × Int
  spaPodBuilderDouble : Builder → UInt64 → Builder × Int
  /-- Takes the C string, that is, the bytes before the first NUL. -/
  spaPodBuilderString : Builder → List UInt8 → Builder × Int

/-- What a builder has written, seen as a framed buffer. -/
abbrev BuilderView (Pod Builder : Type) :=
  Builder → FramedBuffer.State PodFrame (PodItem Pod)

/-- The pods a struct frame recorded. -/
def podsOf : List (PodItem Pod) → List Pod
  | [] =>
      []
  | .pod pod :: rest =>
      pod :: podsOf rest
  | .prop _ _ :: rest =>
      podsOf rest

/-- The properties an object frame recorded: each header with its value. -/
def propsOf : List (PodItem Pod) → List (PodProp Pod)
  | .prop key flags :: .pod pod :: rest =>
      { key := key, flags := flags, value := pod } :: propsOf rest
  | _ =>
      []

@[simp] theorem podsOf_map_pod (pods : List Pod) :
    podsOf (pods.map PodItem.pod) = pods := by
  induction pods with
  | nil =>
      rfl
  | cons pod rest inductionHypothesis =>
      simp [podsOf, inductionHypothesis]

namespace Spa

variable {Pod Builder : Type}

/--
The pod has the type of a frame, takes the bytes that the frame counted and
has, as content, what the frame recorded.
-/
def IsFrame
    (spa : Spa Pod Builder)
    (pod : Pod)
    (bytes : Nat)
    (items : List (PodItem Pod)) :
    PodFrame → Prop
  | .struct =>
      8 + (spa.spaPodBodySize pod).toNat = bytes ∧
        spa.spaPodType pod = .struct ∧
        spa.spaPodStructForeach pod = podsOf items
  | .object type id =>
      8 + (spa.spaPodBodySize pod).toNat = bytes ∧
        spa.spaPodType pod = .object ∧
        spa.spaPodObjectType pod = type ∧
        spa.spaPodObjectId pod = id ∧
        spa.spaPodObjectForeach pod = propsOf items

/-- A negative code is returned exactly when the bytes do not fit. -/
def ReportsFit
    (view : BuilderView Pod Builder)
    (before : Builder)
    (bytes : Nat)
    (code : Int) : Prop :=
  (view before).offset + bytes < 2 ^ 32 →
    (code < 0 ↔ ¬ (view before).Fits bytes)

/-- The call wrote one pod holding `value`. -/
structure WritesPod
    (spa : Spa Pod Builder)
    (view : BuilderView Pod Builder)
    (before : Builder)
    (result : Builder × Int)
    (value : SpaValue) : Prop where
  reports :
    ReportsFit view before value.podSize result.2
  writes :
    (view before).offset + value.podSize < 2 ^ 32 →
      ∃ pod, spa.Holds pod value ∧
        view result.1 =
          (view before).write value.podSize (.pod pod)

/-- The call wrote the header of a frame and opened it. -/
structure OpensFrame
    (view : BuilderView Pod Builder)
    (before : Builder)
    (result : Builder × Int)
    (head : PodFrame)
    (bytes : Nat) : Prop where
  reports :
    ReportsFit view before bytes result.2
  opens :
    (view before).offset + bytes < 2 ^ 32 →
      view result.1 = (view before).push head bytes

/-- The call closed the innermost frame: null if it does not fit. -/
def ClosesFrame
    (spa : Spa Pod Builder)
    (view : BuilderView Pod Builder)
    (before : Builder)
    (result : Builder × Option Pod) : Prop :=
  ∀ frame outer,
    (view before).frames = frame :: outer →
    if frame.Fits (view before).capacity then
      ∃ pod, result.2 = some pod ∧
        spa.IsFrame pod frame.size frame.items frame.head ∧
        view result.1 = (view before).close (.pod pod)
    else
      result.2 = none ∧ view result.1 = (view before).abandon

end Spa

/-- The documented behaviour of the builder that the code relies on. -/
structure BuilderContract
    {Pod Builder : Type}
    (spa : Spa Pod Builder)
    (view : BuilderView Pod Builder) : Prop where
  capacity_lt :
    ∀ builder, (view builder).capacity < 2 ^ 32
  init :
    ∀ size,
      view (spa.spaPodBuilderInit size) =
        FramedBuffer.State.init size.toNat
  pushObject :
    ∀ builder type id,
      Spa.OpensFrame view builder
        (spa.spaPodBuilderPushObject builder type id)
        (.object type id) 16
  pushStruct :
    ∀ builder,
      Spa.OpensFrame view builder
        (spa.spaPodBuilderPushStruct builder) .struct 8
  pop :
    ∀ builder,
      spa.ClosesFrame view builder (spa.spaPodBuilderPop builder)
  prop_reports :
    ∀ builder key flags,
      Spa.ReportsFit view builder 8
        (spa.spaPodBuilderProp builder key flags).2
  prop_writes :
    ∀ builder key flags,
      (view builder).offset + 8 < 2 ^ 32 →
        view (spa.spaPodBuilderProp builder key flags).1 =
          (view builder).write 8 (.prop key flags)
  none :
    ∀ builder,
      spa.WritesPod view builder (spa.spaPodBuilderNone builder) .none
  bool :
    ∀ builder value,
      spa.WritesPod view builder
        (spa.spaPodBuilderBool builder value) (.bool value)
  int :
    ∀ builder value,
      spa.WritesPod view builder
        (spa.spaPodBuilderInt builder value) (.int value)
  long :
    ∀ builder value,
      spa.WritesPod view builder
        (spa.spaPodBuilderLong builder value) (.long value)
  float :
    ∀ builder bits,
      spa.WritesPod view builder
        (spa.spaPodBuilderFloat builder bits) (.float bits)
  double :
    ∀ builder bits,
      spa.WritesPod view builder
        (spa.spaPodBuilderDouble builder bits) (.double bits)
  string :
    ∀ builder chars,
      spa.WritesPod view builder
        (spa.spaPodBuilderString builder chars) (.string chars)

namespace Spa

open FramedBuffer

variable {Pod Builder : Type}
  {spa : Spa Pod Builder}
  {view : BuilderView Pod Builder}

/-- A written pod is appended to the innermost frame. -/
theorem WritesPod.appends
    {before : Builder}
    {result : Builder × Int}
    {value : SpaValue}
    (writes : spa.WritesPod view before result value)
    (isOpen : (view before).frames ≠ [])
    (bounded : (view before).offset + value.podSize < 2 ^ 32) :
    ∃ pod, spa.Holds pod value ∧
      Appends value.podSize [.pod pod] (view before) (view result.1) := by
  obtain ⟨pod, holds, written⟩ := writes.writes bounded
  rw [written]
  exact ⟨pod, holds, Appends.write isOpen _ _⟩

section Frames

variable
  {opening : State PodFrame (PodItem Pod)}
  {filled : Builder}
  {result : Builder × Option Pod}
  {head : PodFrame}
  {headerBytes bytes : Nat}
  {added : List (PodItem Pod)}

/--
Closing a frame after everything inside it was output gives a pod with exactly
the added items if all of it fitted, and null otherwise.
-/
theorem ClosesFrame.of_inside
    (closes : spa.ClosesFrame view filled result)
    (inside : Appends bytes added (opening.push head headerBytes) (view filled)) :
    if opening.offset + (headerBytes + bytes) ≤ opening.capacity then
      ∃ pod, result.2 = some pod ∧
        spa.IsFrame pod (headerBytes + bytes) added head ∧
        view result.1 = (view filled).close (.pod pod)
    else
      result.2 = none ∧ view result.1 = (view filled).abandon := by
  obtain ⟨items, framesShape, capacity, offset, recorded⟩ :=
    Appends.frame_of_push inside
  have closed := closes _ _ framesShape
  rw [offset, capacity] at recorded
  by_cases fits :
      opening.offset + (headerBytes + bytes) ≤ opening.capacity
  · rw [recorded fits] at closed
    rw [if_pos fits]
    rwa [if_pos (by simpa [Frame.Fits, capacity] using fits)] at closed
  · rw [if_neg fits]
    rwa [if_neg (by simpa [Frame.Fits, capacity] using fits)] at closed

/-- A frame that was opened, filled and closed appends its pod, if it fits. -/
theorem ClosesFrame.appends
    (closes : spa.ClosesFrame view filled result)
    (isOpen : opening.frames ≠ [])
    (inside : Appends bytes added (opening.push head headerBytes) (view filled)) :
    ∃ items,
      Appends (headerBytes + bytes) items opening (view result.1) ∧
        (opening.offset + (headerBytes + bytes) ≤ opening.capacity →
          ∃ pod, items = [.pod pod] ∧
            spa.IsFrame pod (headerBytes + bytes) added head) := by
  have closed := closes.of_inside inside
  obtain ⟨_, -, capacity, offset, -⟩ := Appends.frame_of_push inside
  by_cases fits :
      opening.offset + (headerBytes + bytes) ≤ opening.capacity
  · rw [if_pos fits] at closed
    obtain ⟨pod, -, isFrame, shape⟩ := closed
    refine ⟨[.pod pod], ?_, fun _ => ⟨pod, rfl, isFrame⟩⟩
    rw [shape]
    exact Appends.close isOpen inside _
  · rw [if_neg fits] at closed
    refine ⟨[], ?_, fun room => (fits room).elim⟩
    rw [closed.2]
    exact Appends.abandon isOpen inside (by rwa [offset, capacity]) []

end Frames

end Spa

namespace BuilderContract

open FramedBuffer

variable {Pod Builder : Type}
  {spa : Spa Pod Builder}
  {view : BuilderView Pod Builder}

/-- A property header is appended to the innermost frame. -/
theorem prop_appends
    (contract : BuilderContract spa view)
    {builder : Builder}
    (isOpen : (view builder).frames ≠ [])
    (key flags : UInt32)
    (bounded : (view builder).offset + 8 < 2 ^ 32) :
    Appends 8 [.prop key flags] (view builder)
      (view (spa.spaPodBuilderProp builder key flags).1) := by
  rw [contract.prop_writes builder key flags bounded]
  exact Appends.write isOpen 8 _

/-- An object opened first is opened at the start of the buffer. -/
theorem opened_of_init
    (contract : BuilderContract spa view)
    (size type id : UInt32) :
    view
        (spa.spaPodBuilderPushObject
          (spa.spaPodBuilderInit size) type id).1 =
      (State.init size.toNat).push (.object type id) 16 := by
  have isInit := contract.init size
  have opened :=
    (contract.pushObject (spa.spaPodBuilderInit size) type id).opens
  rw [isInit] at opened
  exact opened (by simp [State.init])

/--
Closing an object that was opened first gives the object if it fits the
buffer, and null otherwise.
-/
theorem pop_of_init
    (contract : BuilderContract spa view)
    {size type id : UInt32}
    {filled : Builder}
    {bytes : Nat}
    {added : List (PodItem Pod)}
    (inside :
      Appends bytes added
        ((State.init size.toNat).push (.object type id) 16)
        (view filled)) :
    if 16 + bytes ≤ size.toNat then
      ∃ pod,
        (spa.spaPodBuilderPop filled).2 = some pod ∧
          spa.IsFrame pod (16 + bytes) added (.object type id)
    else
      (spa.spaPodBuilderPop filled).2 = Option.none := by
  have closed := (contract.pop filled).of_inside inside
  simp only [State.init, Nat.zero_add] at closed
  by_cases fits : 16 + bytes ≤ size.toNat
  · rw [if_pos fits] at closed ⊢
    obtain ⟨pod, returns, isFrame, -⟩ := closed
    exact ⟨pod, returns, isFrame⟩
  · rw [if_neg fits] at closed ⊢
    exact closed.1

end BuilderContract

end Pwcpp
