import Pwcpp.SpaBuilder

namespace Pwcpp

/-!
# A reference pod library

A small executable pod library that meets the contract of the builder.  It
shows that the assumptions can be met together and lets the model be evaluated
on concrete pods.  Its pods are trees, and their sizes are those that the pods
take in memory; `raw` is a pod of any type given by its body, together with the
pods that a walk over that body would see.

A builder carries the invariant that its frames count what they recorded, so a
pod that is closed takes the bytes that its frame counted.
-/

/-- Pods of the reference library. -/
inductive ReferencePod where
  | value (content : SpaValue)
  | frame (head : PodFrame) (items : List (PodItem ReferencePod))
  | sequence (controls : List (PodControl ReferencePod))
  | raw (type : SpaType) (body : List UInt8) (children : List ReferencePod)

/-- The bytes at the start of the body: type and id of an object. -/
def PodFrame.bodyStart : PodFrame → Nat
  | .struct => 0
  | .object _ _ => 8

/-- The bytes with which a frame starts. -/
def PodFrame.headerSize (head : PodFrame) : Nat :=
  8 + head.bodyStart

namespace ReferencePod

/-- A struct with these children. -/
def struct (children : List ReferencePod) : ReferencePod :=
  .frame .struct (children.map .pod)

/-- An object with these properties. -/
def object
    (type id : UInt32)
    (props : List (PodProp ReferencePod)) :
    ReferencePod :=
  .frame (.object type id)
    (props.flatMap fun prop => [.prop prop.key prop.flags, .pod prop.value])

/-- The type in the header of the pod. -/
def type : ReferencePod → SpaType
  | .value content => content.type
  | .frame .struct _ => .struct
  | .frame (.object _ _) _ => .object
  | .sequence _ => .sequence
  | .raw type _ _ => type

/-- The bytes of the body, for the pods that are given by their bytes. -/
def body : ReferencePod → List UInt8
  | .raw _ body _ => body
  | _ => []

mutual

/-- The bytes of the body, without what pads it. -/
def bodySize : ReferencePod → Nat
  | .value content => content.bodySize
  | .frame head items => head.bodyStart + itemsSize items
  | .sequence controls => 8 + controlsSize controls
  | .raw _ body _ => body.length

/-- The bytes of what a frame records. -/
def itemsSize : List (PodItem ReferencePod) → Nat
  | [] => 0
  | item :: rest => itemSize item + itemsSize rest

/-- The bytes of a property header or of a whole pod. -/
def itemSize : PodItem ReferencePod → Nat
  | .prop _ _ => 8
  | .pod pod => 8 + pad8 (bodySize pod)

/-- The bytes of the controls of a sequence. -/
def controlsSize : List (PodControl ReferencePod) → Nat
  | [] => 0
  | control :: rest => controlSize control + controlsSize rest

/-- The bytes of a control: its offset, its type and its value. -/
def controlSize : PodControl ReferencePod → Nat
  | ⟨_, content⟩ => 8 + (8 + pad8 (bodySize content))

end

/-- The pods that a walk over the body sees, whatever the type. -/
def children : ReferencePod → List ReferencePod
  | .frame .struct items => podsOf items
  | .raw _ _ children => children
  | _ => []

/-- The properties that a walk over the body sees. -/
def props : ReferencePod → List (PodProp ReferencePod)
  | .frame (.object _ _) items => propsOf items
  | _ => []

/-- A walk over a struct sees its children. -/
@[simp] theorem children_struct (items : List ReferencePod) :
    children (struct items) = items :=
  podsOf_map_pod items

/-- What is recorded takes whole multiples of eight bytes. -/
theorem eight_dvd_itemSize (item : PodItem ReferencePod) :
    8 ∣ itemSize item := by
  cases item with
  | prop key flags =>
      exact Nat.dvd_refl 8
  | pod pod =>
      rw [itemSize, pad8]
      exact Nat.dvd_add (Nat.dvd_refl 8) (Nat.dvd_mul_left 8 _)

/-- The items of a frame take whole multiples of eight bytes. -/
theorem eight_dvd_itemsSize (items : List (PodItem ReferencePod)) :
    8 ∣ itemsSize items := by
  induction items with
  | nil =>
      exact Nat.dvd_zero 8
  | cons item rest inductionHypothesis =>
      rw [itemsSize]
      exact Nat.dvd_add (eight_dvd_itemSize item) inductionHypothesis

/-- The size of some items is the sum of their sizes. -/
theorem itemsSize_eq_sum (items : List (PodItem ReferencePod)) :
    itemsSize items = (items.map itemSize).sum := by
  induction items with
  | nil =>
      rfl
  | cons item rest inductionHypothesis =>
      rw [itemsSize, List.map_cons, List.sum_cons, inductionHypothesis]

/-- The body of a closed frame takes whole multiples of eight bytes. -/
theorem eight_dvd_bodySize_frame
    (head : PodFrame)
    (items : List (PodItem ReferencePod)) :
    8 ∣ bodySize (.frame head items) := by
  rw [bodySize]
  cases head with
  | struct =>
      exact Nat.dvd_add (Nat.dvd_zero 8) (eight_dvd_itemsSize items)
  | object type id =>
      exact Nat.dvd_add (Nat.dvd_refl 8) (eight_dvd_itemsSize items)

/-- A closed frame takes the bytes of its header and its items. -/
theorem bodySize_frame
    (head : PodFrame)
    (items : List (PodItem ReferencePod)) :
    8 + bodySize (.frame head items) =
      head.headerSize + (items.map itemSize).sum := by
  rw [bodySize, itemsSize_eq_sum, PodFrame.headerSize, Nat.add_assoc]

/-- Nothing pads a closed frame. -/
theorem itemSize_frame
    (head : PodFrame)
    (items : List (PodItem ReferencePod)) :
    itemSize (.pod (.frame head items)) =
      8 + bodySize (.frame head items) := by
  have whole := eight_dvd_bodySize_frame head items
  rw [itemSize, pad8]
  omega

end ReferencePod

open FramedBuffer in
/--
Builders of the reference library; their size is a 32-bit number, and their
frames count what they recorded.
-/
structure ReferenceBuilder where
  state : State PodFrame (PodItem ReferencePod)
  capacity_lt : state.capacity < 2 ^ 32
  consistent :
    Consistent PodFrame.headerSize ReferencePod.itemSize state

namespace ReferenceBuilder

open FramedBuffer

/-- An empty builder for a buffer of the given size. -/
def init (size : UInt32) : ReferenceBuilder where
  state := .init size.toNat
  capacity_lt := size.toNat_lt
  consistent := .init size.toNat

/-- The code of a call that outputs `bytes` bytes: zero or `-ENOSPC`. -/
def code (builder : ReferenceBuilder) (bytes : Nat) : Int :=
  if builder.state.Fits bytes then 0 else -28

/-- Write one item and report whether it fitted. -/
def write
    (builder : ReferenceBuilder)
    (item : PodItem ReferencePod) :
    ReferenceBuilder × Int :=
  ({ state := builder.state.write (ReferencePod.itemSize item) item
     capacity_lt := builder.capacity_lt
     consistent := builder.consistent.write item },
    builder.code (ReferencePod.itemSize item))

/-- Write one pod without children. -/
def writeValue
    (builder : ReferenceBuilder)
    (value : SpaValue) :
    ReferenceBuilder × Int :=
  builder.write (.pod (.value value))

/-- Open a frame and report whether its header fitted. -/
def push
    (builder : ReferenceBuilder)
    (head : PodFrame) :
    ReferenceBuilder × Int :=
  ({ state := builder.state.push head head.headerSize
     capacity_lt := builder.capacity_lt
     consistent := builder.consistent.push head },
    builder.code head.headerSize)

section Frames

variable
  (builder : ReferenceBuilder)
  {frame : Frame PodFrame (PodItem ReferencePod)}
  {outer : List (Frame PodFrame (PodItem ReferencePod))}
  (shape : builder.state.frames = frame :: outer)
  (fits : frame.Fits builder.state.capacity)

include shape fits

/-- The pod that a frame becomes has the size that the frame counted. -/
theorem bodySize_of_fits :
    8 + ReferencePod.bodySize (.frame frame.head frame.items) =
      frame.size := by
  have counted := (builder.consistent.size_eq shape fits).1
  rw [ReferencePod.bodySize_frame]
  exact counted.symm

/-- A frame that fits is closed consistently. -/
theorem consistent_close :
    Consistent PodFrame.headerSize ReferencePod.itemSize
      (builder.state.close
        (.pod (.frame frame.head frame.items))) := by
  apply builder.consistent.close shape fits
  rw [ReferencePod.itemSize_frame]
  exact builder.bodySize_of_fits shape fits

omit fits in
/-- A frame that does not fit is abandoned consistently. -/
theorem consistent_abandon
    (overflows : ¬ frame.Fits builder.state.capacity) :
    Consistent PodFrame.headerSize ReferencePod.itemSize
      builder.state.abandon :=
  builder.consistent.abandon shape overflows

end Frames

/-- Close the innermost frame. -/
def pop (builder : ReferenceBuilder) :
    ReferenceBuilder × Option ReferencePod :=
  match shape : builder.state.frames with
  | [] =>
      (builder, none)
  | frame :: _ =>
      if fits : frame.Fits builder.state.capacity then
        ({ state :=
             builder.state.close (.pod (.frame frame.head frame.items))
           capacity_lt := builder.capacity_lt
           consistent := builder.consistent_close shape fits },
          some (.frame frame.head frame.items))
      else
        ({ state := builder.state.abandon
           capacity_lt := builder.capacity_lt
           consistent := builder.consistent_abandon shape fits }, none)

end ReferenceBuilder

/-- The functions of the reference library. -/
def referenceSpa : Spa ReferencePod ReferenceBuilder where
  spaParamProps := 2
  spaTypeObjectProps := 0x40002
  spaPropParams := 0x80001
  spaPodType := ReferencePod.type
  spaPodBody := ReferencePod.body
  spaPodBodySize pod := pod.bodySize.toUInt32
  spaPodIsSequence pod :=
    pod.type = .sequence ∧ 8 ≤ pod.bodySize.toUInt32
  spaPodGetBool
    | .value (.bool value) => some value
    | _ => none
  spaPodGetInt
    | .value (.int value) => some value
    | _ => none
  spaPodGetLong
    | .value (.long value) => some value
    | _ => none
  spaPodGetFloat
    | .value (.float bits) => some bits
    | _ => none
  spaPodGetDouble
    | .value (.double bits) => some bits
    | _ => none
  spaPodGetString
    | .value (.string chars) => some (chars ++ [0])
    | _ => none
  spaPodGetBytes
    | .raw .bytes body _ => some body
    | _ => none
  spaPodStructForeach := ReferencePod.children
  spaPodSequenceForeach
    | .sequence controls => controls
    | _ => []
  spaPodObjectType
    | .frame (.object type _) _ => type
    | _ => 0
  spaPodObjectId
    | .frame (.object _ id) _ => id
    | _ => 0
  spaPodObjectForeach := ReferencePod.props
  spaPodObjectFindProp pod key := pod.props.find? (·.key = key)
  spaPodBuilderInit := ReferenceBuilder.init
  spaPodBuilderPushObject builder type id :=
    builder.push (.object type id)
  spaPodBuilderPushStruct builder := builder.push .struct
  spaPodBuilderPop := ReferenceBuilder.pop
  spaPodBuilderProp builder key flags :=
    builder.write (.prop key flags)
  spaPodBuilderNone builder := builder.writeValue .none
  spaPodBuilderBool builder value := builder.writeValue (.bool value)
  spaPodBuilderInt builder value := builder.writeValue (.int value)
  spaPodBuilderLong builder value := builder.writeValue (.long value)
  spaPodBuilderFloat builder bits := builder.writeValue (.float bits)
  spaPodBuilderDouble builder bits := builder.writeValue (.double bits)
  spaPodBuilderString builder chars := builder.writeValue (.string chars)

/-- A builder of the given size in which a `Props` object was just opened. -/
def referenceProps (size : UInt32) : ReferenceBuilder :=
  (referenceSpa.spaPodBuilderPushObject
    (referenceSpa.spaPodBuilderInit size)
    referenceSpa.spaTypeObjectProps
    referenceSpa.spaParamProps).1

/-- A pod of the reference library holds the value it was made from. -/
theorem referenceSpa_holds (value : SpaValue) :
    referenceSpa.Holds (.value value) value where
  type := rfl
  delivers := by
    cases value <;> first | rfl | trivial

namespace ReferenceBuilder

open FramedBuffer

/-- The codes of the reference library report whether the bytes fitted. -/
theorem code_reports
    (builder : ReferenceBuilder)
    (bytes : Nat) :
    Spa.ReportsFit ReferenceBuilder.state builder bytes
      (builder.code bytes) := by
  intro _
  unfold code
  by_cases fits : builder.state.Fits bytes <;> simp [fits]

theorem writeValue_writes
    (builder : ReferenceBuilder)
    (value : SpaValue) :
    referenceSpa.WritesPod ReferenceBuilder.state builder
      (builder.writeValue value) value where
  reports :=
    builder.code_reports value.podSize
  writes _ :=
    ⟨.value value, referenceSpa_holds value, rfl⟩

theorem push_opens
    (builder : ReferenceBuilder)
    (head : PodFrame) :
    Spa.OpensFrame ReferenceBuilder.state builder
      (builder.push head) head head.headerSize where
  reports :=
    builder.code_reports head.headerSize
  opens _ :=
    rfl

/-- A frame that fits becomes a pod with what the frame counted and recorded. -/
theorem isFrame_of_fits
    (builder : ReferenceBuilder)
    {frame : Frame PodFrame (PodItem ReferencePod)}
    {outer : List (Frame PodFrame (PodItem ReferencePod))}
    (shape : builder.state.frames = frame :: outer)
    (fits : frame.Fits builder.state.capacity) :
    referenceSpa.IsFrame (.frame frame.head frame.items) frame.size
      frame.items frame.head := by
  have inBuffer : frame.size < 2 ^ 32 :=
    Nat.lt_of_le_of_lt (Nat.le_of_add_left_le fits) builder.capacity_lt
  have counted := builder.bodySize_of_fits shape fits
  have bodyInRange :
      ReferencePod.bodySize (.frame frame.head frame.items) < 2 ^ 32 := by
    omega
  have size :
      8 + (referenceSpa.spaPodBodySize
        (.frame frame.head frame.items)).toNat = frame.size := by
    rw [← counted]
    exact congrArg (8 + ·) (UInt32.toNat_ofNat_of_lt' bodyInRange)
  cases isHead : frame.head with
  | struct =>
      rw [isHead] at size
      exact ⟨size, rfl, rfl⟩
  | object type id =>
      rw [isHead] at size
      exact ⟨size, rfl, rfl, rfl, rfl⟩

/-- A frame that fits is closed to its pod. -/
theorem pop_of_fits
    (builder : ReferenceBuilder)
    {frame : Frame PodFrame (PodItem ReferencePod)}
    {outer : List (Frame PodFrame (PodItem ReferencePod))}
    (shape : builder.state.frames = frame :: outer)
    (fits : frame.Fits builder.state.capacity) :
    builder.pop.2 = some (.frame frame.head frame.items) ∧
      builder.pop.1.state =
        builder.state.close (.pod (.frame frame.head frame.items)) := by
  have closes :
      builder.pop =
        ({ state :=
             builder.state.close (.pod (.frame frame.head frame.items))
           capacity_lt := builder.capacity_lt
           consistent := builder.consistent_close shape fits },
          some (.frame frame.head frame.items)) := by
    unfold pop
    split
    · rename_i noFrame
      cases noFrame.symm.trans shape
    · rename_i innermost rest isShape
      obtain ⟨rfl, rfl⟩ := List.cons.inj (isShape.symm.trans shape)
      exact dif_pos fits
  rw [closes]
  exact ⟨rfl, rfl⟩

/-- A frame that does not fit gives null. -/
theorem pop_of_overflow
    (builder : ReferenceBuilder)
    {frame : Frame PodFrame (PodItem ReferencePod)}
    {outer : List (Frame PodFrame (PodItem ReferencePod))}
    (shape : builder.state.frames = frame :: outer)
    (overflows : ¬ frame.Fits builder.state.capacity) :
    builder.pop.2 = none ∧
      builder.pop.1.state = builder.state.abandon := by
  have abandons :
      builder.pop =
        ({ state := builder.state.abandon
           capacity_lt := builder.capacity_lt
           consistent := builder.consistent_abandon shape overflows },
          none) := by
    unfold pop
    split
    · rename_i noFrame
      cases noFrame.symm.trans shape
    · rename_i innermost rest isShape
      obtain ⟨rfl, rfl⟩ := List.cons.inj (isShape.symm.trans shape)
      exact dif_neg overflows
  rw [abandons]
  exact ⟨rfl, rfl⟩

theorem pop_closes (builder : ReferenceBuilder) :
    referenceSpa.ClosesFrame ReferenceBuilder.state builder
      builder.pop := by
  intro frame outer shape
  by_cases fits : frame.Fits builder.state.capacity
  · rw [if_pos fits]
    obtain ⟨returns, after⟩ := builder.pop_of_fits shape fits
    exact ⟨_, returns, builder.isFrame_of_fits shape fits, after⟩
  · rw [if_neg fits]
    exact builder.pop_of_overflow shape fits

end ReferenceBuilder

/-- The reference library meets the builder contract. -/
theorem referenceSpa_contract :
    BuilderContract referenceSpa ReferenceBuilder.state where
  capacity_lt builder :=
    builder.capacity_lt
  init _ :=
    rfl
  pushObject builder type id :=
    builder.push_opens (.object type id)
  pushStruct builder :=
    builder.push_opens .struct
  pop :=
    ReferenceBuilder.pop_closes
  prop_reports builder _ _ :=
    builder.code_reports 8
  prop_writes _ _ _ _ :=
    rfl
  none builder :=
    builder.writeValue_writes .none
  bool builder value :=
    builder.writeValue_writes (.bool value)
  int builder value :=
    builder.writeValue_writes (.int value)
  long builder value :=
    builder.writeValue_writes (.long value)
  float builder bits :=
    builder.writeValue_writes (.float bits)
  double builder bits :=
    builder.writeValue_writes (.double bits)
  string builder chars :=
    builder.writeValue_writes (.string chars)

end Pwcpp
