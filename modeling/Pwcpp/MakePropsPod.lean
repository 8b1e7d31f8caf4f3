import Pwcpp.Error
import Pwcpp.SpaReference

namespace Pwcpp

/-!
# A pod with one property

`make_props_pod` builds a `Props` object with one property in a buffer of its
caller.  The size of that buffer is a `size_t`, the size of a builder is a
32-bit number, and the pointer that `spa_pod_builder_pop` returns is the value
of the result, null or not.
-/

section Making

variable {Pod Builder : Type}

/-- `make_props_pod<int>`; the pointer in the result can be null. -/
def makePropsPod
    (spa : Spa Pod Builder)
    (bufferSize : UInt64)
    (propsType value : Int32) :
    Expected (Option Pod) :=
  let builder := spa.spaPodBuilderInit bufferSize.toUInt32
  let opened :=
    (spa.spaPodBuilderPushObject builder
      spa.spaTypeObjectProps spa.spaParamProps).1
  let keyed :=
    (spa.spaPodBuilderProp opened propsType.toUInt32 0).1
  let filled := (spa.spaPodBuilderInt keyed value).1
  .ok (spa.spaPodBuilderPop filled).2

/-- The builder on which `make_props_pod` calls `spa_pod_builder_pop`. -/
def propsPodBuilder
    (spa : Spa Pod Builder)
    (bufferSize : UInt64)
    (propsType value : Int32) :
    Builder :=
  (spa.spaPodBuilderInt
    (spa.spaPodBuilderProp
      (spa.spaPodBuilderPushObject
        (spa.spaPodBuilderInit bufferSize.toUInt32)
        spa.spaTypeObjectProps spa.spaParamProps).1
      propsType.toUInt32 0).1
    value).1

end Making

/-- The pod is a complete `Props` object whose one property is an `Int`. -/
structure IsIntPropsObject
    (reader : PodReader Pod)
    (key : UInt32)
    (value : Int32)
    (pod : Pod) : Prop where
  type :
    reader.spaPodType pod = .object
  objectType :
    reader.spaPodObjectType pod = reader.spaTypeObjectProps
  objectId :
    reader.spaPodObjectId pod = reader.spaParamProps
  property :
    ∃ child,
      reader.spaPodObjectForeach pod =
          [{ key := key, flags := 0, value := child }] ∧
        reader.Holds child (.int value)

section Readability

open FramedBuffer

variable {Pod Builder : Type}

/--
The pod that the one open frame is closed to takes `size` bytes, all of them
among the first `bytes` bytes of the buffer.
-/
def FrameLiesWithin
    (view : BuilderView Pod Builder)
    (builder : Builder)
    (size bytes : Nat) : Prop :=
  ∃ frame,
    (view builder).frames = [frame] ∧
      frame.size = size ∧
      frame.Fits bytes

/--
`make_props_pod<int>` returns an error or the complete object inside the
caller's buffer, never null, and it returns the object if it fits the buffer.
-/
structure YieldsReadablePod
    (spa : Spa Pod Builder)
    (view : BuilderView Pod Builder)
    (bufferSize : UInt64)
    (propsType value : Int32) : Prop where
  readable :
    ∀ pointer,
      makePropsPod spa bufferSize propsType value = .ok pointer →
      ∃ pod,
        pointer = some pod ∧
          IsIntPropsObject spa.toPodReader propsType.toUInt32 value pod ∧
          FrameLiesWithin view
            (propsPodBuilder spa bufferSize propsType value)
            40 bufferSize.toNat
  returns :
    40 ≤ bufferSize.toNat →
    ∃ pod, makePropsPod spa bufferSize propsType value = .ok (some pod)

variable
  {spa : Spa Pod Builder}
  {view : BuilderView Pod Builder}

/-- What `make_props_pod<int>` outputs into the object that it opens. -/
theorem propsPodBuilder_appends
    (contract : BuilderContract spa view)
    (bufferSize : UInt64)
    (propsType value : Int32) :
    ∃ child,
      spa.Holds child (.int value) ∧
        Appends 24 [.prop propsType.toUInt32 0, .pod child]
          ((State.init bufferSize.toUInt32.toNat).push
            (.object spa.spaTypeObjectProps spa.spaParamProps) 16)
          (view (propsPodBuilder spa bufferSize propsType value)) := by
  have opened :=
    contract.opened_of_init bufferSize.toUInt32
      spa.spaTypeObjectProps spa.spaParamProps
  unfold propsPodBuilder
  generalize
    (spa.spaPodBuilderPushObject
      (spa.spaPodBuilderInit bufferSize.toUInt32)
      spa.spaTypeObjectProps spa.spaParamProps).1 = object at *
  have isOpen : (view object).frames ≠ [] := by
    simp [opened, State.push]
  have objectOffset : (view object).offset = 16 := by
    simp [opened, State.push, State.init]
  have keyAppends :=
    contract.prop_appends isOpen propsType.toUInt32 0
      (by simp [objectOffset])
  generalize
    (spa.spaPodBuilderProp object propsType.toUInt32 0).1 = keyed at *
  have keyedOffset : (view keyed).offset = 24 := by
    simp [keyAppends.offset, objectOffset]
  have valueSize : (SpaValue.int value).podSize = 16 := by
    rw [SpaValue.podSize, SpaValue.bodySize]
    rfl
  obtain ⟨child, holds, valueAppends⟩ :=
    (contract.int keyed value).appends keyAppends.isOpen
      (by simp [keyedOffset, valueSize])
  rw [valueSize] at valueAppends
  refine ⟨child, holds, ?_⟩
  rw [← opened]
  exact keyAppends.trans valueAppends

/-- The result is the object if it fits the narrowed size, and null if not. -/
theorem makePropsPod_eq
    (contract : BuilderContract spa view)
    (bufferSize : UInt64)
    (propsType value : Int32) :
    if 40 ≤ bufferSize.toNat % 2 ^ 32 then
      ∃ pod,
        makePropsPod spa bufferSize propsType value = .ok (some pod) ∧
          IsIntPropsObject spa.toPodReader propsType.toUInt32 value pod
    else
      makePropsPod spa bufferSize propsType value = .ok none := by
  obtain ⟨child, holds, inside⟩ :=
    propsPodBuilder_appends contract bufferSize propsType value
  have closed := contract.pop_of_init inside
  simp only [UInt64.toNat_toUInt32, Nat.reduceAdd] at closed
  by_cases fits : 40 ≤ bufferSize.toNat % 2 ^ 32
  · rw [if_pos fits] at closed ⊢
    obtain ⟨pod, returns, -, type, objectType, objectId, props⟩ := closed
    exact ⟨pod, congrArg Except.ok returns, type, objectType, objectId,
      child, props, holds⟩
  · rw [if_neg fits] at closed ⊢
    exact congrArg Except.ok closed

/-- The object is counted from the start of the buffer. -/
theorem frameLiesWithin_of_fits
    (contract : BuilderContract spa view)
    {bufferSize : UInt64}
    (propsType value : Int32)
    (fits : 40 ≤ bufferSize.toNat) :
    FrameLiesWithin view
      (propsPodBuilder spa bufferSize propsType value)
      40 bufferSize.toNat := by
  obtain ⟨child, -, inside⟩ :=
    propsPodBuilder_appends contract bufferSize propsType value
  obtain ⟨frame, isOnly, start, size⟩ := Appends.frame_of_init inside
  refine ⟨frame, isOnly, size, ?_⟩
  rw [Frame.Fits, start, size, Nat.zero_add]
  exact fits

/--
`make_props_pod<int>` yields a readable pod exactly when the 40 bytes of the
object fit the size that 32 bits leave of the buffer's size.
-/
theorem yieldsReadablePod_iff
    (contract : BuilderContract spa view)
    (bufferSize : UInt64)
    (propsType value : Int32) :
    YieldsReadablePod spa view bufferSize propsType value ↔
      40 ≤ bufferSize.toNat % 2 ^ 32 := by
  have made := makePropsPod_eq contract bufferSize propsType value
  constructor
  · intro yields
    by_contra overflows
    rw [if_neg overflows] at made
    obtain ⟨pod, isPod, -⟩ := yields.readable none made
    cases isPod
  · intro fits
    rw [if_pos fits] at made
    obtain ⟨pod, returns, isObject⟩ := made
    have fitsWhole : 40 ≤ bufferSize.toNat :=
      fits.trans (Nat.mod_le _ _)
    constructor
    · intro pointer returned
      have isPod : pointer = some pod :=
        Except.ok.inj (returned.symm.trans returns)
      exact ⟨pod, isPod, isObject,
        frameLiesWithin_of_fits contract propsType value fitsWhole⟩
    · intro _
      exact ⟨pod, returns⟩

/-- A generous buffer. -/
theorem yieldsReadablePod_4096 :
    YieldsReadablePod referenceSpa ReferenceBuilder.state
      4096 0x1000042 42 :=
  (yieldsReadablePod_iff referenceSpa_contract 4096 0x1000042 42).mpr
    (by decide)

/-- A buffer one byte too small, and one whose size is 0 in 32 bits. -/
theorem not_yieldsReadablePod :
    ¬ YieldsReadablePod referenceSpa ReferenceBuilder.state
        39 0x1000042 42 ∧
      ¬ YieldsReadablePod referenceSpa ReferenceBuilder.state
        0x100000000 0x1000042 42 := by
  constructor
  · intro yields
    obtain ⟨pod, isPod, -⟩ := yields.readable none rfl
    cases isPod
  · intro yields
    obtain ⟨pod, isPod, -⟩ := yields.readable none rfl
    cases isPod

end Readability

end Pwcpp
