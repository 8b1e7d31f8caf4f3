import Pwcpp.FilterEvents
import Pwcpp.ParametersRoundTrip
import Pwcpp.SpaReference

namespace Pwcpp

/-!
# The shape and the size of a published object

What the handlers promise to publish, in terms of the parameter list alone:
how many bytes the object takes, and which pods are found in it at which
positions.  The sequence that both handlers run, `push_object`,
`add_to_pod_object` and `pop`, keeps this promise for strings without NUL.
-/

section Promise

/-- The bytes of the pod that a value is promised as. -/
def promisedValueSize : PropertyValueType → Nat
  | .int _ => 16
  | .long _ => 16
  | .float _ => 16
  | .double _ => 16
  | .bool _ => 16
  | .string value => 8 + pad8 (value.length + 1)
  | .nullopt => 8

/-- The bytes of the two pods that a parameter is promised as. -/
def promisedParameterSize (parameter : Parameter) : Nat :=
  8 + pad8 (parameter.1.length + 1) + promisedValueSize parameter.2

/-- The bytes of the object that a parameter list is promised as. -/
def promisedSize (parameters : Parameters) : Nat :=
  if parameters.isEmpty then
    16
  else
    32 + (parameters.map promisedParameterSize).sum

/-- The content of the pod that a value is promised as. -/
def promisedValue : PropertyValueType → SpaValue
  | .int value => .int value
  | .long value => .long value
  | .float bits => .float bits
  | .double bits => .double bits
  | .bool value => .bool value
  | .string value => .string value
  | .nullopt => .none

/-- The struct has two children for each parameter, a name and its value. -/
structure IsPromisedStruct
    (reader : PodReader Pod)
    (parameters : Parameters)
    (struct : Pod) : Prop where
  type :
    reader.spaPodType struct = .struct
  count :
    (reader.spaPodStructForeach struct).length = 2 * parameters.length
  name :
    ∀ i parameter,
      parameters[i]? = some parameter →
      ∃ pod,
        (reader.spaPodStructForeach struct)[2 * i]? = some pod ∧
          reader.Holds pod (.string parameter.1)
  value :
    ∀ i parameter,
      parameters[i]? = some parameter →
      ∃ pod,
        (reader.spaPodStructForeach struct)[2 * i + 1]? = some pod ∧
          reader.Holds pod (promisedValue parameter.2)

/-- The object has no property, or the struct as its only one. -/
structure IsPromisedObject
    (reader : PodReader Pod)
    (parameters : Parameters)
    (object : Pod) : Prop where
  type :
    reader.spaPodType object = .object
  objectType :
    reader.spaPodObjectType object = reader.spaTypeObjectProps
  objectId :
    reader.spaPodObjectId object = reader.spaParamProps
  noProperty :
    parameters = [] →
    reader.spaPodObjectForeach object = []
  property :
    parameters ≠ [] →
    ∃ struct,
      reader.spaPodObjectForeach object =
          [{ key := reader.spaPropParams, flags := 0, value := struct }] ∧
        IsPromisedStruct reader parameters struct

variable {parameters : Parameters}

/-- A value without NUL is written as promised. -/
theorem written_eq_promisedValue
    {value : PropertyValueType}
    (nulFree : value.NulFree) :
    value.written = promisedValue value := by
  cases value with
  | string string =>
      exact congrArg SpaValue.string (cStr_eq_self nulFree)
  | _ =>
      rfl

theorem podSize_promisedValue (value : PropertyValueType) :
    (promisedValue value).podSize = promisedValueSize value := by
  cases value <;> simp [promisedValue, promisedValueSize,
    SpaValue.podSize, SpaValue.bodySize, pad8]

/-- The pods of a list without NUL take the promised bytes. -/
theorem writtenSize_eq_promised
    (nulFree : ∀ parameter ∈ parameters, parameter.NulFree) :
    writtenSize parameters =
      (parameters.map promisedParameterSize).sum := by
  induction parameters with
  | nil =>
      rfl
  | cons parameter rest inductionHypothesis =>
      have head := nulFree parameter List.mem_cons_self
      have tail :=
        inductionHypothesis fun later member =>
          nulFree later (List.mem_cons_of_mem _ member)
      have name :
          (SpaValue.string (cStr parameter.1)).podSize =
            8 + pad8 (parameter.1.length + 1) := by
        rw [cStr_eq_self head.1]
        rfl
      have value :
          parameter.2.written.podSize = promisedValueSize parameter.2 := by
        rw [written_eq_promisedValue head.2, podSize_promisedValue]
      simp only [writtenSize_cons, List.map_cons, List.sum_cons, tail,
        promisedParameterSize, name, value, Nat.add_assoc]

/-- The object of a list without NUL takes the promised bytes. -/
theorem propsSize_eq_promisedSize
    (nulFree : ∀ parameter ∈ parameters, parameter.NulFree) :
    propsSize parameters = promisedSize parameters := by
  rw [propsSize, addedSize, promisedSize,
    writtenSize_eq_promised nulFree]
  split
  · rfl
  · omega

/-- The children that a parameter is written as, by position. -/
theorem getElem?_writtenValues
    {i : Nat}
    {parameter : Parameter}
    (isAt : parameters[i]? = some parameter) :
    (writtenValues parameters)[2 * i]? =
        some (.string (cStr parameter.1)) ∧
      (writtenValues parameters)[2 * i + 1]? =
        some parameter.2.written := by
  induction parameters generalizing i with
  | nil =>
      cases isAt
  | cons first rest inductionHypothesis =>
      cases i with
      | zero =>
          cases isAt
          exact ⟨rfl, rfl⟩
      | succ i =>
          exact inductionHypothesis isAt

/-- There are two children for each parameter. -/
theorem length_writtenValues (parameters : Parameters) :
    (writtenValues parameters).length = 2 * parameters.length := by
  induction parameters with
  | nil =>
      rfl
  | cons parameter rest inductionHypothesis =>
      simp only [writtenValues_cons, List.length_cons, inductionHypothesis]
      omega

/-- What a list relates to another is related position by position. -/
theorem exists_getElem?_of_forall₂
    {α β : Type}
    {Related : α → β → Prop}
    {first : List α}
    {second : List β}
    (related : List.Forall₂ Related first second)
    {position : Nat}
    {item : β}
    (isAt : second[position]? = some item) :
    ∃ other, first[position]? = some other ∧ Related other item := by
  induction related generalizing position with
  | nil =>
      cases isAt
  | @cons head _ _ _ headRelated _ inductionHypothesis =>
      cases position with
      | zero =>
          cases isAt
          exact ⟨head, rfl, headRelated⟩
      | succ position =>
          exact inductionHypothesis isAt

/-- The struct of a list without NUL is the promised one. -/
theorem IsParamsStruct.isPromised
    {Pod : Type}
    {reader : PodReader Pod}
    {struct : Pod}
    (nulFree : ∀ parameter ∈ parameters, parameter.NulFree)
    (isStruct : IsParamsStruct reader parameters struct) :
    IsPromisedStruct reader parameters struct where
  type :=
    isStruct.type
  count :=
    isStruct.children.length_eq.trans (length_writtenValues parameters)
  name := by
    intro i parameter isAt
    obtain ⟨pod, isChild, holds⟩ :=
      exists_getElem?_of_forall₂ isStruct.children
        (getElem?_writtenValues isAt).1
    have nameNulFree := (nulFree parameter (List.mem_of_getElem? isAt)).1
    rw [cStr_eq_self nameNulFree] at holds
    exact ⟨pod, isChild, holds⟩
  value := by
    intro i parameter isAt
    obtain ⟨pod, isChild, holds⟩ :=
      exists_getElem?_of_forall₂ isStruct.children
        (getElem?_writtenValues isAt).2
    have valueNulFree := (nulFree parameter (List.mem_of_getElem? isAt)).2
    rw [written_eq_promisedValue valueNulFree] at holds
    exact ⟨pod, isChild, holds⟩

/-- The object of a list without NUL is the promised one. -/
theorem IsPropsObject.isPromised
    {Pod : Type}
    {reader : PodReader Pod}
    {object : Pod}
    (nulFree : ∀ parameter ∈ parameters, parameter.NulFree)
    (isObject : IsPropsObject reader parameters object) :
    IsPromisedObject reader parameters object where
  type :=
    isObject.type
  objectType :=
    isObject.objectType
  objectId :=
    isObject.objectId
  noProperty := by
    intro empty
    have props := isObject.props
    rwa [if_pos (List.isEmpty_iff.mpr empty)] at props
  property := by
    intro nonempty
    have props := isObject.props
    rw [if_neg (mt List.isEmpty_iff.mp nonempty)] at props
    obtain ⟨struct, shape, isStruct⟩ := props
    exact ⟨struct, shape, isStruct.isPromised nulFree⟩

end Promise

section Keeping

open FramedBuffer

variable {Pod Builder : Type}

/--
The sequence of the handlers keeps the promise: before `pop` the one open frame
is an object of the promised size from the start of the buffer, and `pop`
returns the promised object, of this size, if it fits, and null otherwise.
-/
structure KeepsPromise
    (spa : Spa Pod Builder)
    (view : BuilderView Pod Builder)
    (size : UInt32)
    (parameters : Parameters) : Prop where
  frame :
    ∃ frame,
      (view (filledBuilder spa size parameters)).frames = [frame] ∧
        frame.start = 0 ∧
        frame.size = promisedSize parameters
  pod :
    ∀ object,
      buildParamsPod spa size parameters = some object →
      IsPromisedObject spa.toPodReader parameters object
  podSize :
    ∀ object,
      buildParamsPod spa size parameters = some object →
      8 + (spa.spaPodBodySize object).toNat = promisedSize parameters
  nonNull :
    (buildParamsPod spa size parameters).isSome = true ↔
      promisedSize parameters ≤ size.toNat

variable
  {spa : Spa Pod Builder}
  {view : BuilderView Pod Builder}

/-- The open object is counted from the start of the buffer. -/
theorem exists_frame_filledBuilder
    (contract : BuilderContract spa view)
    (size : UInt32)
    {parameters : Parameters}
    (bounded : propsSize parameters < 2 ^ 32) :
    ∃ frame,
      (view (filledBuilder spa size parameters)).frames = [frame] ∧
        frame.start = 0 ∧
        frame.size = propsSize parameters := by
  obtain ⟨items, inside, -⟩ :=
    filledBuilder_appends contract size bounded
  exact Appends.frame_of_init inside

/-- The object that is returned takes the bytes that its frame counted. -/
theorem bodySize_of_buildParamsPod
    (contract : BuilderContract spa view)
    {size : UInt32}
    {parameters : Parameters}
    (bounded : propsSize parameters < 2 ^ 32)
    {object : Pod}
    (returns : buildParamsPod spa size parameters = some object) :
    8 + (spa.spaPodBodySize object).toNat = propsSize parameters := by
  obtain ⟨items, inside, -⟩ :=
    filledBuilder_appends contract size bounded
  have closed := contract.pop_of_init inside
  by_cases fits : 16 + addedSize parameters ≤ size.toNat
  · rw [if_pos fits] at closed
    obtain ⟨pod, returned, bodySize, -⟩ := closed
    obtain rfl : pod = object :=
      Option.some.inj (returned.symm.trans returns)
    exact bodySize
  · rw [if_neg fits] at closed
    cases closed.symm.trans returns

/-- The sequence of the handlers keeps its promise for strings without NUL. -/
theorem keepsPromise
    (contract : BuilderContract spa view)
    (size : UInt32)
    (parameters : Parameters)
    (nulFree : ∀ parameter ∈ parameters, parameter.NulFree)
    (bounded : promisedSize parameters < 2 ^ 32) :
    KeepsPromise spa view size parameters := by
  have sameSize := propsSize_eq_promisedSize nulFree
  rw [← sameSize] at bounded
  have encoded := buildParamsPod_eq contract size bounded
  rw [sameSize] at encoded
  refine ⟨?_, ?_, ?_, ?_⟩
  · rw [← sameSize]
    exact exists_frame_filledBuilder contract size bounded
  · intro object returns
    by_cases fits : promisedSize parameters ≤ size.toNat
    · rw [if_pos fits] at encoded
      obtain ⟨pod, returned, isObject⟩ := encoded
      obtain rfl : pod = object :=
        Option.some.inj (returned.symm.trans returns)
      exact isObject.isPromised nulFree
    · rw [if_neg fits] at encoded
      cases encoded.symm.trans returns
  · intro object returns
    rw [← sameSize]
    exact bodySize_of_buildParamsPod contract bounded returns
  · by_cases fits : promisedSize parameters ≤ size.toNat
    · rw [if_pos fits] at encoded
      obtain ⟨pod, returned, -⟩ := encoded
      simp [returned, fits]
    · rw [if_neg fits] at encoded
      simp [encoded, fits]

/-- The object of a name and a string fits exactly into 64 bytes. -/
theorem keepsPromise_mode :
    KeepsPromise referenceSpa ReferenceBuilder.state 64
      [(ascii "mode", .string (ascii "fast"))] :=
  keepsPromise referenceSpa_contract 64
    [(ascii "mode", .string (ascii "fast"))]
    (by decide) (by decide)

end Keeping

end Pwcpp
