import Pwcpp.ParametersDecoding
import Pwcpp.ParametersEncoding

namespace Pwcpp

/-!
# The callbacks of the filter

The handlers that the default `filter_app_builder` registers, as steps on the
parameter list of the app and on the sequence of pods that were passed to
`pw_filter_update_params`.  Both handlers encode the list into a buffer of 1024
bytes on their stack.
-/

/-- `enum pw_filter_state`. -/
inductive PwFilterState where
  | error
  | unconnected
  | connecting
  | paused
  | streaming
  deriving Repr, DecidableEq

/-- What the callbacks read and change; a published pod can be null. -/
structure AppState (Pod : Type) where
  parameters : Parameters
  published : List (Option Pod)
  deriving Repr

/-- One call of `ParametersProperty::update`. -/
abbrev UpdateCall :=
  StdString × PropertyValueType

/-- A call of one of the handlers in `filter_events`. -/
inductive FilterEvent (Pod : Type) where
  | stateChanged (oldState newState : PwFilterState)
  | paramChanged (parameterId : UInt32) (pod : Option Pod)
  /-- With the `update` calls that the signal processor makes. -/
  | process (updates : List UpdateCall)

section Handlers

variable {Pod Builder : Type}

/-- The pod that a handler encodes the list to, in a buffer of `size` bytes. -/
def buildParamsPod
    (spa : Spa Pod Builder)
    (size : UInt32)
    (parameters : Parameters) :
    Option Pod :=
  let builder := spa.spaPodBuilderInit size
  let opened :=
    (spa.spaPodBuilderPushObject builder
      spa.spaTypeObjectProps spa.spaParamProps).1
  let filled :=
    (ParametersProperty.addToPodObject spa opened parameters).1
  (spa.spaPodBuilderPop filled).2

/-- The builder on which the handlers call `spa_pod_builder_pop`. -/
def filledBuilder
    (spa : Spa Pod Builder)
    (size : UInt32)
    (parameters : Parameters) :
    Builder :=
  (ParametersProperty.addToPodObject spa
    (spa.spaPodBuilderPushObject (spa.spaPodBuilderInit size)
      spa.spaTypeObjectProps spa.spaParamProps).1
    parameters).1

namespace AppState

/-- Encode the list and pass it to `pw_filter_update_params`. -/
def updateParams
    (spa : Spa Pod Builder)
    (state : AppState Pod) :
    AppState Pod :=
  { state with
    published :=
      state.published ++ [buildParamsPod spa 1024 state.parameters] }

/-- `filter_events.state_changed`. -/
def stateChanged
    (spa : Spa Pod Builder)
    (state : AppState Pod)
    (oldState newState : PwFilterState) :
    AppState Pod :=
  if oldState = .connecting ∧ newState = .paused then
    state.updateParams spa
  else
    state

/-- `filter_events.param_changed`. -/
def paramChanged
    (spa : Spa Pod Builder)
    (state : AppState Pod)
    (parameterId : UInt32)
    (pod : Option Pod) :
    Exec (AppState Pod) :=
  if parameterId = spa.spaParamProps then do
    let podObject ← dereference pod
    match spa.spaPodObjectFindProp podObject spa.spaPropParams with
    | none =>
        return state
    | some property =>
        let (parameters, _) ←
          ParametersProperty.updateFromPod spa.toPodReader
            state.parameters property.value
        return { state with parameters := parameters }.updateParams spa
  else
    return state

/-- `filter_events.process`, through `App::process`. -/
def process
    (state : AppState Pod)
    (updates : List UpdateCall) :
    AppState Pod :=
  { state with
    parameters :=
      updates.foldl
        (fun parameters call =>
          (ParametersProperty.update parameters call.1 call.2).1)
        state.parameters }

/-- One callback. -/
def handle
    (spa : Spa Pod Builder)
    (state : AppState Pod) :
    FilterEvent Pod → Exec (AppState Pod)
  | .stateChanged oldState newState =>
      .ok (state.stateChanged spa oldState newState)
  | .paramChanged parameterId pod =>
      state.paramChanged spa parameterId pod
  | .process updates =>
      .ok (state.process updates)

end AppState

end Handlers

/-- The bytes of the object that the handlers encode a list to. -/
def propsSize (parameters : Parameters) : Nat :=
  16 + addedSize parameters

/-- The pod is the complete `Props` object of the parameter list. -/
structure IsPropsObject
    (reader : PodReader Pod)
    (parameters : Parameters)
    (pod : Pod) : Prop where
  type :
    reader.spaPodType pod = .object
  objectType :
    reader.spaPodObjectType pod = reader.spaTypeObjectProps
  objectId :
    reader.spaPodObjectId pod = reader.spaParamProps
  props :
    if parameters.isEmpty then
      reader.spaPodObjectForeach pod = []
    else
      ∃ value,
        reader.spaPodObjectForeach pod =
            [{ key := reader.spaPropParams, flags := 0, value := value }] ∧
          IsParamsStruct reader parameters value

section Encoding

open FramedBuffer

variable {Pod Builder : Type}
  {spa : Spa Pod Builder}
  {view : BuilderView Pod Builder}

/-- The properties of an object with the items of a parameter list. -/
theorem IsParamsItems.props
    {reader : PodReader Pod}
    {parameters : Parameters}
    {items : List (PodItem Pod)}
    (isItems : IsParamsItems reader parameters items) :
    if parameters.isEmpty then
      propsOf items = []
    else
      ∃ value,
        propsOf items =
            [{ key := reader.spaPropParams, flags := 0, value := value }] ∧
          IsParamsStruct reader parameters value := by
  unfold IsParamsItems at isItems
  split
  · rename_i empty
    rw [if_pos empty] at isItems
    rw [isItems]
    rfl
  · rename_i nonempty
    rw [if_neg nonempty] at isItems
    obtain ⟨value, rfl, isStruct⟩ := isItems
    exact ⟨value, rfl, isStruct⟩

/-- What the handlers output into the object that they open. -/
theorem filledBuilder_appends
    (contract : BuilderContract spa view)
    (size : UInt32)
    {parameters : Parameters}
    (bounded : propsSize parameters < 2 ^ 32) :
    ∃ items,
      Appends (addedSize parameters) items
          ((State.init size.toNat).push
            (.object spa.spaTypeObjectProps spa.spaParamProps) 16)
          (view (filledBuilder spa size parameters)) ∧
        (propsSize parameters ≤ size.toNat →
          IsParamsItems spa.toPodReader parameters items) := by
  have opened :=
    contract.opened_of_init size spa.spaTypeObjectProps spa.spaParamProps
  have inside :=
    ParametersProperty.addToPodObject_appends contract
      (spa.spaPodBuilderPushObject (spa.spaPodBuilderInit size)
        spa.spaTypeObjectProps spa.spaParamProps).1
      parameters
      (by simp [opened, State.push])
      (by simpa [opened, State.push, State.init, propsSize] using bounded)
  rw [opened] at inside
  simpa [State.push, State.init, propsSize, filledBuilder] using inside

/--
The handlers' encoding is the complete object if it fits the buffer, and null
otherwise.
-/
theorem buildParamsPod_eq
    (contract : BuilderContract spa view)
    (size : UInt32)
    {parameters : Parameters}
    (bounded : propsSize parameters < 2 ^ 32) :
    if propsSize parameters ≤ size.toNat then
      ∃ pod,
        buildParamsPod spa size parameters = some pod ∧
          IsPropsObject spa.toPodReader parameters pod
    else
      buildParamsPod spa size parameters = none := by
  obtain ⟨items, inside, isItems⟩ :=
    filledBuilder_appends contract size bounded
  have closed := contract.pop_of_init inside
  rw [← propsSize] at closed
  by_cases fits : propsSize parameters ≤ size.toNat
  · rw [if_pos fits] at closed ⊢
    obtain ⟨pod, returns, isObject⟩ := closed
    obtain ⟨-, type, objectType, objectId, props⟩ := isObject
    refine ⟨pod, returns, type, objectType, objectId, ?_⟩
    rw [props]
    exact (isItems fits).props
  · rw [if_neg fits] at closed ⊢
    exact closed

/-- An object encodes two lists iff their structs have the same children. -/
theorem IsPropsObject.iff_of_isPropsObject
    {reader : PodReader Pod}
    {parameters other : Parameters}
    {pod : Pod}
    (isObject : IsPropsObject reader parameters pod) :
    IsPropsObject reader other pod ↔
      writtenValues other = writtenValues parameters := by
  have isEmpty_iff :
      ∀ list : Parameters,
        list.isEmpty = true ↔ writtenValues list = [] := by
    intro list
    cases list <;> simp
  have props := isObject.props
  constructor
  · intro isOther
    have otherProps := isOther.props
    by_cases empty : parameters.isEmpty = true
    · rw [if_pos empty] at props
      rw [(isEmpty_iff parameters).mp empty, ← isEmpty_iff]
      by_contra otherNonempty
      rw [if_neg otherNonempty, props] at otherProps
      obtain ⟨value, same, -⟩ := otherProps
      cases same
    · rw [if_neg empty] at props
      obtain ⟨value, shape, isStruct⟩ := props
      rw [shape] at otherProps
      by_cases otherEmpty : other.isEmpty = true
      · rw [if_pos otherEmpty] at otherProps
        cases otherProps
      · rw [if_neg otherEmpty] at otherProps
        obtain ⟨otherValue, same, isOtherStruct⟩ := otherProps
        cases same
        exact PodReader.holdsAll_unique
          isOtherStruct.children isStruct.children
  · intro same
    refine ⟨isObject.type, isObject.objectType, isObject.objectId, ?_⟩
    have sameEmpty : other.isEmpty = parameters.isEmpty := by
      rw [Bool.eq_iff_iff, isEmpty_iff, isEmpty_iff, same]
    rw [sameEmpty]
    split
    · rename_i empty
      rwa [if_pos empty] at props
    · rename_i nonempty
      rw [if_neg nonempty] at props
      obtain ⟨value, shape, isStruct⟩ := props
      refine ⟨value, shape, isStruct.type, ?_⟩
      rw [same]
      exact isStruct.children

end Encoding

end Pwcpp
