import Pwcpp.ParametersProperty

namespace Pwcpp

/-!
# What `add_to_pod_object` writes

The pods of a parameter list and the room they take, and the theorem that
`add_to_pod_object` outputs exactly these: one property whose value is a struct
with two children for each parameter.
-/

/-- The children that the struct of a parameter list has. -/
def writtenValues (parameters : Parameters) : List SpaValue :=
  parameters.flatMap fun parameter =>
    [.string (cStr parameter.1), parameter.2.written]

/-- The bytes that the children of a parameter list take. -/
def writtenSize (parameters : Parameters) : Nat :=
  ((writtenValues parameters).map SpaValue.podSize).sum

@[simp] theorem writtenValues_nil :
    writtenValues [] = [] :=
  rfl

@[simp] theorem writtenValues_cons
    (parameter : Parameter)
    (rest : Parameters) :
    writtenValues (parameter :: rest) =
      .string (cStr parameter.1) :: parameter.2.written ::
        writtenValues rest :=
  rfl

@[simp] theorem writtenSize_nil :
    writtenSize [] = 0 :=
  rfl

@[simp] theorem writtenSize_cons
    (parameter : Parameter)
    (rest : Parameters) :
    writtenSize (parameter :: rest) =
      (SpaValue.string (cStr parameter.1)).podSize +
        (parameter.2.written.podSize + writtenSize rest) := by
  simp [writtenSize]

/-- The bytes that `add_to_pod_object` outputs. -/
def addedSize (parameters : Parameters) : Nat :=
  if parameters.isEmpty then
    0
  else
    8 + (8 + writtenSize parameters)

/-- The pod is a struct with the children of the parameter list. -/
structure IsParamsStruct
    (reader : PodReader Pod)
    (parameters : Parameters)
    (pod : Pod) : Prop where
  type :
    reader.spaPodType pod = .struct
  children :
    List.Forall₂ reader.Holds
      (reader.spaPodStructForeach pod) (writtenValues parameters)

/-- The items that `add_to_pod_object` adds to the object it is given. -/
def IsParamsItems
    (reader : PodReader Pod)
    (parameters : Parameters)
    (items : List (PodItem Pod)) : Prop :=
  if parameters.isEmpty then
    items = []
  else
    ∃ pod,
      items = [.prop reader.spaPropParams 0, .pod pod] ∧
        IsParamsStruct reader parameters pod

namespace ParametersProperty

open FramedBuffer

section Results

variable {Pod Builder : Type}

/-- The loop goes on with the builder that the two writes leave behind. -/
theorem addParameters_cons
    (spa : Spa Pod Builder)
    (builder : Builder)
    (parameter : Parameter)
    (rest : Parameters) :
    addParameters spa builder (parameter :: rest) =
      addParameters spa
        (writePropertyValue spa
          (spa.spaPodBuilderString builder (cStr parameter.1)).1
          parameter.2).1
        rest := by
  have succeeds :=
    writePropertyValue_result spa
      (spa.spaPodBuilderString builder (cStr parameter.1)).1
      parameter.2
  simp only [addParameters]
  split
  · rename_i failed error shape
    rw [shape] at succeeds
    cases succeeds
  · rename_i valued shape
    rw [shape]

@[simp] theorem addParameters_result
    (spa : Spa Pod Builder)
    (builder : Builder)
    (parameters : Parameters) :
    (addParameters spa builder parameters).2 = .ok () := by
  induction parameters generalizing builder with
  | nil =>
      rfl
  | cons parameter rest inductionHypothesis =>
      rw [addParameters_cons]
      exact inductionHypothesis _

/-- `add_to_pod_object` reports success whatever happened. -/
theorem addToPodObject_result
    (spa : Spa Pod Builder)
    (builder : Builder)
    (parameters : Parameters) :
    (addToPodObject spa builder parameters).2 = .ok () := by
  have loop := fun opened =>
    addParameters_result spa opened parameters
  unfold addToPodObject
  split
  · rfl
  · dsimp only
    split
    · rename_i failed error shape
      have := loop (spa.spaPodBuilderPushStruct
        (spa.spaPodBuilderProp builder spa.spaPropParams 0).1).1
      rw [shape] at this
      cases this
    · rfl

/-- The builder that `add_to_pod_object` leaves for a nonempty list. -/
theorem addToPodObject_builder
    (spa : Spa Pod Builder)
    (builder : Builder)
    {parameters : Parameters}
    (nonempty : parameters ≠ []) :
    (addToPodObject spa builder parameters).1 =
      (spa.spaPodBuilderPop
        (addParameters spa
          (spa.spaPodBuilderPushStruct
            (spa.spaPodBuilderProp builder spa.spaPropParams 0).1).1
          parameters).1).1 := by
  have notEmpty : parameters.isEmpty = false := by
    simpa using nonempty
  unfold addToPodObject
  rw [notEmpty, if_neg (by decide)]
  dsimp only
  split
  · rename_i failed error shape
    have loop := addParameters_result spa
      (spa.spaPodBuilderPushStruct
        (spa.spaPodBuilderProp builder spa.spaPropParams 0).1).1
      parameters
    rw [shape] at loop
    cases loop
  · rename_i filled shape
    rw [shape]

end Results

section Appending

variable {Pod Builder : Type}
  {spa : Spa Pod Builder}
  {view : BuilderView Pod Builder}

/-- The loop appends one pod for each name and each value, in list order. -/
theorem addParameters_appends
    (contract : BuilderContract spa view)
    {builder : Builder}
    (parameters : Parameters)
    (isOpen : (view builder).frames ≠ [])
    (bounded :
      (view builder).offset + writtenSize parameters < 2 ^ 32) :
    ∃ pods,
      List.Forall₂ spa.Holds pods (writtenValues parameters) ∧
        Appends (writtenSize parameters) (pods.map .pod)
          (view builder)
          (view (addParameters spa builder parameters).1) := by
  induction parameters generalizing builder with
  | nil =>
      exact ⟨[], .nil, Appends.refl isOpen⟩
  | cons parameter rest inductionHypothesis =>
      rw [writtenSize_cons] at bounded ⊢
      rw [addParameters_cons]
      obtain ⟨namePod, nameHolds, nameAppends⟩ :=
        (contract.string builder (cStr parameter.1)).appends
          isOpen (by omega)
      have nameOffset := nameAppends.offset
      obtain ⟨_, valueWrites⟩ :=
        writePropertyValue_writes contract
          (spa.spaPodBuilderString builder (cStr parameter.1)).1
          parameter.2
      obtain ⟨valuePod, valueHolds, valueAppends⟩ :=
        valueWrites.appends nameAppends.isOpen (by omega)
      have valueOffset := valueAppends.offset
      obtain ⟨restPods, restHold, restAppends⟩ :=
        inductionHypothesis valueAppends.isOpen (by omega)
      exact ⟨namePod :: valuePod :: restPods,
        .cons nameHolds (.cons valueHolds restHold),
        nameAppends.trans (valueAppends.trans restAppends)⟩

/-- Inside the struct that is opened for it, the loop appends to that struct. -/
theorem addParameters_appends_struct
    (contract : BuilderContract spa view)
    (keyed : Builder)
    (parameters : Parameters)
    (bounded :
      (view keyed).offset + (8 + writtenSize parameters) < 2 ^ 32) :
    ∃ pods,
      List.Forall₂ spa.Holds pods (writtenValues parameters) ∧
        Appends (writtenSize parameters) (pods.map .pod)
          ((view keyed).push .struct 8)
          (view
            (addParameters spa (spa.spaPodBuilderPushStruct keyed).1
              parameters).1) := by
  have opened := (contract.pushStruct keyed).opens (by omega)
  have openedFrames :
      (view (spa.spaPodBuilderPushStruct keyed).1).frames ≠ [] := by
    simp [opened, State.push]
  have openedOffset :
      (view (spa.spaPodBuilderPushStruct keyed).1).offset =
        (view keyed).offset + 8 := by
    simp [opened, State.push]
  rw [← opened]
  exact addParameters_appends contract parameters openedFrames (by omega)

/--
`add_to_pod_object` outputs `addedSize` bytes; if they fit, the object has got
one more property, whose value is the struct of the parameter list.
-/
theorem addToPodObject_appends
    (contract : BuilderContract spa view)
    (builder : Builder)
    (parameters : Parameters)
    (isOpen : (view builder).frames ≠ [])
    (bounded :
      (view builder).offset + addedSize parameters < 2 ^ 32) :
    ∃ items,
      Appends (addedSize parameters) items
          (view builder)
          (view (addToPodObject spa builder parameters).1) ∧
        ((view builder).offset + addedSize parameters ≤
            (view builder).capacity →
          IsParamsItems spa.toPodReader parameters items) := by
  by_cases empty : parameters = []
  · subst parameters
    exact ⟨[], Appends.refl isOpen, fun _ => rfl⟩
  · have notEmpty : parameters.isEmpty = false := by
      simpa using empty
    have size :
        addedSize parameters = 8 + (8 + writtenSize parameters) := by
      simp [addedSize, notEmpty]
    rw [size] at bounded ⊢
    rw [addToPodObject_builder spa builder empty]
    have keyAppends :=
      contract.prop_appends isOpen spa.spaPropParams 0 (by omega)
    have keyOffset := keyAppends.offset
    have keyCapacity := keyAppends.capacity
    generalize (spa.spaPodBuilderProp builder
      spa.spaPropParams 0).1 = keyed at *
    obtain ⟨pods, podsHold, inside⟩ :=
      addParameters_appends_struct contract keyed parameters
        (by omega)
    obtain ⟨items, structAppends, structItems⟩ :=
      (contract.pop _).appends keyAppends.isOpen inside
    refine ⟨_, keyAppends.trans structAppends, fun room => ?_⟩
    obtain ⟨pod, rfl, -, isStruct, isChildren⟩ :=
      structItems (by omega)
    rw [IsParamsItems, notEmpty, if_neg (by decide)]
    refine ⟨pod, rfl, isStruct, ?_⟩
    rw [isChildren, podsOf_map_pod]
    exact podsHold

end Appending

end ParametersProperty

end Pwcpp
