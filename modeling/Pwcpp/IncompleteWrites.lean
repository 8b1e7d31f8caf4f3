import Pwcpp.ParametersEncoding
import Pwcpp.SpaReference

namespace Pwcpp

/-!
# What `add_to_pod_object` reports

A builder call whose bytes do not fit returns a negative code and goes on
counting.  `add_to_pod_object` and `write_property_value` have an error channel
but drop every code, so the result says success whatever was written.  Here
the writes are followed call by call, each against the builder it is made on.
-/

namespace ParametersProperty

open FramedBuffer

section Writes

variable {Pod Builder : Type}

/-- Each name and each value fits the buffer when it is written. -/
def EachWritten
    (spa : Spa Pod Builder)
    (view : BuilderView Pod Builder) :
    Builder → Parameters → Prop
  | _, [] =>
      True
  | builder, parameter :: rest =>
      let name := SpaValue.string (cStr parameter.1)
      let named :=
        (spa.spaPodBuilderString builder (cStr parameter.1)).1
      (view builder).Fits name.podSize ∧
        (view named).Fits parameter.2.written.podSize ∧
        EachWritten spa view
          (writePropertyValue spa named parameter.2).1 rest

/-- Everything that `add_to_pod_object` has to write is written whole. -/
structure WrittenWhole
    (spa : Spa Pod Builder)
    (view : BuilderView Pod Builder)
    (builder keyed opened : Builder)
    (parameters : Parameters) : Prop where
  property :
    (view builder).Fits 8
  header :
    (view keyed).Fits 8
  children :
    EachWritten spa view opened parameters
  struct :
    (spa.spaPodBuilderPop
      (addParameters spa opened parameters).1).2.isSome = true

/-- `add_to_pod_object` has nothing to write, or writes it whole. -/
def AddsWhole
    (spa : Spa Pod Builder)
    (view : BuilderView Pod Builder)
    (builder : Builder)
    (parameters : Parameters) : Prop :=
  parameters = [] ∨
    WrittenWhole spa view builder
      (spa.spaPodBuilderProp builder spa.spaPropParams 0).1
      (spa.spaPodBuilderPushStruct
        (spa.spaPodBuilderProp builder spa.spaPropParams 0).1).1
      parameters

variable
  {spa : Spa Pod Builder}
  {view : BuilderView Pod Builder}

/-- A pod that fits moves the offset by its size and leaves the capacity. -/
theorem offset_of_writesPod
    (contract : BuilderContract spa view)
    {before : Builder}
    {result : Builder × Int}
    {value : SpaValue}
    (writes : spa.WritesPod view before result value)
    (fits : (view before).Fits value.podSize) :
    (view result.1).offset = (view before).offset + value.podSize ∧
      (view result.1).capacity = (view before).capacity := by
  have bounded :
      (view before).offset + value.podSize < 2 ^ 32 :=
    Nat.lt_of_le_of_lt fits (contract.capacity_lt before)
  obtain ⟨pod, -, written⟩ := writes.writes bounded
  rw [written]
  exact ⟨rfl, rfl⟩

/-- Each child fits when it is written iff all of them together do. -/
theorem eachWritten_iff
    (contract : BuilderContract spa view)
    {builder : Builder}
    (parameters : Parameters)
    (within : (view builder).offset ≤ (view builder).capacity) :
    EachWritten spa view builder parameters ↔
      (view builder).offset + writtenSize parameters ≤
        (view builder).capacity := by
  induction parameters generalizing builder with
  | nil =>
      simp [EachWritten, within]
  | cons parameter rest inductionHypothesis =>
      have nameWrites := contract.string builder (cStr parameter.1)
      obtain ⟨code, valueWrites⟩ :=
        writePropertyValue_writes contract
          (spa.spaPodBuilderString builder (cStr parameter.1)).1
          parameter.2
      simp only [EachWritten, writtenSize_cons]
      constructor
      · intro written
        obtain ⟨nameFits, valueFits, restWritten⟩ := written
        obtain ⟨nameOffset, nameCapacity⟩ :=
          offset_of_writesPod contract nameWrites nameFits
        obtain ⟨valueOffset, valueCapacity⟩ :=
          offset_of_writesPod contract valueWrites valueFits
        simp only [State.Fits] at nameFits valueFits
        simp only at valueOffset valueCapacity
        have restFits :=
          (inductionHypothesis (by omega)).mp restWritten
        omega
      · intro allFit
        have nameFits :
            (view builder).Fits
              (SpaValue.string (cStr parameter.1)).podSize := by
          simp only [State.Fits]
          omega
        obtain ⟨nameOffset, nameCapacity⟩ :=
          offset_of_writesPod contract nameWrites nameFits
        have valueFits :
            (view (spa.spaPodBuilderString builder
                (cStr parameter.1)).1).Fits
              parameter.2.written.podSize := by
          simp only [State.Fits]
          omega
        obtain ⟨valueOffset, valueCapacity⟩ :=
          offset_of_writesPod contract valueWrites valueFits
        simp only at valueOffset valueCapacity
        exact ⟨nameFits, valueFits,
          (inductionHypothesis (by omega)).mpr (by omega)⟩

/-- The struct is written whole when it and all its children fit. -/
theorem isSome_pop_of_fits
    (contract : BuilderContract spa view)
    {keyed : Builder}
    (parameters : Parameters)
    (fits :
      (view keyed).offset + (8 + writtenSize parameters) ≤
        (view keyed).capacity) :
    (spa.spaPodBuilderPop
      (addParameters spa (spa.spaPodBuilderPushStruct keyed).1
        parameters).1).2.isSome = true := by
  have small := contract.capacity_lt keyed
  obtain ⟨pods, -, inside⟩ :=
    addParameters_appends_struct contract keyed parameters (by omega)
  have closed := (contract.pop _).of_inside inside
  rw [if_pos fits] at closed
  obtain ⟨pod, returns, -⟩ := closed
  exact Option.isSome_iff_exists.mpr ⟨pod, returns⟩

/-- Everything is written whole iff it fits together. -/
theorem addsWhole_iff
    (contract : BuilderContract spa view)
    (builder : Builder)
    (parameters : Parameters) :
    AddsWhole spa view builder parameters ↔
      parameters = [] ∨
        (view builder).offset + addedSize parameters ≤
          (view builder).capacity := by
  rw [AddsWhole]
  by_cases empty : parameters = []
  · simp [empty]
  · have size :
        addedSize parameters = 8 + (8 + writtenSize parameters) := by
      simp [addedSize, empty]
    have small := contract.capacity_lt builder
    have keyedView := contract.prop_writes builder spa.spaPropParams 0
    generalize
      (spa.spaPodBuilderProp builder spa.spaPropParams 0).1 = keyed at *
    have openedView := (contract.pushStruct keyed).opens
    simp only [empty, false_or, size]
    constructor
    · intro whole
      have property := whole.property
      have header := whole.header
      simp only [State.Fits] at property header
      rw [keyedView (by omega)] at header openedView
      simp only [State.write] at header openedView
      have opened := openedView (by omega)
      have children :=
        (eachWritten_iff contract parameters (by
          simp only [opened, State.push]
          omega)).mp whole.children
      simp only [opened, State.push] at children
      omega
    · intro fits
      have keyedShape := keyedView (by omega)
      have keyedOffset : (view keyed).offset = (view builder).offset + 8 := by
        rw [keyedShape]
        rfl
      have keyedCapacity :
          (view keyed).capacity = (view builder).capacity := by
        rw [keyedShape]
        rfl
      have opened := openedView (by omega)
      exact {
        property := by
          simp only [State.Fits]
          omega
        header := by
          simp only [State.Fits]
          omega
        children := by
          have openedWithin :
              (view (spa.spaPodBuilderPushStruct keyed).1).offset ≤
                (view (spa.spaPodBuilderPushStruct keyed).1).capacity := by
            simp only [opened, State.push]
            omega
          rw [eachWritten_iff contract parameters openedWithin]
          simp only [opened, State.push]
          omega
        struct := isSome_pop_of_fits contract parameters (by omega)
      }

end Writes

section Reports

variable {Pod Builder : Type}

/-- `add_to_pod_object` returns success iff everything is written whole. -/
def ReportsIncompleteWrites
    (spa : Spa Pod Builder)
    (view : BuilderView Pod Builder)
    (builder : Builder)
    (parameters : Parameters) : Prop :=
  (addToPodObject spa builder parameters).2 = .ok () ↔
    AddsWhole spa view builder parameters

/--
`add_to_pod_object` reports incomplete writes exactly when there is none: the
list is empty or its property fits what is left of the buffer.
-/
theorem reportsIncompleteWrites_iff
    {spa : Spa Pod Builder}
    {view : BuilderView Pod Builder}
    (contract : BuilderContract spa view)
    (builder : Builder)
    (parameters : Parameters) :
    ReportsIncompleteWrites spa view builder parameters ↔
      parameters = [] ∨
        (view builder).offset + addedSize parameters ≤
          (view builder).capacity := by
  simp only [ReportsIncompleteWrites, addToPodObject_result,
    true_iff, addsWhole_iff contract]

/-- The 48 bytes of the property fit an object in a buffer of 64 bytes. -/
theorem reportsIncompleteWrites_gain :
    ReportsIncompleteWrites referenceSpa ReferenceBuilder.state
      (referenceProps 64) [(ascii "gain", .int 1)] :=
  (reportsIncompleteWrites_iff referenceSpa_contract (referenceProps 64)
    [(ascii "gain", .int 1)]).mpr (Or.inr (by decide))

/-- In a buffer that ends after the object's header nothing is reported. -/
theorem not_reportsIncompleteWrites_small :
    ¬ ReportsIncompleteWrites referenceSpa ReferenceBuilder.state
      (referenceProps 16) [(ascii "gain", .int 1)] := by
  intro reports
  have succeeds :
      (addToPodObject referenceSpa (referenceProps 16)
        [(ascii "gain", .int 1)]).2 = .ok () :=
    addToPodObject_result referenceSpa (referenceProps 16) _
  rcases reports.mp succeeds with noneToWrite | whole
  · cases noneToWrite
  · exact absurd whole.property (by decide)

end Reports

end ParametersProperty

end Pwcpp
