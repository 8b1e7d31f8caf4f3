import Pwcpp.ParameterStore
import Pwcpp.ParametersRoundTrip

namespace Pwcpp

/-!
# Local and remote readers of one parameter list

A local reader takes the first entry of a name.  A remote reader merges the
published struct into an empty list, where the last pair of a name wins.  The
store keeps distinct names distinct, but the builder that makes the first list
does not look for repeated names, and the second entry of a repeated name is
never written again.
-/

namespace ParametersBuilder

/-- `ParametersBuilder::add`. -/
def add
    (parameters : Parameters)
    (name : StdString)
    (value : PropertyValueType) :
    Parameters :=
  parameters ++ [(name, value)]

/-- `ParametersBuilder::build`: the property holds the builder's vector. -/
def build (parameters : Parameters) : Parameters :=
  parameters

/-- The vector of the property that a sequence of `add` calls builds. -/
def built (adds : List Parameter) : Parameters :=
  build (adds.foldl (fun parameters added =>
    add parameters added.1 added.2) [])

/-- The vector has an entry for each call, repeated names included. -/
theorem built_eq (adds : List Parameter) : built adds = adds := by
  have loop :
      ∀ parameters : Parameters,
        adds.foldl (fun parameters added =>
          add parameters added.1 added.2) parameters =
          parameters ++ adds := by
    induction adds with
    | nil =>
        simp
    | cons added rest inductionHypothesis =>
        intro parameters
        rw [List.foldl_cons, inductionHypothesis, add,
          List.append_assoc]
        rfl
  exact loop []

end ParametersBuilder

/-- The decoder takes the parameter as it was written. -/
def Parameter.Readable (parameter : Parameter) : Prop :=
  parameter.NulFree ∧ parameter.2.Decodable

instance : DecidablePred Parameter.Readable :=
  fun _ => inferInstanceAs (Decidable (_ ∧ _))

namespace ParametersProperty

open FirstMatch

/--
Whoever takes the struct that is written for `parameters` and merges it into an
empty list finds under every name what a local lookup finds.
-/
def ReadersAgree
    {Pod Builder : Type}
    (spa : Spa Pod Builder)
    (view : BuilderView Pod Builder)
    (builder : Builder)
    (parameters : Parameters) : Prop :=
  ∀ pod,
    spa.AddsParams view builder
        (addToPodObject spa builder parameters).1 pod →
      ∃ remote,
        updateFromPod spa.toPodReader [] pod = .ok (remote, .ok ()) ∧
          ∀ name, lookup name remote = lookup name parameters

section Readers

variable {Pod Builder : Type}
  {spa : Spa Pod Builder}
  {view : BuilderView Pod Builder}

/-- A remote reader of a readable list sees the last entry of each name. -/
theorem updateFromPod_of_isParamsStruct
    {reader : PodReader Pod}
    {parameters : Parameters}
    {pod : Pod}
    (readable : ∀ parameter ∈ parameters, parameter.Readable)
    (isStruct : IsParamsStruct reader parameters pod) :
    updateFromPod reader [] pod =
      .ok (merge [] parameters, .ok ()) := by
  have decodable :
      parameters.filterMap readBack = parameters :=
    (filterMap_readBack_iff fun parameter member =>
      (readable parameter member).1).mpr
        fun parameter member => (readable parameter member).2
  have parses := parse_of_isParamsStruct isStruct
  rw [decodable] at parses
  exact updateFromPod_of_parse parses

/-- With enough room, readers agree iff both ends of the list read alike. -/
theorem readersAgree_iff
    (contract : BuilderContract spa view)
    (builder : Builder)
    {parameters : Parameters}
    (readable : ∀ parameter ∈ parameters, parameter.Readable)
    (isOpen : (view builder).frames ≠ [])
    (room :
      (view builder).offset + addedSize parameters ≤
        (view builder).capacity) :
    ReadersAgree spa view builder parameters ↔
      ∀ name,
        lookupLast name parameters = lookup name parameters := by
  have remoteLookup :
      ∀ name,
        lookup name (merge [] parameters) =
          lookupLast name parameters := by
    intro name
    rw [lookup_merge, lookup_nil, Option.or_none]
  by_cases empty : parameters = []
  · subst parameters
    constructor
    · intro _ name
      rfl
    · intro _ pod adds
      exact (not_addsParams_nil adds).elim
  · obtain ⟨pod, adds, isStruct⟩ :=
      addToPodObject_addsParams contract builder empty isOpen room
    have merges := updateFromPod_of_isParamsStruct readable isStruct
    constructor
    · intro agree name
      obtain ⟨remote, mergesRemote, sameLookup⟩ := agree pod adds
      rw [merges] at mergesRemote
      cases mergesRemote
      rw [← remoteLookup, sameLookup]
    · intro sameEnds other addsOther
      rw [← adds.unique addsOther]
      refine ⟨_, merges, fun name => ?_⟩
      rw [remoteLookup, sameEnds]

/--
After any run, local and remote readers agree on every name exactly when, for
every name that was added at least twice, the value last written to it is the
value of its last `add`.
-/
theorem readersAgree_after_run_iff
    (contract : BuilderContract spa view)
    {adds : List Parameter}
    {calls : List (StoreCall Pod)}
    {final : Parameters}
    (addsReadable : ∀ added ∈ adds, added.Readable)
    (callsReadable :
      ∀ call ∈ calls,
        ∀ written ∈ call.writes spa.toPodReader, written.Readable)
    (completes :
      FaultingRun.run (StoreCall.apply spa.toPodReader)
          (ParametersBuilder.built adds) calls =
        .ok final)
    {builder : Builder}
    (isOpen : (view builder).frames ≠ [])
    (room :
      (view builder).offset + addedSize final ≤
        (view builder).capacity) :
    ReadersAgree spa view builder final ↔
      ∀ name, Repeated name adds →
        (lookupLast name
            (calls.flatMap (StoreCall.writes spa.toPodReader))).or
          (lookup name adds) =
          lookupLast name adds := by
  rw [ParametersBuilder.built_eq] at completes
  have history := run_evolves completes
  have finalReadable : ∀ parameter ∈ final, parameter.Readable := by
    intro parameter member
    rcases history.origin parameter member with wasAdded | wasWritten
    · exact addsReadable parameter wasAdded
    · obtain ⟨call, called, isWrite⟩ := List.mem_flatMap.mp wasWritten
      exact callsReadable call called parameter isWrite
  rw [readersAgree_iff contract builder finalReadable isOpen room]
  exact history.lookup_eq_lookupLast_iff

/-- A name added twice and then updated to the value of its second `add`. -/
theorem readersAgree_after_update :
    ReadersAgree referenceSpa ReferenceBuilder.state
      (referenceProps 1024)
      [(ascii "gain", .int 2), (ascii "port", .long 45),
        (ascii "gain", .int 2)] :=
  (readersAgree_after_run_iff referenceSpa_contract
    (by decide :
      ∀ added ∈
        [(ascii "gain", PropertyValueType.int 1),
          (ascii "port", .long 45), (ascii "gain", .int 2)],
        Parameter.Readable added)
    (List.forall_mem_singleton.mpr (by decide) :
      ∀ call ∈ [StoreCall.update (ascii "gain") (.int 2)], _)
    rfl
    (by decide)
    (by decide)).mpr (by
      intro name repeated
      have onKeys :
          ∀ key ∈ [ascii "gain", ascii "port", ascii "gain"],
            Repeated key
              [(ascii "gain", PropertyValueType.int 1),
                (ascii "port", .long 45), (ascii "gain", .int 2)] →
            key = ascii "gain" := by
        decide
      rw [onKeys name repeated.mem_keys repeated]
      decide)

/-- A name added twice: a local reader finds 1, a remote reader finds 2. -/
theorem not_readersAgree_of_added_twice :
    ¬ ReadersAgree referenceSpa ReferenceBuilder.state
      (referenceProps 1024)
      (ParametersBuilder.built
        [(ascii "gain", .int 1), (ascii "gain", .int 2)]) := by
  intro agree
  have sameEnds :=
    (readersAgree_iff referenceSpa_contract (referenceProps 1024)
      (by decide) (by decide) (by decide)).mp agree (ascii "gain")
  exact absurd sameEnds (by decide)

end Readers

end ParametersProperty

end Pwcpp
