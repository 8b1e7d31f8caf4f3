import Pwcpp.FaultingRun
import Pwcpp.FirstMatchHistory
import Pwcpp.OrderedMap
import Pwcpp.ParametersDecoding

namespace Pwcpp

/-!
# The parameter store as an insertion-ordered map

The vector of parameters is changed by `update` and `update_from_pod` only.
For every run of the two, in any order, this module relates each vector to the
one before it, entry by entry, and to an insertion-ordered map.
-/

/-- One call that changes the vector of parameters. -/
inductive StoreCall (Pod : Type) where
  | update (name : StdString) (value : PropertyValueType)
  | updateFromPod (pod : Pod)

namespace StoreCall

/-- The vector after the call; its result is dropped. -/
def apply
    (reader : PodReader Pod)
    (parameters : Parameters) :
    StoreCall Pod → Exec Parameters
  | .update name value =>
      .ok (ParametersProperty.update parameters name value).1
  | .updateFromPod pod => do
      let result ←
        ParametersProperty.updateFromPod reader parameters pod
      return result.1

/-- The pod of the call, if it has one, can be parsed. -/
def Parses (reader : PodReader Pod) : StoreCall Pod → Prop
  | .update _ _ =>
      True
  | .updateFromPod pod =>
      ∃ updates, ParametersProperty.parse reader pod = .ok (.ok updates)

/-- The pairs that a call tries to write, in order. -/
def writes (reader : PodReader Pod) : StoreCall Pod → Parameters
  | .update name value =>
      [(name, value)]
  | .updateFromPod pod =>
      ParametersProperty.decodedPairs reader
        (reader.spaPodStructForeach pod)

end StoreCall

namespace ParametersProperty

open FirstMatch

/--
What `update` does: with an entry of the name it succeeds and replaces the
value of the first one; without, it fails and changes nothing.
-/
structure UpdateLaw
    (before : Parameters)
    (name : StdString)
    (value : PropertyValueType)
    (result : Parameters × Expected Unit) : Prop where
  found :
    name ∈ keys before →
      result.2 = .ok () ∧
        ∃ earlier old later,
          before = earlier ++ (name, old) :: later ∧
            name ∉ keys earlier ∧
            result.1 = earlier ++ (name, value) :: later
  missing :
    name ∉ keys before →
      result = (before, .error (Error.parameterNotFound name))

/--
What merging parsed pairs does: absent names are appended once each in order
of first occurrence, the first entry of every pair's name gets the value of the
last such pair, and every other entry stays as it is.
-/
structure MergeLaw (before updates after : Parameters) : Prop where
  names :
    keys after =
      keys before ++ addedKeys before updates
  written :
    ∀ name ∈ keys updates,
      lookup name after = lookupLast name updates
  unchanged :
    ∀ {index : Nat} {entry : Parameter},
      before[index]? = some entry →
      (entry.1 ∈ keys updates → Shadowed before index entry.1) →
      after[index]? = some entry

/-- What one call does to the vector and to the map it represents. -/
def CallLaw
    (reader : PodReader Pod)
    (before : Parameters)
    (call : StoreCall Pod)
    (after : Parameters) : Prop :=
  match call with
  | .update name value =>
      UpdateLaw before name value (update before name value) ∧
        after = (update before name value).1 ∧
        OrderedMap.ofEntries after =
          ((OrderedMap.ofEntries before).assign name value).getD
            (OrderedMap.ofEntries before)
  | .updateFromPod pod =>
      ∃ updates,
        parse reader pod = .ok (.ok updates) ∧
          updateFromPod reader before pod = .ok (after, .ok ()) ∧
          MergeLaw before updates after ∧
          OrderedMap.ofEntries after =
            (OrderedMap.ofEntries before).merge updates

/-- `update` obeys its law. -/
theorem update_law
    (parameters : Parameters)
    (name : StdString)
    (value : PropertyValueType) :
    UpdateLaw parameters name value (update parameters name value) := by
  unfold update
  cases assigns : assign name value parameters with
  | none =>
      have absent := assign_eq_none_iff.mp assigns
      exact {
        found := fun present => (absent present).elim
        missing := fun _ => rfl
      }
  | some assigned =>
      obtain ⟨earlier, old, later, shape, absent, shape'⟩ :=
        assign_eq_some_iff.mp assigns
      exact {
        found := fun _ =>
          ⟨rfl, earlier, old, later, shape, absent, shape'⟩
        missing := fun missing => by
          rw [assign_eq_none_iff.mpr missing] at assigns
          cases assigns
      }

/-- Merging obeys its law. -/
theorem merge_law (before updates : Parameters) :
    MergeLaw before updates (merge before updates) where
  names :=
    keys_merge before updates
  written name member := by
    rw [lookup_merge]
    cases last : lookupLast name updates with
    | none =>
        exact (lookupLast_eq_none_iff.mp last member).elim
    | some value =>
        rfl
  unchanged :=
    getElem?_merge

/-- `update` keeps every name at its position. -/
theorem keys_update
    (parameters : Parameters)
    (name : StdString)
    (value : PropertyValueType) :
    keys (update parameters name value).1 = keys parameters := by
  unfold update
  cases assigns : assign name value parameters with
  | none =>
      rfl
  | some assigned =>
      exact keys_assign assigns

/-- `update` is assignment to the represented map. -/
theorem ofEntries_update
    (parameters : Parameters)
    (name : StdString)
    (value : PropertyValueType) :
    OrderedMap.ofEntries (update parameters name value).1 =
      ((OrderedMap.ofEntries parameters).assign name value).getD
        (OrderedMap.ofEntries parameters) := by
  rw [OrderedMap.ofEntries_assign, update]
  cases assign name value parameters <;> rfl

/-- `parse` never reports an error of its own. -/
theorem parse_eq_ok
    {reader : PodReader Pod}
    {pod : Pod}
    {result : Expected Parameters}
    (parses : parse reader pod = .ok result) :
    ∃ updates, result = .ok updates := by
  exact ⟨_, (parse_eq_ok_iff.mp parses).2⟩

/-- A completed `update_from_pod` merged the pairs that `parse` read. -/
theorem updateFromPod_eq_ok_iff
    {reader : PodReader Pod}
    {before : Parameters}
    {pod : Pod}
    {result : Parameters × Expected Unit} :
    updateFromPod reader before pod = .ok result ↔
      ∃ updates,
        parse reader pod = .ok (.ok updates) ∧
          result = (merge before updates, .ok ()) := by
  constructor
  · intro completes
    cases parses : parse reader pod with
    | error fault =>
        rw [updateFromPod, parses] at completes
        cases completes
    | ok parsed =>
        obtain ⟨updates, rfl⟩ := parse_eq_ok parses
        rw [updateFromPod_of_parse parses] at completes
        cases completes
        exact ⟨updates, rfl, rfl⟩
  · rintro ⟨updates, parses, rfl⟩
    exact updateFromPod_of_parse parses

/-- With parsed pairs, `update_from_pod` succeeds and obeys its law. -/
theorem updateFromPod_law
    {reader : PodReader Pod}
    {pod : Pod}
    {updates : Parameters}
    (parses : parse reader pod = .ok (.ok updates))
    (before : Parameters) :
    ∃ after,
      updateFromPod reader before pod = .ok (after, .ok ()) ∧
        MergeLaw before updates after :=
  ⟨merge before updates, updateFromPod_of_parse parses,
    merge_law before updates⟩

/-- A call completes from any vector if its pod can be parsed. -/
theorem exists_apply_of_parses
    {reader : PodReader Pod}
    {call : StoreCall Pod}
    (parses : call.Parses reader)
    (before : Parameters) :
    ∃ after, call.apply reader before = .ok after := by
  cases call with
  | update name value =>
      exact ⟨_, rfl⟩
  | updateFromPod pod =>
      obtain ⟨updates, parsed⟩ := parses
      obtain ⟨after, succeeds, -⟩ := updateFromPod_law parsed before
      rw [StoreCall.apply, succeeds]
      exact ⟨after, rfl⟩

/-- Every completed call obeys its law. -/
theorem call_law
    {reader : PodReader Pod}
    {before after : Parameters}
    {call : StoreCall Pod}
    (steps : call.apply reader before = .ok after) :
    CallLaw reader before call after := by
  cases call with
  | update name value =>
      cases steps
      exact ⟨update_law before name value, rfl,
        ofEntries_update before name value⟩
  | updateFromPod pod =>
      cases completes : updateFromPod reader before pod with
      | error fault =>
          rw [StoreCall.apply, completes] at steps
          cases steps
      | ok result =>
          rw [StoreCall.apply, completes] at steps
          cases steps
          obtain ⟨updates, parses, rfl⟩ :=
            updateFromPod_eq_ok_iff.mp completes
          exact ⟨updates, parses, completes, merge_law before updates,
            OrderedMap.ofEntries_merge before updates⟩

/-- Every completed call keeps the names at their positions. -/
theorem CallLaw.keys_prefix
    {reader : PodReader Pod}
    {before after : Parameters}
    {call : StoreCall Pod}
    (law : CallLaw reader before call after) :
    keys before <+: keys after := by
  cases call with
  | update name value =>
      have sameKeys : keys after = keys before := by
        rw [law.2.1, keys_update]
      exact ⟨[], (List.append_nil _).trans sameKeys.symm⟩
  | updateFromPod pod =>
      obtain ⟨updates, -, -, merged, -⟩ := law
      rw [merged.names]
      exact List.prefix_append _ _

/-- Every completed call keeps pairwise distinct names pairwise distinct. -/
theorem CallLaw.nodup_keys
    {reader : PodReader Pod}
    {before after : Parameters}
    {call : StoreCall Pod}
    (law : CallLaw reader before call after)
    (distinct : (keys before).Nodup) :
    (keys after).Nodup := by
  cases call with
  | update name value =>
      rw [law.2.1, keys_update]
      exact distinct
  | updateFromPod pod =>
      obtain ⟨updates, -, -, merged, -⟩ := law
      rw [merged.names, ← keys_merge]
      exact nodup_keys_merge distinct updates

/-- `update` evolves the vector by the pair that it is given. -/
theorem update_evolves
    (parameters : Parameters)
    (name : StdString)
    (value : PropertyValueType) :
    Evolves parameters [(name, value)] (update parameters name value).1 := by
  unfold update
  cases assigns : assign name value parameters with
  | none =>
      exact Evolves.of_dropped (assign_eq_none_iff.mp assigns)
  | some assigned =>
      exact Evolves.of_assign assigns

/-- A completed call evolves the vector by the pairs that it writes. -/
theorem call_evolves
    {reader : PodReader Pod}
    {before after : Parameters}
    {call : StoreCall Pod}
    (steps : call.apply reader before = .ok after) :
    Evolves before (call.writes reader) after := by
  have law := call_law steps
  cases call with
  | update name value =>
      rw [law.2.1]
      exact update_evolves before name value
  | updateFromPod pod =>
      obtain ⟨updates, parses, merges, -⟩ := law
      obtain ⟨-, pairs⟩ := parse_eq_ok_iff.mp parses
      rw [updateFromPod_of_parse parses] at merges
      cases merges
      cases pairs
      exact Evolves.merge before _

/-- A completed run evolves the vector by all the pairs that it writes. -/
theorem run_evolves
    {reader : PodReader Pod}
    {initial final : Parameters}
    {calls : List (StoreCall Pod)}
    (completes :
      FaultingRun.run (StoreCall.apply reader) initial calls =
        .ok final) :
    Evolves initial (calls.flatMap (StoreCall.writes reader)) final :=
  FaultingRun.history_of_run Evolves (StoreCall.writes reader)
    Evolves.refl Evolves.trans call_evolves completes

/--
The store refines an insertion-ordered map: from every vector `update_from_pod`
merges parsed pairs, and a run whose pods can be parsed completes; along every
run each completed call obeys its law, and at the end no name has disappeared
or moved, and distinct names are still distinct.
-/
theorem store_refines_orderedMap
    (reader : PodReader Pod)
    (initial : Parameters)
    (calls : List (StoreCall Pod)) :
    (∀ before pod updates,
        parse reader pod = .ok (.ok updates) →
        ∃ after,
          updateFromPod reader before pod = .ok (after, .ok ()) ∧
            MergeLaw before updates after) ∧
      ((∀ call ∈ calls, call.Parses reader) →
        ∃ final,
          FaultingRun.run (StoreCall.apply reader) initial calls =
            .ok final) ∧
      FaultingRun.EveryStep (StoreCall.apply reader)
        (CallLaw reader) initial calls ∧
      ∀ final,
        FaultingRun.run (StoreCall.apply reader) initial calls =
            .ok final →
          keys initial <+: keys final ∧
            ((keys initial).Nodup → (keys final).Nodup) := by
  have everyCall :=
    FaultingRun.everyStep_of_step
      (CallLaw reader) call_law initial calls
  refine ⟨?_, ?_, everyCall,
    fun final completes => ⟨?_, fun distinct => ?_⟩⟩
  · intro before pod updates parses
    exact updateFromPod_law parses before
  · intro allParse
    exact FaultingRun.exists_run_of_completes
      (fun before call member =>
        exists_apply_of_parses (allParse call member) before)
      initial
  · exact FaultingRun.invariant_of_run
      (fun parameters => keys initial <+: keys parameters)
      (fun reached _ law => reached.trans law.keys_prefix)
      (List.prefix_refl _) everyCall completes
  · exact FaultingRun.invariant_of_run
      (fun parameters => (keys parameters).Nodup)
      (fun reached _ law => law.nodup_keys reached)
      distinct everyCall completes

end ParametersProperty

end Pwcpp
