import Pwcpp.FaultingRun
import Pwcpp.FilterEvents
import Pwcpp.ParameterStore
import Pwcpp.ParametersRoundTrip

namespace Pwcpp

/-!
# What the callbacks advertise

Properties of runs of the callbacks: what is published, when a notification
leaves the app as it is, and when the last published pod is still that of the
current list.
-/

open FirstMatch

section Steps

variable {Pod Builder : Type}
  {spa : Spa Pod Builder}
  {view : BuilderView Pod Builder}

/-- A list that fits the buffer is published whole. -/
theorem updateParams_of_fits
    (contract : BuilderContract spa view)
    {state : AppState Pod}
    (fits : propsSize state.parameters ≤ 1024) :
    ∃ pod,
      (state.updateParams spa).published =
          state.published ++ [some pod] ∧
        IsPropsObject spa.toPodReader state.parameters pod := by
  have fitsSize : propsSize state.parameters ≤ UInt32.toNat 1024 := fits
  have built :=
    buildParamsPod_eq contract 1024
      (Nat.lt_of_le_of_lt fits (by decide))
  rw [if_pos fitsSize] at built
  obtain ⟨pod, returns, isObject⟩ := built
  refine ⟨pod, ?_, isObject⟩
  rw [AppState.updateParams, returns]

/-- What `param_changed` does when it returns. -/
theorem paramChanged_cases
    {state next : AppState Pod}
    {parameterId : UInt32}
    {pod : Option Pod}
    (returns : state.paramChanged spa parameterId pod = .ok next) :
    (next = state ∧
        (parameterId ≠ spa.spaParamProps ∨
          ∃ podObject, pod = some podObject ∧
            spa.spaPodObjectFindProp podObject spa.spaPropParams =
              none)) ∨
      ∃ podObject property updates,
        parameterId = spa.spaParamProps ∧
          pod = some podObject ∧
          spa.spaPodObjectFindProp podObject spa.spaPropParams =
            some property ∧
          ParametersProperty.parse spa.toPodReader property.value =
            .ok (.ok updates) ∧
          next =
            { state with
              parameters := merge state.parameters updates
              }.updateParams spa := by
  by_cases isProps : parameterId = spa.spaParamProps
  · rw [AppState.paramChanged, if_pos isProps] at returns
    cases pod with
    | none =>
        cases returns
    | some podObject =>
        rw [dereference_some] at returns
        cases finds :
            spa.spaPodObjectFindProp podObject spa.spaPropParams with
        | none =>
            simp only [Bind.bind, Except.bind, finds] at returns
            cases returns
            exact Or.inl ⟨rfl, Or.inr ⟨podObject, rfl, finds⟩⟩
        | some property =>
            simp only [Bind.bind, Except.bind, finds] at returns
            cases merges :
                ParametersProperty.updateFromPod spa.toPodReader
                  state.parameters property.value with
            | error fault =>
                rw [merges] at returns
                cases returns
            | ok result =>
                obtain ⟨updates, parses, rfl⟩ :=
                  ParametersProperty.updateFromPod_eq_ok_iff.mp merges
                rw [merges] at returns
                cases returns
                exact Or.inr
                  ⟨podObject, property, updates, isProps, rfl, finds,
                    parses, rfl⟩
  · rw [AppState.paramChanged, if_neg isProps] at returns
    cases returns
    exact Or.inl ⟨rfl, Or.inl isProps⟩

/-- The `update` calls of a signal processor only write to first matches. -/
theorem process_evolves
    (state : AppState Pod)
    (updates : List UpdateCall) :
    Evolves state.parameters updates (state.process updates).parameters ∧
      keys (state.process updates).parameters = keys state.parameters := by
  obtain ⟨parameters, published⟩ := state
  simp only [AppState.process]
  induction updates generalizing parameters with
  | nil =>
      exact ⟨Evolves.refl parameters, rfl⟩
  | cons call rest inductionHypothesis =>
      rw [List.foldl_cons]
      obtain ⟨later, laterKeys⟩ :=
        inductionHypothesis
          (ParametersProperty.update parameters call.1 call.2).1
      have first :=
        ParametersProperty.update_evolves parameters call.1 call.2
      have firstKeys :=
        ParametersProperty.keys_update parameters call.1 call.2
      exact ⟨first.trans later, laterKeys.trans firstKeys⟩

end Steps

section Publishing

variable {Pod Builder : Type}

/--
The callback published nothing, or the complete object of the list that it
left behind.
-/
def PublishesWhole
    (reader : PodReader Pod)
    (before : AppState Pod)
    (_event : FilterEvent Pod)
    (after : AppState Pod) : Prop :=
  after.published = before.published ∨
    ∃ pod,
      after.published = before.published ++ [some pod] ∧
        IsPropsObject reader after.parameters pod

/-- If the callback publishes, the list it encodes takes at most 1024 bytes. -/
def FitsBuffer
    (reader : PodReader Pod)
    (before : AppState Pod) :
    FilterEvent Pod → Prop
  | .stateChanged oldState newState =>
      oldState = .connecting →
      newState = .paused →
      propsSize before.parameters ≤ 1024
  | .paramChanged parameterId pod =>
      parameterId = reader.spaParamProps →
      ∀ podObject, pod = some podObject →
      ∀ property,
        reader.spaPodObjectFindProp podObject reader.spaPropParams =
            some property →
        propsSize
            (merge before.parameters
              (ParametersProperty.decodedPairs reader
                (reader.spaPodStructForeach property.value))) ≤
          1024
  | .process _ =>
      True

variable
  {spa : Spa Pod Builder}
  {view : BuilderView Pod Builder}

/-- A callback whose list fits the buffer publishes it whole. -/
theorem publishesWhole_of_fitsBuffer
    (contract : BuilderContract spa view)
    {before after : AppState Pod}
    {event : FilterEvent Pod}
    (steps : before.handle spa event = .ok after)
    (fits : FitsBuffer spa.toPodReader before event) :
    PublishesWhole spa.toPodReader before event after := by
  cases event with
  | stateChanged oldState newState =>
      cases steps
      rw [AppState.stateChanged]
      split
      · rename_i connected
        exact Or.inr
          (updateParams_of_fits contract
            (fits connected.1 connected.2))
      · exact Or.inl rfl
  | paramChanged parameterId pod =>
      rcases paramChanged_cases steps with
        ⟨same, -⟩ |
        ⟨podObject, property, updates, isProps, isPod, finds, parses,
          shape⟩
      · exact Or.inl (by rw [same])
      · obtain ⟨-, pairs⟩ :=
          ParametersProperty.parse_eq_ok_iff.mp parses
        cases pairs
        subst shape
        have merged := fits isProps podObject isPod property finds
        exact Or.inr (updateParams_of_fits contract merged)
  | process updates =>
      cases steps
      exact Or.inl rfl

/--
In every run whose published lists fit the buffer, every published pod is the
complete object of the list held at that moment.
-/
theorem every_publication_is_whole
    (contract : BuilderContract spa view)
    {initial : AppState Pod}
    {events : List (FilterEvent Pod)}
    (fits :
      FaultingRun.EveryStep (AppState.handle spa)
        (fun before event _ => FitsBuffer spa.toPodReader before event)
        initial events) :
    FaultingRun.EveryStep (AppState.handle spa)
      (PublishesWhole spa.toPodReader) initial events :=
  FaultingRun.everyStep_imp
    (publishesWhole_of_fitsBuffer contract) fits

/-- A list that does not fit is published as a null pointer. -/
theorem updateParams_of_overflow
    (contract : BuilderContract spa view)
    {state : AppState Pod}
    (overflows : 1024 < propsSize state.parameters)
    (bounded : propsSize state.parameters < 2 ^ 32) :
    (state.updateParams spa).published = state.published ++ [none] := by
  have overflowsSize :
      ¬ propsSize state.parameters ≤ UInt32.toNat 1024 :=
    Nat.not_le_of_lt overflows
  have built := buildParamsPod_eq contract 1024 bounded
  rw [if_neg overflowsSize] at built
  rw [AppState.updateParams, built]

/-- What publishes an object does not publish a null pointer. -/
theorem not_publishesWhole_of_null
    {reader : PodReader Pod}
    {before after : AppState Pod}
    {event : FilterEvent Pod}
    (null : after.published = before.published ++ [none]) :
    ¬ PublishesWhole reader before event after := by
  intro whole
  rcases whole with nothing | ⟨pod, same, -⟩
  · rw [null] at nothing
    simp at nothing
  · rw [null] at same
    simp at same

/-- A list that is published whole fits the buffer. -/
theorem fits_of_publishesWhole
    (contract : BuilderContract spa view)
    {before state : AppState Pod}
    {event : FilterEvent Pod}
    (whole :
      PublishesWhole spa.toPodReader before event
        (state.updateParams spa))
    (bounded : propsSize state.parameters < 2 ^ 32)
    (samePublished : state.published = before.published) :
    propsSize state.parameters ≤ 1024 := by
  by_contra overflows
  have null :=
    updateParams_of_overflow contract (Nat.lt_of_not_le overflows) bounded
  rw [samePublished] at null
  exact not_publishesWhole_of_null null whole

/-- A callback that publishes a list whole has one that fits the buffer. -/
theorem fitsBuffer_of_publishesWhole
    (contract : BuilderContract spa view)
    {before after : AppState Pod}
    {event : FilterEvent Pod}
    (steps : before.handle spa event = .ok after)
    (bounded : propsSize after.parameters < 2 ^ 32)
    (whole : PublishesWhole spa.toPodReader before event after) :
    FitsBuffer spa.toPodReader before event := by
  cases event with
  | stateChanged oldState newState =>
      intro isConnecting isPaused
      have sameState : before.updateParams spa = after := by
        cases steps
        rw [AppState.stateChanged, if_pos ⟨isConnecting, isPaused⟩]
      subst sameState
      exact fits_of_publishesWhole contract whole bounded rfl
  | paramChanged parameterId pod =>
      intro isProps podObject isPod property finds
      rcases paramChanged_cases steps with
        ⟨-, notProps | ⟨other, isOther, notFound⟩⟩ |
        ⟨other, found, updates, -, isOther, findsToo, parses, shape⟩
      · exact (notProps isProps).elim
      · obtain rfl := Option.some.inj (isPod.symm.trans isOther)
        rw [finds] at notFound
        cases notFound
      · obtain rfl := Option.some.inj (isPod.symm.trans isOther)
        obtain rfl := Option.some.inj (finds.symm.trans findsToo)
        obtain ⟨-, pairs⟩ :=
          ParametersProperty.parse_eq_ok_iff.mp parses
        cases pairs
        subst shape
        exact fits_of_publishesWhole contract whole bounded rfl
  | process updates =>
      trivial

/--
In a run in which every publication is whole, every published list fits the
buffer, as long as the sizes of the lists are those of pods.
-/
theorem every_publication_fits
    (contract : BuilderContract spa view)
    {initial : AppState Pod}
    {events : List (FilterEvent Pod)}
    (whole :
      FaultingRun.EveryStep (AppState.handle spa)
        (fun before event after =>
          propsSize after.parameters < 2 ^ 32 ∧
            PublishesWhole spa.toPodReader before event after)
        initial events) :
    FaultingRun.EveryStep (AppState.handle spa)
      (fun before event _ => FitsBuffer spa.toPodReader before event)
      initial events := by
  apply FaultingRun.everyStep_imp _ whole
  intro before event after steps both
  exact fitsBuffer_of_publishesWhole contract steps both.1 both.2

/-- A `Props` object of the reference library with a params struct. -/
def referenceNotification (fields : List (List UInt8 × SpaValue)) :
    ReferencePod :=
  .object referenceSpa.spaTypeObjectProps referenceSpa.spaParamProps
    [{
      key := referenceSpa.spaPropParams
      flags := 0
      value := ParametersProperty.referenceStruct fields
    }]

/-- A client adds a parameter and the filter connects: both lists fit. -/
theorem every_publication_is_whole_small :
    FaultingRun.EveryStep (AppState.handle referenceSpa)
      (PublishesWhole referenceSpa.toPodReader)
      { parameters := [(ascii "gain", .int 1)], published := [] }
      [.paramChanged 2
          (some (referenceNotification [(ascii "mode", .string (ascii "x"))])),
        .stateChanged .connecting .paused] :=
  every_publication_is_whole referenceSpa_contract
    ⟨fun _ podObject isPod property finds => by
        cases isPod
        cases finds
        decide,
      fun _ _ => by decide, trivial⟩

/-- A name of `length` characters. -/
def longName (length : Nat) : StdString :=
  List.replicate length 97

/-- The size of the object of one integer parameter with a long name. -/
theorem propsSize_longName (length : Nat) :
    propsSize [(longName length, .int 1)] = 56 + pad8 (length + 1) := by
  have nulFree : NulFree (longName length) := by
    intro member
    have isLetter := List.eq_of_mem_replicate member
    cases isLetter
  have sameLength : (cStr (longName length)).length = length := by
    rw [cStr_eq_self nulFree, longName, List.length_replicate]
  have valueSize : (SpaValue.int 1).podSize = 16 :=
    rfl
  simp only [propsSize, addedSize, writtenSize_cons, writtenSize_nil,
    List.isEmpty_cons, Bool.false_eq_true, ↓reduceIte,
    PropertyValueType.written, valueSize]
  rw [SpaValue.podSize, SpaValue.bodySize, sameLength]
  omega

/-- One parameter with a long name: the filter connects and publishes null. -/
theorem not_every_publication_is_whole :
    ¬ FaultingRun.EveryStep (AppState.handle referenceSpa)
      (PublishesWhole referenceSpa.toPodReader)
      { parameters := [(longName 1000, .int 1)], published := [] }
      [.stateChanged .connecting .paused] := by
  have size : propsSize [(longName 1000, .int 1)] = 1064 :=
    propsSize_longName 1000
  have publishesNull :
      (AppState.updateParams referenceSpa
        { parameters := [(longName 1000, .int 1)]
          published := [] }).published = [none] :=
    updateParams_of_overflow referenceSpa_contract
      (by rw [size]; decide) (by rw [size]; decide)
  intro everyWhole
  rcases everyWhole with ⟨publishes, -⟩
  exact not_publishesWhole_of_null publishesNull publishes

end Publishing

section Notifications

variable {Pod Builder : Type}

/-- A `Props` notification whose `SPA_PROP_params` value is a struct. -/
def CarriesParameters
    (reader : PodReader Pod)
    (parameterId : UInt32)
    (pod : Option Pod) : Prop :=
  parameterId = reader.spaParamProps ∧
    ∃ podObject, pod = some podObject ∧
      reader.spaPodType podObject = .object ∧
      reader.spaPodObjectType podObject = reader.spaTypeObjectProps ∧
      ∃ property,
        reader.spaPodObjectFindProp podObject reader.spaPropParams =
            some property ∧
          reader.spaPodType property.value = .struct

/--
A notification that carries no parameters leaves the app as it is exactly when
it has another id, or it is a pod in which no `SPA_PROP_params` is found.
-/
theorem paramChanged_unchanged_iff
    (spa : Spa Pod Builder)
    (state : AppState Pod)
    (parameterId : UInt32)
    (pod : Option Pod) :
    (¬ CarriesParameters spa.toPodReader parameterId pod →
        state.paramChanged spa parameterId pod = .ok state) ↔
      CarriesParameters spa.toPodReader parameterId pod ∨
        parameterId ≠ spa.spaParamProps ∨
        ∃ podObject, pod = some podObject ∧
          spa.spaPodObjectFindProp podObject spa.spaPropParams =
            none := by
  constructor
  · intro unchanged
    by_cases carries :
        CarriesParameters spa.toPodReader parameterId pod
    · exact Or.inl carries
    · rcases paramChanged_cases (unchanged carries) with
        ⟨-, nothing⟩ |
        ⟨podObject, property, updates, -, -, -, -, shape⟩
      · exact Or.inr nothing
      · have lengths :=
          congrArg (fun app => app.published.length) shape
        rw [AppState.updateParams, List.length_append] at lengths
        exact (Nat.succ_ne_self _ lengths.symm).elim
  · intro condition notCarries
    rcases condition with carries | otherId | ⟨podObject, rfl, finds⟩
    · exact (notCarries carries).elim
    · rw [AppState.paramChanged, if_neg otherId]
      rfl
    · rw [AppState.paramChanged]
      split
      · simp only [dereference_some, Bind.bind, Except.bind, finds]
        rfl
      · rfl

/-- A pod of bytes that a walk would take for one named integer. -/
def referenceBytes : ReferencePod :=
  .raw .bytes []
    [.value (.string (ascii "gain")), .value (.int 2)]

/--
A cleared parameter is followed through its null pointer, and a value of bytes
changes the list.
-/
theorem not_paramChanged_unchanged :
    (¬ CarriesParameters referenceSpa.toPodReader 2 none ∧
        AppState.paramChanged referenceSpa
            { parameters := [(ascii "gain", .int 1)], published := [] }
            2 none =
          .error .nullDereference) ∧
      ¬ CarriesParameters referenceSpa.toPodReader 2
          (some (.object 0x40002 2
            [{ key := 0x80001, flags := 0, value := referenceBytes }])) ∧
      ∃ next,
        AppState.paramChanged referenceSpa
            { parameters := [(ascii "gain", .int 1)], published := [] }
            2
            (some (.object 0x40002 2
              [{ key := 0x80001, flags := 0, value := referenceBytes }])) =
          .ok next ∧
          next.parameters = [(ascii "gain", .int 2)] := by
  refine ⟨⟨?_, rfl⟩, ?_, _, rfl, rfl⟩
  · intro carries
    rcases carries with ⟨-, podObject, isPod, -⟩
    cases isPod
  · intro carries
    rcases carries with ⟨-, podObject, isPod, -, -, property, finds, isStruct⟩
    cases isPod
    cases finds
    cases isStruct

end Notifications

section Currency

variable {Pod Builder : Type}
  {spa : Spa Pod Builder}
  {view : BuilderView Pod Builder}

/-- The last published pod is the complete object of the current list. -/
def IsAdvertised (reader : PodReader Pod) (state : AppState Pod) : Prop :=
  ∃ pod,
    state.published.getLast? = some (some pod) ∧
      IsPropsObject reader state.parameters pod

/--
The signal processor leaves every parameter with the encoding it had: for each
name of the list, the last value it writes is encoded like the first match.
-/
def KeepsEncoding (before : AppState Pod) : FilterEvent Pod → Prop
  | .process updates =>
      ∀ name ∈ keys before.parameters,
        ((lookupLast name updates).or
            (lookup name before.parameters)).map
            PropertyValueType.written =
          (lookup name before.parameters).map PropertyValueType.written
  | _ =>
      True

/-- Lists with the same names are written alike iff their values are. -/
theorem writtenValues_eq_iff
    {first second : Parameters}
    (sameKeys : keys first = keys second) :
    writtenValues first = writtenValues second ↔
      first.map (fun parameter => parameter.2.written) =
        second.map (fun parameter => parameter.2.written) := by
  induction first generalizing second with
  | nil =>
      cases second with
      | nil =>
          simp
      | cons parameter rest =>
          cases sameKeys
  | cons parameter rest inductionHypothesis =>
      cases second with
      | nil =>
          cases sameKeys
      | cons other others =>
          rw [keys_cons, keys_cons, List.cons.injEq] at sameKeys
          rw [writtenValues_cons, writtenValues_cons, sameKeys.1,
            List.cons.injEq, List.cons.injEq, List.map_cons,
            List.map_cons, List.cons.injEq,
            inductionHypothesis sameKeys.2]
          simp

/-- `process` keeps what is written for the list iff it keeps the encoding. -/
theorem writtenValues_process_iff
    (state : AppState Pod)
    (updates : List UpdateCall) :
    writtenValues (state.process updates).parameters =
        writtenValues state.parameters ↔
      KeepsEncoding state (.process updates) := by
  obtain ⟨history, sameKeys⟩ := process_evolves state updates
  exact (writtenValues_eq_iff sameKeys).trans
    (history.map_values_eq_iff sameKeys PropertyValueType.written)

/-- A state that has just published is advertised if its list fits. -/
theorem isAdvertised_updateParams
    (contract : BuilderContract spa view)
    {state : AppState Pod}
    (fits : propsSize state.parameters ≤ 1024) :
    IsAdvertised spa.toPodReader (state.updateParams spa) := by
  obtain ⟨pod, publishes, isObject⟩ :=
    updateParams_of_fits contract fits
  refine ⟨pod, ?_, isObject⟩
  rw [publishes, List.getLast?_concat]

/-- One callback keeps the list advertised iff it keeps the encoding. -/
theorem isAdvertised_step_iff
    (contract : BuilderContract spa view)
    {before after : AppState Pod}
    {event : FilterEvent Pod}
    (advertised : IsAdvertised spa.toPodReader before)
    (steps : before.handle spa event = .ok after)
    (fits : propsSize after.parameters ≤ 1024) :
    IsAdvertised spa.toPodReader after ↔ KeepsEncoding before event := by
  cases event with
  | stateChanged oldState newState =>
      cases steps
      refine iff_of_true ?_ trivial
      rw [AppState.stateChanged] at fits ⊢
      split at fits
      · rename_i connected
        rw [if_pos connected]
        exact isAdvertised_updateParams contract fits
      · rename_i notConnected
        rw [if_neg notConnected]
        exact advertised
  | paramChanged parameterId pod =>
      refine iff_of_true ?_ trivial
      rcases paramChanged_cases steps with
        ⟨same, -⟩ |
        ⟨podObject, property, updates, -, -, -, -, shape⟩
      · rw [same]
        exact advertised
      · subst shape
        exact isAdvertised_updateParams contract fits
  | process updates =>
      cases steps
      rw [← writtenValues_process_iff]
      obtain ⟨pod, isLast, isObject⟩ := advertised
      constructor
      · intro advertised
        rcases advertised with ⟨other, isLast', isObject'⟩
        have samePod : some (some other) = some (some pod) :=
          isLast'.symm.trans isLast
        cases samePod
        exact isObject.iff_of_isPropsObject.mp isObject'
      · intro same
        exact ⟨pod, isLast, isObject.iff_of_isPropsObject.mpr same⟩

/--
From the first change to paused on, the last published pod is that of the
current list in every state reached exactly when no signal processor changes
the encoding of a parameter.
-/
theorem advertised_in_every_state_iff
    (contract : BuilderContract spa view)
    {initial connected : AppState Pod}
    {earlier : List (FilterEvent Pod)}
    (later : List (FilterEvent Pod))
    (connects :
      FaultingRun.run (AppState.handle spa) initial
          (earlier ++ [.stateChanged .connecting .paused]) =
        .ok connected)
    (fits : propsSize connected.parameters ≤ 1024)
    (laterFits :
      FaultingRun.EveryStep (AppState.handle spa)
        (fun _ _ after => propsSize after.parameters ≤ 1024)
        connected later) :
    (IsAdvertised spa.toPodReader connected ∧
        FaultingRun.EveryStep (AppState.handle spa)
          (fun _ _ after => IsAdvertised spa.toPodReader after)
          connected later) ↔
      FaultingRun.EveryStep (AppState.handle spa)
        (fun before event _ => KeepsEncoding before event)
        connected later := by
  have advertised : IsAdvertised spa.toPodReader connected := by
    obtain ⟨paused, -, lastStep⟩ :=
      FaultingRun.run_append_eq_ok.mp connects
    cases lastStep
    exact isAdvertised_updateParams contract fits
  have everyState :=
    FaultingRun.everyStep_invariant_iff
      (IsAdvertised spa.toPodReader)
      (fun before event _ => KeepsEncoding before event)
      (isAdvertised_step_iff contract) advertised laterFits
  constructor
  · intro current
    exact everyState.mp current.2
  · intro keeps
    exact ⟨advertised, everyState.mpr keeps⟩

/-- The filter of one parameter right after it connected. -/
def referenceConnected : AppState ReferencePod :=
  AppState.updateParams referenceSpa
    { parameters := [(ascii "gain", .int 1)], published := [] }

/-- A signal processor writes other values and then the old one back. -/
theorem advertised_in_every_state_restored :
    IsAdvertised referenceSpa.toPodReader referenceConnected ∧
      FaultingRun.EveryStep (AppState.handle referenceSpa)
        (fun _ _ after =>
          IsAdvertised referenceSpa.toPodReader after)
        referenceConnected
        [.process
          [(ascii "gain", .int 2), (ascii "gain", .int 1)]] :=
  (advertised_in_every_state_iff referenceSpa_contract
    [.process [(ascii "gain", .int 2), (ascii "gain", .int 1)]]
    (rfl :
      FaultingRun.run (AppState.handle referenceSpa)
          { parameters := [(ascii "gain", .int 1)], published := [] }
          ([] ++ [.stateChanged .connecting .paused]) =
        .ok referenceConnected)
    (by decide)
    ⟨by decide, trivial⟩).mpr
      ⟨by
        change ∀ name ∈ [ascii "gain"], _
        decide,
      trivial⟩

/-- A signal processor changes a parameter, and nothing is published. -/
theorem not_advertised_in_every_state :
    ¬ (IsAdvertised referenceSpa.toPodReader referenceConnected ∧
      FaultingRun.EveryStep (AppState.handle referenceSpa)
        (fun _ _ after =>
          IsAdvertised referenceSpa.toPodReader after)
        referenceConnected
        [.process [(ascii "gain", .int 2)]]) := by
  intro everyAdvertised
  rcases everyAdvertised with ⟨current, afterProcess, -⟩
  have keeps :=
    (isAdvertised_step_iff referenceSpa_contract current
      (rfl :
        referenceConnected.handle referenceSpa
            (.process [(ascii "gain", .int 2)]) =
          .ok _)
      (by decide)).mp afterProcess
  exact absurd (keeps (ascii "gain") (.head _)) (by decide)

end Currency

end Pwcpp
