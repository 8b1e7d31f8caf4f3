import Pwcpp.BuilderSharing
import Pwcpp.FirstMatchHistory
import Pwcpp.ParameterStore
import Pwcpp.SharedCells
import Pwcpp.SpaReference

namespace Pwcpp

/-!
# Which steps keep builders and apps apart

As long as no builder was copied, every builder has a vector of its own, but
the apps that it built hold the same one.  So a step is independent of what it
is not taken through exactly when it leaves the vectors that are held twice as
they are.
-/

section Configuration

variable {platform : Platform}

/-- Setters keep the parameters builder. -/
@[simp] theorem AppBuilder.parametersBuilder_apply
    (builder : AppBuilder platform)
    (call : SetterCall platform) :
    (builder.apply call).parametersBuilder = builder.parametersBuilder := by
  cases call <;> rfl

/-- Setters do not look at identities. -/
theorem AppBuilder.configuration_apply
    (builder : AppBuilder platform)
    (call : SetterCall platform) :
    (builder.apply call).configuration =
      builder.configuration.apply call := by
  cases call <;> rfl

/-- `build` keeps the builder. -/
@[simp] theorem AppBuilder.build_fst
    (builder : AppBuilder platform)
    (filterApp : AppId)
    (environment : Environment platform) :
    (builder.build filterApp environment).1 = builder := by
  rw [AppBuilder.build]
  split <;> rfl

/-- `build` does not look at identities. -/
theorem AppBuilder.build_configuration
    (builder : AppBuilder platform)
    (filterApp : AppId)
    (environment : Environment platform) :
    (builder.configuration.build filterApp environment).2 =
      ((builder.build filterApp environment).2.1,
        (builder.build filterApp environment).2.2.map
          App.configuration) := by
  simp only [AppBuilder.build, AppBuilder.unsupported,
    AppBuilder.configuration]
  split <;> rfl

/-- An app holds the vector of the builder that built it. -/
theorem AppBuilder.parametersProperty_of_build
    {builder : AppBuilder platform}
    {filterApp : AppId}
    {environment : Environment platform}
    {app : App platform}
    (builds :
      (builder.build filterApp environment).2.2 = .ok app) :
    app.parametersProperty = builder.parametersBuilder.parameters := by
  rw [AppBuilder.build] at builds
  split at builds
  · cases builds
    rfl
  · cases builds

end Configuration

section Frames

variable {platform : Platform} {Pod : Type}

/-- Without sharing, a step changes no builder that it is not taken through. -/
theorem ValueState.getElem?_builders_step
    {reader : PodReader Pod}
    {state next : ValueState platform}
    {event : SharingEvent platform Pod}
    (steps : state.step reader event = .ok next)
    {other : BuilderId}
    (present : other < state.builders.length)
    (elsewhere : event.builder? ≠ some other) :
    next.builders[other]? = state.builders[other]? := by
  cases event with
  | construct collaborators =>
      cases steps
      exact List.getElem?_append_left present
  | copy identity =>
      obtain ⟨copied, -, steps⟩ := Exec.bind_eq_ok_iff.mp steps
      cases steps
      exact List.getElem?_append_left present
  | add identity name value =>
      obtain ⟨builder, -, steps⟩ := Exec.bind_eq_ok_iff.mp steps
      cases steps
      exact List.getElem?_modify_ne _ _
        fun same => elsewhere (congrArg some same)
  | set identity call =>
      obtain ⟨builder, -, steps⟩ := Exec.bind_eq_ok_iff.mp steps
      cases steps
      exact List.getElem?_modify_ne _ _
        fun same => elsewhere (congrArg some same)
  | build identity =>
      obtain ⟨builder, -, steps⟩ := Exec.bind_eq_ok_iff.mp steps
      cases steps
      rfl
  | update identity name value =>
      obtain ⟨app, -, steps⟩ := Exec.bind_eq_ok_iff.mp steps
      cases steps
      rfl
  | updateFromPod identity pod =>
      obtain ⟨app, -, steps⟩ := Exec.bind_eq_ok_iff.mp steps
      obtain ⟨updated, -, steps⟩ := Exec.bind_eq_ok_iff.mp steps
      cases steps
      rfl

/-- Without sharing, a step changes no app that it is not taken through. -/
theorem ValueState.getElem?_apps_step
    {reader : PodReader Pod}
    {state next : ValueState platform}
    {event : SharingEvent platform Pod}
    (steps : state.step reader event = .ok next)
    {other : AppId}
    (present : other < state.apps.length)
    (elsewhere : event.app? ≠ some other) :
    next.apps[other]? = state.apps[other]? := by
  cases event with
  | construct collaborators =>
      cases steps
      rfl
  | copy identity =>
      obtain ⟨copied, -, steps⟩ := Exec.bind_eq_ok_iff.mp steps
      cases steps
      rfl
  | add identity name value =>
      obtain ⟨builder, -, steps⟩ := Exec.bind_eq_ok_iff.mp steps
      cases steps
      rfl
  | set identity call =>
      obtain ⟨builder, -, steps⟩ := Exec.bind_eq_ok_iff.mp steps
      cases steps
      rfl
  | build identity =>
      obtain ⟨builder, -, steps⟩ := Exec.bind_eq_ok_iff.mp steps
      cases steps
      exact List.getElem?_append_left present
  | update identity name value =>
      obtain ⟨app, -, steps⟩ := Exec.bind_eq_ok_iff.mp steps
      cases steps
      exact List.getElem?_modify_ne _ _
        fun same => elsewhere (congrArg some same)
  | updateFromPod identity pod =>
      obtain ⟨app, -, steps⟩ := Exec.bind_eq_ok_iff.mp steps
      obtain ⟨updated, -, steps⟩ := Exec.bind_eq_ok_iff.mp steps
      cases steps
      exact List.getElem?_set_ne
        fun same => elsewhere (congrArg some same)

/-- A step that does what it would do without sharing is independent. -/
theorem independent_of_values
    {reader : PodReader Pod}
    {before after : SharingState platform}
    {event : SharingEvent platform Pod}
    (values : before.observe.step reader event = .ok after.observe)
    (finish :
      ∀ (identity : BuilderId) (builder : AppBuilder platform),
        after.builders[identity]? = some builder →
        builder.setUpParameters.finish = identity) :
    Independent reader before event after where
  builders _ present elsewhere :=
    ValueState.getElem?_builders_step values
      (present.trans_eq (List.length_map _).symm) elsewhere
  apps _ present elsewhere :=
    ValueState.getElem?_apps_step values
      (present.trans_eq (List.length_map _).symm) elsewhere
  values := values
  finish := finish

end Frames

section Separation

variable {platform : Platform} {Pod : Type}

namespace SharingState

/--
Every builder has a vector of its own and leads back to itself; every app holds
the vector of a builder.
-/
structure Separate (state : SharingState platform) : Prop where
  finish :
    ∀ (identity : BuilderId) (builder : AppBuilder platform),
      state.builders[identity]? = some builder →
      builder.setUpParameters.finish = identity
  allocated :
    ∀ (identity : BuilderId) (builder : AppBuilder platform),
      state.builders[identity]? = some builder →
      builder.parametersBuilder.parameters < state.vectors.length
  distinct :
    ∀ (first second : BuilderId) (builder other : AppBuilder platform),
      state.builders[first]? = some builder →
      state.builders[second]? = some other →
      builder.parametersBuilder.parameters =
        other.parametersBuilder.parameters →
      first = second
  built :
    ∀ app ∈ state.apps,
      ∃ (identity : BuilderId) (builder : AppBuilder platform),
        state.builders[identity]? = some builder ∧
          app.parametersProperty = builder.parametersBuilder.parameters

namespace Separate

/-- Before anything was constructed there is nothing to share. -/
theorem init (environment : Environment platform) :
    Separate (.init environment) where
  finish := by
    intro identity builder present
    cases present
  allocated := by
    intro identity builder present
    cases present
  distinct := by
    intro first second builder other present
    cases present
  built := by
    intro app member
    cases member

/-- The vector of an app exists. -/
theorem app_allocated
    {state : SharingState platform}
    (separate : state.Separate)
    {app : App platform}
    (member : app ∈ state.apps) :
    app.parametersProperty < state.vectors.length := by
  obtain ⟨identity, builder, present, holds⟩ := separate.built app member
  rw [holds]
  exact separate.allocated identity builder present

/-- A new builder gets a new vector. -/
theorem construct
    {state : SharingState platform}
    (separate : state.Separate)
    (collaborators : Collaborators platform) :
    Separate { state with
      vectors := state.vectors ++ [[]]
      builders := state.builders ++ [
        .injected collaborators state.builders.length
          state.vectors.length] } := by
  refine ⟨?_, ?_, ?_, ?_⟩
  · intro identity builder present
    rcases SharedCells.getElem?_concat_cases present with
      old | ⟨isNew, rfl⟩
    · exact separate.finish identity builder old
    · exact isNew.symm
  · intro identity builder present
    simp only [List.length_append, List.length_singleton]
    rcases SharedCells.getElem?_concat_cases present with
      old | ⟨-, rfl⟩
    · exact Nat.lt_succ_of_lt (separate.allocated identity builder old)
    · exact Nat.lt_succ_self _
  · intro first second builder other firstPresent secondPresent same
    rcases SharedCells.getElem?_concat_cases firstPresent with
      oldFirst | ⟨isNewFirst, rfl⟩
    · rcases SharedCells.getElem?_concat_cases secondPresent with
        oldSecond | ⟨-, rfl⟩
      · exact separate.distinct first second builder other oldFirst
          oldSecond same
      · have below := separate.allocated first builder oldFirst
        rw [same] at below
        exact (Nat.lt_irrefl _ below).elim
    · rcases SharedCells.getElem?_concat_cases secondPresent with
        oldSecond | ⟨isNewSecond, -⟩
      · have below := separate.allocated second other oldSecond
        rw [← same] at below
        exact (Nat.lt_irrefl _ below).elim
      · exact isNewFirst.trans isNewSecond.symm
  · intro app member
    obtain ⟨identity, builder, present, holds⟩ :=
      separate.built app member
    exact ⟨identity, builder,
      (List.getElem?_append_left
        (List.getElem?_eq_some_iff.mp present).1).trans present, holds⟩

/-- What a vector contains is not part of the separation. -/
theorem of_vectors
    {state : SharingState platform}
    (separate : state.Separate)
    {vectors : List Parameters}
    (sameLength : vectors.length = state.vectors.length) :
    Separate { state with vectors := vectors } where
  finish := separate.finish
  allocated identity builder present :=
    (separate.allocated identity builder present).trans_eq sameLength.symm
  distinct := separate.distinct
  built := separate.built

/-- What is set on a builder is not part of the separation. -/
theorem set
    {state : SharingState platform}
    (separate : state.Separate)
    (identity : BuilderId)
    (call : SetterCall platform) :
    Separate { state with
      builders :=
        state.builders.modify identity fun finished =>
          finished.apply call } := by
  have original :
      ∀ (other : BuilderId) (builder : AppBuilder platform),
        (state.builders.modify identity
            fun finished => finished.apply call)[other]? = some builder →
        ∃ before : AppBuilder platform,
          state.builders[other]? = some before ∧
            builder.parametersBuilder = before.parametersBuilder := by
    intro other builder present
    rw [List.getElem?_modify, Option.map_eq_map,
      Option.map_eq_some_iff] at present
    obtain ⟨before, presentBefore, rfl⟩ := present
    refine ⟨before, presentBefore, ?_⟩
    split
    · exact AppBuilder.parametersBuilder_apply before call
    · rfl
  refine ⟨?_, ?_, ?_, ?_⟩
  · intro other builder present
    obtain ⟨before, presentBefore, same⟩ := original other builder present
    rw [AppBuilder.setUpParameters, same]
    exact separate.finish other before presentBefore
  · intro other builder present
    obtain ⟨before, presentBefore, same⟩ := original other builder present
    rw [same]
    exact separate.allocated other before presentBefore
  · intro first second builder other firstPresent secondPresent same
    obtain ⟨before, presentBefore, sameFirst⟩ :=
      original first builder firstPresent
    obtain ⟨before', presentBefore', sameSecond⟩ :=
      original second other secondPresent
    rw [sameFirst, sameSecond] at same
    exact separate.distinct first second before before' presentBefore
      presentBefore' same
  · intro app member
    obtain ⟨other, builder, present, holds⟩ := separate.built app member
    refine ⟨other,
      if identity = other then builder.apply call else builder, ?_, ?_⟩
    · exact (List.getElem?_modify _ identity state.builders other).trans
        (congrArg _ present)
    · split
      · rw [holds, AppBuilder.parametersBuilder_apply]
      · exact holds

/-- A new app holds the vector of its builder. -/
theorem build
    {state : SharingState platform}
    (separate : state.Separate)
    {identity : BuilderId}
    {builder : AppBuilder platform}
    (present : state.builders[identity]? = some builder)
    (environment : Environment platform)
    {added : List (App platform)}
    (holds :
      ∀ app ∈ added,
        app.parametersProperty = builder.parametersBuilder.parameters) :
    Separate { state with
      environment := environment
      apps := state.apps ++ added } where
  finish := separate.finish
  allocated := separate.allocated
  distinct := separate.distinct
  built := by
    intro app member
    rcases List.mem_append.mp member with old | new
    · exact separate.built app old
    · exact ⟨identity, builder, present, holds app new⟩

end Separate

end SharingState

end Separation

section Observing

variable {platform : Platform} {Pod : Type}

namespace SharingState

/-- A changed vector has changed contents, every other one has the same. -/
theorem contents_modify
    {state : SharingState platform}
    {vector : VectorId}
    (allocated : vector < state.vectors.length)
    (change : Parameters → Parameters)
    (other : VectorId) :
    contents { state with
        vectors := state.vectors.modify vector change } other =
      if other = vector then
        change (state.contents vector)
      else
        state.contents other :=
  SharedCells.getD_modify allocated change other

theorem getElem?_observe_builders
    {state : SharingState platform}
    {identity : BuilderId}
    {builder : AppBuilder platform}
    (present : state.builders[identity]? = some builder) :
    state.observe.builders[identity]? =
      some (state.observeBuilder builder) := by
  rw [observe, List.getElem?_map, present]
  rfl

theorem getElem?_observe_apps
    {state : SharingState platform}
    {identity : AppId}
    {app : App platform}
    (present : state.apps[identity]? = some app) :
    state.observe.apps[identity]? = some (state.observeApp app) := by
  rw [observe, List.getElem?_map, present]
  rfl

/-- A builder that is there has one of the vectors. -/
theorem Separate.builder_allocated
    {state : SharingState platform}
    (separate : state.Separate)
    {builder : AppBuilder platform}
    (member : builder ∈ state.builders) :
    builder.parametersBuilder.parameters < state.vectors.length := by
  obtain ⟨identity, present⟩ := List.mem_iff_getElem?.mp member
  exact separate.allocated identity builder present

/-- Constructing a builder adds one with nothing set and no parameters. -/
theorem Separate.observe_construct
    {state : SharingState platform}
    (separate : state.Separate)
    (collaborators : Collaborators platform) :
    observe { state with
      vectors := state.vectors ++ [[]]
      builders := state.builders ++ [
        .injected collaborators state.builders.length
          state.vectors.length] } =
      { state.observe with
        builders := state.observe.builders ++ [{
          configuration := .injected collaborators 0 0
          parameters := [] }] } := by
  have sameContents :
      ∀ vector, vector < state.vectors.length →
        (state.vectors ++ [[]]).getD vector [] = state.contents vector :=
    fun vector below => List.getD_append _ _ _ vector below
  have newContents :
      (state.vectors ++ [[]]).getD state.vectors.length [] = [] := by
    simp
  simp only [observe, ValueState.mk.injEq, true_and]
  constructor
  · rw [List.map_append, List.map_singleton]
    congr 1
    · refine List.map_congr_left fun builder member => ?_
      rw [observeBuilder, observeBuilder, contents,
        sameContents _ (separate.builder_allocated member)]
    · rw [observeBuilder, contents]
      exact congrArg (fun parameters => [BuilderValue.mk _ parameters])
        newContents
  · refine List.map_congr_left fun app member => ?_
    rw [observeApp, observeApp, contents,
      sameContents _ (separate.app_allocated member)]

/-- Adding to a vector that no app holds adds to one builder. -/
theorem Separate.observe_add
    {state : SharingState platform}
    (separate : state.Separate)
    {identity : BuilderId}
    {builder : AppBuilder platform}
    (present : state.builders[identity]? = some builder)
    (unbuilt :
      ∀ app ∈ state.apps,
        app.parametersProperty ≠ builder.parametersBuilder.parameters)
    (name : StdString)
    (value : PropertyValueType) :
    observe { state with
      vectors :=
        state.vectors.modify builder.setUpParameters.parameters
          fun parameters => ParametersBuilder.add parameters name value } =
      { state.observe with
        builders :=
          state.observe.builders.modify identity fun builder =>
            { builder with
              parameters := builder.parameters ++ [(name, value)] } } := by
  have contentsAfter :=
    contents_modify (separate.allocated identity builder present)
      fun parameters => ParametersBuilder.add parameters name value
  simp only [observe, ValueState.mk.injEq, true_and]
  constructor
  · apply SharedCells.map_eq_modify
    · intro holder isHolder
      rw [present] at isHolder
      cases isHolder
      rw [observeBuilder, AppBuilder.setUpParameters, contentsAfter,
        if_pos rfl]
      rfl
    · intro other holder isHolder different
      rw [observeBuilder, AppBuilder.setUpParameters, contentsAfter,
        if_neg]
      · rfl
      · intro same
        exact different
          (separate.distinct other identity holder builder isHolder present
            same)
  · refine List.map_congr_left fun app member => ?_
    rw [observeApp, AppBuilder.setUpParameters, contentsAfter,
      if_neg (unbuilt app member)]
    rfl

/-- A setter sets something on one builder. -/
theorem observe_set
    (state : SharingState platform)
    (identity : BuilderId)
    (call : SetterCall platform) :
    observe { state with
      builders :=
        state.builders.modify identity fun finished =>
          finished.apply call } =
      { state.observe with
        builders :=
          state.observe.builders.modify identity fun builder =>
            { builder with
              configuration := builder.configuration.apply call } } := by
  simp only [observe, ValueState.mk.injEq, true_and]
  refine ⟨?_, rfl⟩
  apply List.ext_getElem?
  intro other
  simp only [List.getElem?_map, List.getElem?_modify]
  cases state.builders[other]? with
  | none =>
      rfl
  | some builder =>
      by_cases same : identity = other
      · simp [same, observeBuilder, contents, AppBuilder.configuration_apply]
      · simp [same, observeBuilder, contents]

/-- A successful `build` adds an app with the parameters of its builder. -/
theorem observe_build
    (state : SharingState platform)
    (builder : AppBuilder platform) :
    observe { state with
      environment := (builder.build state.apps.length state.environment).2.1
      apps :=
        state.apps ++
          match (builder.build state.apps.length state.environment).2.2 with
          | .ok filterApp => [filterApp]
          | .error _ => [] } =
      { state.observe with
        environment :=
          (builder.configuration.build state.observe.apps.length
            state.observe.environment).2.1
        apps :=
          state.observe.apps ++
            match
              (builder.configuration.build state.observe.apps.length
                state.observe.environment).2.2 with
            | .ok filterApp => [{
                configuration := filterApp
                parameters :=
                  state.contents builder.parametersBuilder.parameters }]
            | .error _ => [] } := by
  have sameLength : state.observe.apps.length = state.apps.length :=
    List.length_map _
  rw [sameLength]
  have builds :=
    AppBuilder.build_configuration builder state.apps.length
      state.environment
  have holds :
      ∀ app,
        (builder.build state.apps.length state.environment).2.2 = .ok app →
        app.parametersProperty = builder.parametersBuilder.parameters :=
    fun _ => AppBuilder.parametersProperty_of_build
  have sameEnvironment : state.observe.environment = state.environment :=
    rfl
  rw [sameEnvironment, builds]
  cases result :
      (builder.build state.apps.length state.environment).2.2 with
  | error error =>
      simp only [observe, Except.map, List.append_nil]
      rfl
  | ok app =>
      simp only [observe, Except.map, List.map_append, List.map_singleton,
        observeApp, contents, holds app result]
      rfl

end SharingState

end Observing

section Updating

/-- An update changes nothing iff the first value of the name is the same. -/
theorem ParametersProperty.update_eq_self_iff
    {parameters : Parameters}
    {name : StdString}
    {value : PropertyValueType} :
    (ParametersProperty.update parameters name value).1 = parameters ↔
      ∀ current,
        FirstMatch.lookup name parameters = some current →
        current = value := by
  unfold ParametersProperty.update
  cases assigns : FirstMatch.assign name value parameters with
  | none =>
      have absent :=
        FirstMatch.lookup_eq_none_iff.mpr
          (FirstMatch.assign_eq_none_iff.mp assigns)
      simp [absent]
  | some assigned =>
      have present :
          (FirstMatch.lookup name parameters).isSome = true := by
        rw [FirstMatch.isSome_lookup_iff]
        by_contra absent
        rw [FirstMatch.assign_eq_none_iff.mpr absent] at assigns
        cases assigns
      obtain ⟨current, lookedUp⟩ := Option.isSome_iff_exists.mp present
      rw [FirstMatch.assign_eq_self_iff assigns, lookedUp]
      simp

/-- What `update_from_pod` leaves behind when it completes. -/
theorem ParametersProperty.parameters_of_updateFromPod
    {Pod : Type}
    {reader : PodReader Pod}
    {before : Parameters}
    {pod : Pod}
    {result : Parameters × Expected Unit}
    (completes :
      ParametersProperty.updateFromPod reader before pod = .ok result) :
    result.1 =
      FirstMatch.merge before
        (ParametersProperty.decodedPairs reader
          (reader.spaPodStructForeach pod)) := by
  obtain ⟨updates, parses, rfl⟩ :=
    ParametersProperty.updateFromPod_eq_ok_iff.mp completes
  obtain ⟨-, sameUpdates⟩ := ParametersProperty.parse_eq_ok_iff.mp parses
  cases sameUpdates
  rfl

end Updating

section Steps

variable {platform : Platform} {Pod : Type}

/-- The vector of an app is there. -/
theorem SharingState.Separate.getElem?_of_app
    {state : SharingState platform}
    (separate : state.Separate)
    {app : App platform}
    (member : app ∈ state.apps) :
    state.vectors[app.parametersProperty]? =
      some (state.contents app.parametersProperty) := by
  have allocated := separate.app_allocated member
  rw [contents, List.getD_eq_getElem _ _ allocated]
  exact List.getElem?_eq_getElem allocated

/-- A change that keeps what an app's vector contains keeps all vectors. -/
theorem SharingState.Separate.modify_vectors_eq_self
    {state : SharingState platform}
    (separate : state.Separate)
    {app : App platform}
    (member : app ∈ state.apps)
    {change : Parameters → Parameters}
    (unchanged :
      change (state.contents app.parametersProperty) =
        state.contents app.parametersProperty) :
    state.vectors.modify app.parametersProperty change = state.vectors := by
  apply SharedCells.modify_eq_self
  intro parameters isContents
  rw [separate.getElem?_of_app member, Option.some.injEq] at isContents
  rw [← isContents]
  exact unchanged

/-- Without sharing, an update that keeps its list keeps everything. -/
theorem SharingState.values_update
    {reader : PodReader Pod}
    {state : SharingState platform}
    {identity : AppId}
    {app : App platform}
    {name : StdString}
    {value : PropertyValueType}
    (present : state.apps[identity]? = some app)
    (unchanged :
      (ParametersProperty.update
        (state.contents app.parametersProperty) name value).1 =
        state.contents app.parametersProperty) :
    state.observe.step reader (.update identity name value) =
      .ok state.observe := by
  have sameApps :
      state.observe.apps.modify identity
          (fun app =>
            { app with
              parameters :=
                (ParametersProperty.update app.parameters name value).1 }) =
        state.observe.apps := by
    apply SharedCells.modify_eq_self
    intro element isElement
    rw [SharingState.getElem?_observe_apps present, Option.some.injEq]
      at isElement
    rw [← isElement]
    exact congrArg (AppValue.mk app.configuration) unchanged
  simp only [ValueState.step, SharingState.getElem?_observe_apps present,
    dereference_some, Exec.bind_ok, sameApps]
  rfl

/-- Without sharing, a merge that keeps its list keeps everything. -/
theorem SharingState.values_updateFromPod
    {reader : PodReader Pod}
    {state : SharingState platform}
    {identity : AppId}
    {app : App platform}
    {pod : Pod}
    {result : Parameters × Expected Unit}
    (present : state.apps[identity]? = some app)
    (completes :
      ParametersProperty.updateFromPod reader
        (state.contents app.parametersProperty) pod = .ok result)
    (unchanged : result.1 = state.contents app.parametersProperty) :
    state.observe.step reader
        (.updateFromPod identity pod : SharingEvent platform Pod) =
      .ok state.observe := by
  have completesAlone :
      ParametersProperty.updateFromPod reader
          (state.observeApp app).parameters pod =
        .ok result :=
    completes
  simp only [ValueState.step, SharingState.getElem?_observe_apps present,
    dereference_some, Exec.bind_ok, completesAlone, unchanged]
  exact congrArg
    (fun apps => Except.ok { state.observe with apps := apps })
    (SharedCells.set_eq_self (SharingState.getElem?_observe_apps present))

/--
A step that keeps builders and apps apart does what it would do without
sharing, and leaves everybody separate.
-/
theorem KeepsApart.simulates
    {reader : PodReader Pod}
    {before after : SharingState platform}
    {event : SharingEvent platform Pod}
    (separate : before.Separate)
    (steps : before.step reader event = .ok after)
    (apart : KeepsApart reader before event) :
    before.observe.step reader event = .ok after.observe ∧
      after.Separate := by
  cases event with
  | construct collaborators =>
      cases steps
      exact ⟨congrArg _ (separate.observe_construct collaborators).symm,
        separate.construct collaborators⟩
  | copy identity =>
      exact apart.elim
  | add identity name value =>
      obtain ⟨builder, present, steps⟩ :=
        dereference_bind_eq_ok_iff.mp steps
      cases steps
      constructor
      · rw [separate.observe_add present (apart builder present)]
        simp only [ValueState.step,
          SharingState.getElem?_observe_builders present,
          dereference_some]
        rfl
      · exact separate.of_vectors (List.length_modify _ _ _)
  | set identity call =>
      obtain ⟨builder, present, steps⟩ :=
        dereference_bind_eq_ok_iff.mp steps
      have finish := separate.finish identity builder present
      rw [finish] at steps
      cases steps
      constructor
      · rw [SharingState.observe_set]
        simp only [ValueState.step,
          SharingState.getElem?_observe_builders present,
          dereference_some]
        rfl
      · exact separate.set identity call
  | build identity =>
      obtain ⟨builder, present, steps⟩ :=
        dereference_bind_eq_ok_iff.mp steps
      have sameBuilders :
          before.builders.set identity builder = before.builders :=
        SharedCells.set_eq_self present
      simp only [AppBuilder.build_fst, sameBuilders] at steps
      cases steps
      constructor
      · refine Eq.trans ?_
          (congrArg Except.ok
            (SharingState.observe_build before builder).symm)
        simp only [ValueState.step,
          SharingState.getElem?_observe_builders present,
          dereference_some]
        rfl
      · refine separate.build present _ ?_
        intro app added
        split at added
        next filterApp builds =>
          rw [List.mem_singleton.mp added]
          exact AppBuilder.parametersProperty_of_build builds
        next =>
          cases added
  | update identity name value =>
      obtain ⟨app, present, steps⟩ := dereference_bind_eq_ok_iff.mp steps
      have unchanged :
          (ParametersProperty.update
            (before.contents app.parametersProperty) name value).1 =
            before.contents app.parametersProperty :=
        ParametersProperty.update_eq_self_iff.mpr
          (fun current => apart app current present)
      have sameVectors :
          before.vectors.modify app.parametersProperty
              (fun parameters =>
                (ParametersProperty.update parameters name value).1) =
            before.vectors :=
        separate.modify_vectors_eq_self (List.mem_of_getElem? present)
          unchanged
      rw [sameVectors] at steps
      cases steps
      exact ⟨SharingState.values_update present unchanged, separate⟩
  | updateFromPod identity pod =>
      obtain ⟨app, present, steps⟩ := dereference_bind_eq_ok_iff.mp steps
      obtain ⟨result, completes, steps⟩ := Exec.bind_eq_ok_iff.mp steps
      have unchanged :
          result.1 = before.contents app.parametersProperty :=
        (ParametersProperty.parameters_of_updateFromPod completes).trans
          (FirstMatch.merge_eq_self_iff.mpr (apart app present))
      have sameVectors :
          before.vectors.set app.parametersProperty result.1 =
            before.vectors := by
        rw [unchanged]
        exact SharedCells.set_eq_self
          (separate.getElem?_of_app (List.mem_of_getElem? present))
      simp only [sameVectors] at steps
      cases steps
      exact ⟨SharingState.values_updateFromPod present completes unchanged,
        separate⟩

/-- An independent step taken through an app keeps the apps' vectors. -/
theorem Independent.keeps_contents
    {reader : PodReader Pod}
    {before after : SharingState platform}
    {event : SharingEvent platform Pod}
    (separate : before.Separate)
    (independent : Independent reader before event after)
    (throughNone : event.builder? = none)
    (sameBuilders : after.builders = before.builders)
    {app : App platform}
    (member : app ∈ before.apps) :
    after.contents app.parametersProperty =
      before.contents app.parametersProperty := by
  obtain ⟨identity, builder, present, holds⟩ := separate.built app member
  have elsewhere : event.builder? ≠ some identity := by
    rw [throughNone]
    exact (Option.some_ne_none identity).symm
  have same :=
    independent.builders identity
      (List.getElem?_eq_some_iff.mp present).1 elsewhere
  rw [SharingState.getElem?_observe_builders present,
    SharingState.getElem?_observe_builders (sameBuilders ▸ present),
    Option.some.injEq] at same
  rw [holds]
  exact congrArg BuilderValue.parameters same

/-- An independent step taken through a builder keeps the apps' vectors. -/
theorem Independent.keeps_contents_of_app
    {reader : PodReader Pod}
    {before after : SharingState platform}
    {event : SharingEvent platform Pod}
    (independent : Independent reader before event after)
    (throughNone : event.app? = none)
    (sameApps : after.apps = before.apps)
    {app : App platform}
    (member : app ∈ before.apps) :
    after.contents app.parametersProperty =
      before.contents app.parametersProperty := by
  obtain ⟨identity, present⟩ := List.mem_iff_getElem?.mp member
  have elsewhere : event.app? ≠ some identity := by
    rw [throughNone]
    exact (Option.some_ne_none identity).symm
  have same :=
    independent.apps identity
      (List.getElem?_eq_some_iff.mp present).1 elsewhere
  rw [SharingState.getElem?_observe_apps present,
    SharingState.getElem?_observe_apps (sameApps ▸ present),
    Option.some.injEq] at same
  exact congrArg AppValue.parameters same

/-- A step that is independent keeps builders and apps apart. -/
theorem Independent.keepsApart
    {reader : PodReader Pod}
    {before after : SharingState platform}
    {event : SharingEvent platform Pod}
    (separate : before.Separate)
    (steps : before.step reader event = .ok after)
    (independent : Independent reader before event after) :
    KeepsApart reader before event := by
  cases event with
  | construct collaborators =>
      trivial
  | copy identity =>
      obtain ⟨copied, present, steps⟩ := dereference_bind_eq_ok_iff.mp steps
      cases steps
      -- the copy refers to the original, not to itself
      have leadsBack :=
        independent.finish before.builders.length copied
          List.getElem?_concat_length
      rw [separate.finish identity copied present] at leadsBack
      have inRange := (List.getElem?_eq_some_iff.mp present).1
      rw [leadsBack] at inRange
      exact absurd inRange (Nat.lt_irrefl _)
  | add identity name value =>
      obtain ⟨builder, present, steps⟩ :=
        dereference_bind_eq_ok_iff.mp steps
      cases steps
      intro other isBuilder app member holds
      rw [present, Option.some.injEq] at isBuilder
      subst other
      have same := independent.keeps_contents_of_app rfl rfl member
      have grown :=
        SharingState.contents_modify
          (separate.allocated identity builder present)
          (fun parameters => ParametersBuilder.add parameters name value)
          app.parametersProperty
      rw [if_pos holds] at grown
      have sameLength :=
        congrArg List.length (grown.symm.trans same)
      rw [ParametersBuilder.add, List.length_append, holds] at sameLength
      exact absurd sameLength (Nat.succ_ne_self _)
  | set identity call =>
      trivial
  | build identity =>
      trivial
  | update identity name value =>
      obtain ⟨app, present, steps⟩ := dereference_bind_eq_ok_iff.mp steps
      have member := List.mem_of_getElem? present
      cases steps
      intro other current isApp
      rw [present, Option.some.injEq] at isApp
      subst other
      have same := independent.keeps_contents separate rfl rfl member
      have written :=
        SharingState.contents_modify (separate.app_allocated member)
          (fun parameters =>
            (ParametersProperty.update parameters name value).1)
          app.parametersProperty
      rw [if_pos rfl] at written
      exact ParametersProperty.update_eq_self_iff.mp
        (written.symm.trans same) current
  | updateFromPod identity pod =>
      obtain ⟨app, present, steps⟩ := dereference_bind_eq_ok_iff.mp steps
      have member := List.mem_of_getElem? present
      obtain ⟨result, completes, steps⟩ := Exec.bind_eq_ok_iff.mp steps
      cases steps
      intro other isApp
      rw [present, Option.some.injEq] at isApp
      subst other
      have same := independent.keeps_contents separate rfl rfl member
      have written :
          (before.vectors.set app.parametersProperty result.1).getD
              app.parametersProperty [] =
            result.1 := by
        simp [List.getD_eq_getElem?_getD, separate.app_allocated member]
      have merged :=
        ParametersProperty.parameters_of_updateFromPod completes
      exact FirstMatch.merge_eq_self_iff.mp
        (merged.symm.trans (written.symm.trans same))

/-- From separate builders, the independent steps are those that keep apart. -/
theorem independent_iff_keepsApart
    {reader : PodReader Pod}
    {before after : SharingState platform}
    {event : SharingEvent platform Pod}
    (separate : before.Separate)
    (steps : before.step reader event = .ok after) :
    Independent reader before event after ↔
      KeepsApart reader before event := by
  constructor
  · exact Independent.keepsApart separate steps
  · intro apart
    obtain ⟨values, separateAfter⟩ := apart.simulates separate steps
    exact independent_of_values values separateAfter.finish

end Steps

section IndependentRuns

variable {platform : Platform} {Pod : Type}

/-- All steps of a run are independent exactly when all of them keep apart. -/
theorem everyStep_independent_iff
    (reader : PodReader Pod)
    (environment : Environment platform)
    (events : List (SharingEvent platform Pod)) :
    FaultingRun.EveryStep (SharingState.step reader) (Independent reader)
        (.init environment) events ↔
      FaultingRun.EveryStep (SharingState.step reader)
        (fun before event _ => KeepsApart reader before event)
        (.init environment) events :=
  FaultingRun.everyStep_iff SharingState.Separate (Independent reader)
    (fun before event _ => KeepsApart reader before event)
    independent_iff_keepsApart
    (fun separate steps apart => (apart.simulates separate steps).2)
    (SharingState.Separate.init environment)

/--
Along every run, in any order of steps, all steps are independent of what they
are not taken through exactly when all of them keep builders and apps apart;
and then builders and apps end as if nothing were shared.
-/
theorem independent_along_runs_iff
    (reader : PodReader Pod)
    (environment : Environment platform)
    (events : List (SharingEvent platform Pod)) :
    (FaultingRun.EveryStep (SharingState.step reader) (Independent reader)
        (.init environment) events ↔
      FaultingRun.EveryStep (SharingState.step reader)
        (fun before event _ => KeepsApart reader before event)
        (.init environment) events) ∧
      (FaultingRun.EveryStep (SharingState.step reader)
          (fun before event _ => KeepsApart reader before event)
          (.init environment) events →
        ∀ final,
          FaultingRun.run (SharingState.step reader)
              (.init environment) events = .ok final →
            FaultingRun.run (ValueState.step reader)
                (SharingState.init environment).observe events =
              .ok final.observe) := by
  have sameSteps := everyStep_independent_iff reader environment events
  refine ⟨sameSteps, fun apart final completes => ?_⟩
  have simulates :
      FaultingRun.EveryStep (SharingState.step reader)
        (fun before event after =>
          before.observe.step reader event = .ok after.observe)
        (.init environment) events :=
    FaultingRun.everyStep_imp
      (fun _ independent => independent.values) (sameSteps.mpr apart)
  exact FaultingRun.run_of_everyStep simulates completes

end IndependentRuns

section SharedParameters

/-- A platform on which nothing can be told apart. -/
def unitPlatform : Platform where
  World := Unit
  Argv := Unit
  MainLoop := Unit
  Filter := Unit
  Port := Unit
  SignalProcessor := Unit

/-- Collaborators that do nothing. -/
def unitCollaborators : Collaborators unitPlatform where
  pipewireInitialization _ _ world := world
  filterAppBuilder _ _ _ _ _ world := (world, ((), ()))
  inPortBuilder _ _ _ world := (world, ())
  outPortBuilder _ _ _ world := (world, ())

/-- A builder with a parameter, from which an app is built. -/
def buildOnce : List (SharingEvent unitPlatform ReferencePod) :=
  [.construct unitCollaborators,
    .add 0 (ascii "gain") (.int 1),
    .set 0 (.setFilterName (ascii "filter")),
    .set 0 (.setMediaType (ascii "Audio")),
    .set 0 (.setMediaClass (ascii "Filter")),
    .set 0 (.addSignalProcessor ()),
    .build 0]

/-- Two builds and an update to the value that is there are independent. -/
theorem independent_buildOnce :
    FaultingRun.EveryStep (SharingState.step referenceSpa.toPodReader)
      (Independent referenceSpa.toPodReader)
      (.init { world := (), calls := [] })
      (buildOnce ++ [.build 0, .update 1 (ascii "gain") (.int 1)]) := by
  refine (independent_along_runs_iff referenceSpa.toPodReader _ _).1.mpr ?_
  refine ⟨trivial, ?_, trivial, trivial, trivial, trivial, trivial, trivial,
    ?_, trivial⟩
  · intro builder present app member
    cases member
  · intro app current present isCurrent
    cases present
    exact (Option.some.inj isCurrent).symm

/--
Adding to the builder after the build changes the app, an update of the app
changes the builder, and `finish` on a copy leads to the original.
-/
theorem not_independent_after_build :
    ¬ FaultingRun.EveryStep (SharingState.step referenceSpa.toPodReader)
        (Independent referenceSpa.toPodReader)
        (.init { world := (), calls := [] })
        (buildOnce ++ [.add 0 (ascii "port") (.int 2)]) ∧
      ¬ FaultingRun.EveryStep (SharingState.step referenceSpa.toPodReader)
        (Independent referenceSpa.toPodReader)
        (.init { world := (), calls := [] })
        (buildOnce ++ [.update 0 (ascii "gain") (.int 2)]) ∧
      ¬ FaultingRun.EveryStep (SharingState.step referenceSpa.toPodReader)
        (Independent referenceSpa.toPodReader)
        (.init { world := (), calls := [] })
        (buildOnce ++ [.copy 0]) := by
  refine ⟨?_, ?_, ?_⟩
  · intro independent
    have last := independent.2.2.2.2.2.2.2.1
    have same := last.apps 0 (by decide) (by simp [SharingEvent.app?])
    have sameParameters :=
      congrArg (fun app => app.map AppValue.parameters) same
    exact absurd sameParameters (by decide)
  · intro independent
    have last := independent.2.2.2.2.2.2.2.1
    have same := last.builders 0 (by decide) (by simp [SharingEvent.builder?])
    have sameParameters :=
      congrArg (fun builder => builder.map BuilderValue.parameters) same
    exact absurd sameParameters (by decide)
  · intro independent
    have last := independent.2.2.2.2.2.2.2.1
    have leadsBack := last.finish 1 _ rfl
    exact absurd leadsBack (by decide)

end SharedParameters

end Pwcpp
