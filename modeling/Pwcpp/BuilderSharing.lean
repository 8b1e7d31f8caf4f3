import Pwcpp.AppBuilder
import Pwcpp.FaultingRun
import Pwcpp.ParameterReaders

namespace Pwcpp

/-!
# Who shares what

Builders, apps and vectors of parameters with their identities.  A builder
holds a pointer to its vector and a reference to a builder, an app holds a
pointer to a vector; copying a builder and building an app copy these pointers
and the reference.

The second half of the module says what the same steps mean when every builder
and every app has its parameters to itself.
-/

/-- A step that is taken through one builder or one app. -/
inductive SharingEvent (platform : Platform) (Pod : Type) where
  /-- `AppBuilder(pipewire_initialization, ...)` -/
  | construct (collaborators : Collaborators platform)
  /-- `AppBuilder(builder)` -/
  | copy (builder : BuilderId)
  /-- `builder.set_up_parameters().add(name, value)` -/
  | add (builder : BuilderId) (name : StdString) (value : PropertyValueType)
  /-- A setter called on `builder.set_up_parameters().finish()`. -/
  | set (builder : BuilderId) (call : SetterCall platform)
  /-- `builder.build()` -/
  | build (builder : BuilderId)
  /-- `app.parameters_property->update(name, value)` -/
  | update (app : AppId) (name : StdString) (value : PropertyValueType)
  /-- `app.parameters_property->update_from_pod(pod)` -/
  | updateFromPod (app : AppId) (pod : Pod)

namespace SharingEvent

variable {platform : Platform} {Pod : Type}

/-- The builder that the step is taken through. -/
def builder? : SharingEvent platform Pod → Option BuilderId
  | .copy builder => some builder
  | .add builder _ _ => some builder
  | .set builder _ => some builder
  | .build builder => some builder
  | _ => none

/-- The app that the step is taken through. -/
def app? : SharingEvent platform Pod → Option AppId
  | .update app _ _ => some app
  | .updateFromPod app _ => some app
  | _ => none

end SharingEvent

namespace AppBuilder

variable {platform : Platform}

/-- `AppBuilder::set_up_parameters`. -/
def setUpParameters (builder : AppBuilder platform) : ParametersBuilder :=
  builder.parametersBuilder

/-- Everything that is set on a builder, without identities. -/
def configuration (builder : AppBuilder platform) : AppBuilder platform :=
  { builder with parametersBuilder := { parameters := 0, builder := 0 } }

end AppBuilder

/-- `ParametersBuilder::finish`. -/
def ParametersBuilder.finish (parametersBuilder : ParametersBuilder) :
    BuilderId :=
  parametersBuilder.builder

/-- Everything that is set on an app, without identities. -/
def App.configuration {platform : Platform} (app : App platform) :
    App platform :=
  { app with parametersProperty := 0 }

section Sharing

variable {platform : Platform} {Pod : Type}

/-- All builders, vectors and apps, each under its identity. -/
structure SharingState (platform : Platform) where
  environment : Environment platform
  vectors : List Parameters
  builders : List (AppBuilder platform)
  apps : List (App platform)

namespace SharingState

/-- The contents of a vector. -/
def contents
    (state : SharingState platform)
    (vector : VectorId) :
    Parameters :=
  state.vectors.getD vector []

/-- Before anything was constructed. -/
def init (environment : Environment platform) : SharingState platform where
  environment := environment
  vectors := []
  builders := []
  apps := []

/-- The builder with this identity. -/
def builder
    (state : SharingState platform)
    (identity : BuilderId) :
    Exec (AppBuilder platform) :=
  dereference state.builders[identity]?

/-- The app with this identity. -/
def app
    (state : SharingState platform)
    (identity : AppId) :
    Exec (App platform) :=
  dereference state.apps[identity]?

/-- One step. -/
def step
    (reader : PodReader Pod)
    (state : SharingState platform) :
    SharingEvent platform Pod → Exec (SharingState platform)
  | .construct collaborators =>
      return { state with
        vectors := state.vectors ++ [[]]
        builders := state.builders ++ [
          .injected collaborators state.builders.length
            state.vectors.length] }
  | .copy identity => do
      let copied ← state.builder identity
      return { state with builders := state.builders ++ [copied] }
  | .add identity name value => do
      let appBuilder ← state.builder identity
      return { state with
        vectors :=
          state.vectors.modify appBuilder.setUpParameters.parameters
            fun parameters =>
              ParametersBuilder.add parameters name value }
  | .set identity call => do
      let appBuilder ← state.builder identity
      return { state with
        builders :=
          state.builders.modify appBuilder.setUpParameters.finish
            fun finished => finished.apply call }
  | .build identity => do
      let appBuilder ← state.builder identity
      let (built, environment, result) :=
        appBuilder.build state.apps.length state.environment
      return { state with
        environment := environment
        builders := state.builders.set identity built
        apps :=
          state.apps ++
            match result with
            | .ok filterApp => [filterApp]
            | .error _ => [] }
  | .update identity name value => do
      let filterApp ← state.app identity
      return { state with
        vectors :=
          state.vectors.modify filterApp.parametersProperty
            fun parameters =>
              (ParametersProperty.update parameters name value).1 }
  | .updateFromPod identity pod => do
      let filterApp ← state.app identity
      let (parameters, _) ←
        ParametersProperty.updateFromPod reader
          (state.contents filterApp.parametersProperty) pod
      return { state with
        vectors :=
          state.vectors.set filterApp.parametersProperty parameters }

end SharingState

end Sharing

section Values

variable {platform : Platform} {Pod : Type}

/-- What there is to a builder: its configuration and its parameters. -/
structure BuilderValue (platform : Platform) where
  configuration : AppBuilder platform
  parameters : Parameters

/-- What there is to an app: what was built and its parameters. -/
structure AppValue (platform : Platform) where
  configuration : App platform
  parameters : Parameters

/-- Builders and apps that share nothing. -/
structure ValueState (platform : Platform) where
  environment : Environment platform
  builders : List (BuilderValue platform)
  apps : List (AppValue platform)

namespace ValueState

/-- One step when nothing is shared: it changes what it is taken through. -/
def step
    (reader : PodReader Pod)
    (state : ValueState platform) :
    SharingEvent platform Pod → Exec (ValueState platform)
  | .construct collaborators =>
      return { state with
        builders := state.builders ++ [{
          configuration := .injected collaborators 0 0
          parameters := [] }] }
  | .copy identity => do
      let copied ← dereference state.builders[identity]?
      return { state with builders := state.builders ++ [copied] }
  | .add identity name value => do
      let _ ← dereference state.builders[identity]?
      return { state with
        builders :=
          state.builders.modify identity fun builder =>
            { builder with
              parameters := builder.parameters ++ [(name, value)] } }
  | .set identity call => do
      let _ ← dereference state.builders[identity]?
      return { state with
        builders :=
          state.builders.modify identity fun builder =>
            { builder with
              configuration := builder.configuration.apply call } }
  | .build identity => do
      let builder ← dereference state.builders[identity]?
      let (_, environment, result) :=
        builder.configuration.build state.apps.length state.environment
      return { state with
        environment := environment
        apps :=
          state.apps ++
            match result with
            | .ok filterApp => [{
                configuration := filterApp
                parameters := builder.parameters }]
            | .error _ => [] }
  | .update identity name value => do
      let _ ← dereference state.apps[identity]?
      return { state with
        apps :=
          state.apps.modify identity fun app =>
            { app with
              parameters :=
                (ParametersProperty.update app.parameters name value).1 } }
  | .updateFromPod identity pod => do
      let app ← dereference state.apps[identity]?
      let (parameters, _) ←
        ParametersProperty.updateFromPod reader app.parameters pod
      return { state with
        apps :=
          state.apps.set identity { app with parameters := parameters } }

end ValueState

/-- What can be seen of a builder. -/
def SharingState.observeBuilder
    (state : SharingState platform)
    (builder : AppBuilder platform) :
    BuilderValue platform where
  configuration := builder.configuration
  parameters := state.contents builder.parametersBuilder.parameters

/-- What can be seen of an app. -/
def SharingState.observeApp
    (state : SharingState platform)
    (app : App platform) :
    AppValue platform where
  configuration := app.configuration
  parameters := state.contents app.parametersProperty

/-- What can be seen of all builders and apps. -/
def SharingState.observe (state : SharingState platform) :
    ValueState platform where
  environment := state.environment
  builders := state.builders.map state.observeBuilder
  apps := state.apps.map state.observeApp

end Values

section Independence

variable {platform : Platform} {Pod : Type}

/--
A step is independent of what it is not taken through: the other builders and
apps stay as they are, the step does what it would do if nothing were shared,
and afterwards `set_up_parameters` and `finish` lead every builder back to
itself.
-/
structure Independent
    (reader : PodReader Pod)
    (before : SharingState platform)
    (event : SharingEvent platform Pod)
    (after : SharingState platform) : Prop where
  builders :
    ∀ other,
      other < before.builders.length →
      event.builder? ≠ some other →
      after.observe.builders[other]? = before.observe.builders[other]?
  apps :
    ∀ other,
      other < before.apps.length →
      event.app? ≠ some other →
      after.observe.apps[other]? = before.observe.apps[other]?
  values :
    before.observe.step reader event = .ok after.observe
  finish :
    ∀ (identity : BuilderId) (builder : AppBuilder platform),
      after.builders[identity]? = some builder →
      builder.setUpParameters.finish = identity

/--
The steps that keep builders and apps apart: no copy, no parameter added to a
builder whose vector an app holds, and no update that changes a list.
-/
def KeepsApart
    (reader : PodReader Pod)
    (before : SharingState platform) :
    SharingEvent platform Pod → Prop
  | .copy _ =>
      False
  | .add identity _ _ =>
      ∀ builder : AppBuilder platform,
        before.builders[identity]? = some builder →
        ∀ app ∈ before.apps,
          app.parametersProperty ≠ builder.parametersBuilder.parameters
  | .update identity name value =>
      ∀ (app : App platform) (current : PropertyValueType),
        before.apps[identity]? = some app →
        FirstMatch.lookup name
            (before.contents app.parametersProperty) = some current →
        current = value
  | .updateFromPod identity pod =>
      ∀ app : App platform,
        before.apps[identity]? = some app →
        ∀ name ∈ FirstMatch.keys
            (ParametersProperty.decodedPairs reader
              (reader.spaPodStructForeach pod)),
          FirstMatch.lookup name
              (before.contents app.parametersProperty) =
            FirstMatch.lookupLast name
              (ParametersProperty.decodedPairs reader
                (reader.spaPodStructForeach pod))
  | _ =>
      True

end Independence

end Pwcpp
