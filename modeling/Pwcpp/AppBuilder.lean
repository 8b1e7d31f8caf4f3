import Pwcpp.CallHistory
import Pwcpp.Error

namespace Pwcpp

/-!
# Building an app

`AppBuilder` collects a configuration through calls in any order and `build`
carries it out through four collaborators, which are injected.  They can read
and change a hidden world, so it matters how often and in which order they are
called; every call is recorded with its result.

The parameters are not part of this module: a `ParametersBuilder` is known here
by the vector it points to and the builder it refers to.
-/

open CallHistory

/-- The identity of a vector of parameters. -/
abbrev VectorId := Nat

/-- The identity of an `AppBuilder`. -/
abbrev BuilderId := Nat

/-- The identity of an `App`. -/
abbrev AppId := Nat

/-- The types behind the pointers and functions that the builder passes on. -/
structure Platform where
  World : Type
  /-- What a `char *argv[]` points to. -/
  Argv : Type
  /-- `pw_main_loop *` -/
  MainLoop : Type
  /-- `pw_filter *` -/
  Filter : Type
  /-- `port *` -/
  Port : Type
  SignalProcessor : Type

/-- `port_def`. -/
structure PortDef where
  name : StdString
  dspFormat : StdString
  deriving Repr, DecidableEq

/-- `ParametersBuilder`: a shared pointer and a reference. -/
structure ParametersBuilder where
  parameters : VectorId
  builder : BuilderId
  deriving Repr, DecidableEq

/-- `FilterPort`, as far as the builder sets it. -/
structure FilterPort (platform : Platform) where
  port : platform.Port

/-- `App`, as far as the builder sets it. -/
structure App (platform : Platform) where
  inPorts : List (FilterPort platform)
  outPorts : List (FilterPort platform)
  loop : platform.MainLoop
  filter : platform.Filter
  signalProcessor : platform.SignalProcessor
  /-- The vector that the `ParametersProperty` holds. -/
  parametersProperty : VectorId

/-- The functions that an `AppBuilder` is constructed with. -/
structure Collaborators (platform : Platform) where
  pipewireInitialization :
    Int32 → Option platform.Argv → platform.World → platform.World
  filterAppBuilder :
    StdString → StdString → StdString → List (StdString × StdString) →
      AppId → platform.World →
        platform.World × (platform.MainLoop × platform.Filter)
  inPortBuilder :
    StdString → StdString → platform.Filter → platform.World →
      platform.World × platform.Port
  outPortBuilder :
    StdString → StdString → platform.Filter → platform.World →
      platform.World × platform.Port

/-- A call of a collaborator. -/
inductive CollaboratorCall (platform : Platform) where
  | pipewireInitialization (argc : Int32) (argv : Option platform.Argv)
  | filterAppBuilder
      (name mediaType mediaClass : StdString)
      (filterInfoProperties : List (StdString × StdString))
      (filterApp : AppId)
  | inPortBuilder (name dspFormat : StdString) (filter : platform.Filter)
  | outPortBuilder (name dspFormat : StdString) (filter : platform.Filter)

/-- What a collaborator returns. -/
abbrev CollaboratorCall.Answer
    {platform : Platform} :
    CollaboratorCall platform → Type
  | .pipewireInitialization _ _ => Unit
  | .filterAppBuilder _ _ _ _ _ => platform.MainLoop × platform.Filter
  | .inPortBuilder _ _ _ => platform.Port
  | .outPortBuilder _ _ _ => platform.Port

/-- Call a collaborator. -/
def Collaborators.respond
    {platform : Platform}
    (collaborators : Collaborators platform) :
    (call : CollaboratorCall platform) →
      platform.World → platform.World × call.Answer
  | .pipewireInitialization argc argv, world =>
      (collaborators.pipewireInitialization argc argv world, ())
  | .filterAppBuilder name mediaType mediaClass properties filterApp,
      world =>
      collaborators.filterAppBuilder name mediaType mediaClass properties
        filterApp world
  | .inPortBuilder name dspFormat filter, world =>
      collaborators.inPortBuilder name dspFormat filter world
  | .outPortBuilder name dspFormat filter, world =>
      collaborators.outPortBuilder name dspFormat filter world

/-- The world of a platform with the calls made in it. -/
abbrev Environment (platform : Platform) :=
  Recorder platform.World (CollaboratorCall platform)
    CollaboratorCall.Answer

/-- `AppBuilder`. -/
structure AppBuilder (platform : Platform) where
  inputPorts : List PortDef
  outputPorts : List PortDef
  collaborators : Collaborators platform
  argc : Int32
  argv : Option platform.Argv
  filterName : StdString
  mediaType : StdString
  mediaClass : StdString
  signalProcessor : Option platform.SignalProcessor
  parametersBuilder : ParametersBuilder

namespace AppBuilder

variable {platform : Platform}

/-- The constructor for injected collaborators, with its identity `self`. -/
def injected
    (collaborators : Collaborators platform)
    (self : BuilderId)
    (parameters : VectorId) :
    AppBuilder platform where
  inputPorts := []
  outputPorts := []
  collaborators := collaborators
  argc := 0
  argv := none
  filterName := []
  mediaType := []
  mediaClass := []
  signalProcessor := none
  parametersBuilder := { parameters := parameters, builder := self }

/-- `AppBuilder::add_input_port`. -/
def addInputPort
    (builder : AppBuilder platform)
    (name dspFormat : StdString) :
    AppBuilder platform :=
  { builder with
    inputPorts :=
      builder.inputPorts ++ [{ name := name, dspFormat := dspFormat }] }

/-- `AppBuilder::add_output_port`. -/
def addOutputPort
    (builder : AppBuilder platform)
    (name dspFormat : StdString) :
    AppBuilder platform :=
  { builder with
    outputPorts :=
      builder.outputPorts ++ [{ name := name, dspFormat := dspFormat }] }

/-- `AppBuilder::set_filter_name`. -/
def setFilterName
    (builder : AppBuilder platform)
    (name : StdString) :
    AppBuilder platform :=
  { builder with filterName := name }

/-- `AppBuilder::set_media_type`. -/
def setMediaType
    (builder : AppBuilder platform)
    (type : StdString) :
    AppBuilder platform :=
  { builder with mediaType := type }

/-- `AppBuilder::set_media_class`. -/
def setMediaClass
    (builder : AppBuilder platform)
    (mediaClass : StdString) :
    AppBuilder platform :=
  { builder with mediaClass := mediaClass }

/-- `AppBuilder::add_arguments`. -/
def addArguments
    (builder : AppBuilder platform)
    (argc : Int32)
    (argv : Option platform.Argv) :
    AppBuilder platform :=
  { builder with argc := argc, argv := argv }

/-- `AppBuilder::add_signal_processor`. -/
def addSignalProcessor
    (builder : AppBuilder platform)
    (signalProcessor : platform.SignalProcessor) :
    AppBuilder platform :=
  { builder with signalProcessor := some signalProcessor }

/-- The test at the beginning of `AppBuilder::build`. -/
def unsupported (builder : AppBuilder platform) : Bool :=
  builder.filterName.isEmpty || builder.mediaType.isEmpty ||
    builder.mediaClass.isEmpty || !builder.signalProcessor.isSome

/-- `AppBuilder::build`, where `filterApp` is the identity of the new app. -/
def build
    (builder : AppBuilder platform)
    (filterApp : AppId)
    (environment : Environment platform) :
    AppBuilder platform × Environment platform × Expected (App platform) :=
  match builder.unsupported, builder.signalProcessor with
  | false, some signalProcessor =>
      let respond := builder.collaborators.respond
      let (initialized, _) :=
        environment.call respond
          (.pipewireInitialization builder.argc builder.argv)
      let (created, pwFilterData) :=
        initialized.call respond
          (.filterAppBuilder builder.filterName builder.mediaType
            builder.mediaClass [] filterApp)
      let (withInPorts, inPorts) :=
        created.transform respond
          (fun portDef =>
            .inPortBuilder portDef.name portDef.dspFormat pwFilterData.2)
          (fun _ pwPort => FilterPort.mk pwPort)
          builder.inputPorts
      let (withPorts, outPorts) :=
        withInPorts.transform respond
          (fun portDef =>
            .outPortBuilder portDef.name portDef.dspFormat pwFilterData.2)
          (fun _ pwPort => FilterPort.mk pwPort)
          builder.outputPorts
      (builder, withPorts, .ok {
        inPorts := inPorts
        outPorts := outPorts
        loop := pwFilterData.1
        filter := pwFilterData.2
        signalProcessor := signalProcessor
        parametersProperty := builder.parametersBuilder.parameters
      })
  | _, _ =>
      (builder, environment, .error .configuration)

end AppBuilder

/-- A call of one of the functions that configure a builder. -/
inductive SetterCall (platform : Platform) where
  | setFilterName (name : StdString)
  | setMediaType (type : StdString)
  | setMediaClass (mediaClass : StdString)
  | addArguments (argc : Int32) (argv : Option platform.Argv)
  | addInputPort (name dspFormat : StdString)
  | addOutputPort (name dspFormat : StdString)
  | addSignalProcessor (signalProcessor : platform.SignalProcessor)

section Setting

variable {platform : Platform}

/-- Make one call. -/
def AppBuilder.apply
    (builder : AppBuilder platform) :
    SetterCall platform → AppBuilder platform
  | .setFilterName name =>
      builder.setFilterName name
  | .setMediaType type =>
      builder.setMediaType type
  | .setMediaClass mediaClass =>
      builder.setMediaClass mediaClass
  | .addArguments argc argv =>
      builder.addArguments argc argv
  | .addInputPort name dspFormat =>
      builder.addInputPort name dspFormat
  | .addOutputPort name dspFormat =>
      builder.addOutputPort name dspFormat
  | .addSignalProcessor signalProcessor =>
      builder.addSignalProcessor signalProcessor

namespace SetterCall

def filterName? : SetterCall platform → Option StdString
  | .setFilterName name => some name
  | _ => none

def mediaType? : SetterCall platform → Option StdString
  | .setMediaType type => some type
  | _ => none

def mediaClass? : SetterCall platform → Option StdString
  | .setMediaClass mediaClass => some mediaClass
  | _ => none

def arguments? :
    SetterCall platform → Option (Int32 × Option platform.Argv)
  | .addArguments argc argv => some (argc, argv)
  | _ => none

def inputPort? : SetterCall platform → Option PortDef
  | .addInputPort name dspFormat =>
      some { name := name, dspFormat := dspFormat }
  | _ => none

def outputPort? : SetterCall platform → Option PortDef
  | .addOutputPort name dspFormat =>
      some { name := name, dspFormat := dspFormat }
  | _ => none

def signalProcessor? :
    SetterCall platform → Option platform.SignalProcessor
  | .addSignalProcessor signalProcessor => some signalProcessor
  | _ => none

/-- What was passed last, by the calls that pass something. -/
def last
    {τ : Type}
    (passed? : SetterCall platform → Option τ)
    (calls : List (SetterCall platform)) :
    Option τ :=
  (calls.filterMap passed?).getLast?

end SetterCall

open SetterCall

/-- Some of what `build` needs was set to an empty string last, or never set. -/
def Incomplete (calls : List (SetterCall platform)) : Prop :=
  (last filterName? calls).getD [] = [] ∨
    (last mediaType? calls).getD [] = [] ∨
    (last mediaClass? calls).getD [] = [] ∨
    (last signalProcessor? calls).isNone = true

instance (calls : List (SetterCall platform)) :
    Decidable (Incomplete calls) :=
  inferInstanceAs (Decidable (_ ∨ _ ∨ _ ∨ _))

/-- The configuration of a builder after a sequence of calls. -/
structure AppBuilder.ConfiguredBy
    (collaborators : Collaborators platform)
    (parametersBuilder : ParametersBuilder)
    (calls : List (SetterCall platform))
    (builder : AppBuilder platform) : Prop where
  filterName :
    builder.filterName = (last filterName? calls).getD []
  mediaType :
    builder.mediaType = (last mediaType? calls).getD []
  mediaClass :
    builder.mediaClass = (last mediaClass? calls).getD []
  arguments :
    (builder.argc, builder.argv) = (last arguments? calls).getD (0, none)
  inputPorts :
    builder.inputPorts = calls.filterMap inputPort?
  outputPorts :
    builder.outputPorts = calls.filterMap outputPort?
  signalProcessor :
    builder.signalProcessor = last signalProcessor? calls
  collaborators :
    builder.collaborators = collaborators
  parametersBuilder :
    builder.parametersBuilder = parametersBuilder

/-- Every call writes the fields it is meant for and keeps the others. -/
theorem AppBuilder.configuredBy_calls
    (collaborators : Collaborators platform)
    (self : BuilderId)
    (parameters : VectorId)
    (calls : List (SetterCall platform)) :
    AppBuilder.ConfiguredBy collaborators
      { parameters := parameters, builder := self } calls
      (calls.foldl AppBuilder.apply
        (.injected collaborators self parameters)) where
  filterName :=
    field_of_overwritten AppBuilder.filterName
      (by intro builder call; cases call <;> rfl) _ calls
  mediaType :=
    field_of_overwritten AppBuilder.mediaType
      (by intro builder call; cases call <;> rfl) _ calls
  mediaClass :=
    field_of_overwritten AppBuilder.mediaClass
      (by intro builder call; cases call <;> rfl) _ calls
  arguments :=
    field_of_overwritten
      (fun builder : AppBuilder platform => (builder.argc, builder.argv))
      (by intro builder call; cases call <;> rfl) _ calls
  inputPorts := by
    have added :
        ∀ (builder : AppBuilder platform) (call : SetterCall platform),
          (builder.apply call).inputPorts =
            builder.inputPorts ++ (inputPort? call).toList := by
      intro builder call
      cases call <;> first | rfl | exact (List.append_nil _).symm
    exact field_of_collected AppBuilder.inputPorts added _ calls
  outputPorts := by
    have added :
        ∀ (builder : AppBuilder platform) (call : SetterCall platform),
          (builder.apply call).outputPorts =
            builder.outputPorts ++ (outputPort? call).toList := by
      intro builder call
      cases call <;> first | rfl | exact (List.append_nil _).symm
    exact field_of_collected AppBuilder.outputPorts added _ calls
  signalProcessor := by
    have written :
        ∀ (builder : AppBuilder platform) (call : SetterCall platform),
          (builder.apply call).signalProcessor =
            ((signalProcessor? call).map some).getD
              builder.signalProcessor := by
      intro builder call
      cases call <;> rfl
    have lastWritten :=
      field_of_overwritten AppBuilder.signalProcessor written
        (.injected collaborators self parameters) calls
    rw [← List.map_filterMap, List.getLast?_map] at lastWritten
    rw [lastWritten, last]
    cases (calls.filterMap signalProcessor?).getLast? <;> rfl
  collaborators :=
    field_of_untouched AppBuilder.collaborators
      (by intro builder call; cases call <;> rfl) _ calls
  parametersBuilder :=
    field_of_untouched AppBuilder.parametersBuilder
      (by intro builder call; cases call <;> rfl) _ calls

/-- `build` tests what the calls made of the configuration. -/
theorem AppBuilder.ConfiguredBy.unsupported_iff
    {collaborators : Collaborators platform}
    {parametersBuilder : ParametersBuilder}
    {calls : List (SetterCall platform)}
    {builder : AppBuilder platform}
    (configured :
      builder.ConfiguredBy collaborators parametersBuilder calls) :
    builder.unsupported = true ↔ Incomplete calls := by
  simp [AppBuilder.unsupported, Incomplete, configured.filterName,
    configured.mediaType, configured.mediaClass,
    configured.signalProcessor, or_assoc]

end Setting

section Building

variable {platform : Platform}

open SetterCall

/--
The calls of collaborators that a configuration asks for: each gets what was
passed last, the port builders are called once for each port in call order, and
what they answer is what the app holds.
-/
def requestedCalls
    (calls : List (SetterCall platform))
    (filterApp : AppId)
    (app : App platform) :
    List (Σ call : CollaboratorCall platform, call.Answer) :=
  [⟨.pipewireInitialization
      ((last arguments? calls).getD (0, none)).1
      ((last arguments? calls).getD (0, none)).2, ()⟩,
    ⟨.filterAppBuilder
      ((last filterName? calls).getD [])
      ((last mediaType? calls).getD [])
      ((last mediaClass? calls).getD [])
      [] filterApp, (app.loop, app.filter)⟩] ++
  List.zipWith
    (fun portDef filterPort =>
      ⟨.inPortBuilder portDef.name portDef.dspFormat app.filter,
        filterPort.port⟩)
    (calls.filterMap inputPort?) app.inPorts ++
  List.zipWith
    (fun portDef filterPort =>
      ⟨.outPortBuilder portDef.name portDef.dspFormat app.filter,
        filterPort.port⟩)
    (calls.filterMap outputPort?) app.outPorts

/--
What `build` did is what the calls asked for: from one environment to the other
the collaborators were called as requested and answered what the app holds.
-/
structure CarriesOut
    (collaborators : Collaborators platform)
    (parameters : VectorId)
    (calls : List (SetterCall platform))
    (filterApp : AppId)
    (before after : Environment platform)
    (app : App platform) : Prop where
  made :
    Recorder.Makes collaborators.respond
      (requestedCalls calls filterApp app) before after
  inPorts :
    app.inPorts.length = (calls.filterMap inputPort?).length
  outPorts :
    app.outPorts.length = (calls.filterMap outputPort?).length
  signalProcessor :
    last signalProcessor? calls = some app.signalProcessor
  parametersProperty :
    app.parametersProperty = parameters

/-- An incomplete configuration is reported before anything else happens. -/
theorem AppBuilder.build_of_unsupported
    {builder : AppBuilder platform}
    (unsupported : builder.unsupported = true)
    (filterApp : AppId)
    (environment : Environment platform) :
    builder.build filterApp environment =
      (builder, environment, .error .configuration) := by
  rw [AppBuilder.build, unsupported]

/-- A complete configuration is carried out. -/
theorem AppBuilder.ConfiguredBy.build_carriesOut
    {collaborators : Collaborators platform}
    {parametersBuilder : ParametersBuilder}
    {calls : List (SetterCall platform)}
    {builder : AppBuilder platform}
    (configured :
      builder.ConfiguredBy collaborators parametersBuilder calls)
    (supported : builder.unsupported = false)
    (filterApp : AppId)
    (environment : Environment platform) :
    ∃ after app,
      builder.build filterApp environment = (builder, after, .ok app) ∧
        CarriesOut collaborators parametersBuilder.parameters calls
          filterApp environment after app := by
  have someProcessor : ∃ signalProcessor,
      builder.signalProcessor = some signalProcessor := by
    apply Option.isSome_iff_exists.mp
    simp only [AppBuilder.unsupported, Bool.or_eq_false_iff,
      Bool.not_eq_false'] at supported
    exact supported.2
  obtain ⟨signalProcessor, isProcessor⟩ := someProcessor
  -- The four steps of `build`, each from where the one before it ended.
  have initializes :=
    environment.call_makes builder.collaborators.respond
      (.pipewireInitialization builder.argc builder.argv)
  have creates := fun initialized : Environment platform =>
    initialized.call_makes builder.collaborators.respond
      (.filterAppBuilder builder.filterName builder.mediaType
        builder.mediaClass [] filterApp)
  have addsInPorts := fun (created : Environment platform) filter =>
    created.transform_makes builder.collaborators.respond
      (fun portDef =>
        .inPortBuilder portDef.name portDef.dspFormat filter)
      (fun _ pwPort => FilterPort.mk pwPort)
      (fun _ filterPort => filterPort.port)
      (fun _ _ => rfl) builder.inputPorts
  have addsOutPorts := fun (withInPorts : Environment platform) filter =>
    withInPorts.transform_makes builder.collaborators.respond
      (fun portDef =>
        .outPortBuilder portDef.name portDef.dspFormat filter)
      (fun _ pwPort => FilterPort.mk pwPort)
      (fun _ filterPort => filterPort.port)
      (fun _ _ => rfl) builder.outputPorts
  refine ⟨_, _, by rw [AppBuilder.build, supported, isProcessor], ?_⟩
  exact {
    made := by
      rw [requestedCalls, ← configured.filterName,
        ← configured.mediaType, ← configured.mediaClass,
        ← configured.arguments, ← configured.inputPorts,
        ← configured.outputPorts, ← configured.collaborators]
      exact ((initializes.trans (creates _)).trans
        (addsInPorts _ _)).trans (addsOutPorts _ _)
    inPorts := by
      rw [← configured.inputPorts]
      exact Recorder.length_transform _ _ _ _ _
    outPorts := by
      rw [← configured.outputPorts]
      exact Recorder.length_transform _ _ _ _ _
    signalProcessor :=
      configured.signalProcessor.symm.trans isProcessor
    parametersProperty :=
      congrArg ParametersBuilder.parameters configured.parametersBuilder
  }

end Building

end Pwcpp
