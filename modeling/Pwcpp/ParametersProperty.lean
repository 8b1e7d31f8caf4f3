import Pwcpp.FirstMatch
import Pwcpp.Property

namespace Pwcpp

/-!
# The parameters property

The functions of `ParametersProperty`, over the vector of named values that it
holds.  A function that changes the vector returns the new one.
-/

/-- One element of the vector: a name and a value. -/
abbrev Parameter :=
  StdString × PropertyValueType

/-- The vector a `ParametersProperty` holds. -/
abbrev Parameters :=
  List Parameter

namespace ParametersProperty

section Encoding

variable {Pod Builder : Type}

/-- The loop of `add_to_pod_object`: a name and a value for each parameter. -/
def addParameters
    (spa : Spa Pod Builder) :
    Builder → Parameters → Builder × Expected Unit
  | builder, [] =>
      (builder, .ok ())
  | builder, parameter :: rest =>
      let named :=
        (spa.spaPodBuilderString builder (cStr parameter.1)).1
      match writePropertyValue spa named parameter.2 with
      | (failed, .error error) =>
          (failed, .error error)
      | (valued, .ok ()) =>
          addParameters spa valued rest

/-- `ParametersProperty::add_to_pod_object`. -/
def addToPodObject
    (spa : Spa Pod Builder)
    (builder : Builder)
    (parameters : Parameters) :
    Builder × Expected Unit :=
  if parameters.isEmpty then
    (builder, .ok ())
  else
    let keyed := (spa.spaPodBuilderProp builder spa.spaPropParams 0).1
    let opened := (spa.spaPodBuilderPushStruct keyed).1
    match addParameters spa opened parameters with
    | (failed, .error error) =>
        (failed, .error error)
    | (filled, .ok ()) =>
        ((spa.spaPodBuilderPop filled).1, .ok ())

end Encoding

section Updating

/-- `ParametersProperty::update`. -/
def update
    (parameters : Parameters)
    (name : StdString)
    (value : PropertyValueType) :
    Parameters × Expected Unit :=
  match FirstMatch.assign name value parameters with
  | none =>
      (parameters, .error (Error.parameterNotFound name))
  | some assigned =>
      (assigned, .ok ())

end Updating

section Decoding

variable {Pod : Type}

/-- The string that `parse` reads as an absent value. -/
def nullLiteral : StdString :=
  ascii "null"

/-- The local variables of `parse`. -/
structure ParseState where
  count : Nat
  keys : List StdString
  values : List PropertyValueType
  deriving Repr, DecidableEq

namespace ParseState

/-- The variables before the first child. -/
def init : ParseState where
  count := 0
  keys := []
  values := []

/-- `keys.emplace_back(key)`, and on to the next child. -/
def pushKey (state : ParseState) (key : StdString) : ParseState where
  count := state.count + 1
  keys := state.keys ++ [key]
  values := state.values

/-- `values.emplace_back(value)`, and on to the next child. -/
def pushValue
    (state : ParseState)
    (value : PropertyValueType) :
    ParseState where
  count := state.count + 1
  keys := state.keys
  values := state.values ++ [value]

/-- `keys.pop_back()`, and on to the next child. -/
def popKey (state : ParseState) : Exec ParseState :=
  if state.keys.isEmpty then
    .error .popBackOfEmptyVector
  else
    .ok {
      count := state.count + 1
      keys := state.keys.dropLast
      values := state.values
    }

end ParseState

/-- The value a string pod is read as. -/
def stringValue (chars : List UInt8) : PropertyValueType :=
  if cStr chars = nullLiteral then
    .nullopt
  else
    .string (cStr chars)

/-- One round of the loop of `parse`. -/
def parseField
    (reader : PodReader Pod)
    (state : ParseState)
    (structField : Pod) :
    Exec ParseState :=
  if state.count % 2 = 0 then do
    let key ← readOutput (reader.spaPodGetString structField)
    return state.pushKey (cStr key)
  else
    match reader.spaPodType structField with
    | .int => do
        let intValue ← readOutput (reader.spaPodGetInt structField)
        return state.pushValue (.int intValue)
    | .long => do
        let longValue ← readOutput (reader.spaPodGetLong structField)
        return state.pushValue (.long longValue)
    | .float => do
        let floatValue ← readOutput (reader.spaPodGetFloat structField)
        return state.pushValue (.float floatValue)
    | .double => do
        let doubleValue ← readOutput (reader.spaPodGetDouble structField)
        return state.pushValue (.double doubleValue)
    | .string => do
        let stringChars ← readOutput (reader.spaPodGetString structField)
        return state.pushValue (stringValue stringChars)
    | _ =>
        state.popKey

/-- `ParametersProperty::parse`. -/
def parse
    (reader : PodReader Pod)
    (pod : Pod) :
    Exec (Expected Parameters) := do
  let final ←
    (reader.spaPodStructForeach pod).foldlM (parseField reader) .init
  return .ok (final.keys.zip final.values)

/-- `ParametersProperty::update_from_pod`. -/
def updateFromPod
    (reader : PodReader Pod)
    (parameters : Parameters)
    (pod : Pod) :
    Exec (Parameters × Expected Unit) := do
  match ← parse reader pod with
  | .error error =>
      return (parameters, .error error)
  | .ok updates =>
      return (FirstMatch.merge parameters updates, .ok ())

end Decoding

end ParametersProperty

end Pwcpp
