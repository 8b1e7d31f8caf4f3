import Pwcpp.Cxx

namespace Pwcpp

/-!
# Errors

The error type of the library: a category for automatic handling and a human
readable message.
-/

/-- `error_type`. -/
inductive ErrorType where
  | unsupportedConfiguration
  | midiParsingPodNotASequence
  | midiParsingPodContainsTooManyMessages
  | notImplemented
  | errorHandlingProperty
  | parameterNotFound
  deriving Repr, DecidableEq

/-- `error`. -/
structure Error where
  message : StdString
  type : ErrorType
  deriving Repr, DecidableEq

namespace Error

/-- `error::configuration`. -/
def configuration : Error where
  message := ascii "Unsupported configuration"
  type := .unsupportedConfiguration

/-- `error::midi_parsing_pod_not_a_sequence`. -/
def midiParsingPodNotASequence : Error where
  message := ascii "Midi Pod is not a sequence"
  type := .midiParsingPodNotASequence

/-- `error::midi_parsing_too_many_messages`. -/
def midiParsingTooManyMessages : Error where
  message := ascii "Midi Pod contains too many messages"
  type := .midiParsingPodContainsTooManyMessages

/-- `error::parameter_not_found`. -/
def parameterNotFound (name : StdString) : Error where
  message := ascii "Parameter " ++ name ++ ascii " not found"
  type := .parameterNotFound

end Error

/-- `std::expected<α, error>`. -/
abbrev Expected (α : Type) :=
  Except Error α

end Pwcpp
