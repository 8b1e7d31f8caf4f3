import Pwcpp.Error
import Pwcpp.SpaBuilder

namespace Pwcpp

/-!
# Property values

`property_value_type` and the function that writes one such value as a pod.
-/

/-- `property_value_type`. -/
inductive PropertyValueType where
  | int (value : Int32)
  | long (value : Int64)
  | float (bits : UInt32)
  | double (bits : UInt64)
  | string (value : StdString)
  | bool (value : Bool)
  | nullopt
  deriving Repr, DecidableEq

namespace PropertyValueType

/-- The content of the pod that a value is written as. -/
def written : PropertyValueType → SpaValue
  | .int value => .int value
  | .long value => .long value
  | .float bits => .float bits
  | .double bits => .double bits
  | .string value => .string (cStr value)
  | .bool value => .bool value
  | .nullopt => .none

end PropertyValueType

section Writing

variable {Pod Builder : Type}

/-- `write_property_value`: the code of the builder call is dropped. -/
def writePropertyValue
    (spa : Spa Pod Builder)
    (builder : Builder) :
    PropertyValueType → Builder × Expected Unit
  | .int value =>
      ((spa.spaPodBuilderInt builder value).1, .ok ())
  | .long value =>
      ((spa.spaPodBuilderLong builder value).1, .ok ())
  | .float bits =>
      ((spa.spaPodBuilderFloat builder bits).1, .ok ())
  | .double bits =>
      ((spa.spaPodBuilderDouble builder bits).1, .ok ())
  | .string value =>
      ((spa.spaPodBuilderString builder (cStr value)).1, .ok ())
  | .bool value =>
      ((spa.spaPodBuilderBool builder value).1, .ok ())
  | .nullopt =>
      ((spa.spaPodBuilderNone builder).1, .ok ())

/-- Writing a value never reports an error. -/
@[simp] theorem writePropertyValue_result
    (spa : Spa Pod Builder)
    (builder : Builder)
    (value : PropertyValueType) :
    (writePropertyValue spa builder value).2 = .ok () := by
  cases value <;> rfl

/-- Every alternative is written as one pod that holds `written`. -/
theorem writePropertyValue_writes
    {spa : Spa Pod Builder}
    {view : BuilderView Pod Builder}
    (contract : BuilderContract spa view)
    (builder : Builder)
    (value : PropertyValueType) :
    ∃ code,
      spa.WritesPod view builder
        ((writePropertyValue spa builder value).1, code)
        value.written := by
  cases value with
  | int value =>
      exact ⟨_, contract.int builder value⟩
  | long value =>
      exact ⟨_, contract.long builder value⟩
  | float bits =>
      exact ⟨_, contract.float builder bits⟩
  | double bits =>
      exact ⟨_, contract.double builder bits⟩
  | string value =>
      exact ⟨_, contract.string builder (cStr value)⟩
  | bool value =>
      exact ⟨_, contract.bool builder value⟩
  | nullopt =>
      exact ⟨_, contract.none builder⟩

end Writing

end Pwcpp
