import Mathlib.Algebra.Order.Ring.Nat
import Mathlib.Data.List.Forall2
import Pwcpp.Cxx

namespace Pwcpp

/-!
# Reading SPA pods

The pod library is not part of the repository, so the pods and the functions
that read them are parameters: a type `Pod` of pod contents and a `PodReader`
over it.  Nothing is assumed about them here.

A getter that returns a negative code and leaves its output untouched is a
`none`.  Floating point numbers are only copied by the code and are modelled
by their bit patterns.
-/

/-- `SPA_TYPE_...`, as far as the code or its callers name the constants. -/
inductive SpaType where
  | none
  | bool
  | int
  | long
  | float
  | double
  | string
  | bytes
  | struct
  | object
  | sequence
  | other (tag : UInt32)
  deriving Repr, DecidableEq

/-- `SPA_CONTROL_...`, the type of a control in a sequence. -/
inductive SpaControl where
  | midi
  | osc
  | ump
  | other (tag : UInt32)
  deriving Repr, DecidableEq

/-- `struct spa_pod_control`. -/
structure PodControl (Pod : Type) where
  type : SpaControl
  value : Pod

/-- `struct spa_pod_prop`. -/
structure PodProp (Pod : Type) where
  key : UInt32
  flags : UInt32
  value : Pod

/-- The SPA constants, macros and functions that read a pod. -/
structure PodReader (Pod : Type) where
  /-- `SPA_PARAM_Props` -/
  spaParamProps : UInt32
  /-- `SPA_TYPE_OBJECT_Props` -/
  spaTypeObjectProps : UInt32
  /-- `SPA_PROP_params` -/
  spaPropParams : UInt32
  /-- `SPA_POD_TYPE` -/
  spaPodType : Pod → SpaType
  /-- `SPA_POD_BODY` -/
  spaPodBody : Pod → List UInt8
  /-- `SPA_POD_BODY_SIZE` -/
  spaPodBodySize : Pod → UInt32
  /-- `spa_pod_is_sequence` -/
  spaPodIsSequence : Pod → Bool
  spaPodGetBool : Pod → Option Bool
  spaPodGetInt : Pod → Option Int32
  spaPodGetLong : Pod → Option Int64
  spaPodGetFloat : Pod → Option UInt32
  spaPodGetDouble : Pod → Option UInt64
  /-- The bytes from the returned `const char *` on. -/
  spaPodGetString : Pod → Option (List UInt8)
  /-- The bytes that the returned pointer and length delimit. -/
  spaPodGetBytes : Pod → Option (List UInt8)
  /-- The pods that `SPA_POD_STRUCT_FOREACH` visits, in order. -/
  spaPodStructForeach : Pod → List Pod
  /-- The controls that `SPA_POD_SEQUENCE_FOREACH` visits, in order. -/
  spaPodSequenceForeach : Pod → List (PodControl Pod)
  /-- The type in the body of an object. -/
  spaPodObjectType : Pod → UInt32
  /-- The id in the body of an object. -/
  spaPodObjectId : Pod → UInt32
  /-- The properties that `SPA_POD_OBJECT_FOREACH` visits, in order. -/
  spaPodObjectForeach : Pod → List (PodProp Pod)
  /-- `spa_pod_object_find_prop` from the first property on -/
  spaPodObjectFindProp : Pod → UInt32 → Option (PodProp Pod)

/-- The content of a pod without children. -/
inductive SpaValue where
  | none
  | bool (value : Bool)
  | int (value : Int32)
  | long (value : Int64)
  | float (bits : UInt32)
  | double (bits : UInt64)
  | string (chars : List UInt8)
  deriving Repr, DecidableEq

/-- Round up to the next multiple of eight. -/
def pad8 (bytes : Nat) : Nat :=
  (bytes + 7) / 8 * 8

namespace SpaValue

/-- The type of the pod that holds a value. -/
def type : SpaValue → SpaType
  | .none => .none
  | .bool _ => .bool
  | .int _ => .int
  | .long _ => .long
  | .float _ => .float
  | .double _ => .double
  | .string _ => .string

/-- The bytes of the body; a `Bool` is stored as 32 bits. -/
def bodySize : SpaValue → Nat
  | .none => 0
  | .bool _ => 4
  | .int _ => 4
  | .long _ => 8
  | .float _ => 4
  | .double _ => 8
  | .string chars => chars.length + 1

/-- The bytes a pod takes: an 8-byte header and the padded body. -/
def podSize (value : SpaValue) : Nat :=
  8 + pad8 value.bodySize

end SpaValue

namespace PodReader

variable {Pod : Type}

/-- The getter of a value's type returns that value. -/
def Delivers (reader : PodReader Pod) (pod : Pod) : SpaValue → Prop
  | .none => True
  | .bool value => reader.spaPodGetBool pod = some value
  | .int value => reader.spaPodGetInt pod = some value
  | .long value => reader.spaPodGetLong pod = some value
  | .float bits => reader.spaPodGetFloat pod = some bits
  | .double bits => reader.spaPodGetDouble pod = some bits
  | .string chars => reader.spaPodGetString pod = some (chars ++ [0])

/-- The pod is a well-formed pod of the value's type and holds that value. -/
structure Holds
    (reader : PodReader Pod)
    (pod : Pod)
    (value : SpaValue) : Prop where
  type :
    reader.spaPodType pod = value.type
  delivers :
    reader.Delivers pod value

/-- A pod holds at most one value. -/
theorem Holds.unique
    {reader : PodReader Pod}
    {pod : Pod}
    {first second : SpaValue}
    (holdsFirst : reader.Holds pod first)
    (holdsSecond : reader.Holds pod second) :
    first = second := by
  have sameType := holdsFirst.type.symm.trans holdsSecond.type
  have firstDelivers := holdsFirst.delivers
  have secondDelivers := holdsSecond.delivers
  cases first <;> cases second <;>
    simp_all [SpaValue.type, Delivers]

/-- Pods determine the list of values they hold. -/
theorem holdsAll_unique
    {reader : PodReader Pod}
    {pods : List Pod}
    {first second : List SpaValue}
    (holdsFirst : List.Forall₂ reader.Holds pods first)
    (holdsSecond : List.Forall₂ reader.Holds pods second) :
    first = second := by
  induction holdsFirst generalizing second with
  | nil =>
      cases holdsSecond
      rfl
  | cons headHolds _ inductionHypothesis =>
      cases holdsSecond with
      | cons headHolds' tailHolds =>
          rw [headHolds.unique headHolds',
            inductionHypothesis tailHolds]

/-- Two pods have the same type and the same content. -/
def SameContent (reader : PodReader Pod) (first second : Pod) : Prop :=
  ∃ content, reader.Holds first content ∧ reader.Holds second content

/-- Pods that hold values have the same contents iff the values are equal. -/
theorem sameContents_iff
    {reader : PodReader Pod}
    {firstPods secondPods : List Pod}
    {first second : List SpaValue}
    (firstHold : List.Forall₂ reader.Holds firstPods first)
    (secondHold : List.Forall₂ reader.Holds secondPods second) :
    List.Forall₂ reader.SameContent firstPods secondPods ↔
      first = second := by
  constructor
  · intro same
    induction same generalizing first second with
    | nil =>
        cases firstHold
        cases secondHold
        rfl
    | cons headSame _ inductionHypothesis =>
        obtain ⟨content, holdsFirst, holdsSecond⟩ := headSame
        cases firstHold with
        | cons firstHead firstTail =>
            cases secondHold with
            | cons secondHead secondTail =>
                rw [firstHead.unique holdsFirst,
                  secondHead.unique holdsSecond,
                  inductionHypothesis firstTail secondTail]
  · rintro rfl
    induction firstHold generalizing secondPods with
    | nil =>
        cases secondHold
        exact .nil
    | cons headHolds _ inductionHypothesis =>
        cases secondHold with
        | cons headHolds' tailHolds =>
            exact .cons ⟨_, headHolds, headHolds'⟩
              (inductionHypothesis tailHolds)

end PodReader

end Pwcpp
