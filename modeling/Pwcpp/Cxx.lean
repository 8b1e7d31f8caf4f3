import Mathlib.Data.List.TakeWhile

namespace Pwcpp

/-!
# The C++ vocabulary of the model

Behaviour that C++ leaves undefined ends a computation in a `Fault`, so that
"never reads an uninitialised variable" and "never dereferences null" are
statements about results.  A `std::expected<T, error>` is an `Except Error T`
inside such a computation.

A `std::string` is a list of bytes.  A `const char *` is the list of bytes
that can be read from it; its C string ends before the first NUL.
-/

/-- Undefined behaviour that the modelled functions can run into. -/
inductive Fault where
  | nullDereference
  | nullCString
  | uninitialisedRead
  | popBackOfEmptyVector
  | outOfBoundsRead
  deriving Repr, DecidableEq

/-- A computation that can run into undefined behaviour. -/
abbrev Exec (α : Type) :=
  Except Fault α

/-- Read an output variable that has no value unless the getter set it. -/
def readOutput (output : Option α) : Exec α :=
  match output with
  | some value =>
      .ok value
  | none =>
      .error .uninitialisedRead

@[simp] theorem readOutput_some (value : α) :
    readOutput (some value) = .ok value :=
  rfl

/-- Follow a pointer, which is `none` when it is null. -/
def dereference (pointer : Option α) : Exec α :=
  match pointer with
  | some target =>
      .ok target
  | none =>
      .error .nullDereference

@[simp] theorem dereference_some (target : α) :
    dereference (some target) = .ok target :=
  rfl

/-- After a computation that completes, the next one goes on. -/
@[simp] theorem Exec.bind_ok
    (intermediate : α)
    (second : α → Exec β) :
    ((.ok intermediate : Exec α) >>= second) = second intermediate :=
  rfl

/-- A sequence of two computations completes when both do. -/
theorem Exec.bind_eq_ok_iff
    {first : Exec α}
    {second : α → Exec β}
    {result : β} :
    first >>= second = .ok result ↔
      ∃ intermediate,
        first = .ok intermediate ∧ second intermediate = .ok result := by
  cases first <;> simp [Bind.bind, Except.bind]

/-- Following a pointer and going on completes when it is not null. -/
theorem dereference_bind_eq_ok_iff
    {pointer : Option α}
    {second : α → Exec β}
    {result : β} :
    dereference pointer >>= second = .ok result ↔
      ∃ target, pointer = some target ∧ second target = .ok result := by
  cases pointer <;> simp [dereference, Bind.bind, Except.bind]

/-- Read an array at an index. -/
def readElement (array : List α) (index : Nat) : Exec α :=
  match array[index]? with
  | some element =>
      .ok element
  | none =>
      .error .outOfBoundsRead

/-- A byte string, as held by `std::string`. -/
abbrev StdString :=
  List UInt8

/-- The bytes of an ASCII literal. -/
def ascii (literal : String) : StdString :=
  literal.toList.map fun character => character.toNat.toUInt8

/-- What a reader of a `const char *` takes: the bytes before the first NUL. -/
def cStr (bytes : List UInt8) : StdString :=
  bytes.takeWhile (· ≠ 0)

/-- The string has no NUL character. -/
def NulFree (string : StdString) : Prop :=
  (0 : UInt8) ∉ string

instance (string : StdString) : Decidable (NulFree string) :=
  inferInstanceAs (Decidable (¬ _))

/-- A string without NUL is read whole. -/
theorem cStr_eq_self
    {string : StdString}
    (nulFree : NulFree string) :
    cStr string = string := by
  rw [cStr, List.takeWhile_eq_self_iff]
  intro byte member
  simpa using fun isNul : byte = 0 => nulFree (isNul ▸ member)

/-- The terminating NUL is not part of what is read. -/
theorem cStr_append_nul (bytes : List UInt8) :
    cStr (bytes ++ [0]) = cStr bytes := by
  rw [cStr, List.takeWhile_append]
  split
  · rename_i whole
    have same : cStr bytes = bytes :=
      (List.takeWhile_prefix _).eq_of_length whole
    simp [same]
  · rfl

/-- A C string ends inside the bytes exactly when one of them is NUL. -/
theorem length_cStr_lt_iff (bytes : List UInt8) :
    (cStr bytes).length < bytes.length ↔ 0 ∈ bytes := by
  have isPrefix : cStr bytes <+: bytes :=
    List.takeWhile_prefix _
  constructor
  · intro endsInside
    by_contra nulFree
    have whole := cStr_eq_self nulFree
    rw [whole] at endsInside
    exact Nat.lt_irrefl _ endsInside
  · intro hasNul
    apply Nat.lt_of_le_of_ne isPrefix.length_le
    intro sameLength
    have whole := isPrefix.eq_of_length sameLength
    rw [cStr, List.takeWhile_eq_self_iff] at whole
    exact absurd (whole 0 hasNul) (by decide)

/-- `std::endian::native`: the byte order in which the platform reads words. -/
inductive Endian where
  | little
  | big
  deriving Repr, DecidableEq

/-- `static_cast<const uint32_t *>(data)[index]`. -/
def loadWord
    (native : Endian)
    (data : List UInt8)
    (index : Nat) :
    UInt32 :=
  let byte := fun offset => (data.getD (4 * index + offset) 0).toUInt32
  match native with
  | .little =>
      byte 0 ||| byte 1 <<< 8 ||| byte 2 <<< 16 ||| byte 3 <<< 24
  | .big =>
      byte 3 ||| byte 2 <<< 8 ||| byte 1 <<< 16 ||| byte 0 <<< 24

end Pwcpp
