import Pwcpp.OscFormat
import Pwcpp.ThrowingMethods

namespace Pwcpp.Oscpp

open ThrowingMethods

/-!
# The streams of the OSC library

Pointers are addresses, and memory is one object of bytes: the packet that was
received, or the buffer that a packet is written to.  Addresses and sizes are
64 bits wide and wrap around.  Reading or writing outside of the object is a
fault, as is an assertion that fails.

Forming an address outside of the object is no fault here, although C++ leaves
it undefined; what counts is what is read and written.  The library forms such
addresses in two places.  One is `Stream(stream, size)`, before it compares the
end with that of the other stream: the size is one that a packet states, or
follows from the number of tags that a caller of `openMessage` states.  The
other is the last step of `getString` in a string without NUL.

A stream between its ends has `rest` in front of it; one lemma for each
operation says what it does with these bytes.
-/

/--
Undefined behaviour that the OSC library can run into, other than by forming an
address: an access out of bounds, an assertion that fails, a conversion of a
float that no integer represents, an overflow of a signed integer.
-/
inductive Fault where
  | outOfBounds
  | failedAssertion
  | unrepresentableValue
  | signedOverflow
  deriving Repr, DecidableEq

/-- No fault of these kinds. -/
def NoFault (_ : Fault) : Prop :=
  False

/-- The exceptions that the OSC library throws. -/
inductive Exception where
  | underrunError
  | overflowError (bytes : Nat)
  | parseError (what : String)
  | runtimeError (what : String)
  | logicError (what : String)
  | invalidArgument (what : String)
  deriving Repr, DecidableEq

/-- A call of the OSC library that changes no object. -/
abbrev Call (α : Type) :=
  ThrowingMethods.Call Fault Exception α

/-- A method of the OSC library. -/
abbrev Method (σ α : Type) :=
  ThrowingMethods.Method Fault Exception σ α

section Sizes

/-- The sum of an address and a size. -/
def ptrAdd (pointer size : Nat) : Nat :=
  (pointer + size) % 2 ^ 64

/-- The difference of two addresses, as a size. -/
def ptrSub (pointer base : Nat) : Nat :=
  (pointer + 2 ^ 64 - base) % 2 ^ 64

/-- `isAligned` of a pointer. -/
def isAligned (pointer alignment : Nat) : Bool :=
  pointer &&& (alignment - 1) == 0

/-- `align`: `(n + 3) & -4` on 64-bit sizes. -/
def align (n : Nat) : Nat :=
  ((n + 3) % 2 ^ 64) &&& (2 ^ 64 - 4)

/-- `padding` -/
def padding (n : Nat) : Nat :=
  ptrSub (align n) n

/-- `checkAlignment` -/
def checkAlignment (pointer alignment : Nat) : Call Unit :=
  if isAligned pointer alignment then
    .ok ()
  else
    raise (.runtimeError "Unaligned pointer")

/-- The implicit conversion of an `int32_t` to `size_t`. -/
def toSize (x : Int32) : Nat :=
  (x.toInt % 2 ^ 64).toNat

/-- Adding without wrapping around. -/
theorem ptrAdd_eq
    {pointer size : Nat}
    (inRange : pointer + size < 2 ^ 64) :
    ptrAdd pointer size = pointer + size :=
  Nat.mod_eq_of_lt inRange

/-- The difference to an address below. -/
theorem ptrSub_eq
    {pointer base : Nat}
    (inRange : pointer < 2 ^ 64)
    (below : base ≤ pointer) :
    ptrSub pointer base = pointer - base := by
  rw [ptrSub]
  omega

/-- A pointer is aligned to words when it is a multiple of four. -/
theorem isAligned_four (pointer : Nat) :
    isAligned pointer 4 = decide (4 ∣ pointer) := by
  rw [isAligned, Nat.and_two_pow_sub_one_eq_mod pointer 2]
  by_cases aligned : pointer % 4 = 0
  · simp [aligned, Nat.dvd_of_mod_eq_zero aligned]
  · simp [aligned, Nat.dvd_iff_mod_eq_zero]

/-- Masking the two lowest bits rounds down. -/
theorem and_neg_four
    {n : Nat}
    (inRange : n < 2 ^ 64) :
    n &&& (2 ^ 64 - 4) = n / 4 * 4 := by
  have isMask : 2 ^ 64 - 4 = (2 ^ 62 - 1) <<< 2 := by
    decide
  have isShift : n / 4 * 4 = (n >>> 2) <<< 2 := by
    rw [Nat.shiftLeft_eq, Nat.shiftRight_eq_div_pow]
  rw [isMask, isShift]
  apply Nat.eq_of_testBit_eq
  intro index
  rw [Nat.testBit_and, Nat.testBit_shiftLeft, Nat.testBit_shiftLeft,
    Nat.testBit_two_pow_sub_one, Nat.testBit_shiftRight]
  by_cases low : 2 ≤ index
  · rw [Nat.add_sub_cancel' low]
    by_cases high : index < 64
    · have inMask : index - 2 < 62 := by
        omega
      simp [low, inMask]
    · have isZero : n.testBit index = false :=
        Nat.testBit_lt_two_pow
          (Nat.lt_of_lt_of_le inRange
            (Nat.pow_le_pow_right (by decide) (Nat.le_of_not_lt high)))
      simp [isZero]
  · simp [low]

/-- Aligning fills up to a multiple of four. -/
theorem align_eq
    {n : Nat}
    (inRange : n + 3 < 2 ^ 64) :
    align n = n + fill n := by
  rw [align, Nat.mod_eq_of_lt inRange, and_neg_four inRange, fill]
  omega

/-- Padding is what aligning adds. -/
theorem padding_eq
    {n : Nat}
    (inRange : n + 3 < 2 ^ 64) :
    padding n = fill n := by
  have small := fill_lt n
  rw [padding, align_eq inRange, ptrSub_eq (by omega) (by omega),
    Nat.add_sub_cancel_left]

end Sizes

section Memory

/-- An object in memory.  None lies at the very end of the address space. -/
structure Memory where
  address : Nat
  bytes : List UInt8
  bounded : address + bytes.length + 4 ≤ 2 ^ 64
  deriving DecidableEq

/-- The address after the object. -/
def Memory.endAddress (memory : Memory) : Nat :=
  memory.address + memory.bytes.length

/-- The bytes between two addresses. -/
def Memory.window (memory : Memory) (first last : Nat) : List UInt8 :=
  (memory.bytes.drop (first - memory.address)).take (last - first)

/-- `memcpy` of some bytes out of memory. -/
def Memory.load
    (memory : Memory)
    (pointer size : Nat) :
    Call (List UInt8) :=
  if memory.address ≤ pointer ∧ pointer + size ≤ memory.endAddress then
    .ok (memory.window pointer (pointer + size))
  else
    undefined .outOfBounds

/-- The character at an address. -/
def Memory.loadChar (memory : Memory) (pointer : Nat) : Call UInt8 :=
  if memory.address ≤ pointer then
    match memory.bytes[pointer - memory.address]? with
    | some byte =>
        .ok byte
    | none =>
        undefined .outOfBounds
  else
    undefined .outOfBounds

/-- The C string at an address, as `strlen` or a print walks over it. -/
def Memory.cString (memory : Memory) (pointer : Nat) : Call StdString :=
  let bytes := memory.bytes.drop (pointer - memory.address)
  if memory.address ≤ pointer ∧ 0 ∈ bytes then
    .ok (cStr bytes)
  else
    undefined .outOfBounds

/-- A word, in the byte order of the platform. -/
def nativeWord (native : Endian) (bytes : List UInt8) : Nat :=
  match native with
  | .little =>
      BigEndian.decode bytes.reverse
  | .big =>
      BigEndian.decode bytes

/-- `__builtin_bswap32` -/
def bswap32 (x : UInt32) : UInt32 :=
  (BigEndian.swap 4 x.toNat).toUInt32

/-- `__builtin_bswap64` -/
def bswap64 (x : UInt64) : UInt64 :=
  (BigEndian.swap 8 x.toNat).toUInt64

/-- `convert32` between the network and the platform. -/
def convert32 (native : Endian) (x : UInt32) : UInt32 :=
  match native with
  | .little =>
      bswap32 x
  | .big =>
      x

/-- `convert64` between the network and the platform. -/
def convert64 (native : Endian) (x : UInt64) : UInt64 :=
  match native with
  | .little =>
      bswap64 x
  | .big =>
      x

/-- Whatever the platform, a word is read in network byte order. -/
theorem convert32_nativeWord
    (native : Endian)
    {bytes : List UInt8}
    (isWord : bytes.length = 4) :
    convert32 native (nativeWord native bytes).toUInt32 =
      (BigEndian.decode bytes).toUInt32 := by
  cases native with
  | little =>
      have inRange : BigEndian.decode bytes.reverse < 2 ^ 32 := by
        have bound := BigEndian.decode_lt bytes.reverse
        rw [List.length_reverse, isWord] at bound
        exact bound
      have swapped := BigEndian.swap_decode_reverse bytes
      rw [isWord] at swapped
      rw [nativeWord, convert32, bswap32,
        UInt32.toNat_ofNat_of_lt' inRange, swapped]
  | big =>
      rfl

/-- Whatever the platform, a long word is read in network byte order. -/
theorem convert64_nativeWord
    (native : Endian)
    {bytes : List UInt8}
    (isWord : bytes.length = 8) :
    convert64 native (nativeWord native bytes).toUInt64 =
      (BigEndian.decode bytes).toUInt64 := by
  cases native with
  | little =>
      have inRange : BigEndian.decode bytes.reverse < 2 ^ 64 := by
        have bound := BigEndian.decode_lt bytes.reverse
        rw [List.length_reverse, isWord] at bound
        exact bound
      have swapped := BigEndian.swap_decode_reverse bytes
      rw [isWord] at swapped
      rw [nativeWord, convert64, bswap64,
        UInt64.toNat_ofNat_of_lt' inRange, swapped]
  | big =>
      rfl

variable {memory : Memory}

/-- A window inside the object is as long as its ends say. -/
theorem length_window
    {first last : Nat}
    (starts : memory.address ≤ first)
    (ends : last ≤ memory.endAddress) :
    (memory.window first last).length = last - first := by
  rw [Memory.endAddress] at ends
  rw [Memory.window, List.length_take, List.length_drop]
  omega

/-- The window of the whole object. -/
theorem window_whole (memory : Memory) :
    memory.window memory.address memory.endAddress = memory.bytes := by
  rw [Memory.window, Memory.endAddress, Nat.sub_self, List.drop_zero,
    Nat.add_sub_cancel_left, List.take_length]

/-- The start of a window. -/
theorem window_take
    {first last size : Nat}
    (short : first + size ≤ last) :
    memory.window first (first + size) =
      (memory.window first last).take size := by
  rw [Memory.window, Memory.window, List.take_take,
    Nat.add_sub_cancel_left, Nat.min_eq_left]
  exact Nat.le_sub_of_add_le' short

/-- The rest of a window. -/
theorem window_drop
    {first last size : Nat}
    (starts : memory.address ≤ first) :
    memory.window (first + size) last =
      (memory.window first last).drop size := by
  have sameStart :
      first + size - memory.address = first - memory.address + size :=
    Nat.sub_add_comm starts
  rw [Memory.window, Memory.window, List.drop_take, List.drop_drop,
    sameStart, Nat.sub_add_eq]

/-- A character in a window. -/
theorem loadChar_window
    {first last index : Nat}
    (starts : memory.address ≤ first)
    {byte : UInt8}
    (isByte : (memory.window first last)[index]? = some byte) :
    memory.loadChar (first + index) = .ok byte := by
  rw [Memory.window, List.getElem?_take] at isByte
  split at isByte
  · rw [List.getElem?_drop, ← Nat.sub_add_comm starts] at isByte
    rw [Memory.loadChar, if_pos (Nat.le_add_right_of_le starts), isByte]
  · cases isByte

/-- A C string that ends in a window. -/
theorem cString_window
    {first last : Nat}
    (starts : memory.address ≤ first)
    (hasNul : 0 ∈ memory.window first last) :
    memory.cString first = .ok (cStr (memory.window first last)) := by
  have split :
      memory.bytes.drop (first - memory.address) =
        memory.window first last ++
          (memory.bytes.drop (first - memory.address)).drop
            (last - first) :=
    (List.take_append_drop _ _).symm
  have inRest : 0 ∈ memory.bytes.drop (first - memory.address) := by
    rw [split]
    exact List.mem_append_left _ hasNul
  rw [Memory.cString, if_pos ⟨starts, inRest⟩, split,
    cStr_append_of_nul_mem hasNul]

end Memory

section Streams

/-- `Stream` -/
structure Stream where
  mBegin : Nat
  mEnd : Nat
  mPos : Nat
  deriving Repr, DecidableEq

/-- `Stream()` -/
def Stream.empty : Stream :=
  { mBegin := 0, mEnd := 0, mPos := 0 }

/-- `Stream(data, size)` -/
def Stream.make (data size : Nat) : Stream :=
  { mBegin := data, mEnd := ptrAdd data size, mPos := data }

/-- `Stream(stream)`, which begins where the other stream is. -/
def Stream.copy (stream : Stream) : Stream :=
  { mBegin := stream.mPos, mEnd := stream.mEnd, mPos := stream.mPos }

/--
`Stream(stream, size)`.  The end may lie anywhere in the address space until it
is compared with that of the other stream.
-/
def Stream.sub (stream : Stream) (size : Nat) : Call Stream :=
  let mEnd := ptrAdd stream.mPos size
  if stream.mEnd < mEnd then
    raise .underrunError
  else
    .ok { mBegin := stream.mPos, mEnd := mEnd, mPos := stream.mPos }

/-- `setPos` -/
def Stream.setPos (pos : Nat) : Method Stream Unit :=
  fun stream =>
    if stream.mBegin ≤ pos ∧ pos ≤ stream.mEnd then
      .ok () { stream with mPos := pos }
    else
      .error (.fault .failedAssertion) stream

/-- `advance` -/
def Stream.advance (stream : Stream) (n : Nat) : Stream :=
  { stream with mPos := ptrAdd stream.mPos n }

/-- `atEnd` -/
def Stream.atEnd (stream : Stream) : Bool :=
  stream.mPos == stream.mEnd

/-- `consumed` -/
def Stream.consumed (stream : Stream) : Nat :=
  ptrSub stream.mPos stream.mBegin

/-- `consumable` -/
def Stream.consumable (stream : Stream) : Nat :=
  ptrSub stream.mEnd stream.mPos

namespace ReadStream

variable
  (native : Endian)
  (memory : Memory)

/-- `checkReadable` -/
def checkReadable (n : Nat) (stream : Stream) : Call Unit :=
  if stream.consumable < n then raise .underrunError else .ok ()

/-- `skip` -/
def skip (n : Nat) : Method Stream Unit := do
  observe (checkReadable n)
  update fun stream => stream.advance n

/-- `peekChar` -/
def peekChar (stream : Stream) : Call UInt8 := do
  checkReadable 1 stream
  memory.loadChar stream.mPos

/-- `getChar` -/
def getChar : Method Stream UInt8 := do
  let x ← observe (peekChar memory)
  update fun stream => stream.advance 1
  return x

/-- The four bytes that `peekInt32` and `getFloat32` copy and convert. -/
def peekWord (stream : Stream) : Call UInt32 := do
  checkReadable 4 stream
  checkAlignment stream.mPos 4
  let un ← memory.load stream.mPos 4
  return convert32 native (nativeWord native un).toUInt32

/-- `peekInt32` -/
def peekInt32 (stream : Stream) : Call Int32 := do
  let uh ← peekWord native memory stream
  return uh.toInt32

/-- `getInt32` -/
def getInt32 : Method Stream Int32 := do
  let x ← observe (peekInt32 native memory)
  update fun stream => stream.advance 4
  return x

/-- `getUInt64`, which does not check the alignment. -/
def getUInt64 : Method Stream UInt64 := do
  observe (checkReadable 8)
  let un ← observe fun stream => memory.load stream.mPos 8
  update fun stream => stream.advance 8
  return convert64 native (nativeWord native un).toUInt64

/-- `getFloat32`, which gives the bits of the float. -/
def getFloat32 : Method Stream UInt32 := do
  let f ← observe (peekWord native memory)
  update fun stream => stream.advance 4
  return f

/--
The loop of `getString`, which looks at every fourth character.  The last
address may lie after the string, but no character is read there.
-/
def findNul (last : Nat) : Nat → Nat → Call Nat
  | 0, _ =>
      .error .outOfFuel
  | fuel + 1, ptr =>
      if last ≤ ptr then
        raise .underrunError
      else do
        let character ← memory.loadChar ptr
        if character = 0 then
          return ptr
        else
          findNul last fuel (ptr + 4)

/-- Where `getString` finds the end of the string. -/
def stringEnd (stream : Stream) : Call Nat := do
  checkReadable 4 stream
  findNul memory stream.mEnd (stream.consumable + 1) (stream.mPos + 3)

/-- `getString`, which gives the address of the string. -/
def getString : Method Stream Nat := do
  let ptr ← observe (stringEnd memory)
  let x ← observe fun stream => .ok stream.mPos
  update fun stream =>
    stream.advance (ptrAdd (ptrSub ptr stream.mPos) 1)
  return x

end ReadStream

/-- The position is between the ends, and what is between is in memory. -/
structure Stream.Valid (memory : Memory) (stream : Stream) : Prop where
  begins :
    stream.mBegin ≤ stream.mPos
  ends :
    stream.mPos ≤ stream.mEnd
  bounded :
    stream.mEnd < 2 ^ 64
  inside :
    stream.mPos < stream.mEnd →
      memory.address ≤ stream.mPos ∧ stream.mEnd ≤ memory.endAddress

/-- The bytes in front of a stream. -/
def Stream.rest (memory : Memory) (stream : Stream) : List UInt8 :=
  memory.window stream.mPos stream.mEnd

variable
  {memory : Memory}
  {stream : Stream}

/-- There are as many bytes in front as the position is before the end. -/
theorem length_rest (valid : stream.Valid memory) :
    (stream.rest memory).length = stream.mEnd - stream.mPos := by
  rcases Nat.lt_or_eq_of_le valid.ends with before | atEnd
  · obtain ⟨starts, ends⟩ := valid.inside before
    exact length_window starts ends
  · rw [Stream.rest, atEnd, Nat.sub_self, Memory.window, Nat.sub_self,
      List.take_zero]
    rfl

/-- Where bytes are in front, the stream is inside of memory. -/
theorem inside_of_rest
    (valid : stream.Valid memory)
    (nonempty : 0 < (stream.rest memory).length) :
    memory.address ≤ stream.mPos ∧ stream.mEnd ≤ memory.endAddress := by
  rw [length_rest valid] at nonempty
  exact valid.inside (Nat.lt_of_sub_pos nonempty)

/-- `consumable` counts the bytes in front. -/
theorem consumable_eq (valid : stream.Valid memory) :
    stream.consumable = (stream.rest memory).length := by
  rw [length_rest valid, Stream.consumable,
    ptrSub_eq valid.bounded valid.ends]

/-- `atEnd` says that nothing is in front. -/
theorem atEnd_iff (valid : stream.Valid memory) :
    stream.atEnd = true ↔ stream.rest memory = [] := by
  rw [Stream.atEnd, beq_iff_eq, ← List.length_eq_zero_iff,
    length_rest valid, Nat.sub_eq_zero_iff_le]
  constructor
  · intro same
    exact Nat.le_of_eq same.symm
  · intro after
    exact Nat.le_antisymm valid.ends after

/-- Advancing over bytes in front moves the position. -/
theorem advance_eq
    (valid : stream.Valid memory)
    {n : Nat}
    (readable : n ≤ (stream.rest memory).length) :
    stream.advance n = { stream with mPos := stream.mPos + n } := by
  rw [length_rest valid] at readable
  have inside : stream.mPos + n ≤ stream.mEnd :=
    Nat.add_le_of_le_sub' valid.ends readable
  rw [Stream.advance, ptrAdd_eq (Nat.lt_of_le_of_lt inside valid.bounded)]

/-- The position after advancing over bytes in front. -/
theorem mPos_advance
    (valid : stream.Valid memory)
    {n : Nat}
    (readable : n ≤ (stream.rest memory).length) :
    (stream.advance n).mPos = stream.mPos + n := by
  rw [advance_eq valid readable]

/-- Advancing over bytes in front leaves the stream valid. -/
theorem Stream.Valid.advance
    (valid : stream.Valid memory)
    {n : Nat}
    (readable : n ≤ (stream.rest memory).length) :
    (stream.advance n).Valid memory := by
  rw [advance_eq valid readable]
  rw [length_rest valid] at readable
  have ends := valid.ends
  constructor
  · exact Nat.le_add_right_of_le valid.begins
  · exact Nat.add_le_of_le_sub' ends readable
  · exact valid.bounded
  · intro before
    obtain ⟨starts, inside⟩ :=
      valid.inside (Nat.lt_of_le_of_lt (Nat.le_add_right _ n) before)
    exact ⟨Nat.le_add_right_of_le starts, inside⟩

/-- Advancing takes bytes from the front. -/
theorem rest_advance
    (valid : stream.Valid memory)
    {n : Nat}
    (readable : n ≤ (stream.rest memory).length) :
    (stream.advance n).rest memory = (stream.rest memory).drop n := by
  rw [advance_eq valid readable]
  rcases Nat.eq_zero_or_pos n with none | some
  · rw [none]
    rfl
  · obtain ⟨starts, -⟩ :=
      inside_of_rest valid (Nat.lt_of_lt_of_le some readable)
    exact window_drop starts

/-- How far a stream has been advanced. -/
theorem ptrSub_advance
    (valid : stream.Valid memory)
    {n : Nat}
    (readable : n ≤ (stream.rest memory).length) :
    ptrSub (stream.advance n).mPos stream.mPos = n := by
  have bounded := valid.bounded
  have ends := valid.ends
  have isLength := length_rest valid
  rw [mPos_advance valid readable,
    ptrSub_eq (by omega) (Nat.le_add_right _ _), Nat.add_sub_cancel_left]

/-- Going over nothing. -/
theorem advance_zero (valid : stream.Valid memory) :
    stream.advance 0 = stream :=
  advance_eq valid (Nat.zero_le _)

/-- Going over whole words stays aligned. -/
theorem aligned_advance
    (valid : stream.Valid memory)
    (aligned : 4 ∣ stream.mPos)
    {n : Nat}
    (words : 4 ∣ n)
    (readable : n ≤ (stream.rest memory).length) :
    4 ∣ (stream.advance n).mPos := by
  rw [mPos_advance valid readable]
  exact Nat.dvd_add aligned words

/-- Advancing twice. -/
theorem advance_advance
    (valid : stream.Valid memory)
    {first second : Nat}
    (readable : first + second ≤ (stream.rest memory).length) :
    (stream.advance first).advance second =
      stream.advance (first + second) := by
  have firstReadable : first ≤ (stream.rest memory).length :=
    Nat.le_of_add_right_le readable
  have secondReadable :
      second ≤ ((stream.advance first).rest memory).length := by
    rw [rest_advance valid firstReadable, List.length_drop]
    exact Nat.le_sub_of_add_le' readable
  rw [advance_eq (valid.advance firstReadable) secondReadable,
    advance_eq valid firstReadable, advance_eq valid readable,
    Nat.add_assoc]

/-- A stream of some of the bytes in front is valid. -/
theorem Stream.Valid.make
    (valid : stream.Valid memory)
    {n : Nat}
    (readable : n ≤ (stream.rest memory).length) :
    (Stream.make stream.mPos n).Valid memory := by
  rw [length_rest valid] at readable
  have short : stream.mPos + n ≤ stream.mEnd :=
    Nat.add_le_of_le_sub' valid.ends readable
  have inRange := Nat.lt_of_le_of_lt short valid.bounded
  rw [Stream.make, ptrAdd_eq inRange]
  constructor
  · exact Nat.le_refl _
  · exact Nat.le_add_right _ _
  · exact inRange
  · intro nonempty
    obtain ⟨starts, ends⟩ :=
      valid.inside (Nat.lt_of_lt_of_le nonempty short)
    exact ⟨starts, Nat.le_trans short ends⟩

/-- A stream of some of the bytes in front has these in front. -/
theorem rest_make
    (valid : stream.Valid memory)
    {n : Nat}
    (readable : n ≤ (stream.rest memory).length) :
    (Stream.make stream.mPos n).rest memory =
      (stream.rest memory).take n := by
  rw [length_rest valid] at readable
  have short : stream.mPos + n ≤ stream.mEnd :=
    Nat.add_le_of_le_sub' valid.ends readable
  rw [Stream.rest, Stream.make,
    ptrAdd_eq (Nat.lt_of_le_of_lt short valid.bounded)]
  exact window_take short

/-- A stream of a part of the bytes in front can be made. -/
theorem sub_eq
    (valid : stream.Valid memory)
    {n : Nat}
    (readable : n ≤ (stream.rest memory).length) :
    stream.sub n = .ok (Stream.make stream.mPos n) := by
  rw [length_rest valid] at readable
  have short : stream.mPos + n ≤ stream.mEnd :=
    Nat.add_le_of_le_sub' valid.ends readable
  have inside : ¬ stream.mEnd < ptrAdd stream.mPos n := by
    rw [ptrAdd_eq (Nat.lt_of_le_of_lt short valid.bounded)]
    exact Nat.not_lt_of_le short
  exact if_neg inside

/-- A copy has the same bytes in front. -/
theorem rest_copy : stream.copy.rest memory = stream.rest memory :=
  rfl

/-- A copy of a valid stream is valid. -/
theorem Stream.Valid.copy
    (valid : stream.Valid memory) :
    stream.copy.Valid memory where
  begins := Nat.le_refl _
  ends := valid.ends
  bounded := valid.bounded
  inside := valid.inside

end Streams

section Reading

open ReadStream

variable
  {native : Endian}
  {memory : Memory}
  {stream : Stream}

/-- The number that four bytes in network byte order spell. -/
def wordOf (bytes : List UInt8) : UInt32 :=
  (BigEndian.decode bytes).toUInt32

/-- Four bytes are the word of the number that they spell. -/
theorem word_wordOf
    {bytes : List UInt8}
    (isWord : bytes.length = 4) :
    word (wordOf bytes) = bytes :=
  word_decode isWord

/-- A word spells its number. -/
theorem wordOf_word (value : UInt32) : wordOf (word value) = value := by
  rw [wordOf, decode_word]
  exact UInt32.ofNat_toNat

/-- `checkReadable` counts the bytes in front. -/
theorem checkReadable_eq
    (valid : stream.Valid memory)
    (n : Nat) :
    checkReadable n stream =
      if (stream.rest memory).length < n then
        raise .underrunError
      else
        .ok () := by
  rw [checkReadable, consumable_eq valid]

/-- Copying bytes in front. -/
theorem load_rest
    (valid : stream.Valid memory)
    {n : Nat}
    (positive : 0 < n)
    (readable : n ≤ (stream.rest memory).length) :
    memory.load stream.mPos n = .ok ((stream.rest memory).take n) := by
  obtain ⟨starts, ends⟩ :=
    inside_of_rest valid (Nat.lt_of_lt_of_le positive readable)
  rw [length_rest valid] at readable
  have short : stream.mPos + n ≤ stream.mEnd :=
    Nat.add_le_of_le_sub' valid.ends readable
  rw [Memory.load, if_pos ⟨starts, Nat.le_trans short ends⟩,
    window_take short]
  rfl

/-- `skip` goes over bytes in front. -/
theorem skip_eq
    (valid : stream.Valid memory)
    (n : Nat) :
    skip n stream =
      if (stream.rest memory).length < n then
        .error (.thrown .underrunError) stream
      else
        .ok () (stream.advance n) := by
  by_cases short : (stream.rest memory).length < n
  · rw [if_pos short]
    apply bind_of_error
    rw [observe, checkReadable_eq valid, if_pos short]
    rfl
  · have checked : checkReadable n stream = .ok () := by
      rw [checkReadable_eq valid, if_neg short]
    rw [if_neg short]
    exact (bind_of_ok (observe_ok checked) _).trans rfl

/-- At the end there is no character. -/
theorem peekChar_of_nil
    (valid : stream.Valid memory)
    (isRest : stream.rest memory = []) :
    peekChar memory stream = raise .underrunError := by
  rw [peekChar, checkReadable_eq valid, isRest]
  rfl

/-- The character in front. -/
theorem peekChar_of_cons
    (valid : stream.Valid memory)
    {character : UInt8}
    {tail : List UInt8}
    (isRest : stream.rest memory = character :: tail) :
    peekChar memory stream = .ok character := by
  have nonempty : 0 < (stream.rest memory).length := by
    rw [isRest]
    exact Nat.succ_pos _
  obtain ⟨starts, -⟩ := inside_of_rest valid nonempty
  have isFirst : (stream.rest memory)[0]? = some character := by
    rw [isRest]
    rfl
  rw [peekChar, checkReadable_eq valid, if_neg (Nat.not_lt_of_le nonempty)]
  exact loadChar_window starts isFirst

/-- At the end no character is taken. -/
theorem getChar_of_nil
    (valid : stream.Valid memory)
    (isRest : stream.rest memory = []) :
    getChar memory stream = .error (.thrown .underrunError) stream := by
  apply bind_of_error
  rw [observe, peekChar_of_nil valid isRest]
  rfl

/-- The character in front is taken. -/
theorem getChar_of_cons
    (valid : stream.Valid memory)
    {character : UInt8}
    {tail : List UInt8}
    (isRest : stream.rest memory = character :: tail) :
    getChar memory stream = .ok character (stream.advance 1) :=
  (bind_of_ok (observe_ok (peekChar_of_cons valid isRest)) _).trans rfl

/-- What `peekInt32` and `getFloat32` read. -/
theorem peekWord_eq
    (native : Endian)
    (valid : stream.Valid memory) :
    peekWord native memory stream =
      if (stream.rest memory).length < 4 then
        raise .underrunError
      else if 4 ∣ stream.mPos then
        .ok (wordOf ((stream.rest memory).take 4))
      else
        raise (.runtimeError "Unaligned pointer") := by
  rw [peekWord, checkReadable_eq valid, checkAlignment, isAligned_four]
  by_cases short : (stream.rest memory).length < 4
  · rw [if_pos short, if_pos short]
    rfl
  · rw [if_neg short, if_neg short]
    have readable := Nat.le_of_not_lt short
    by_cases aligned : 4 ∣ stream.mPos
    · have isWord : ((stream.rest memory).take 4).length = 4 :=
        List.length_take_of_le readable
      rw [if_pos aligned, decide_eq_true aligned, if_pos rfl,
        load_rest valid (by decide) readable, wordOf,
        ← convert32_nativeWord native isWord]
      rfl
    · rw [if_neg aligned, decide_eq_false aligned]
      rfl

/-- `getInt32` takes a word. -/
theorem getInt32_eq (valid : stream.Valid memory) :
    getInt32 native memory stream =
      if (stream.rest memory).length < 4 then
        .error (.thrown .underrunError) stream
      else if 4 ∣ stream.mPos then
        .ok (wordOf ((stream.rest memory).take 4)).toInt32
          (stream.advance 4)
      else
        .error (.thrown (.runtimeError "Unaligned pointer")) stream := by
  have peeked := peekWord_eq native valid
  split
  · rename_i short
    rw [if_pos short] at peeked
    apply bind_of_error
    rw [observe, peekInt32, peeked]
    rfl
  · rename_i readable
    rw [if_neg readable] at peeked
    split
    · rename_i aligned
      rw [if_pos aligned] at peeked
      refine (bind_of_ok (observe_ok ?_) _).trans rfl
      rw [peekInt32, peeked]
      rfl
    · rename_i unaligned
      rw [if_neg unaligned] at peeked
      apply bind_of_error
      rw [observe, peekInt32, peeked]
      rfl

/-- `getFloat32` takes a word. -/
theorem getFloat32_eq (valid : stream.Valid memory) :
    getFloat32 native memory stream =
      if (stream.rest memory).length < 4 then
        .error (.thrown .underrunError) stream
      else if 4 ∣ stream.mPos then
        .ok (wordOf ((stream.rest memory).take 4)) (stream.advance 4)
      else
        .error (.thrown (.runtimeError "Unaligned pointer")) stream := by
  have peeked := peekWord_eq native valid
  split
  · rename_i short
    rw [if_pos short] at peeked
    apply bind_of_error
    rw [observe, peeked]
    rfl
  · rename_i readable
    rw [if_neg readable] at peeked
    split
    · rename_i aligned
      rw [if_pos aligned] at peeked
      exact (bind_of_ok (observe_ok peeked) _).trans rfl
    · rename_i unaligned
      rw [if_neg unaligned] at peeked
      apply bind_of_error
      rw [observe, peeked]
      rfl

/-- `getUInt64` takes a long word, aligned or not. -/
theorem getUInt64_eq (valid : stream.Valid memory) :
    getUInt64 native memory stream =
      if (stream.rest memory).length < 8 then
        .error (.thrown .underrunError) stream
      else
        .ok (BigEndian.decode ((stream.rest memory).take 8)).toUInt64
          (stream.advance 8) := by
  split
  · rename_i short
    apply bind_of_error
    rw [observe, checkReadable_eq valid, if_pos short]
    rfl
  · rename_i readable
    have isWord : ((stream.rest memory).take 8).length = 8 :=
      List.length_take_of_le (Nat.le_of_not_lt readable)
    have checked : checkReadable 8 stream = .ok () := by
      rw [checkReadable_eq valid, if_neg readable]
    have loaded :=
      load_rest valid (n := 8) (by decide) (Nat.le_of_not_lt readable)
    have observed :
        observe (fun stream : Stream => memory.load stream.mPos 8) stream =
          .ok ((stream.rest memory).take 8) stream :=
      observe_ok loaded
    refine (bind_of_ok (observe_ok checked) _).trans ?_
    refine (bind_of_ok observed _).trans ?_
    rw [← convert64_nativeWord native isWord]
    rfl

/-- Where a string of some size ends, if there is one. -/
def lastOf (first : Nat) : Option Nat → Call Nat
  | none =>
      raise .underrunError
  | some size =>
      .ok (first + size - 1)

/-- The loop of `getString` finds where the string ends. -/
theorem findNul_eq
    {first last fuel : Nat}
    (starts : memory.address ≤ first)
    (ends : last ≤ memory.endAddress)
    (enough : last - first < fuel) :
    findNul memory last fuel (first + 3) =
      lastOf first (stringSize (memory.window first last)) := by
  have isLength := length_window starts ends
  generalize isBytes : memory.window first last = bytes at isLength
  induction bytes using stringSize.induct generalizing first fuel with
  | case1 b0 b1 b2 tail =>
      cases fuel with
      | zero =>
          cases enough
      | succ fuel =>
          simp only [List.length_cons] at isLength
          have isNul : memory.loadChar (first + 3) = .ok 0 :=
            loadChar_window starts (by rw [isBytes]; rfl)
          rw [findNul, if_neg (by omega), isNul]
          rfl
  | case2 b0 b1 b2 character tail notNul inductionHypothesis =>
      cases fuel with
      | zero =>
          cases enough
      | succ fuel =>
          simp only [List.length_cons] at isLength
          have isCharacter :
              memory.loadChar (first + 3) = .ok character :=
            loadChar_window starts (by rw [isBytes]; rfl)
          have isTail : memory.window (first + 4) last = tail := by
            rw [window_drop starts, isBytes]
            rfl
          have next :
              findNul memory last fuel (first + 4 + 3) =
                lastOf (first + 4) (stringSize tail) :=
            inductionHypothesis (Nat.le_add_right_of_le starts)
              (by omega) isTail (by omega)
          rw [findNul, if_neg (by omega), isCharacter, stringSize,
            if_neg notNul]
          refine Eq.trans (b := findNul memory last fuel (first + 3 + 4))
            ?_ ?_
          · exact if_neg notNul
          · rw [Nat.add_right_comm, next]
            cases stringSize tail with
            | none =>
                rfl
            | some size =>
                rw [Option.map_some, lastOf, lastOf,
                  Nat.add_right_comm first 4 size, Nat.add_assoc]
  | case3 bytes short =>
      have few : bytes.length < 4 := by
        apply Nat.lt_of_not_le
        intro long
        rcases bytes with _ | ⟨b0, _ | ⟨b1, _ | ⟨b2, _ | ⟨b3, rest⟩⟩⟩⟩
        case cons.cons.cons.cons =>
          exact short b0 b1 b2 b3 rest rfl
        all_goals
          simp at long
      cases fuel with
      | zero =>
          cases enough
      | succ fuel =>
          have isNone : stringSize bytes = none := by
            rw [stringSize]
            exact short
          rw [findNul, if_pos (by omega), isNone, lastOf]

/-- Where the string in front ends. -/
theorem stringEnd_eq (valid : stream.Valid memory) :
    stringEnd memory stream =
      lastOf stream.mPos (stringSize (stream.rest memory)) := by
  rw [stringEnd, checkReadable_eq valid]
  by_cases short : (stream.rest memory).length < 4
  · have isNone : stringSize (stream.rest memory) = none := by
      cases ends : stringSize (stream.rest memory) with
      | none =>
          rfl
      | some size =>
          obtain ⟨inside, -, positive, -⟩ := stringSize_spec ends
          exact absurd (Nat.le_trans positive inside)
            (Nat.not_le_of_lt short)
    rw [if_pos short, isNone]
    rfl
  · have nonempty : 0 < (stream.rest memory).length :=
      Nat.lt_of_lt_of_le (by decide) (Nat.le_of_not_lt short)
    obtain ⟨starts, ends⟩ := inside_of_rest valid nonempty
    have enough : stream.mEnd - stream.mPos < stream.consumable + 1 := by
      rw [consumable_eq valid, length_rest valid]
      exact Nat.lt_succ_self _
    rw [if_neg short, call_bind_ok, Stream.rest]
    exact findNul_eq starts ends enough

/-- `getString` takes a string. -/
theorem getString_eq (valid : stream.Valid memory) :
    getString memory stream =
      match stringSize (stream.rest memory) with
      | none =>
          .error (.thrown .underrunError) stream
      | some size =>
          .ok stream.mPos (stream.advance size) := by
  have ends := stringEnd_eq valid
  cases isSize : stringSize (stream.rest memory) with
  | none =>
      rw [isSize] at ends
      apply bind_of_error
      rw [observe, ends]
      rfl
  | some size =>
      rw [isSize] at ends
      obtain ⟨inside, -, positive, -⟩ := stringSize_spec isSize
      have bounded := valid.bounded
      rw [length_rest valid] at inside
      have isAdvance :
          ptrAdd (ptrSub (stream.mPos + size - 1) stream.mPos) 1 =
            size := by
        rw [ptrSub_eq (by omega) (by omega), ptrAdd_eq (by omega)]
        omega
      refine (bind_of_ok (observe_ok ends) _).trans ?_
      change EStateM.Result.ok stream.mPos
          (stream.advance
            (ptrAdd (ptrSub (stream.mPos + size - 1) stream.mPos) 1)) =
        _
      rw [isAdvance]

/-- `skip` returns when there are enough bytes. -/
theorem skip_eq_ok_iff
    (valid : stream.Valid memory)
    {n : Nat}
    {final : Stream} :
    skip n stream = .ok () final ↔
      n ≤ (stream.rest memory).length ∧ final = stream.advance n := by
  rw [skip_eq valid]
  split
  · rename_i short
    simp [Nat.not_le_of_lt short]
  · rename_i enough
    simp only [EStateM.Result.ok.injEq, true_and, Nat.le_of_not_lt enough]
    exact eq_comm

/-- An aligned `getInt32` returns the word in front. -/
theorem getInt32_eq_ok_iff
    (valid : stream.Valid memory)
    (aligned : 4 ∣ stream.mPos)
    {value : Int32}
    {final : Stream} :
    getInt32 native memory stream = .ok value final ↔
      (∃ trailing,
        stream.rest memory = word value.toUInt32 ++ trailing) ∧
        final = stream.advance 4 := by
  rw [getInt32_eq valid, if_pos aligned]
  constructor
  · intro returns
    split at returns
    · cases returns
    · rename_i enough
      cases returns
      have isWord :
          word (wordOf ((stream.rest memory).take 4)) =
            (stream.rest memory).take 4 :=
        word_wordOf (List.length_take_of_le (Nat.le_of_not_lt enough))
      refine ⟨⟨(stream.rest memory).drop 4, ?_⟩, rfl⟩
      rw [UInt32.toUInt32_toInt32, isWord, List.take_append_drop]
  · intro inFront
    rcases inFront with ⟨⟨trailing, isRest⟩, rfl⟩
    have isWord :
        (stream.rest memory).take 4 = word value.toUInt32 := by
      rw [isRest]
      exact List.take_left' (length_word _)
    rw [if_neg, isWord, wordOf_word, Int32.toInt32_toUInt32]
    rw [isRest, List.length_append, length_word]
    exact Nat.not_lt_of_le (Nat.le_add_right _ _)

/-- An unaligned `getInt32` throws. -/
theorem getInt32_ne_ok
    (valid : stream.Valid memory)
    (unaligned : ¬ 4 ∣ stream.mPos)
    (value : Int32)
    (final : Stream) :
    getInt32 native memory stream ≠ .ok value final := by
  rw [getInt32_eq valid, if_neg unaligned]
  intro returns
  split at returns
  · cases returns
  · cases returns

/-- An aligned `getFloat32` returns the word in front. -/
theorem getFloat32_eq_ok_iff
    (valid : stream.Valid memory)
    (aligned : 4 ∣ stream.mPos)
    {value : UInt32}
    {final : Stream} :
    getFloat32 native memory stream = .ok value final ↔
      (∃ trailing, stream.rest memory = word value ++ trailing) ∧
        final = stream.advance 4 := by
  rw [getFloat32_eq valid, if_pos aligned]
  constructor
  · intro returns
    split at returns
    · cases returns
    · rename_i enough
      cases returns
      have isWord :
          word (wordOf ((stream.rest memory).take 4)) =
            (stream.rest memory).take 4 :=
        word_wordOf (List.length_take_of_le (Nat.le_of_not_lt enough))
      refine ⟨⟨(stream.rest memory).drop 4, ?_⟩, rfl⟩
      rw [isWord, List.take_append_drop]
  · intro inFront
    rcases inFront with ⟨⟨trailing, isRest⟩, rfl⟩
    have isWord : (stream.rest memory).take 4 = word value := by
      rw [isRest]
      exact List.take_left' (length_word _)
    rw [if_neg, isWord, wordOf_word]
    rw [isRest, List.length_append, length_word]
    exact Nat.not_lt_of_le (Nat.le_add_right _ _)

/-- `getString` returns where the string in front is. -/
theorem getString_eq_ok_iff
    (valid : stream.Valid memory)
    {pointer : Nat}
    {final : Stream} :
    getString memory stream = .ok pointer final ↔
      ∃ string first trailing,
        stream.rest memory = first ++ trailing ∧
          IsString string first ∧
          memory.cString pointer = .ok string ∧
          pointer = stream.mPos ∧
          final = stream.advance first.length := by
  rw [getString_eq valid]
  constructor
  · intro returns
    cases isSize : stringSize (stream.rest memory) with
    | none =>
        rw [isSize] at returns
        cases returns
    | some size =>
        rw [isSize] at returns
        cases returns
        obtain ⟨inside, -, positive, hasNul, again⟩ :=
          stringSize_spec isSize
        have isLength : ((stream.rest memory).take size).length = size :=
          List.length_take_of_le inside
        have split := List.take_append_drop size (stream.rest memory)
        obtain ⟨starts, -⟩ :=
          inside_of_rest valid
            (Nat.lt_of_lt_of_le (by decide) (Nat.le_trans positive inside))
        refine ⟨cStr ((stream.rest memory).take size), _, _, split.symm,
          ⟨?_, rfl⟩, ?_, rfl, ?_⟩
        · rw [again, isLength]
        · rw [← cStr_append_of_nul_mem hasNul, split]
          exact cString_window starts (List.mem_of_mem_take hasNul)
        · rw [isLength]
  · intro inFront
    rcases inFront with ⟨string, first, trailing, isRest, isString, -,
      rfl, rfl⟩
    rw [isRest, stringSize_append isString.ends]

/-- A string in front can be read as a C string. -/
theorem cString_of_isString
    (valid : stream.Valid memory)
    {string : StdString}
    {first trailing : List UInt8}
    (isRest : stream.rest memory = first ++ trailing)
    (isString : IsString string first) :
    memory.cString stream.mPos = .ok string := by
  have nonempty : 0 < (stream.rest memory).length := by
    rw [isRest, List.length_append]
    exact Nat.lt_of_lt_of_le (by decide)
      (Nat.le_add_right_of_le isString.length.2)
  have hasNul : 0 ∈ stream.rest memory := by
    rw [isRest]
    exact List.mem_append_left _ isString.nul_mem
  obtain ⟨starts, -⟩ := inside_of_rest valid nonempty
  rw [cString_window starts hasNul, ← Stream.rest, isRest,
    cStr_append_of_nul_mem isString.nul_mem, isString.content]

end Reading

end Pwcpp.Oscpp
