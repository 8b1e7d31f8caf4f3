import Pwcpp.OscStreams

namespace Pwcpp.Oscpp

open ThrowingMethods

/-!
# Writing OSC packets

The client half of the OSC library, with the streams that it writes to.  A
packet is written from front to back into the memory that it was given; what
is not known yet, the sizes of messages and bundles, is filled in later.  The
size of an inner bundle first holds the place of the one around it, as an
offset in the byte order of the platform.
-/

section Memory

/-- Storing leaves the object as long as it was. -/
theorem Memory.store_bounded
    (memory : Memory)
    {pointer : Nat}
    {values : List UInt8}
    (inside :
      memory.address ≤ pointer ∧
        pointer + values.length ≤ memory.endAddress) :
    memory.address +
        (memory.bytes.take (pointer - memory.address) ++
          (values ++
            memory.bytes.drop
              (pointer - memory.address + values.length))).length +
        4 ≤
      2 ^ 64 := by
  have bounded := memory.bounded
  have ends := inside.2
  rw [Memory.endAddress] at ends
  rw [List.length_append, List.length_append, List.length_take,
    List.length_drop]
  omega

/-- `memcpy` of some bytes into memory. -/
def Memory.store
    (memory : Memory)
    (pointer : Nat)
    (values : List UInt8) :
    Call Memory :=
  if inside :
      memory.address ≤ pointer ∧
        pointer + values.length ≤ memory.endAddress then
    .ok
      { address := memory.address
        bytes :=
          memory.bytes.take (pointer - memory.address) ++
            (values ++
              memory.bytes.drop
                (pointer - memory.address + values.length))
        bounded := memory.store_bounded inside }
  else
    undefined .outOfBounds

/-- The bytes of a word, in the byte order of the platform. -/
def nativeBytes (native : Endian) (width number : Nat) : List UInt8 :=
  match native with
  | .little =>
      (BigEndian.encode width number).reverse
  | .big =>
      BigEndian.encode width number

/-- `WriteStream`, and the memory that it writes to. -/
structure WriteStream where
  stream : Stream
  memory : Memory
  deriving DecidableEq

end Memory

namespace WriteStream

variable (native : Endian)

/-- `checkWritable` -/
def checkWritable (n : Nat) (output : WriteStream) : Call Unit :=
  if output.stream.consumable < n then
    raise (.overflowError (ptrSub n output.stream.consumable))
  else
    .ok ()

/-- `advance` -/
def advance (n : Nat) : Method WriteStream Unit :=
  update fun output => { output with stream := output.stream.advance n }

/-- Copy some bytes to a place. -/
def copyTo
    (place : Stream → Nat)
    (values : List UInt8) :
    Method WriteStream Unit :=
  fun output =>
    match output.memory.store (place output.stream) values with
    | .ok memory =>
        .ok () { output with memory := memory }
    | .error stop =>
        .error stop output

/-- `setPos` -/
def setPos (pos : Nat) : Method WriteStream Unit :=
  onPart stream (fun output next => { output with stream := next })
    (Stream.setPos pos)

/-- `skip` -/
def skip (n : Nat) : Method WriteStream Unit := do
  observe (checkWritable n)
  advance n

/-- `zero` -/
def zero (n : Nat) : Method WriteStream Unit := do
  observe (checkWritable n)
  copyTo Stream.mPos (List.replicate n 0)
  advance n

/-- `putChar` -/
def putChar (c : UInt8) : Method WriteStream Unit := do
  observe (checkWritable 1)
  copyTo Stream.mPos [c]
  advance 1

/-- `putInt32` and `putFloat32`, of the bits of the value. -/
def putWord (uh : UInt32) : Method WriteStream Unit := do
  observe (checkWritable 4)
  observe fun output => checkAlignment output.stream.mPos 4
  copyTo Stream.mPos (nativeBytes native 4 (convert32 native uh).toNat)
  advance 4

/-- `putInt32` -/
def putInt32 (x : Int32) : Method WriteStream Unit :=
  putWord native x.toUInt32

/-- `putUInt64`, which does not check the alignment. -/
def putUInt64 (x : UInt64) : Method WriteStream Unit := do
  observe (checkWritable 8)
  copyTo Stream.mPos (nativeBytes native 8 (convert64 native x).toNat)
  advance 8

/-- `putFloat32`, of the bits of the float. -/
def putFloat32 (f : UInt32) : Method WriteStream Unit :=
  putWord native f

/-- `putData` -/
def putData (data : List UInt8) : Method WriteStream Unit := do
  let size := data.length
  let n := ptrAdd size (padding size)
  observe (checkWritable n)
  copyTo Stream.mPos data
  copyTo (fun stream => ptrAdd stream.mPos size)
    (List.replicate (padding size) 0)
  advance n

/-- `putString` -/
def putString (s : StdString) : Method WriteStream Unit :=
  putData (cStr s ++ [0])

end WriteStream

namespace Size

/-- `Size::string` -/
def string (x : StdString) : Nat :=
  align ((cStr x).length + 1)

/-- `Size::bundle` -/
def bundle (numPackets : Nat) : Nat :=
  8 + 8 + 4 * numPackets

/-- `Size::message` -/
def message (address : StdString) (numArgs : Nat) : Nat :=
  string address + align (numArgs + 2)

/-- `Size::int32` -/
def int32 (n : Nat) : Nat :=
  n * 4

/-- `Size::float32` -/
def float32 (n : Nat) : Nat :=
  n * 4

/-- `Size::blob` -/
def blob (size : Nat) : Nat :=
  4 + align size

end Size

namespace Tags

/-- `Tags::array` -/
def array (numElems : Nat) : Nat :=
  numElems + 2

end Tags

/-- `Client::Packet`, and the memory that it writes to. -/
structure Client where
  mBuffer : Nat
  mCapacity : Nat
  mArgs : Stream
  mTags : Stream
  mSizePosM : Nat
  mSizePosB : Nat
  mInBundle : Nat
  memory : Memory
  deriving DecidableEq

namespace Client

variable (native : Endian)

/-- Call a method of `m_args`. -/
def onArgs {α : Type} (method : Method WriteStream α) : Method Client α :=
  onPart (fun packet => { stream := packet.mArgs, memory := packet.memory })
    (fun packet next =>
      { packet with mArgs := next.stream, memory := next.memory })
    method

/-- Call a method of `m_tags`. -/
def onTags {α : Type} (method : Method WriteStream α) : Method Client α :=
  onPart (fun packet => { stream := packet.mTags, memory := packet.memory })
    (fun packet next =>
      { packet with mTags := next.stream, memory := next.memory })
    method

/-- `assert` -/
def check (condition : Client → Bool) : Method Client Unit :=
  observe fun packet =>
    if condition packet then .ok () else undefined .failedAssertion

/-- `ptrDiff` -/
def ptrDiff (a b : Nat) : Call Int32 :=
  let diff : Int := a - b
  if diff < -2 ^ 31 ∨ 2 ^ 31 - 1 < diff then
    raise (.logicError
      ("Pointer difference " ++ toString diff ++
        " can't be represented by int32_t"))
  else
    .ok (Int32.ofInt diff)

/-- `calcSize` -/
def calcSize (first last : Nat) : Call Int32 := do
  let diff ← ptrDiff last first
  if diff.toInt - 4 < -2 ^ 31 then
    undefined .signedOverflow
  else
    let size := diff - 4
    if size < 0 then
      raise (.logicError "Calculated size is negative")
    else
      return size

/-- `Packet(buffer, size)`, and `reset`. -/
def make (memory : Memory) (buffer size : Nat) : Client :=
  { mBuffer := buffer
    mCapacity := size
    mArgs := Stream.make buffer size
    mTags := .empty
    mSizePosM := 0
    mSizePosB := 0
    mInBundle := 0
    memory := memory }

/-- `reset()`, which leaves the tags alone. -/
def reset : Method Client Unit :=
  update fun packet =>
    { packet with
      mArgs := Stream.make packet.mBuffer packet.mCapacity
      mSizePosM := 0
      mSizePosB := 0
      mInBundle := 0 }

/-- `size` -/
def size (packet : Client) : Nat :=
  packet.mArgs.consumed

/-- What `openBundle` does inside of a bundle. -/
def openInnerBundle : Method Client Unit := do
  check fun packet => packet.mSizePosB ≠ 0 ∨ packet.mInBundle = 1
  let offset ← observe fun packet =>
    if packet.mSizePosB = 0 then
      .ok 0
    else
      ptrDiff packet.mSizePosB packet.mArgs.mBegin
  let curPos ← observe fun packet => .ok packet.mArgs.mPos
  onArgs (WriteStream.skip 4)
  onArgs (WriteStream.copyTo (fun _ => curPos)
    (nativeBytes native 4 offset.toUInt32.toNat))
  update fun packet => { packet with mSizePosB := curPos }

/-- `openBundle` -/
def openBundle (time : UInt64) : Method Client Unit := do
  let inBundle ← observe fun packet => .ok packet.mInBundle
  let isEmpty ← observe fun packet =>
    .ok (packet.mArgs.mPos == packet.mArgs.mBegin)
  if 0 < inBundle then
    openInnerBundle native
  else if !isEmpty then
    fail (.logicError
      "Cannot open toplevel bundle in non-empty packet")
  update fun packet =>
    { packet with mInBundle := ptrAdd packet.mInBundle 1 }
  onArgs (WriteStream.putString (ascii "#bundle"))
  onArgs (WriteStream.putUInt64 native time)

/-- What `closeBundle` does inside of another bundle. -/
def closeInnerBundle : Method Client Unit := do
  let curPos ← observe fun packet => .ok packet.mArgs.mPos
  let bytes ← observe fun packet =>
    packet.memory.load packet.mSizePosB 4
  let offset := (nativeWord native bytes).toUInt32.toInt32
  let prevPos ← observe fun packet =>
    .ok (ptrAdd packet.mArgs.mBegin (toSize offset))
  let bundleSize ← observe fun packet =>
    calcSize packet.mSizePosB curPos
  check fun _ =>
    0 ≤ bundleSize ∧ Size.bundle 0 ≤ toSize bundleSize
  let sizePosB ← observe fun packet => .ok packet.mSizePosB
  onArgs (WriteStream.setPos sizePosB)
  onArgs (WriteStream.putInt32 native bundleSize)
  onArgs (WriteStream.setPos curPos)
  update fun packet => { packet with mSizePosB := prevPos }

/-- `closeBundle` -/
def closeBundle : Method Client Unit := do
  let inBundle ← observe fun packet => .ok packet.mInBundle
  if 0 < inBundle then do
    if 1 < inBundle then
      closeInnerBundle native
    update fun packet =>
      { packet with mInBundle := packet.mInBundle - 1 }
  else
    fail (.logicError "closeBundle() without matching openBundle()")

/-- `openMessage` -/
def openMessage (addr : StdString) (numTags : Nat) : Method Client Unit := do
  let inBundle ← observe fun packet => .ok packet.mInBundle
  if 0 < inBundle then do
    update fun packet => { packet with mSizePosM := packet.mArgs.mPos }
    onArgs (WriteStream.skip 4)
  onArgs (WriteStream.putString addr)
  let sigLen := ptrAdd numTags 2
  let tags ← observe fun packet => packet.mArgs.sub sigLen
  update fun packet => { packet with mTags := tags }
  onArgs (WriteStream.zero (align sigLen))
  onTags (WriteStream.putChar ','.toUInt8)

/-- `closeMessage` -/
def closeMessage : Method Client Unit := do
  let inBundle ← observe fun packet => .ok packet.mInBundle
  if 0 < inBundle then do
    let curPos ← observe fun packet => .ok packet.mArgs.mPos
    let sizePosM ← observe fun packet => .ok packet.mSizePosM
    onArgs (WriteStream.setPos sizePosM)
    let size ← observe fun packet => calcSize packet.mSizePosM curPos
    onArgs (WriteStream.putInt32 native size)
    onArgs (WriteStream.setPos curPos)
    update fun packet => { packet with mTags := .empty }

/-- `int32` -/
def int32 (arg : Int32) : Method Client Unit := do
  onTags (WriteStream.putChar 'i'.toUInt8)
  onArgs (WriteStream.putInt32 native arg)

/-- `float32`, of the bits of the float. -/
def float32 (arg : UInt32) : Method Client Unit := do
  onTags (WriteStream.putChar 'f'.toUInt8)
  onArgs (WriteStream.putFloat32 native arg)

/-- `string` -/
def string (arg : StdString) : Method Client Unit := do
  onTags (WriteStream.putChar 's'.toUInt8)
  onArgs (WriteStream.putString arg)

/-- `blob` -/
def blob (arg : List UInt8) : Method Client Unit :=
  if 2 ^ 31 - 1 < arg.length then
    fail (.invalidArgument
      ("Blob size greater than maximum " ++
        "value representable by int32_t"))
  else do
    onTags (WriteStream.putChar 'b'.toUInt8)
    onArgs (WriteStream.putInt32 native arg.length.toUInt32.toInt32)
    onArgs (WriteStream.putData arg)

/-- `openArray` -/
def openArray : Method Client Unit :=
  onTags (WriteStream.putChar '['.toUInt8)

/-- `closeArray` -/
def closeArray : Method Client Unit :=
  onTags (WriteStream.putChar ']'.toUInt8)

end Client

section Contents

variable (native : Endian)

/-- Write arguments.  There is no method for types without data. -/
def Args.write : Args (List UInt8) → Method Client Unit
  | .nil =>
      return ()
  | .int32 value rest => do
      Client.int32 native value
      rest.write
  | .float32 value rest => do
      Client.float32 native value
      rest.write
  | .string value rest => do
      Client.string value
      rest.write
  | .blob value rest => do
      Client.blob native value
      rest.write
  | .array elements rest => do
      Client.openArray
      elements.write
      Client.closeArray
      rest.write
  | .other _ rest =>
      rest.write

/-- Write a message. -/
def writeMessage
    (address : StdString)
    (args : Args (List UInt8)) :
    Method Client Unit := do
  Client.openMessage address args.tags.length
  args.write native
  Client.closeMessage native

/-- Write the elements of a bundle. -/
def Elements.write : Elements (List UInt8) → Method Client Unit
  | .nil =>
      return ()
  | .message address args rest => do
      writeMessage native address args
      rest.write
  | .bundle time elements rest => do
      Client.openBundle native time
      elements.write
      Client.closeBundle native
      rest.write

/-- Write a packet. -/
def Content.write : Content (List UInt8) → Method Client Unit
  | .message address args =>
      writeMessage native address args
  | .bundle time elements => do
      Client.openBundle native time
      elements.write native
      Client.closeBundle native

end Contents

end Pwcpp.Oscpp
