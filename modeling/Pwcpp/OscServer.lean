import Pwcpp.OscStreams

namespace Pwcpp.Oscpp

open ThrowingMethods

/-!
# Reading OSC packets

The server half of the OSC library: packets, bundles, messages and their
arguments, and the functions that print a packet, which take everything out of
it that there is.  What they print is a tree; its blobs are the places in
memory that `blob` returns.
-/

/-- `Blob` -/
structure Blob where
  size : Nat
  data : Nat
  deriving Repr, DecidableEq

/-- The bytes of a blob. -/
def Memory.blobBytes (memory : Memory) (blob : Blob) : List UInt8 :=
  memory.window blob.data (blob.data + blob.size)

/-- The conversions between floats and integers of the platform. -/
structure Conversions where
  /-- `(int32_t)f`, which is undefined for floats out of range. -/
  toInt32 : UInt32 → Option Int32
  /-- `(float)i` -/
  toFloat32 : Int32 → UInt32

section IEEE

/-- A significand times a power of two, rounded towards zero. -/
def scaleTowardsZero (significand exponent : Nat) : Nat :=
  if 150 ≤ exponent then
    significand <<< (exponent - 150)
  else
    significand >>> (150 - exponent)

/-- `(int32_t)f` of the bits of an IEEE float. -/
def truncateFloat (f : UInt32) : Option Int32 :=
  let fraction := f.toNat % 2 ^ 23
  let exponent := f.toNat / 2 ^ 23 % 2 ^ 8
  let magnitude :=
    if exponent = 0 then
      scaleTowardsZero fraction 1
    else
      scaleTowardsZero (2 ^ 23 + fraction) exponent
  let value : Int :=
    if f.toNat / 2 ^ 31 = 0 then magnitude else -magnitude
  if exponent = 255 ∨ value < -2 ^ 31 ∨ 2 ^ 31 ≤ value then
    none
  else
    some (Int32.ofInt value)

/-- A quotient by a power of two, rounded to the nearest, ties to even. -/
def shiftToNearest (n shift : Nat) : Nat :=
  let quotient := n / 2 ^ shift
  let twice := 2 * (n % 2 ^ shift)
  if twice < 2 ^ shift ∨ twice = 2 ^ shift ∧ quotient % 2 = 0 then
    quotient
  else
    quotient + 1

/-- The bits of `(float)i` as an IEEE float. -/
def roundToFloat (i : Int32) : UInt32 :=
  let magnitude := i.toInt.natAbs
  let exponent := magnitude.log2
  let sign := if i < 0 then 2 ^ 31 else 0
  if magnitude = 0 then
    0
  else
    -- The leading bit of the significand adds one to the exponent, and a
    -- significand that is rounded up to the next power of two adds another.
    let significand :=
      if exponent ≤ 23 then
        magnitude <<< (23 - exponent)
      else
        shiftToNearest magnitude (exponent - 23)
    (sign + (exponent + 126) * 2 ^ 23 + significand).toUInt32

/-- The conversions of a platform with IEEE floats. -/
def Conversions.ieee : Conversions where
  toInt32 := truncateFloat
  toFloat32 := roundToFloat

example : truncateFloat 0xc0300000 = some (-2) := by
  decide

example : truncateFloat 0x4f000000 = none := by
  decide

example : roundToFloat 16777219 = 0x4b800002 := by
  decide

end IEEE

/-- `ArgStream` -/
structure ArgStream where
  mTags : Stream
  mArgs : Stream
  deriving Repr, DecidableEq

namespace ArgStream

variable
  (native : Endian)
  (memory : Memory)

/-- Call a method of `m_tags`. -/
def onTags {α : Type} (method : Method Stream α) : Method ArgStream α :=
  onPart mTags (fun args tags => { args with mTags := tags }) method

/-- Call a method of `m_args`. -/
def onArgs {α : Type} (method : Method Stream α) : Method ArgStream α :=
  onPart mArgs (fun args next => { args with mArgs := next }) method

/-- The body of the constructor from a stream. -/
def readTags : Method ArgStream Unit := do
  let tags ← onArgs (ReadStream.getString memory)
  let first ← observe fun _ => memory.loadChar tags
  if first ≠ ','.toUInt8 then
    fail (.parseError "Tag string doesn't start with ','")
  else do
    let string ← observe fun _ => memory.cString tags
    update fun args =>
      { args with
        mTags := Stream.make (ptrAdd tags 1) (ptrSub string.length 1) }

/-- `ArgStream(stream)` -/
def ofStream (stream : Stream) : Call ArgStream :=
  construct { mTags := .empty, mArgs := stream } (readTags memory)

/-- `ArgStream(args)`, the implicit copy. -/
def copy (args : ArgStream) : ArgStream :=
  { mTags := args.mTags.copy, mArgs := args.mArgs.copy }

/-- `atEnd` -/
def atEnd (args : ArgStream) : Bool :=
  args.mTags.atEnd

/-- `tag` -/
def tag (args : ArgStream) : Call UInt8 :=
  ReadStream.peekChar memory args.mTags

/-- `int32` -/
def int32 (conversions : Conversions) : Method ArgStream Int32 := do
  let t ← onTags (ReadStream.getChar memory)
  if t = 'i'.toUInt8 then
    onArgs (ReadStream.getInt32 native memory)
  else if t = 'f'.toUInt8 then do
    let f ← onArgs (ReadStream.getFloat32 native memory)
    match conversions.toInt32 f with
    | some value =>
        return value
    | none =>
        observe fun _ => undefined .unrepresentableValue
  else
    fail (.parseError "Cannot convert argument to int")

/-- `float32`, which gives the bits of the float. -/
def float32 (conversions : Conversions) : Method ArgStream UInt32 := do
  let t ← onTags (ReadStream.getChar memory)
  if t = 'f'.toUInt8 then
    onArgs (ReadStream.getFloat32 native memory)
  else if t = 'i'.toUInt8 then do
    let i ← onArgs (ReadStream.getInt32 native memory)
    return conversions.toFloat32 i
  else
    fail (.parseError "Cannot convert argument to float")

/-- `string`, which gives the address of the string. -/
def string : Method ArgStream Nat := do
  let t ← onTags (ReadStream.getChar memory)
  if t = 's'.toUInt8 then
    onArgs (ReadStream.getString memory)
  else
    fail (.parseError "Cannot convert argument to string")

/-- `parseBlob` -/
def parseBlob : Method ArgStream Blob := do
  let size ← onArgs (ReadStream.getInt32 native memory)
  if size < 0 then
    fail (.parseError "Invalid blob size is less than zero")
  else do
    let data ← observe fun args => .ok args.mArgs.mPos
    onArgs (ReadStream.skip (align (toSize size)))
    return { size := toSize size, data := data }

/-- `blob` -/
def blob : Method ArgStream Blob := do
  let t ← onTags (ReadStream.getChar memory)
  if t = 'b'.toUInt8 then
    parseBlob native memory
  else
    fail (.parseError "Cannot convert argument to blob")

/-- `dropAtom`, which does nothing for other types. -/
def dropAtom (t : UInt8) : Method ArgStream Unit :=
  if t = 'i'.toUInt8 then
    onArgs (ReadStream.skip 4)
  else if t = 'f'.toUInt8 then
    onArgs (ReadStream.skip 4)
  else if t = 's'.toUInt8 then do
    let _ ← onArgs (ReadStream.getString memory)
    return ()
  else if t = 'b'.toUInt8 then do
    let _ ← parseBlob native memory
    return ()
  else
    return ()

/-- The loop of `dropArray`; `level` is an `unsigned int`. -/
def dropArrayFrom : Nat → Nat → Method ArgStream Unit
  | 0, _ =>
      giveUp
  | fuel + 1, level => do
      let t ← onTags (ReadStream.getChar memory)
      if t = ']'.toUInt8 then
        if level = 0 then
          return ()
        else
          dropArrayFrom fuel (level - 1)
      else if t = '['.toUInt8 then
        dropArrayFrom fuel ((level + 1) % 2 ^ 32)
      else do
        dropAtom native memory t
        dropArrayFrom fuel level

/-- `dropArray` -/
def dropArray : Method ArgStream Unit := do
  let tags ← observe fun args => .ok args.mTags.consumable
  dropArrayFrom native memory (tags + 1) 0

/-- `drop` of an argument of a type. -/
def dropType (t : UInt8) : Method ArgStream Unit :=
  if t = '['.toUInt8 then
    dropArray native memory
  else
    dropAtom native memory t

/-- `drop` -/
def drop : Method ArgStream Unit := do
  let t ← onTags (ReadStream.getChar memory)
  dropType native memory t

/-- `array` -/
def array : Method ArgStream ArgStream := do
  let t ← onTags (ReadStream.getChar memory)
  if t = '['.toUInt8 then do
    let tags ← observe fun args => .ok args.mTags.mPos
    let args ← observe fun args => .ok args.mArgs.mPos
    dropArray native memory
    observe fun after =>
      .ok {
        mTags :=
          Stream.make tags (ptrSub (ptrSub after.mTags.mPos tags) 1)
        mArgs :=
          Stream.make args (ptrSub after.mArgs.mPos args) }
  else
    fail (.parseError "Expected array")

end ArgStream

/-- `Message` -/
structure Message where
  mAddress : Nat
  mArgs : ArgStream
  deriving Repr, DecidableEq

/-- `Message(address, stream)` -/
def Message.make
    (memory : Memory)
    (address : Nat)
    (stream : Stream) :
    Call Message := do
  let args ← ArgStream.ofStream memory stream
  return { mAddress := address, mArgs := args }

/-- `args` -/
def Message.args (message : Message) : ArgStream :=
  message.mArgs.copy

/-- `PacketStream` -/
structure PacketStream where
  mStream : Stream
  deriving Repr, DecidableEq

/-- `PacketStream(stream)` -/
def PacketStream.make (stream : Stream) : PacketStream :=
  { mStream := stream.copy }

/-- `Bundle` -/
structure Bundle where
  mTime : UInt64
  mStream : Stream
  deriving Repr, DecidableEq

/-- `Bundle(time, stream)` -/
def Bundle.make (time : UInt64) (stream : Stream) : Bundle :=
  { mTime := time, mStream := stream.copy }

/-- `packets` -/
def Bundle.packets (bundle : Bundle) : PacketStream :=
  .make bundle.mStream

/-- `Packet` -/
structure Packet where
  mStream : Stream
  mIsBundle : Bool
  deriving Repr, DecidableEq

namespace Packet

variable (memory : Memory)

/-- `isBundle` of some data. -/
def isBundleAt (data size : Nat) : Call Bool :=
  if 15 < size then do
    let start ← memory.load data 8
    return start == bundleTag
  else
    return false

/-- `Packet(stream)` -/
def ofStream (stream : Stream) : Call Packet := do
  let isBundle ← isBundleAt memory stream.mPos stream.consumable
  if isBundle then do
    let mStream ← construct stream.copy (ReadStream.skip 8)
    return { mStream := mStream, mIsBundle := isBundle }
  else
    return { mStream := stream.copy, mIsBundle := isBundle }

/-- `Packet(data, size)` -/
def ofData (data size : Nat) : Call Packet :=
  ofStream memory (Stream.make data size)

/-- `Packet(packet)`, the implicit copy. -/
def copy (packet : Packet) : Packet :=
  { packet with mStream := packet.mStream.copy }

/-- `isBundle` -/
def isBundle (packet : Packet) : Bool :=
  packet.mIsBundle

/-- `isMessage` -/
def isMessage (packet : Packet) : Bool :=
  !packet.isBundle

/-- `operator Bundle` -/
def toBundle (native : Endian) (packet : Packet) : Call Bundle :=
  if !packet.isBundle then
    raise (.parseError "Packet is not a bundle")
  else do
    let (time, stream) ←
      callOn packet.mStream.copy (ReadStream.getUInt64 native memory)
    return Bundle.make time stream

/-- `operator Message` -/
def toMessage (packet : Packet) : Call Message :=
  if !packet.isMessage then
    raise (.parseError "Packet is not a message")
  else do
    let (address, stream) ←
      callOn packet.mStream.copy (ReadStream.getString memory)
    Message.make memory address stream

end Packet

namespace PacketStream

variable
  (native : Endian)
  (memory : Memory)

/-- Call a method of `m_stream`. -/
def onStream {α : Type} (method : Method Stream α) :
    Method PacketStream α :=
  onPart mStream (fun packets next => { packets with mStream := next })
    method

/-- `atEnd` -/
def atEnd (packets : PacketStream) : Bool :=
  packets.mStream.atEnd

/-- `next` -/
def next : Method PacketStream Packet := do
  let size ← onStream (ReadStream.getInt32 native memory)
  let stream ← observe fun packets => packets.mStream.sub (toSize size)
  onStream (ReadStream.skip (toSize size))
  observe fun _ => Packet.ofStream memory stream

end PacketStream

section Printing

variable
  (native : Endian)
  (conversions : Conversions)
  (memory : Memory)

/-- The loop of `printArgs`. -/
def printArgsFrom : Nat → Method ArgStream (Args Blob)
  | 0 =>
      giveUp
  | fuel + 1 => do
      let atEnd ← observe fun args : ArgStream => .ok args.atEnd
      if atEnd then
        return .nil
      else do
        let t ← observe (ArgStream.tag memory)
        if t = 'i'.toUInt8 then do
          let value ← ArgStream.int32 native memory conversions
          let rest ← printArgsFrom fuel
          return .int32 value rest
        else if t = 'f'.toUInt8 then do
          let value ← ArgStream.float32 native memory conversions
          let rest ← printArgsFrom fuel
          return .float32 value rest
        else if t = 's'.toUInt8 then do
          let string ← ArgStream.string memory
          let value ← observe fun _ => memory.cString string
          let rest ← printArgsFrom fuel
          return .string value rest
        else if t = 'b'.toUInt8 then do
          let value ← ArgStream.blob native memory
          let rest ← printArgsFrom fuel
          return .blob value rest
        else if t = '['.toUInt8 then do
          let array ← ArgStream.array native memory
          let (elements, _) ← observe fun _ =>
            callOn array (printArgsFrom fuel)
          let rest ← printArgsFrom fuel
          return .array elements rest
        else do
          ArgStream.drop native memory
          let rest ← printArgsFrom fuel
          return .other t rest

/-- `printArgs` -/
def printArgs (args : ArgStream) : Call (Args Blob) := do
  let (printed, _) ←
    callOn args
      (printArgsFrom native conversions memory
        (args.mTags.consumable + 1))
  return printed

/-- `printMessage` -/
def printMessage (message : Message) : Call (StdString × Args Blob) := do
  let address ← memory.cString message.mAddress
  let args ← printArgs native conversions memory message.args
  return (address, args)

/-- The loop of `printBundle`. -/
def printPacketsFrom : Nat → Method PacketStream (Elements Blob)
  | 0 =>
      giveUp
  | fuel + 1 => do
      let atEnd ← observe fun packets : PacketStream => .ok packets.atEnd
      if atEnd then
        return .nil
      else do
        let packet ← PacketStream.next native memory
        if packet.isMessage then do
          let message ← observe fun _ => packet.toMessage memory
          let (address, args) ← observe fun _ =>
            printMessage native conversions memory message
          let rest ← printPacketsFrom fuel
          return .message address args rest
        else do
          let bundle ← observe fun _ => packet.toBundle memory native
          let (elements, _) ← observe fun _ =>
            callOn bundle.packets (printPacketsFrom fuel)
          let rest ← printPacketsFrom fuel
          return .bundle bundle.mTime elements rest

/-- `printBundle` -/
def printBundle (bundle : Bundle) : Call (Elements Blob) := do
  let (elements, _) ←
    callOn bundle.packets
      (printPacketsFrom native conversions memory
        (bundle.mStream.consumable + 1))
  return elements

/-- `printPacket` -/
def printPacket (packet : Packet) : Call (Content Blob) :=
  if packet.isMessage then do
    let message ← packet.toMessage memory
    let (address, args) ← printMessage native conversions memory message
    return .message address args
  else do
    let bundle ← packet.toBundle memory native
    let elements ← printBundle native conversions memory bundle
    return .bundle bundle.mTime elements

end Printing

end Pwcpp.Oscpp
