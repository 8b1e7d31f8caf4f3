import Pwcpp.OscClient

namespace Pwcpp.Oscpp

open ThrowingMethods

/-!
# What the streams write

A stream writes behind what it has written and in front of what it has not; it
throws when there is no room, and then it has written nothing.
-/

/-- The exceptions that are thrown when there is no room. -/
def Exception.Overruns : Exception → Prop
  | .underrunError | .overflowError _ =>
      True
  | .parseError _ | .runtimeError _ | .logicError _ | .invalidArgument _ =>
      False

section Streams

variable
  {native : Endian}
  {output next : WriteStream}
  {front room behind values : List UInt8}

/-- The stream is behind some bytes, and has room up to others. -/
structure WriteStream.Holds
    (output : WriteStream)
    (front room behind : List UInt8) : Prop where
  bytes :
    output.memory.bytes = front ++ (room ++ behind)
  pos :
    output.stream.mPos = output.memory.address + front.length
  ends :
    output.stream.mEnd = output.stream.mPos + room.length

/-- The room of a stream is what it can write. -/
theorem WriteStream.Holds.consumable_eq
    (holds : output.Holds front room behind) :
    output.stream.consumable = room.length := by
  have bounded := output.memory.bounded
  rw [holds.bytes, List.length_append, List.length_append] at bounded
  have pos := holds.pos
  rw [Stream.consumable, holds.ends, ptrSub_eq (by omega) (by omega),
    Nat.add_sub_cancel_left]

/-- `checkWritable` compares with the room. -/
theorem WriteStream.Holds.checkWritable
    (holds : output.Holds front room behind)
    (n : Nat) :
    CallEnds (WriteStream.checkWritable n output)
      (fun _ => n ≤ room.length)
      (fun exception => room.length < n ∧ exception.Overruns)
      NoFault := by
  rw [WriteStream.checkWritable, holds.consumable_eq]
  by_cases short : room.length < n
  · rw [if_pos short]
    exact ⟨short, trivial⟩
  · rw [if_neg short]
    exact Nat.le_of_not_lt short

/-- Bytes are stored in the place of as many others. -/
theorem store_eq
    {memory : Memory}
    {pointer : Nat}
    {old : List UInt8}
    (isBytes : memory.bytes = front ++ (old ++ behind))
    (isPointer : pointer = memory.address + front.length)
    (sameLength : values.length = old.length) :
    ∃ stored,
      memory.store pointer values = .ok stored ∧
        stored.address = memory.address ∧
        stored.bytes = front ++ (values ++ behind) := by
  have isLength := congrArg List.length isBytes
  rw [List.length_append, List.length_append] at isLength
  have inside :
      memory.address ≤ pointer ∧
        pointer + values.length ≤ memory.endAddress := by
    rw [Memory.endAddress]
    omega
  have isStart : pointer - memory.address = front.length := by
    rw [isPointer, Nat.add_sub_cancel_left]
  refine ⟨_, dif_pos inside, rfl, ?_⟩
  change
    memory.bytes.take (pointer - memory.address) ++
        (values ++
          memory.bytes.drop (pointer - memory.address + values.length)) =
      _
  rw [isStart, sameLength, isBytes, List.take_left, ← List.drop_drop,
    List.drop_left, List.drop_left]

/-- Bytes are loaded from where they are. -/
theorem load_eq
    {memory : Memory}
    {pointer size : Nat}
    (isBytes : memory.bytes = front ++ (values ++ behind))
    (isPointer : pointer = memory.address + front.length)
    (isSize : values.length = size) :
    memory.load pointer size = .ok values := by
  have isLength := congrArg List.length isBytes
  rw [List.length_append, List.length_append] at isLength
  have inside :
      memory.address ≤ pointer ∧
        pointer + size ≤ memory.endAddress := by
    rw [Memory.endAddress]
    omega
  rw [Memory.load, if_pos inside, Memory.window, isPointer,
    Nat.add_sub_cancel_left, Nat.add_sub_cancel_left, isBytes,
    List.drop_left, ← isSize, List.take_left]

/-- The method writes these bytes, or throws and has no effect. -/
def WriteStream.Puts
    (output : WriteStream)
    (method : Method WriteStream Unit)
    (values : List UInt8)
    (front room behind : List UInt8) : Prop :=
  Ends (method output)
    (fun _ next =>
      values.length ≤ room.length ∧
        next.stream = output.stream.advance values.length ∧
        next.memory.address = output.memory.address ∧
        next.memory.bytes =
          front ++ (values ++ (room.drop values.length ++ behind)))
    (fun exception next =>
      room.length < values.length ∧ next = output ∧ exception.Overruns)
    NoFault

/-- Room is what is there and what is after it. -/
theorem WriteStream.Holds.split
    (holds : output.Holds front room behind)
    (n : Nat) :
    output.memory.bytes =
      front ++ (room.take n ++ (room.drop n ++ behind)) := by
  rw [holds.bytes, ← List.append_assoc (room.take n),
    List.take_append_drop]

/-- Copying bytes and going over them, where there is room. -/
theorem WriteStream.Holds.writes
    {n : Nat}
    (holds : output.Holds front room behind)
    (isLength : values.length = n)
    (inside : n ≤ room.length) :
    output.Puts
      (do
        WriteStream.copyTo Stream.mPos values
        WriteStream.advance n)
      values front room behind := by
  subst n
  have sameLength :
      values.length = (room.take values.length).length :=
    (List.length_take_of_le inside).symm
  obtain ⟨stored, stores, isAddress, isBytes⟩ :=
    store_eq (holds.split values.length) holds.pos sameLength
  apply Ends.bind
  rw [WriteStream.copyTo, stores]
  exact ⟨inside, rfl, isAddress, isBytes⟩

/-- A method that first checks for room. -/
theorem WriteStream.Holds.checked
    {n : Nat}
    {rest : Method WriteStream Unit}
    (holds : output.Holds front room behind)
    (isLength : values.length = n)
    (goesOn :
      n ≤ room.length → output.Puts rest values front room behind) :
    output.Puts
      (do
        observe (WriteStream.checkWritable n)
        rest)
      values front room behind := by
  apply Ends.bind
  apply Ends.observe
  apply CallEnds.mono (holds.checkWritable n)
  case returns =>
    intro _ inside
    exact goesOn inside
  case throws =>
    intro exception thrown
    rw [isLength]
    exact ⟨thrown.1, rfl, thrown.2⟩
  case faults =>
    exact id

/-- `zero` writes zeros. -/
theorem WriteStream.Holds.zero
    (holds : output.Holds front room behind)
    (n : Nat) :
    output.Puts (WriteStream.zero n) (List.replicate n 0) front room
      behind :=
  holds.checked List.length_replicate (holds.writes List.length_replicate)

/-- `putChar` writes a character. -/
theorem WriteStream.Holds.putChar
    (holds : output.Holds front room behind)
    (c : UInt8) :
    output.Puts (WriteStream.putChar c) [c] front room behind :=
  holds.checked rfl (holds.writes rfl)

/-- Turning a number around, and its bytes, changes nothing. -/
theorem reverse_encode_swap (width number : Nat) :
    (BigEndian.encode width (BigEndian.swap width number)).reverse =
      BigEndian.encode width number := by
  rw [BigEndian.encode_swap, List.reverse_reverse]

/-- Whatever the platform, a word is written in network byte order. -/
theorem nativeBytes_convert32 (native : Endian) (x : UInt32) :
    nativeBytes native 4 (convert32 native x).toNat = word x := by
  cases native with
  | little =>
      have inRange : BigEndian.swap 4 x.toNat < 2 ^ 32 :=
        BigEndian.swap_lt 4 x.toNat
      rw [nativeBytes, convert32, bswap32,
        UInt32.toNat_ofNat_of_lt' inRange, reverse_encode_swap, word]
  | big =>
      rfl

/-- Whatever the platform, a long word is written in network byte order. -/
theorem nativeBytes_convert64 (native : Endian) (x : UInt64) :
    nativeBytes native 8 (convert64 native x).toNat =
      BigEndian.encode 8 x.toNat := by
  cases native with
  | little =>
      have inRange : BigEndian.swap 8 x.toNat < 2 ^ 64 :=
        BigEndian.swap_lt 8 x.toNat
      rw [nativeBytes, convert64, bswap64,
        UInt64.toNat_ofNat_of_lt' inRange, reverse_encode_swap]
  | big =>
      rfl

/-- `putUInt64` writes a long word. -/
theorem WriteStream.Holds.putUInt64
    (holds : output.Holds front room behind)
    (x : UInt64) :
    output.Puts (WriteStream.putUInt64 native x)
      (BigEndian.encode 8 x.toNat) front room behind := by
  have isLength : (BigEndian.encode 8 x.toNat).length = 8 :=
    BigEndian.length_encode 8 _
  rw [WriteStream.putUInt64, nativeBytes_convert64]
  exact holds.checked isLength (holds.writes isLength)

/-- `putInt32` and `putFloat32` write a word. -/
theorem WriteStream.Holds.putWord
    (holds : output.Holds front room behind)
    (aligned : 4 ∣ output.stream.mPos)
    (x : UInt32) :
    output.Puts (WriteStream.putWord native x) (word x) front room
      behind := by
  have isAligned : checkAlignment output.stream.mPos 4 = .ok () := by
    rw [checkAlignment, isAligned_four, decide_eq_true aligned]
    rfl
  rw [WriteStream.putWord, nativeBytes_convert32]
  apply holds.checked (length_word x)
  intro inside
  apply Ends.bind
  apply Ends.observe
  rw [isAligned]
  exact holds.writes (length_word x) inside

/-- `putData` writes the data, filled up with zeros. -/
theorem WriteStream.Holds.putData
    (holds : output.Holds front room behind)
    {data : List UInt8}
    (small : data.length + 3 < 2 ^ 64) :
    output.Puts (WriteStream.putData data) (padded data) front room
      behind := by
  have bounded := output.memory.bounded
  have isBytes := congrArg List.length holds.bytes
  rw [List.length_append, List.length_append] at isBytes
  have isPadding : padding data.length = fill data.length :=
    padding_eq small
  have shortFill := fill_lt data.length
  have isSize :
      ptrAdd data.length (fill data.length) =
        data.length + fill data.length :=
    ptrAdd_eq (by omega)
  rw [WriteStream.putData]
  simp only [isPadding, isSize]
  apply holds.checked (length_padded data)
  intro inside
  have insideData : data.length ≤ room.length :=
    Nat.le_of_add_right_le inside
  have insideFill : fill data.length ≤ (room.drop data.length).length := by
    rw [List.length_drop]
    omega
  obtain ⟨stored, stores, isAddress, isStored⟩ :=
    store_eq (holds.split data.length) holds.pos
      (List.length_take_of_le insideData).symm
  have split :
      stored.bytes =
        (front ++ data) ++
          ((room.drop data.length).take (fill data.length) ++
            ((room.drop data.length).drop (fill data.length) ++
              behind)) := by
    rw [isStored, ← List.append_assoc (List.take _ _),
      List.take_append_drop, List.append_assoc]
  have isPlace :
      ptrAdd output.stream.mPos data.length =
        stored.address + (front ++ data).length := by
    rw [holds.pos, isAddress, List.length_append, ptrAdd_eq (by omega),
      Nat.add_assoc]
  have sameLength :
      (List.replicate (fill data.length) (0 : UInt8)).length =
        ((room.drop data.length).take (fill data.length)).length := by
    rw [List.length_replicate, List.length_take_of_le insideFill]
  obtain ⟨filled, fills, sameAddress, isFilled⟩ :=
    store_eq split isPlace sameLength
  apply Ends.bind
  rw [WriteStream.copyTo, stores]
  apply Ends.bind
  rw [WriteStream.copyTo, fills]
  refine ⟨?_, ?_, sameAddress.trans isAddress, ?_⟩
  · rw [length_padded]
    exact inside
  · rw [length_padded]
  · rw [isFilled, length_padded, padded, List.drop_drop,
      List.append_assoc, List.append_assoc]

/-- `putString` writes the encoding of a string. -/
theorem WriteStream.Holds.putString
    (holds : output.Holds front room behind)
    {s : StdString}
    (nulFree : NulFree s)
    (small : s.length + 4 < 2 ^ 64) :
    output.Puts (WriteStream.putString s) (oscString s) front room
      behind := by
  rw [WriteStream.putString, cStr_eq_self nulFree, oscString]
  apply holds.putData
  rw [List.length_append, List.length_singleton]
  exact small

end Streams

end Pwcpp.Oscpp
