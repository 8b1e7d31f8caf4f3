import Pwcpp.OscOutput

namespace Pwcpp.Oscpp

open ThrowingMethods

/-!
# What the methods of a client packet write

The buffer of a packet lies between other bytes of memory.  A method needs some
of the room in it: where there is enough it writes behind what was written
before, and where there is not it throws.  What lies around the buffer stays as
it is in both cases, and methods in a row need the sum of what each needs.
-/

/-- Where the buffer of a packet is. -/
structure Place where
  address : Nat
  before : List UInt8
  after : List UInt8
  capacity : Nat

/-- The address of the buffer. -/
def Place.start (place : Place) : Nat :=
  place.address + place.before.length

/-- The packet writes to this buffer, and what is around it is unchanged. -/
structure Client.At (packet : Client) (place : Place) : Prop where
  address :
    packet.memory.address = place.address
  bytes :
    ∃ inside,
      inside.length = place.capacity ∧
        packet.memory.bytes = place.before ++ (inside ++ place.after)
  buffer :
    packet.mBuffer = place.start
  capacity :
    packet.mCapacity = place.capacity
  aligned :
    4 ∣ place.start

/--
These bytes are written, with room after them.  So many bundles are open, and
the size of the innermost one is at this offset; the outermost bundle has no
size, and then the offset is zero.
-/
structure Client.Writing
    (packet : Client)
    (place : Place)
    (offset depth : Nat)
    (written room : List UInt8) : Prop where
  address :
    packet.memory.address = place.address
  bytes :
    packet.memory.bytes =
      place.before ++ (written ++ (room ++ place.after))
  isCapacity :
    written.length + room.length = place.capacity
  buffer :
    packet.mBuffer = place.start
  capacity :
    packet.mCapacity = place.capacity
  aligned :
    4 ∣ place.start
  words :
    4 ∣ written.length
  begins :
    packet.mArgs.mBegin = place.start
  pos :
    packet.mArgs.mPos = place.start + written.length
  ends :
    packet.mArgs.mEnd = place.start + place.capacity
  slot :
    packet.mSizePosB = place.start + offset ∨
      packet.mSizePosB = 0 ∧ offset = 0
  isDepth :
    packet.mInBundle = depth

/--
A method that needs some of the room: it returns where there is enough, and
throws where there is not.
-/
def Place.Needs
    (place : Place)
    (result : EStateM.Result (Stop Fault Exception) Client Unit)
    (need : Nat)
    (room : List UInt8)
    (Returns : Client → Prop) : Prop :=
  Ends result
    (fun _ next => need ≤ room.length ∧ Returns next)
    (fun exception next =>
      room.length < need ∧ exception.Overruns ∧ next.At place)
    NoFault

variable
  {native : Endian}
  {packet next : Client}
  {place : Place}
  {offset depth need more total : Nat}
  {written room values front slot body : List UInt8}
  {Returns Returns' : Client → Prop}

section Needs

/-- Methods in a row need what each of them needs. -/
theorem Place.Needs.bind
    {first second : Method Client Unit}
    (needs :
      place.Needs (first packet) need room fun next =>
        place.Needs (second next) more (room.drop need) Returns)
    (isTotal : need + more = total) :
    place.Needs
      ((do
        first
        second) packet)
      total room Returns := by
  subst total
  apply Ends.bind
  apply Ends.mono needs
  case returns =>
    intro _ next both
    obtain ⟨enough, rest⟩ := both
    apply Ends.mono rest
    case returns =>
      intro _ last fits
      obtain ⟨enoughMore, returns⟩ := fits
      rw [List.length_drop] at enoughMore
      exact ⟨Nat.add_le_of_le_sub' enough enoughMore, returns⟩
    case throws =>
      intro exception last thrown
      obtain ⟨tooFew, overruns, isAt⟩ := thrown
      rw [List.length_drop] at tooFew
      exact ⟨(Nat.sub_lt_iff_lt_add' enough).mp tooFew, overruns, isAt⟩
    case faults =>
      exact id
  case throws =>
    intro exception next thrown
    exact ⟨Nat.lt_add_right more thrown.1, thrown.2⟩
  case faults =>
    exact id

/-- The consequence rule. -/
theorem Place.Needs.mono
    {result : EStateM.Result (Stop Fault Exception) Client Unit}
    (needs : place.Needs result need room Returns')
    (returns : ∀ {next}, Returns' next → Returns next) :
    place.Needs result need room Returns := by
  apply Ends.mono needs
  case returns =>
    intro _ next fits
    exact ⟨fits.1, returns fits.2⟩
  case throws =>
    exact id
  case faults =>
    exact id

/-- Where a method returns, there was enough room. -/
theorem Place.Needs.enough
    {result : EStateM.Result (Stop Fault Exception) Client Unit}
    (needs : place.Needs result need room Returns) :
    place.Needs result need room fun next =>
      need ≤ room.length ∧ Returns next := by
  apply Ends.mono needs
  case returns =>
    intro _ next fits
    exact ⟨fits.1, fits⟩
  case throws =>
    exact id
  case faults =>
    exact id

/-- After a method that needs nothing, the next one is called. -/
theorem Place.Needs.after
    {first second : Method Client Unit}
    (isNext : first packet = .ok () next)
    (needs : place.Needs (second next) need room Returns) :
    place.Needs
      ((do
        first
        second) packet)
      need room Returns := by
  rw [bind_of_ok isNext]
  exact needs

end Needs

section Streams

/-- Where a packet is written to, its buffer is. -/
theorem Client.Writing.isAt
    (writing : packet.Writing place offset depth written room) :
    packet.At place where
  address := writing.address
  bytes := by
    refine ⟨written ++ room, ?_, ?_⟩
    · rw [List.length_append]
      exact writing.isCapacity
    · rw [List.append_assoc]
      exact writing.bytes
  buffer := writing.buffer
  capacity := writing.capacity
  aligned := writing.aligned

/-- The stream of the arguments is behind what is written. -/
theorem Client.Writing.holds
    (writing : packet.Writing place offset depth written room) :
    WriteStream.Holds { stream := packet.mArgs, memory := packet.memory }
      (place.before ++ written) room place.after where
  bytes := by
    rw [List.append_assoc]
    exact writing.bytes
  pos := by
    rw [List.length_append, ← Nat.add_assoc, writing.address]
    exact writing.pos
  ends := by
    change packet.mArgs.mEnd = packet.mArgs.mPos + room.length
    rw [writing.pos, Nat.add_assoc, writing.isCapacity]
    exact writing.ends

/-- The stream of the arguments is aligned. -/
theorem Client.Writing.pos_aligned
    (writing : packet.Writing place offset depth written room) :
    4 ∣ packet.mArgs.mPos := by
  rw [writing.pos]
  exact Nat.dvd_add writing.aligned writing.words

/-- The buffer does not reach the end of the address space. -/
theorem Client.Writing.bounded
    (writing : packet.Writing place offset depth written room) :
    place.start + (written.length + room.length) + 4 ≤ 2 ^ 64 := by
  have bounded := packet.memory.bounded
  rw [writing.bytes, writing.address, List.length_append,
    List.length_append, List.length_append] at bounded
  rw [Place.start]
  omega

/-- Other bytes in the place of those that were written. -/
theorem Client.Writing.rewrite
    {memory : Memory}
    (writing : packet.Writing place offset depth written room)
    (sameLength : values.length = written.length)
    (sameAddress : memory.address = packet.memory.address)
    (isBytes :
      memory.bytes = place.before ++ (values ++ (room ++ place.after))) :
    Client.Writing { packet with memory := memory } place offset depth
      values room where
  address := sameAddress.trans writing.address
  bytes := isBytes
  isCapacity := by
    rw [sameLength]
    exact writing.isCapacity
  buffer := writing.buffer
  capacity := writing.capacity
  aligned := writing.aligned
  words := by
    rw [sameLength]
    exact writing.words
  begins := writing.begins
  pos := by
    rw [sameLength]
    exact writing.pos
  ends := writing.ends
  slot := writing.slot
  isDepth := writing.isDepth

/-- Another stream for the tags. -/
theorem Client.Writing.setTags
    (writing : packet.Writing place offset depth written room)
    (tagStream : Stream) :
    Client.Writing { packet with mTags := tagStream } place offset depth
      written room where
  address := writing.address
  bytes := writing.bytes
  isCapacity := writing.isCapacity
  buffer := writing.buffer
  capacity := writing.capacity
  aligned := writing.aligned
  words := writing.words
  begins := writing.begins
  pos := writing.pos
  ends := writing.ends
  slot := writing.slot
  isDepth := writing.isDepth

/-- Going on behind bytes that were written into the room. -/
theorem Client.Writing.advance
    {memory : Memory}
    (writing : packet.Writing place offset depth written room)
    (fits : values.length ≤ room.length)
    (words : 4 ∣ values.length)
    (sameAddress : memory.address = packet.memory.address)
    (isBytes :
      memory.bytes =
        place.before ++
          (written ++
            (values ++ (room.drop values.length ++ place.after)))) :
    Client.Writing
      { packet with
        mArgs := packet.mArgs.advance values.length, memory := memory }
      place offset depth (written ++ values) (room.drop values.length) where
  address := sameAddress.trans writing.address
  bytes := by
    rw [List.append_assoc]
    exact isBytes
  isCapacity := by
    have isCapacity := writing.isCapacity
    rw [List.length_append, List.length_drop]
    omega
  buffer := writing.buffer
  capacity := writing.capacity
  aligned := writing.aligned
  words := by
    rw [List.length_append]
    exact Nat.dvd_add writing.words words
  begins := writing.begins
  pos := by
    have bounded := writing.bounded
    change ptrAdd packet.mArgs.mPos values.length = _
    rw [writing.pos, ptrAdd_eq (by omega), List.length_append,
      Nat.add_assoc]
  ends := writing.ends
  slot := writing.slot
  isDepth := writing.isDepth

/-- A method of the argument stream that writes whole words. -/
theorem Client.Writing.puts
    {method : Method WriteStream Unit}
    (writing : packet.Writing place offset depth written room)
    (words : 4 ∣ values.length)
    (puts :
      WriteStream.Puts
        { stream := packet.mArgs, memory := packet.memory }
        method values (place.before ++ written) room place.after) :
    place.Needs (Client.onArgs method packet) values.length room fun next =>
      next.Writing place offset depth (written ++ values)
          (room.drop values.length) ∧
        next.mTags = packet.mTags ∧
        next.mSizePosM = packet.mSizePosM := by
  apply Ends.onPart
  apply Ends.mono puts
  case returns =>
    intro _ output written
    obtain ⟨fits, isStream, sameAddress, isBytes⟩ := written
    rw [isStream]
    rw [List.append_assoc] at isBytes
    exact ⟨fits, writing.advance fits words sameAddress isBytes, rfl, rfl⟩
  case throws =>
    intro exception output thrown
    obtain ⟨tooFew, rfl, overruns⟩ := thrown
    exact ⟨tooFew, overruns, writing.isAt⟩
  case faults =>
    exact id

/-- `skip` goes over some of the room. -/
theorem Client.Writing.skip
    {n : Nat}
    (writing : packet.Writing place offset depth written room)
    (words : 4 ∣ n) :
    place.Needs (Client.onArgs (WriteStream.skip n) packet) n room
      fun next =>
        next =
            { packet with mArgs := packet.mArgs.advance n } ∧
          next.Writing place offset depth (written ++ room.take n)
            (room.drop n) := by
  apply Ends.onPart
  apply Ends.bind
  apply Ends.observe
  apply CallEnds.mono (writing.holds.checkWritable n)
  case returns =>
    intro _ enough
    have isLength : (room.take n).length = n :=
      List.length_take_of_le enough
    have fits : (room.take n).length ≤ room.length :=
      isLength.trans_le enough
    have isWords : 4 ∣ (room.take n).length := by
      rw [isLength]
      exact words
    have sameBytes :
        packet.memory.bytes =
          place.before ++
            (written ++
              (room.take n ++
                (room.drop (room.take n).length ++ place.after))) := by
      rw [isLength, ← List.append_assoc (room.take n),
        List.take_append_drop]
      exact writing.bytes
    have advanced := writing.advance fits isWords rfl sameBytes
    rw [isLength] at advanced
    exact ⟨enough, rfl, advanced⟩
  case throws =>
    intro exception thrown
    exact ⟨thrown.1, thrown.2, writing.isAt⟩
  case faults =>
    exact id

end Streams

section Sizes

/-- Small numbers stay what they are. -/
theorem toInt_small
    {n : Nat}
    (small : n < 2 ^ 31) :
    n.toUInt32.toInt32.toInt = n :=
  Int32.toInt_ofNat_of_lt small

/-- A small number stays what it is as a size. -/
theorem toSize_small
    {n : Nat}
    (small : n < 2 ^ 31) :
    toSize n.toUInt32.toInt32 = n := by
  rw [toSize, toInt_small small]
  omega

/-- The difference of two places in the buffer. -/
theorem ptrDiff_eq
    {first n : Nat}
    (small : n < 2 ^ 31) :
    Client.ptrDiff (first + n) first = .ok n.toUInt32.toInt32 := by
  have isDifference : ((first + n : Nat) : Int) - first = n := by
    omega
  have inRange : ¬ ((n : Int) < -2 ^ 31 ∨ 2 ^ 31 - 1 < (n : Int)) := by
    omega
  have isNumber : Int32.ofInt n = n.toUInt32.toInt32 := by
    rw [← Int32.toInt_inj, toInt_small small,
      Int32.toInt_ofInt_of_le (by omega) (by omega)]
  rw [Client.ptrDiff, isDifference]
  exact (if_neg inRange).trans (congrArg _ isNumber)

/-- The size of what is behind a slot. -/
theorem calcSize_eq
    {first n : Nat}
    (small : 4 + n < 2 ^ 31) :
    Client.calcSize first (first + (4 + n)) =
      .ok n.toUInt32.toInt32 := by
  have isSize :
      (4 + n).toUInt32.toInt32 - 4 = n.toUInt32.toInt32 := by
    apply Int32.toInt_inj.mp
    have isFour : (4 : Int32).toInt = 4 := rfl
    rw [Int32.toInt_sub, toInt_small small, isFour,
      toInt_small (Nat.lt_of_add_left_lt small), Int.bmod_eq_of_le]
    · omega
    · omega
    · omega
  have noOverflow :
      ¬ ((4 + n).toUInt32.toInt32.toInt - 4 < -2 ^ 31) := by
    rw [toInt_small small]
    omega
  have positive : ¬ n.toUInt32.toInt32 < 0 := by
    have isZero : (0 : Int32).toInt = 0 := rfl
    rw [Int32.lt_iff_toInt_lt, toInt_small (Nat.lt_of_add_left_lt small),
      isZero]
    omega
  rw [Client.calcSize, ptrDiff_eq small, call_bind_ok, if_neg noOverflow,
    isSize]
  exact if_neg positive

/-- Going to a place in the buffer. -/
theorem setPos_ok
    {pos : Nat}
    (begins : packet.mArgs.mBegin ≤ pos)
    (ends : pos ≤ packet.mArgs.mEnd) :
    Client.onArgs (WriteStream.setPos pos) packet =
      .ok ()
        { packet with mArgs := { packet.mArgs with mPos := pos } } := by
  have inside :
      packet.mArgs.mBegin ≤ pos ∧ pos ≤ packet.mArgs.mEnd :=
    ⟨begins, ends⟩
  have isSet :
      Stream.setPos pos packet.mArgs =
        .ok () { packet.mArgs with mPos := pos } :=
    if_pos inside
  rw [Client.onArgs, onPart, WriteStream.setPos, onPart, isSet]

/-- Filling in a size, and going back to the end. -/
theorem Client.Writing.patch
    {rest : Method Client Unit}
    (writing :
      packet.Writing place offset depth (front ++ (slot ++ body)) room)
    (isSlot : slot.length = 4)
    (words : 4 ∣ front.length)
    (size : Int32)
    (goesOn :
      ∀ {next : Client},
        next.Writing place offset depth
            (front ++ (word size.toUInt32 ++ body)) room →
          place.Needs (rest next) need room Returns) :
    place.Needs
      ((do
        Client.onArgs (WriteStream.putInt32 native size)
        Client.onArgs (WriteStream.setPos packet.mArgs.mPos)
        rest)
        { packet with
          mArgs :=
            { packet.mArgs with mPos := place.start + front.length } })
      need room Returns := by
  have isCapacity := writing.isCapacity
  rw [List.length_append, List.length_append] at isCapacity
  have holds :
      WriteStream.Holds
        { stream :=
            { packet.mArgs with mPos := place.start + front.length }
          memory := packet.memory }
        (place.before ++ front) (slot ++ (body ++ room)) place.after :=
    { bytes := by
        simpa only [List.append_assoc] using writing.bytes
      pos := by
        rw [List.length_append, ← Nat.add_assoc, writing.address]
        rfl
      ends := by
        have isEnd := writing.ends
        rw [← isCapacity] at isEnd
        rw [List.length_append, List.length_append]
        change packet.mArgs.mEnd =
          place.start + front.length +
            (slot.length + (body.length + room.length))
        rw [isEnd]
        omega }
  have puts :
      WriteStream.Puts
        { stream :=
            { packet.mArgs with mPos := place.start + front.length }
          memory := packet.memory }
        (WriteStream.putWord native size.toUInt32) (word size.toUInt32)
        (place.before ++ front) (slot ++ (body ++ room)) place.after :=
    holds.putWord (Nat.dvd_add writing.aligned words) size.toUInt32
  apply Ends.bind
  apply Ends.onPart
  apply Ends.mono puts
  case returns =>
    intro _ output isWritten
    obtain ⟨-, isStream, sameAddress, isBytes⟩ := isWritten
    rw [length_word, List.drop_left' isSlot] at isBytes
    have begins : output.stream.mBegin ≤ packet.mArgs.mPos := by
      rw [isStream]
      change packet.mArgs.mBegin ≤ packet.mArgs.mPos
      rw [writing.begins, writing.pos]
      exact Nat.le_add_right _ _
    have ends : packet.mArgs.mPos ≤ output.stream.mEnd := by
      rw [isStream]
      change packet.mArgs.mPos ≤ packet.mArgs.mEnd
      rw [writing.ends, writing.pos, ← writing.isCapacity]
      omega
    apply Place.Needs.after (setPos_ok begins ends)
    have sameSize :
        (front ++ (word size.toUInt32 ++ body)).length =
          (front ++ (slot ++ body)).length := by
      rw [List.length_append, List.length_append, List.length_append,
        List.length_append, length_word, isSlot]
    have rewritten := writing.rewrite sameSize sameAddress
    apply goesOn
    rw [isStream]
    apply rewritten
    simpa only [List.append_assoc] using isBytes
  case throws =>
    -- The place of the size was written before.
    intro exception output thrown
    have tooFew := thrown.1
    rw [length_word, List.length_append, isSlot] at tooFew
    omega
  case faults =>
    exact id

end Sizes

section Arguments

/--
A message is being written: its address is in front, then come the tags that
are written, zeros for the tags that are not and for what fills them up, and
the arguments.
-/
structure Client.InMessage
    (packet : Client)
    (place : Place)
    (offset depth sizePosM : Nat)
    (front tags : List UInt8)
    (left filling : Nat)
    (data room : List UInt8) : Prop where
  writing :
    packet.Writing place offset depth
      (front ++
        (tags ++
          (List.replicate left 0 ++ (List.replicate filling 0 ++ data))))
      room
  tagsPos :
    packet.mTags.mPos = place.start + front.length + tags.length
  tagsEnd :
    packet.mTags.mEnd = packet.mTags.mPos + left
  isSizePosM :
    packet.mSizePosM = sizePosM

variable
  {tags data : List UInt8}
  {left filling sizePosM : Nat}
  {tag : UInt8}

/-- The stream of the tags is behind the tags. -/
theorem Client.InMessage.holds
    (inMessage :
      packet.InMessage place offset depth sizePosM front tags left filling
        data room) :
    WriteStream.Holds { stream := packet.mTags, memory := packet.memory }
      (place.before ++ front ++ tags)
      (List.replicate left 0)
      (List.replicate filling 0 ++ data ++ room ++ place.after) where
  bytes := by
    simpa only [List.append_assoc] using inMessage.writing.bytes
  pos := by
    have isPos := inMessage.tagsPos
    rw [Place.start, ← inMessage.writing.address] at isPos
    change packet.mTags.mPos =
      packet.memory.address + (place.before ++ front ++ tags).length
    rw [isPos, List.length_append, List.length_append]
    omega
  ends := by
    rw [List.length_replicate]
    exact inMessage.tagsEnd

/-- A tag is written where there is one left. -/
theorem Client.InMessage.putTag
    (inMessage :
      packet.InMessage place offset depth sizePosM front tags (left + 1)
        filling data room)
    (tag : UInt8) :
    place.Needs (Client.onTags (WriteStream.putChar tag) packet) 0 room
      fun next =>
        next.InMessage place offset depth sizePosM front (tags ++ [tag])
          left filling data room := by
  have writing := inMessage.writing
  have bounded := writing.bounded
  simp only [List.length_append, List.length_replicate] at bounded
  have isNext :
      ptrAdd packet.mTags.mPos 1 =
        place.start + front.length + (tags ++ [tag]).length := by
    rw [inMessage.tagsPos, ptrAdd_eq (by omega), List.length_append,
      List.length_singleton, Nat.add_assoc]
  apply Ends.onPart
  apply Ends.mono (inMessage.holds.putChar tag)
  case returns =>
    intro _ output isWritten
    obtain ⟨-, isStream, sameAddress, isBytes⟩ := isWritten
    have sameSize :
        (front ++
            ((tags ++ [tag]) ++
              (List.replicate left 0 ++
                (List.replicate filling 0 ++ data)))).length =
          (front ++
            (tags ++
              (List.replicate (left + 1) 0 ++
                (List.replicate filling 0 ++ data)))).length := by
      simp only [List.length_append, List.length_replicate,
        List.length_singleton]
      omega
    have rewritten :=
      writing.rewrite sameSize sameAddress
        (by simpa [List.replicate_succ] using isBytes)
    refine ⟨Nat.zero_le _, ?_, ?_, ?_, inMessage.isSizePosM⟩
    · exact rewritten.setTags output.stream
    · rw [isStream]
      exact isNext
    · have isEnd := inMessage.tagsEnd
      rw [inMessage.tagsPos] at isEnd
      rw [isStream]
      change packet.mTags.mEnd = ptrAdd packet.mTags.mPos 1 + left
      rw [isNext, isEnd, List.length_append, List.length_singleton]
      omega
  case throws =>
    intro exception output thrown
    have tooFew := thrown.1
    rw [List.length_replicate, List.length_singleton] at tooFew
    omega
  case faults =>
    exact id

/--
Wherever a message is being written that has these tags left, the method writes
them, and these data behind the arguments.
-/
structure Client.Puts
    (method : Method Client Unit)
    (tags data : List UInt8) : Prop where
  needs :
    ∀ {packet : Client} {place : Place} {offset depth sizePosM : Nat}
      {front before written room : List UInt8} {left filling : Nat},
      packet.InMessage place offset depth sizePosM front before
          (tags.length + left) filling written room →
        place.Needs (method packet) data.length room fun next =>
          next.InMessage place offset depth sizePosM front
            (before ++ tags) left filling (written ++ data)
            (room.drop data.length)

/-- Writing nothing. -/
theorem Client.Puts.nothing : Client.Puts (pure ()) [] [] := by
  constructor
  intro packet place offset depth sizePosM front before written room left
    filling inMessage
  rw [List.length_nil, Nat.zero_add] at inMessage
  rw [List.append_nil, List.append_nil]
  exact ⟨Nat.zero_le _, inMessage⟩

/-- Two methods in a row write what each of them writes. -/
theorem Client.Puts.append
    {first second : Method Client Unit}
    {tags moreTags data moreData : List UInt8}
    (firstPuts : Client.Puts first tags data)
    (secondPuts : Client.Puts second moreTags moreData) :
    Client.Puts
      (do
        first
        second)
      (tags ++ moreTags) (data ++ moreData) := by
  constructor
  intro packet place offset depth sizePosM front before written room left
    filling inMessage
  rw [List.length_append, Nat.add_assoc] at inMessage
  rw [List.length_append, ← List.append_assoc, ← List.append_assoc,
    ← List.drop_drop]
  refine Place.Needs.bind ?_ rfl
  apply Place.Needs.mono (firstPuts.needs inMessage)
  intro next nextIn
  exact secondPuts.needs nextIn

/-- A tag. -/
theorem Client.puts_tag (tag : UInt8) :
    Client.Puts (Client.onTags (WriteStream.putChar tag)) [tag] [] := by
  constructor
  intro packet place offset depth sizePosM front before written room left
    filling inMessage
  rw [List.length_singleton, Nat.add_comm] at inMessage
  rw [List.append_nil]
  exact inMessage.putTag tag

/-- Data, with a method that writes whole words. -/
theorem Client.puts_data
    {method : Method WriteStream Unit}
    (words : 4 ∣ values.length)
    (puts :
      ∀ {front room behind : List UInt8} {output : WriteStream},
        output.Holds front room behind →
          4 ∣ output.stream.mPos →
          output.Puts method values front room behind) :
    Client.Puts (Client.onArgs method) [] values := by
  constructor
  intro packet place offset depth sizePosM front before written room left
    filling inMessage
  rw [List.length_nil, Nat.zero_add] at inMessage
  rw [List.append_nil]
  have writing := inMessage.writing
  apply Place.Needs.mono
    (writing.puts words (puts writing.holds writing.pos_aligned))
  intro next written
  obtain ⟨nextWriting, sameTags, sameSize⟩ := written
  simp only [List.append_assoc] at nextWriting
  refine ⟨nextWriting, ?_, ?_, sameSize.trans inMessage.isSizePosM⟩
  · rw [sameTags]
    exact inMessage.tagsPos
  · rw [sameTags]
    exact inMessage.tagsEnd

/-- A word. -/
theorem Client.puts_word (x : UInt32) :
    Client.Puts (Client.onArgs (WriteStream.putWord native x)) []
      (word x) := by
  apply Client.puts_data
  · rw [length_word]
  · intro front room behind output holds aligned
    exact holds.putWord aligned x

/-- An argument: its tag, and its data. -/
theorem Client.puts_argument
    {method : Method Client Unit}
    (puts : Client.Puts method [] values)
    (tag : UInt8) :
    Client.Puts
      (do
        Client.onTags (WriteStream.putChar tag)
        method)
      [tag] values := by
  have both := Client.Puts.append (Client.puts_tag tag) puts
  rw [List.append_nil, List.nil_append] at both
  exact both

/-- `int32` -/
theorem Client.puts_int32 (native : Endian) (arg : Int32) :
    Client.Puts (Client.int32 native arg) ['i'.toUInt8]
      (word arg.toUInt32) := by
  have isData :
      Client.Puts (Client.onArgs (WriteStream.putInt32 native arg)) []
        (word arg.toUInt32) :=
    Client.puts_word arg.toUInt32
  exact Client.puts_argument isData _

/-- `float32` -/
theorem Client.puts_float32 (native : Endian) (arg : UInt32) :
    Client.Puts (Client.float32 native arg) ['f'.toUInt8]
      (word arg) := by
  have isData :
      Client.Puts (Client.onArgs (WriteStream.putFloat32 native arg)) []
        (word arg) :=
    Client.puts_word arg
  exact Client.puts_argument isData _

/-- `string` -/
theorem Client.puts_string
    {arg : StdString}
    (nulFree : NulFree arg)
    (small : arg.length + 4 < 2 ^ 64) :
    Client.Puts (Client.string arg) ['s'.toUInt8] (oscString arg) := by
  have isData :
      Client.Puts (Client.onArgs (WriteStream.putString arg)) []
        (oscString arg) := by
    apply Client.puts_data (four_dvd_length_oscString arg)
    intro front room behind output holds aligned
    exact holds.putString nulFree small
  exact Client.puts_argument isData _

/-- `blob` -/
theorem Client.puts_blob
    (native : Endian)
    {arg : List UInt8}
    (small : arg.length < 2 ^ 31) :
    Client.Puts (Client.blob native arg) ['b'.toUInt8]
      (word arg.length.toUInt32 ++ padded arg) := by
  have notLarge : ¬ 2 ^ 31 - 1 < arg.length :=
    Nat.not_lt_of_le (Nat.le_sub_one_of_lt small)
  have words : 4 ∣ (padded arg).length := by
    rw [length_padded]
    exact four_dvd_add_fill _
  have isSize :
      Client.Puts
        (Client.onArgs
          (WriteStream.putInt32 native arg.length.toUInt32.toInt32))
        [] (word arg.length.toUInt32) :=
    Client.puts_word arg.length.toUInt32
  have isContent :
      Client.Puts (Client.onArgs (WriteStream.putData arg)) []
        (padded arg) := by
    apply Client.puts_data words
    intro front room behind output holds aligned
    exact holds.putData (Nat.lt_trans (Nat.add_lt_add_right small 3)
      (by decide))
  have isData := Client.Puts.append isSize isContent
  rw [List.append_nil] at isData
  rw [Client.blob, if_neg notLarge]
  exact Client.puts_argument isData _

/-- The tag stream can write nothing after the last tag but the NUL. -/
theorem Client.InMessage.finished
    (inMessage :
      packet.InMessage place offset depth sizePosM front tags 1
        (fill (tags.length + 1)) data room) :
    packet.Writing place offset depth (front ++ (oscString tags ++ data))
      room := by
  have isTags :
      tags ++
          (List.replicate 1 0 ++
            (List.replicate (fill (tags.length + 1)) 0 ++ data)) =
        oscString tags ++ data := by
    rw [oscString, padded, List.length_append, List.length_singleton,
      List.append_assoc, List.append_assoc]
    rfl
  have writing := inMessage.writing
  rwa [isTags] at writing

end Arguments

section Messages

variable
  {tags data : List UInt8}
  {addr : StdString}
  {numTags sizePosM : Nat}

/-- What `openMessage` does behind the size of the message. -/
def Client.startMessage
    (addr : StdString)
    (numTags : Nat) :
    Method Client Unit := do
  Client.onArgs (WriteStream.putString addr)
  let sigLen := ptrAdd numTags 2
  let tags ← observe fun packet => packet.mArgs.sub sigLen
  update fun packet => { packet with mTags := tags }
  Client.onArgs (WriteStream.zero (align sigLen))
  Client.onTags (WriteStream.putChar ','.toUInt8)

/-- Outside of bundles, a message has no size. -/
theorem openMessage_outer
    (outer : packet.mInBundle = 0) :
    Client.openMessage addr numTags packet =
      Client.startMessage addr numTags packet := by
  rw [Client.openMessage, look_bind, outer, if_neg (Nat.lt_irrefl 0),
    Client.startMessage]

/-- In a bundle, room is left for the size of a message. -/
theorem openMessage_inner
    (inner : 0 < packet.mInBundle) :
    Client.openMessage addr numTags packet =
      (do
        Client.onArgs (WriteStream.skip 4)
        Client.startMessage addr numTags)
        { packet with mSizePosM := packet.mArgs.mPos } := by
  rw [Client.openMessage, look_bind, if_pos inner, update_bind]
  rfl

/-- The part of the stream for the tags, where there is room for it. -/
theorem Client.Writing.sub_eq
    {sigLen : Nat}
    (writing : packet.Writing place offset depth written room)
    (fits : sigLen ≤ room.length) :
    ptrAdd packet.mArgs.mPos sigLen = packet.mArgs.mPos + sigLen := by
  have bounded := writing.bounded
  rw [writing.pos]
  exact ptrAdd_eq (by omega)

/-- Another place for the size of a message. -/
theorem Client.Writing.setSizePosM
    (writing : packet.Writing place offset depth written room)
    (other : Nat) :
    Client.Writing { packet with mSizePosM := other } place offset depth
      written room where
  address := writing.address
  bytes := writing.bytes
  isCapacity := writing.isCapacity
  buffer := writing.buffer
  capacity := writing.capacity
  aligned := writing.aligned
  words := writing.words
  begins := writing.begins
  pos := writing.pos
  ends := writing.ends
  slot := writing.slot
  isDepth := writing.isDepth

/-- The zeros for the tags, and the comma in front of them. -/
theorem Client.Writing.startTags
    {tagStream : Stream}
    (writing : packet.Writing place offset depth written room)
    (few : numTags + 5 < 2 ^ 64)
    (isTags : packet.mTags = tagStream)
    (isSub : packet.mArgs.sub (numTags + 2) = .ok tagStream) :
    place.Needs
      ((do
        Client.onArgs (WriteStream.zero (align (numTags + 2)))
        Client.onTags (WriteStream.putChar ','.toUInt8)) packet)
      (numTags + 2 + fill (numTags + 2)) room fun next =>
      next.InMessage place offset depth packet.mSizePosM written
        [','.toUInt8] (numTags + 1) (fill (numTags + 2)) []
        (room.drop (numTags + 2 + fill (numTags + 2))) := by
  have zeros := writing.holds.zero (align (numTags + 2))
  rw [align_eq few] at zeros ⊢
  have isLength :
      (List.replicate (numTags + 2 + fill (numTags + 2))
        (0 : UInt8)).length = numTags + 2 + fill (numTags + 2) :=
    List.length_replicate
  have words :
      4 ∣ (List.replicate (numTags + 2 + fill (numTags + 2))
        (0 : UInt8)).length := by
    rw [isLength]
    exact four_dvd_add_fill _
  have needs := writing.puts words zeros
  rw [isLength] at needs
  refine Place.Needs.bind ?_ (Nat.add_zero _)
  apply Ends.mono needs
  case returns =>
    intro _ next both
    obtain ⟨fits, nextWriting, sameTags, sameSize⟩ := both
    -- The zeros fit, so the stream of the tags did not wrap around.
    have isEnd := writing.sub_eq (Nat.le_of_add_right_le fits)
    have inside :
        ¬ packet.mArgs.mEnd < ptrAdd packet.mArgs.mPos (numTags + 2) := by
      rw [isEnd, writing.ends, writing.pos, ← writing.isCapacity]
      omega
    have isStream :
        tagStream =
          { mBegin := packet.mArgs.mPos
            mEnd := packet.mArgs.mPos + (numTags + 2)
            mPos := packet.mArgs.mPos } := by
      rw [Stream.sub, if_neg inside, isEnd] at isSub
      exact (Except.ok.inj isSub).symm
    have inMessage :
        next.InMessage place offset depth packet.mSizePosM written []
          (numTags + 1 + 1) (fill (numTags + 2)) []
          (room.drop (numTags + 2 + fill (numTags + 2))) := by
      constructor
      case writing =>
        rw [List.nil_append, List.append_nil,
          List.replicate_append_replicate]
        exact nextWriting
      case tagsPos =>
        rw [sameTags, isTags, isStream]
        exact writing.pos
      case tagsEnd =>
        rw [sameTags, isTags, isStream]
      case isSizePosM =>
        exact sameSize
    exact ⟨fits, inMessage.putTag ','.toUInt8⟩
  case throws =>
    exact id
  case faults =>
    exact id

/-- A message starts with its address, and with zeros for its tags. -/
theorem Client.Writing.startMessage
    (writing : packet.Writing place offset depth written room)
    (nulFree : NulFree addr)
    (small : addr.length + 4 < 2 ^ 64)
    (few : numTags + 5 < 2 ^ 64) :
    place.Needs (Client.startMessage addr numTags packet)
      ((oscString addr).length + (numTags + 2 + fill (numTags + 2))) room
      fun next =>
        next.InMessage place offset depth packet.mSizePosM
          (written ++ oscString addr) [','.toUInt8] (numTags + 1)
          (fill (numTags + 2)) []
          (room.drop
            ((oscString addr).length +
              (numTags + 2 + fill (numTags + 2)))) := by
  have address :=
    writing.puts (four_dvd_length_oscString addr)
      (writing.holds.putString nulFree small)
  have isLength : ptrAdd numTags 2 = numTags + 2 :=
    ptrAdd_eq (Nat.lt_trans (Nat.add_lt_add_left (by decide) numTags) few)
  rw [Client.startMessage, isLength]
  dsimp only
  refine Place.Needs.bind ?_ rfl
  apply Place.Needs.mono address
  intro next both
  obtain ⟨nextWriting, -, sameSize⟩ := both
  cases isSub : next.mArgs.sub (numTags + 2) with
  | error stop =>
      -- The stream of the tags would end after the buffer.
      have isEnd := nextWriting.ends
      have isPos := nextWriting.pos
      have isCapacity := nextWriting.isCapacity
      have notAbove :=
        Nat.mod_le (next.mArgs.mPos + (numTags + 2)) (2 ^ 64)
      apply Ends.bind
      apply Ends.observe
      rw [isSub]
      rw [Stream.sub] at isSub
      split at isSub
      · rename_i after
        cases isSub
        rw [ptrAdd] at after
        refine ⟨?_, trivial, nextWriting.isAt⟩
        omega
      · cases isSub
  | ok tagStream =>
      have sees :
          observe (fun packet : Client => packet.mArgs.sub (numTags + 2))
              next =
            .ok tagStream next :=
        observe_ok isSub
      have needs := (nextWriting.setTags tagStream).startTags few rfl isSub
      rw [List.drop_drop] at needs
      rw [bind_of_ok sees, update_bind, ← sameSize]
      exact needs

end Messages

section Closing

/-- Another place for the size of the innermost bundle. -/
theorem Client.Writing.setSlot
    (writing : packet.Writing place offset depth written room)
    (other : Nat) :
    Client.Writing { packet with mSizePosB := place.start + other } place
      other depth written room where
  address := writing.address
  bytes := writing.bytes
  isCapacity := writing.isCapacity
  buffer := writing.buffer
  capacity := writing.capacity
  aligned := writing.aligned
  words := writing.words
  begins := writing.begins
  pos := writing.pos
  ends := writing.ends
  slot := Or.inl rfl
  isDepth := writing.isDepth

/-- Another number of open bundles. -/
theorem Client.Writing.setDepth
    (writing : packet.Writing place offset depth written room)
    {bundles other : Nat}
    (isOther : bundles = other) :
    Client.Writing { packet with mInBundle := bundles } place offset other
      written room where
  address := writing.address
  bytes := writing.bytes
  isCapacity := writing.isCapacity
  buffer := writing.buffer
  capacity := writing.capacity
  aligned := writing.aligned
  words := writing.words
  begins := writing.begins
  pos := writing.pos
  ends := writing.ends
  slot := writing.slot
  isDepth := isOther

/-- A place in what is written is in the buffer. -/
theorem Client.Writing.goTo
    (writing : packet.Writing place offset depth (front ++ body) room) :
    Client.onArgs (WriteStream.setPos (place.start + front.length))
        packet =
      .ok ()
        { packet with
          mArgs :=
            { packet.mArgs with mPos := place.start + front.length } } := by
  have isCapacity := writing.isCapacity
  rw [List.length_append] at isCapacity
  apply setPos_ok
  · rw [writing.begins]
    exact Nat.le_add_right _ _
  · rw [writing.ends, ← isCapacity]
    omega

/-- Closing a message in a bundle fills in its size. -/
theorem Client.Writing.closeMessage
    (writing :
      packet.Writing place offset depth (front ++ (slot ++ body)) room)
    (inner : 0 < depth)
    (isSlot : slot.length = 4)
    (words : 4 ∣ front.length)
    (isSizePosM : packet.mSizePosM = place.start + front.length)
    (small : 4 + body.length < 2 ^ 31) :
    place.Needs (Client.closeMessage native packet) 0 room fun next =>
      next.Writing place offset depth
        (front ++ (word body.length.toUInt32 ++ body)) room := by
  have isInner : 0 < packet.mInBundle := by
    rw [writing.isDepth]
    exact inner
  have isPos :
      packet.mArgs.mPos =
        place.start + front.length + (4 + body.length) := by
    rw [writing.pos, List.length_append, List.length_append, isSlot,
      Nat.add_assoc]
  have sees :
      observe
          (fun next : Client =>
            Client.calcSize next.mSizePosM packet.mArgs.mPos)
          { packet with
            mArgs :=
              { packet.mArgs with mPos := place.start + front.length } } =
        .ok body.length.toUInt32.toInt32
          { packet with
            mArgs :=
              { packet.mArgs with
                mPos := place.start + front.length } } := by
    apply observe_ok
    change Client.calcSize packet.mSizePosM packet.mArgs.mPos = _
    rw [isSizePosM, isPos]
    exact calcSize_eq small
  rw [Client.closeMessage, look_bind, if_pos isInner, look_bind, look_bind,
    isSizePosM, bind_of_ok writing.goTo, bind_of_ok sees]
  apply writing.patch isSlot words
  intro next nextWriting
  rw [UInt32.toUInt32_toInt32] at nextWriting
  exact ⟨Nat.zero_le _, nextWriting.setTags .empty⟩

/-- A number is read back from its bytes on the same platform. -/
theorem nativeWord_nativeBytes
    {n : Nat}
    (small : n < 2 ^ 32) :
    nativeWord native (nativeBytes native 4 n) = n := by
  cases native with
  | little =>
      rw [nativeBytes, nativeWord, List.reverse_reverse]
      exact BigEndian.decode_encode small
  | big =>
      exact BigEndian.decode_encode small

/-- A word has four bytes on every platform. -/
theorem length_nativeBytes (native : Endian) (width n : Nat) :
    (nativeBytes native width n).length = width := by
  cases native with
  | little =>
      rw [nativeBytes, List.length_reverse, BigEndian.length_encode]
  | big =>
      exact BigEndian.length_encode width n

/-- The innermost bundle is where its offset says. -/
theorem Client.Writing.sizePosB_eq
    (writing : packet.Writing place offset depth written room)
    (notOuter : 0 < offset) :
    packet.mSizePosB = place.start + offset := by
  rcases writing.slot with isSlot | isNull
  · exact isSlot
  · exact absurd isNull.2 (Nat.ne_of_gt notOuter)

/-- Closing a bundle in another one fills in its size. -/
theorem Client.Writing.closeInnerBundle
    (writing :
      packet.Writing place front.length depth
        (front ++ (nativeBytes native 4 offset ++ body)) room)
    (notOuter : 0 < front.length)
    (words : 4 ∣ front.length)
    (before : offset ≤ front.length)
    (long : 16 ≤ body.length)
    (small : front.length + (4 + body.length) < 2 ^ 31) :
    place.Needs (Client.closeInnerBundle native packet) 0 room fun next =>
      next.Writing place offset depth
        (front ++ (word body.length.toUInt32 ++ body)) room := by
  have isSlot := length_nativeBytes native 4 offset
  have smallBody : 4 + body.length < 2 ^ 31 :=
    Nat.lt_of_add_left_lt small
  have smallOffset : offset < 2 ^ 31 :=
    Nat.lt_of_le_of_lt before (Nat.lt_of_add_right_lt small)
  have isSizePosB := writing.sizePosB_eq notOuter
  have isPos :
      packet.mArgs.mPos =
        place.start + front.length + (4 + body.length) := by
    rw [writing.pos, List.length_append, List.length_append, isSlot,
      Nat.add_assoc]
  have isBytes :
      packet.memory.bytes =
        (place.before ++ front) ++
          (nativeBytes native 4 offset ++
            (body ++ (room ++ place.after))) := by
    simpa only [List.append_assoc] using writing.bytes
  have isPointer :
      packet.mSizePosB =
        packet.memory.address + (place.before ++ front).length := by
    rw [isSizePosB, writing.address, List.length_append, Place.start,
      Nat.add_assoc]
  have loads :
      observe
          (fun packet : Client => packet.memory.load packet.mSizePosB 4)
          packet =
        .ok (nativeBytes native 4 offset) packet :=
    observe_ok (load_eq isBytes isPointer isSlot)
  have isPrevious :
      ptrAdd packet.mArgs.mBegin
          (toSize
            (nativeWord native
              (nativeBytes native 4 offset)).toUInt32.toInt32) =
        place.start + offset := by
    have bounded := writing.bounded
    rw [List.length_append] at bounded
    rw [nativeWord_nativeBytes (Nat.lt_trans smallOffset (by decide)),
      toSize_small smallOffset, writing.begins, ptrAdd_eq (by omega)]
  -- The size is known before it is put where the offset was.
  have sizes :
      observe
          (fun next : Client =>
            Client.calcSize next.mSizePosB packet.mArgs.mPos)
          packet =
        .ok body.length.toUInt32.toInt32 packet := by
    apply observe_ok
    change Client.calcSize packet.mSizePosB packet.mArgs.mPos = _
    rw [isSizePosB, isPos]
    exact calcSize_eq smallBody
  have isLarge :
      (0 : Int32) ≤ body.length.toUInt32.toInt32 ∧
        Size.bundle 0 ≤ toSize body.length.toUInt32.toInt32 := by
    have shortBody := Nat.lt_of_add_left_lt smallBody
    have isZero : (0 : Int32).toInt = 0 := rfl
    constructor
    · rw [Int32.le_iff_toInt_le, toInt_small shortBody, isZero]
      exact Int.natCast_nonneg _
    · rw [toSize_small shortBody]
      exact long
  have checked :
      Client.check
          (fun _ =>
            decide
              ((0 : Int32) ≤ body.length.toUInt32.toInt32 ∧
                Size.bundle 0 ≤ toSize body.length.toUInt32.toInt32))
          packet =
        .ok () packet :=
    observe_ok (if_pos (decide_eq_true isLarge))
  rw [Client.closeInnerBundle, look_bind, bind_of_ok loads, look_bind,
    isPrevious, bind_of_ok sizes, bind_of_ok checked,
    look_bind, isSizePosB, bind_of_ok writing.goTo]
  apply writing.patch isSlot words
  intro next nextWriting
  rw [UInt32.toUInt32_toInt32] at nextWriting
  exact ⟨Nat.zero_le _, nextWriting.setSlot offset⟩

end Closing

section Opening

variable {time : UInt64}

/-- A condition that holds is asserted. -/
theorem check_ok
    {condition : Client → Bool}
    (holds : condition packet = true) :
    Client.check condition packet = .ok () packet :=
  observe_ok (if_pos holds)

/-- The offset that is put down in a bundle inside of this one. -/
theorem Client.Writing.offset_eq
    (writing : packet.Writing place offset depth written room)
    (small : offset < 2 ^ 31) :
    (if packet.mSizePosB = 0 then
        .ok 0
      else
        Client.ptrDiff packet.mSizePosB packet.mArgs.mBegin) =
      (.ok offset.toUInt32.toInt32 : Call Int32) := by
  rcases writing.slot with isSlot | ⟨isNull, isZero⟩
  · split
    · rename_i isNull
      have isZero : offset = 0 := by
        rw [isSlot] at isNull
        exact Nat.eq_zero_of_add_eq_zero_left isNull
      rw [isZero]
      rfl
    · rw [isSlot, writing.begins]
      exact ptrDiff_eq small
  · rw [if_pos isNull, isZero]
    rfl

/-- Bytes in the place of others that were written. -/
theorem Client.Writing.storeAt
    (writing :
      packet.Writing place offset depth (front ++ (slot ++ body)) room)
    (sameLength : values.length = slot.length) :
    ∃ next,
      Client.onArgs
          (WriteStream.copyTo (fun _ => place.start + front.length) values)
          packet =
        .ok () next ∧
      next.Writing place offset depth (front ++ (values ++ body)) room := by
  have isBytes :
      packet.memory.bytes =
        (place.before ++ front) ++
          (slot ++ (body ++ (room ++ place.after))) := by
    simpa only [List.append_assoc] using writing.bytes
  have isPointer :
      place.start + front.length =
        packet.memory.address + (place.before ++ front).length := by
    rw [writing.address, List.length_append, Place.start, Nat.add_assoc]
  obtain ⟨stored, stores, sameAddress, isStored⟩ :=
    store_eq isBytes isPointer sameLength
  have sameSize :
      (front ++ (values ++ body)).length =
        (front ++ (slot ++ body)).length := by
    rw [List.length_append, List.length_append, List.length_append,
      List.length_append, sameLength]
  refine ⟨{ packet with memory := stored }, ?_, ?_⟩
  · rw [Client.onArgs, onPart, WriteStream.copyTo, stores]
  · apply writing.rewrite sameSize sameAddress
    simpa only [List.append_assoc] using isStored

/-- Opening a bundle in another one puts down the offset of the other. -/
theorem Client.Writing.openInnerBundle
    (writing : packet.Writing place offset depth written room)
    (outermost : offset = 0 → depth = 1)
    (small : offset < 2 ^ 31) :
    place.Needs (Client.openInnerBundle native packet) 4 room fun next =>
      next.Writing place written.length depth
        (written ++ nativeBytes native 4 offset) (room.drop 4) := by
  -- Only the outermost bundle may have no place for its size.
  have isKnown :
      decide (packet.mSizePosB ≠ 0 ∨ packet.mInBundle = 1) = true := by
    apply decide_eq_true
    rcases Nat.eq_zero_or_pos offset with isZero | notOuter
    · right
      rw [writing.isDepth]
      exact outermost isZero
    · left
      rw [writing.sizePosB_eq notOuter]
      exact Nat.ne_of_gt (Nat.add_pos_right _ notOuter)
  have checked :
      Client.check
          (fun packet =>
            decide (packet.mSizePosB ≠ 0 ∨ packet.mInBundle = 1))
          packet =
        .ok () packet :=
    check_ok isKnown
  have offsets :
      observe
          (fun packet : Client =>
            if packet.mSizePosB = 0 then
              .ok 0
            else
              Client.ptrDiff packet.mSizePosB packet.mArgs.mBegin)
          packet =
        .ok offset.toUInt32.toInt32 packet :=
    observe_ok (writing.offset_eq small)
  have isNumber : offset.toUInt32.toInt32.toUInt32.toNat = offset := by
    rw [UInt32.toUInt32_toInt32]
    exact UInt32.toNat_ofNat_of_lt' (Nat.lt_trans small (by decide))
  rw [Client.openInnerBundle, bind_of_ok checked, bind_of_ok offsets,
    look_bind, isNumber, writing.pos]
  refine Place.Needs.bind ?_ (Nat.add_zero 4)
  apply Ends.mono (writing.skip (Nat.dvd_refl 4))
  case returns =>
    intro _ next both
    obtain ⟨fits, -, skipped⟩ := both
    have isSlot :
        (nativeBytes native 4 offset).length = (room.take 4).length := by
      rw [length_nativeBytes, List.length_take_of_le fits]
    have inPlace :
        next.Writing place offset depth (written ++ (room.take 4 ++ []))
          (room.drop 4) := by
      rw [List.append_nil]
      exact skipped
    obtain ⟨last, stores, lastWriting⟩ := inPlace.storeAt isSlot
    rw [List.append_nil] at lastWriting
    refine ⟨fits, Place.Needs.after stores ?_⟩
    exact ⟨Nat.zero_le _, lastWriting.setSlot written.length⟩
  case throws =>
    exact id
  case faults =>
    exact id

/-- What `openBundle` does in every case. -/
def Client.startBundle
    (native : Endian)
    (time : UInt64) :
    Method Client Unit := do
  update fun packet =>
    { packet with mInBundle := ptrAdd packet.mInBundle 1 }
  Client.onArgs (WriteStream.putString (ascii "#bundle"))
  Client.onArgs (WriteStream.putUInt64 native time)

/-- A bundle starts with its header. -/
theorem Client.Writing.startBundle
    (writing : packet.Writing place offset depth written room)
    (few : depth + 1 < 2 ^ 64)
    (native : Endian)
    (time : UInt64) :
    place.Needs (Client.startBundle native time packet) 16 room fun next =>
      next.Writing place offset (depth + 1) (written ++ bundleHeader time)
        (room.drop 16) := by
  have isTag : oscString (ascii "#bundle") = bundleTag := by
    decide
  have isTagLength : bundleTag.length = 8 := by
    decide
  have isTimeLength : (BigEndian.encode 8 time.toNat).length = 8 :=
    BigEndian.length_encode 8 _
  have isDepth : ptrAdd packet.mInBundle 1 = depth + 1 := by
    rw [writing.isDepth]
    exact ptrAdd_eq few
  have opened := writing.setDepth isDepth
  have tag :=
    opened.puts (by decide)
      (opened.holds.putString (s := ascii "#bundle") (by decide)
        (by decide))
  rw [isTag, isTagLength] at tag
  rw [Client.startBundle, update_bind]
  refine Place.Needs.bind ?_ (Nat.add_comm 8 8)
  apply Place.Needs.mono tag
  intro next both
  have nextWriting := both.1
  have words : 4 ∣ (BigEndian.encode 8 time.toNat).length := by
    rw [isTimeLength]
    decide
  have puts :
      WriteStream.Puts { stream := next.mArgs, memory := next.memory }
        (WriteStream.putUInt64 native time)
        (BigEndian.encode 8 time.toNat)
        (place.before ++ (written ++ bundleTag)) (room.drop 8)
        place.after :=
    nextWriting.holds.putUInt64 time
  have date := nextWriting.puts words puts
  rw [isTimeLength, List.drop_drop, List.append_assoc] at date
  apply Place.Needs.mono date
  intro last isWritten
  exact isWritten.1

/-- A bundle in an empty packet. -/
theorem Client.Writing.openBundle_outer
    (writing : packet.Writing place 0 0 [] room) :
    place.Needs (Client.openBundle native time packet) 16 room fun next =>
      next.Writing place 0 1 (bundleHeader time) (room.drop 16) := by
  have isEmpty :
      ¬ (!(packet.mArgs.mPos == packet.mArgs.mBegin)) = true := by
    rw [writing.pos, writing.begins, List.length_nil, Nat.add_zero,
      beq_self_eq_true]
    exact Bool.false_ne_true
  rw [Client.openBundle, look_bind, look_bind, writing.isDepth,
    if_neg (Nat.lt_irrefl 0), if_neg isEmpty]
  exact writing.startBundle (by decide) native time

/-- A bundle in another one: its size is filled in later. -/
theorem Client.Writing.openBundle_inner
    (writing : packet.Writing place offset depth written room)
    (inner : 0 < depth)
    (outermost : offset = 0 → depth = 1)
    (small : offset < 2 ^ 31)
    (few : depth + 1 < 2 ^ 64) :
    place.Needs (Client.openBundle native time packet) 20 room fun next =>
      next.Writing place written.length (depth + 1)
        (written ++ (nativeBytes native 4 offset ++ bundleHeader time))
        (room.drop 20) := by
  rw [Client.openBundle, look_bind, look_bind, writing.isDepth,
    if_pos inner]
  refine Place.Needs.bind ?_ (Nat.add_comm 4 16)
  apply Place.Needs.mono (writing.openInnerBundle outermost small)
  intro next nextWriting
  have started := nextWriting.startBundle few native time
  rw [List.drop_drop, List.append_assoc] at started
  exact started

/-- Closing the outermost bundle. -/
theorem Client.Writing.closeBundle_outer
    (writing : packet.Writing place offset 1 written room) :
    place.Needs (Client.closeBundle native packet) 0 room fun next =>
      next.Writing place offset 0 written room := by
  have isDepth : packet.mInBundle - 1 = 0 := by
    rw [writing.isDepth]
  rw [Client.closeBundle, look_bind, writing.isDepth,
    if_pos Nat.one_pos, if_neg (Nat.lt_irrefl 1)]
  exact ⟨Nat.zero_le _, writing.setDepth isDepth⟩

/-- Closing a bundle in another one. -/
theorem Client.Writing.closeBundle_inner
    (writing :
      packet.Writing place front.length (depth + 1)
        (front ++ (nativeBytes native 4 offset ++ body)) room)
    (inner : 0 < depth)
    (notOuter : 0 < front.length)
    (words : 4 ∣ front.length)
    (before : offset ≤ front.length)
    (long : 16 ≤ body.length)
    (small : front.length + (4 + body.length) < 2 ^ 31) :
    place.Needs (Client.closeBundle native packet) 0 room fun next =>
      next.Writing place offset depth
        (front ++ (word body.length.toUInt32 ++ body)) room := by
  rw [Client.closeBundle, look_bind, writing.isDepth,
    if_pos (Nat.succ_pos depth), if_pos (Nat.succ_lt_succ inner)]
  refine Place.Needs.bind ?_ (Nat.add_zero 0)
  apply Place.Needs.mono
    (writing.closeInnerBundle notOuter words before long small)
  intro next nextWriting
  have isDepth : next.mInBundle - 1 = depth := by
    rw [nextWriting.isDepth, Nat.add_sub_cancel]
  exact ⟨Nat.zero_le _, nextWriting.setDepth isDepth⟩

end Opening

end Pwcpp.Oscpp
