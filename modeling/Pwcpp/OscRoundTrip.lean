import Pwcpp.OscCanonical
import Pwcpp.OscWriting

namespace Pwcpp.Oscpp

open ThrowingMethods

/-!
# Writing packets and reading them again

A client packet that is written from the start of its buffer holds the encoding
of what was written, when this fits; and a packet that was written so is read
as what was written, also on a platform with another byte order.  `Size` and
`Tags` compute beforehand how many bytes that takes.
-/

section Putable

/--
The client has methods for the arguments, and as C strings their strings are
what they are.
-/
def Args.Putable : Args (List UInt8) → Prop
  | .nil =>
      True
  | .int32 _ rest | .float32 _ rest | .blob _ rest =>
      rest.Putable
  | .string value rest =>
      NulFree value ∧ rest.Putable
  | .array elements rest =>
      elements.Putable ∧ rest.Putable
  | .other _ _ =>
      False

/-- The client can write the elements. -/
def Elements.Putable : Elements (List UInt8) → Prop
  | .nil =>
      True
  | .message address args rest =>
      NulFree address ∧ args.Putable ∧ rest.Putable
  | .bundle _ elements rest =>
      elements.Putable ∧ rest.Putable

/-- The client can write the packet. -/
def Content.Putable : Content (List UInt8) → Prop
  | .message address args =>
      NulFree address ∧ args.Putable
  | .bundle _ elements =>
      elements.Putable

instance Args.decidablePutable :
    (args : Args (List UInt8)) → Decidable args.Putable
  | .nil =>
      inferInstanceAs (Decidable True)
  | .int32 _ rest | .float32 _ rest | .blob _ rest =>
      rest.decidablePutable
  | .string _ rest =>
      have := rest.decidablePutable
      inferInstanceAs (Decidable (_ ∧ _))
  | .array elements rest =>
      have := elements.decidablePutable
      have := rest.decidablePutable
      inferInstanceAs (Decidable (_ ∧ _))
  | .other _ _ =>
      inferInstanceAs (Decidable False)

instance Elements.decidablePutable :
    (elements : Elements (List UInt8)) → Decidable elements.Putable
  | .nil =>
      inferInstanceAs (Decidable True)
  | .message _ args rest =>
      have := args.decidablePutable
      have := rest.decidablePutable
      inferInstanceAs (Decidable (_ ∧ _ ∧ _))
  | .bundle _ elements rest =>
      have := elements.decidablePutable
      have := rest.decidablePutable
      inferInstanceAs (Decidable (_ ∧ _))

instance Content.decidablePutable :
    (content : Content (List UInt8)) → Decidable content.Putable
  | .message _ args =>
      have := args.decidablePutable
      inferInstanceAs (Decidable (_ ∧ _))
  | .bundle _ elements =>
      elements.decidablePutable

end Putable

variable
  {native : Endian}
  {packet : Client}
  {place : Place}
  {offset depth sizePosM : Nat}
  {written room front : List UInt8}
  {address : StdString}
  {args : Args (List UInt8)}

section Messages

/-- The arguments are written with their tags. -/
theorem puts_args
    (putable : args.Putable)
    (small : args.data.length < 2 ^ 31) :
    Client.Puts (args.write native) args.tags args.data := by
  induction args with
  | nil =>
      exact Client.Puts.nothing
  | int32 value rest inductionHypothesis =>
      rw [Args.data, List.length_append] at small
      have both :=
        Client.Puts.append (Client.puts_int32 native value)
          (inductionHypothesis putable (Nat.lt_of_add_left_lt small))
      rw [List.singleton_append] at both
      exact both
  | float32 value rest inductionHypothesis =>
      rw [Args.data, List.length_append] at small
      have both :=
        Client.Puts.append (Client.puts_float32 native value)
          (inductionHypothesis putable (Nat.lt_of_add_left_lt small))
      rw [List.singleton_append] at both
      exact both
  | string value rest inductionHypothesis =>
      rw [Args.data, List.length_append, length_oscString] at small
      have short : value.length + 4 < 2 ^ 64 := by
        omega
      have both :=
        Client.Puts.append (Client.puts_string putable.1 short)
          (inductionHypothesis putable.2 (Nat.lt_of_add_left_lt small))
      rw [List.singleton_append] at both
      exact both
  | blob value rest inductionHypothesis =>
      rw [Args.data, List.length_append, List.length_append,
        length_padded] at small
      have short : value.length < 2 ^ 31 := by
        omega
      have both :=
        Client.Puts.append (Client.puts_blob native short)
          (inductionHypothesis putable (Nat.lt_of_add_left_lt small))
      rw [List.singleton_append] at both
      exact both
  | array elements rest elementsHypothesis restHypothesis =>
      rw [Args.data, List.length_append] at small
      have inside :=
        elementsHypothesis putable.1 (Nat.lt_of_add_right_lt small)
      have after :=
        restHypothesis putable.2 (Nat.lt_of_add_left_lt small)
      have all :=
        Client.Puts.append (Client.puts_tag '['.toUInt8)
          (Client.Puts.append inside
            (Client.Puts.append (Client.puts_tag ']'.toUInt8) after))
      rw [List.nil_append, List.nil_append, List.singleton_append,
        List.singleton_append] at all
      exact all
  | other tag rest =>
      exact putable.elim

/-- How long a message is. -/
theorem length_messageBytes
    (address : StdString)
    (args : Args (List UInt8)) :
    (messageBytes address args).length =
      (oscString address).length +
          (args.tags.length + 2 + fill (args.tags.length + 2)) +
        args.data.length := by
  rw [messageBytes, List.length_append, List.length_append,
    length_oscString (','.toUInt8 :: args.tags), List.length_cons]

/-- A message that was started is finished by its arguments. -/
theorem Client.InMessage.finish
    (inMessage :
      packet.InMessage place offset depth sizePosM
        (front ++ oscString address) [','.toUInt8] (args.tags.length + 1)
        (fill (args.tags.length + 2)) [] room)
    (putable : args.Putable)
    (small : args.data.length < 2 ^ 31) :
    place.Needs (args.write native packet) args.data.length room fun next =>
      next.Writing place offset depth (front ++ messageBytes address args)
          (room.drop args.data.length) ∧
        next.mSizePosM = sizePosM := by
  apply Place.Needs.mono ((puts_args putable small).needs inMessage)
  intro next nextIn
  rw [List.singleton_append, List.nil_append] at nextIn
  have finished := nextIn.finished
  rw [List.append_assoc] at finished
  refine ⟨?_, nextIn.isSizePosM⟩
  rw [messageBytes, List.append_assoc]
  exact finished

/-- A message that is the whole packet. -/
theorem Client.Writing.message_outer
    (writing : packet.Writing place 0 0 [] room)
    (nulFree : NulFree address)
    (putable : args.Putable)
    (small : (messageBytes address args).length < 2 ^ 31) :
    place.Needs (writeMessage native address args packet)
      (messageBytes address args).length room fun next =>
      next.Writing place 0 0 (messageBytes address args)
        (room.drop (messageBytes address args).length) := by
  have isLength := length_messageBytes address args
  have isAddress := length_oscString address
  have started :=
    writing.startMessage nulFree
      (by omega : address.length + 4 < 2 ^ 64)
      (by omega : args.tags.length + 5 < 2 ^ 64)
  rw [← openMessage_outer writing.isDepth] at started
  refine Place.Needs.bind ?_ isLength.symm
  apply Place.Needs.mono started
  intro next inMessage
  refine Place.Needs.bind ?_ (Nat.add_zero _)
  apply Place.Needs.mono (inMessage.finish putable (by omega))
  intro last finished
  have lastWriting := finished.1
  rw [List.drop_drop, ← isLength, List.nil_append] at lastWriting
  rw [Client.closeMessage, look_bind, lastWriting.isDepth,
    if_neg (Nat.lt_irrefl 0)]
  exact ⟨Nat.zero_le _, lastWriting⟩

/-- A message in a bundle starts after room for its size. -/
theorem Client.Writing.openMessage_inner
    (writing : packet.Writing place offset depth written room)
    (inner : 0 < depth)
    (nulFree : NulFree address)
    (small : (messageBytes address args).length < 2 ^ 31) :
    place.Needs (Client.openMessage address args.tags.length packet)
      (4 +
        ((oscString address).length +
          (args.tags.length + 2 + fill (args.tags.length + 2))))
      room fun next =>
      (room.take 4).length = 4 ∧
        next.InMessage place offset depth (place.start + written.length)
          ((written ++ room.take 4) ++ oscString address) [','.toUInt8]
          (args.tags.length + 1) (fill (args.tags.length + 2)) []
          (room.drop
            (4 +
              ((oscString address).length +
                (args.tags.length + 2 +
                  fill (args.tags.length + 2))))) := by
  have isLength := length_messageBytes address args
  have isAddress := length_oscString address
  have isInner : 0 < packet.mInBundle := by
    rw [writing.isDepth]
    exact inner
  have skips :=
    ((writing.setSizePosM packet.mArgs.mPos).skip (Nat.dvd_refl 4)).enough
  rw [Oscpp.openMessage_inner isInner]
  refine Place.Needs.bind ?_ rfl
  apply Place.Needs.mono skips
  intro next both
  obtain ⟨fits, isNext, nextWriting⟩ := both
  have isSizePosM :
      next.mSizePosM = place.start + written.length := by
    rw [isNext]
    exact writing.pos
  have started :=
    nextWriting.startMessage nulFree
      (by omega : address.length + 4 < 2 ^ 64)
      (by omega : args.tags.length + 5 < 2 ^ 64)
  rw [isSizePosM, List.drop_drop] at started
  apply Place.Needs.mono started
  intro last inMessage
  exact ⟨List.length_take_of_le fits, inMessage⟩

/-- A message in a bundle, with its size. -/
theorem Client.Writing.message_inner
    (writing : packet.Writing place offset depth written room)
    (inner : 0 < depth)
    (nulFree : NulFree address)
    (putable : args.Putable)
    (small : 4 + (messageBytes address args).length < 2 ^ 31) :
    place.Needs (writeMessage native address args packet)
      (4 + (messageBytes address args).length) room fun next =>
      next.Writing place offset depth
        (written ++ sized (messageBytes address args))
        (room.drop (4 + (messageBytes address args).length)) := by
  have isLength := length_messageBytes address args
  have isSum :
      4 +
            ((oscString address).length +
              (args.tags.length + 2 + fill (args.tags.length + 2))) +
          args.data.length =
        4 + (messageBytes address args).length := by
    rw [isLength, Nat.add_assoc]
  have started :=
    writing.openMessage_inner inner nulFree (Nat.lt_of_add_left_lt small)
  refine Place.Needs.bind ?_ isSum
  apply Place.Needs.mono started
  intro next both
  obtain ⟨isSlot, inMessage⟩ := both
  refine Place.Needs.bind ?_ (Nat.add_zero _)
  apply Place.Needs.mono (inMessage.finish putable (by omega))
  intro last finished
  obtain ⟨lastWriting, isSizePosM⟩ := finished
  rw [List.append_assoc, List.drop_drop, isSum] at lastWriting
  rw [List.drop_drop, isSum]
  exact lastWriting.closeMessage inner isSlot writing.words isSizePosM
    small

end Messages

section Bundles

variable {elements : Elements (List UInt8)}

/--
The elements of a bundle are written one after another.  The bundles around
them are known by their number, and by the offset of the innermost of them.
-/
theorem Client.Writing.writeElements
    (writing : packet.Writing place offset depth written room)
    (inner : 0 < depth)
    (outermost : offset = 0 → depth = 1)
    (before : offset ≤ written.length)
    (shallow : depth ≤ written.length)
    (putable : elements.Putable)
    (small : written.length + elements.bytes.length < 2 ^ 31) :
    place.Needs (elements.write native packet) elements.bytes.length room
      fun next =>
      next.Writing place offset depth (written ++ elements.bytes)
        (room.drop elements.bytes.length) := by
  induction elements generalizing packet offset depth written room with
  | nil =>
      rw [Elements.bytes, List.append_nil]
      exact ⟨Nat.zero_le _, writing⟩
  | message address args rest inductionHypothesis =>
      obtain ⟨nulFree, putableArgs, putableRest⟩ := putable
      have isLength := length_sized (messageBytes address args)
      rw [Elements.bytes, List.length_append, isLength] at small
      rw [Elements.bytes, List.length_append, isLength]
      refine Place.Needs.bind ?_ rfl
      apply Place.Needs.mono
        (writing.message_inner inner nulFree putableArgs (by omega))
      intro next nextWriting
      have longer :
          (written ++ sized (messageBytes address args)).length =
            written.length + (4 + (messageBytes address args).length) := by
        rw [List.length_append, isLength]
      have after :=
        inductionHypothesis nextWriting inner outermost (by omega)
          (by omega) putableRest (by omega)
      rw [List.append_assoc, List.drop_drop] at after
      exact after
  | bundle time elements rest elementsHypothesis restHypothesis =>
      obtain ⟨putableElements, putableRest⟩ := putable
      have isBody :
          (bundleHeader time ++ elements.bytes).length =
            16 + elements.bytes.length := by
        rw [List.length_append, length_bundleHeader]
      have isLength := length_sized (bundleHeader time ++ elements.bytes)
      rw [isBody] at isLength
      have isSlot := length_nativeBytes native 4 offset
      rw [Elements.bytes, List.length_append, isLength] at small
      rw [Elements.bytes, List.length_append, isLength]
      have isSum :
          20 + (elements.bytes.length + (0 + rest.bytes.length)) =
            4 + (16 + elements.bytes.length) + rest.bytes.length := by
        omega
      refine Place.Needs.bind ?_ isSum
      apply Place.Needs.mono
        (writing.openBundle_inner inner outermost (by omega) (by omega))
      intro next opened
      have isOpened :
          (written ++
              (nativeBytes native 4 offset ++ bundleHeader time)).length =
            written.length + 20 := by
        rw [List.length_append, List.length_append, isSlot,
          length_bundleHeader]
      -- The bundle inside has the size of this one in front of it.
      have notOuter : written.length = 0 → depth + 1 = 1 := by
        omega
      have inside :=
        elementsHypothesis opened (Nat.succ_pos depth) notOuter (by omega)
          (by omega) putableElements (by omega)
      rw [List.append_assoc, List.append_assoc] at inside
      refine Place.Needs.bind ?_ rfl
      apply Place.Needs.mono inside
      intro filled filledWriting
      refine Place.Needs.bind ?_ rfl
      apply Place.Needs.mono
        (filledWriting.closeBundle_inner inner (by omega) writing.words
          before (by omega) (by omega))
      intro closed closedWriting
      have isClosed :
          (written ++
              (word
                  (bundleHeader time ++
                    elements.bytes).length.toUInt32 ++
                (bundleHeader time ++ elements.bytes))).length =
            written.length + (4 + (16 + elements.bytes.length)) := by
        rw [List.length_append, List.length_append, length_word, isBody]
      have after :=
        restHypothesis closedWriting inner outermost (by omega) (by omega)
          putableRest (by omega)
      rw [List.append_assoc, List.drop_drop, List.drop_drop] at after
      have sameSize :
          4 + (16 + elements.bytes.length) =
            20 + elements.bytes.length := by
        rw [← Nat.add_assoc]
      rw [List.drop_zero, List.drop_drop, sameSize, sized]
      exact after

end Bundles

section Contents

variable {content : Content (List UInt8)}

/-- A packet is written from the start of the buffer. -/
theorem Client.Writing.writeContent
    (writing : packet.Writing place 0 0 [] room)
    (putable : content.Putable)
    (small : content.bytes.length < 2 ^ 31) :
    place.Needs (content.write native packet) content.bytes.length room
      fun next =>
      next.Writing place 0 0 content.bytes
        (room.drop content.bytes.length) := by
  cases content with
  | message address args =>
      exact writing.message_outer putable.1 putable.2 small
  | bundle time elements =>
      have isLength :
          16 + (elements.bytes.length + 0) =
            (Content.bytes (.bundle time elements)).length := by
        rw [Content.bytes, List.length_append, length_bundleHeader]
        rfl
      have isHeader := length_bundleHeader time
      refine Place.Needs.bind ?_ isLength
      apply Place.Needs.mono writing.openBundle_outer
      intro next opened
      refine Place.Needs.bind ?_ rfl
      apply Place.Needs.mono
        (opened.writeElements Nat.one_pos (fun _ => rfl) (Nat.zero_le _)
          (by omega) putable (by omega))
      intro last filled
      rw [← isLength, Nat.add_zero, ← List.drop_drop]
      exact filled.closeBundle_outer

/-- After `reset` nothing is written. -/
theorem Client.At.reset
    (isAt : packet.At place) :
    ∃ next room,
      Client.reset packet = .ok () next ∧
        room.length = place.capacity ∧
        next.Writing place 0 0 [] room := by
  obtain ⟨room, isCapacity, isBytes⟩ := isAt.bytes
  have bounded := packet.memory.bounded
  rw [isBytes, isAt.address, List.length_append, List.length_append,
    isCapacity] at bounded
  have isEnd :
      ptrAdd packet.mBuffer packet.mCapacity =
        place.start + place.capacity := by
    rw [isAt.buffer, isAt.capacity]
    apply ptrAdd_eq
    rw [Place.start]
    omega
  refine ⟨_, room, rfl, isCapacity, ?_⟩
  constructor
  case address =>
    exact isAt.address
  case bytes =>
    exact isBytes
  case isCapacity =>
    rw [List.length_nil, Nat.zero_add]
    exact isCapacity
  case buffer =>
    exact isAt.buffer
  case capacity =>
    exact isAt.capacity
  case aligned =>
    exact isAt.aligned
  case words =>
    exact Nat.dvd_zero 4
  case begins =>
    exact isAt.buffer
  case pos =>
    exact isAt.buffer
  case ends =>
    exact isEnd
  case slot =>
    exact Or.inr ⟨rfl, rfl⟩
  case isDepth =>
    rfl

/-- The packet is in the buffer, from its start up to the size. -/
def Client.Contains (packet : Client) (bytes : List UInt8) : Prop :=
  packet.size = bytes.length ∧
    packet.memory.window packet.mBuffer
        (packet.mBuffer + packet.size) =
      bytes

/-- What is written is in the buffer. -/
theorem Client.Writing.contains
    (writing : packet.Writing place offset depth written room) :
    packet.Contains written := by
  have bounded := writing.bounded
  have isSize : packet.size = written.length := by
    rw [Client.size, Stream.consumed, writing.pos, writing.begins,
      ptrSub_eq (by omega) (Nat.le_add_right _ _),
      Nat.add_sub_cancel_left]
  have isStart :
      place.start - packet.memory.address = place.before.length := by
    rw [Place.start, writing.address, Nat.add_sub_cancel_left]
  refine ⟨isSize, ?_⟩
  rw [isSize, writing.buffer, Memory.window, isStart, writing.bytes,
    Nat.add_sub_cancel_left, List.drop_left, List.take_left]

end Contents

section Sizes

variable {content : Content (List UInt8)}

/-- The number of tags of the arguments, as `Tags` counts them. -/
def Args.numTags : Args (List UInt8) → Nat
  | .nil =>
      0
  | .int32 _ rest | .float32 _ rest | .string _ rest | .blob _ rest
  | .other _ rest =>
      1 + rest.numTags
  | .array elements rest =>
      Tags.array elements.numTags + rest.numTags

/-- The size of the arguments, as `Size` computes it. -/
def Args.size : Args (List UInt8) → Nat
  | .nil =>
      0
  | .int32 _ rest =>
      Size.int32 1 + rest.size
  | .float32 _ rest =>
      Size.float32 1 + rest.size
  | .string value rest =>
      Size.string value + rest.size
  | .blob value rest =>
      Size.blob value.length + rest.size
  | .array elements rest =>
      elements.size + rest.size
  | .other _ rest =>
      rest.size

/-- The number of packets in a bundle. -/
def Elements.numPackets : Elements (List UInt8) → Nat
  | .nil =>
      0
  | .message _ _ rest | .bundle _ _ rest =>
      1 + rest.numPackets

/-- The size of the packets in a bundle, as `Size` computes it. -/
def Elements.size : Elements (List UInt8) → Nat
  | .nil =>
      0
  | .message address args rest =>
      Size.message address args.numTags + args.size + rest.size
  | .bundle _ elements rest =>
      Size.bundle elements.numPackets + elements.size + rest.size

/-- The size of a packet, as `Size` computes it. -/
def Content.size : Content (List UInt8) → Nat
  | .message address args =>
      Size.message address args.numTags + args.size
  | .bundle _ elements =>
      Size.bundle elements.numPackets + elements.size

/-- The tags are counted. -/
theorem numTags_eq (args : Args (List UInt8)) :
    args.numTags = args.tags.length := by
  induction args with
  | nil =>
      rfl
  | int32 _ rest inductionHypothesis
  | float32 _ rest inductionHypothesis
  | string _ rest inductionHypothesis
  | blob _ rest inductionHypothesis
  | other _ rest inductionHypothesis =>
      rw [Args.numTags, Args.tags, List.length_cons, inductionHypothesis,
        Nat.add_comm]
  | array elements rest elementsHypothesis restHypothesis =>
      rw [Args.numTags, Args.tags, List.length_cons, List.length_append,
        List.length_cons, elementsHypothesis, restHypothesis, Tags.array]
      omega

/-- `Size::string` is the length of the encoding. -/
theorem size_string
    {string : StdString}
    (nulFree : NulFree string)
    (small : string.length + 4 < 2 ^ 64) :
    Size.string string = (oscString string).length := by
  rw [Size.string, cStr_eq_self nulFree, align_eq small, length_oscString]

/-- The size of arguments is the length of their data. -/
theorem size_args
    (putable : args.Putable)
    (small : args.data.length < 2 ^ 31) :
    args.size = args.data.length := by
  induction args with
  | nil =>
      rfl
  | int32 value rest inductionHypothesis
  | float32 value rest inductionHypothesis =>
      rw [Args.data, List.length_append, length_word] at small ⊢
      rw [Args.size,
        inductionHypothesis putable (Nat.lt_of_add_left_lt small)]
      rfl
  | string value rest inductionHypothesis =>
      have isLength := length_oscString value
      rw [Args.data, List.length_append] at small ⊢
      rw [Args.size, size_string putable.1 (by omega),
        inductionHypothesis putable.2 (Nat.lt_of_add_left_lt small)]
  | blob value rest inductionHypothesis =>
      rw [Args.data, List.length_append, List.length_append, length_word,
        length_padded] at small ⊢
      rw [Args.size, Size.blob, align_eq (by omega),
        inductionHypothesis putable (Nat.lt_of_add_left_lt small)]
  | array elements rest elementsHypothesis restHypothesis =>
      rw [Args.data, List.length_append] at small ⊢
      rw [Args.size,
        elementsHypothesis putable.1 (Nat.lt_of_add_right_lt small),
        restHypothesis putable.2 (Nat.lt_of_add_left_lt small)]
  | other tag rest =>
      exact putable.elim

/-- The size of a message is the length of its encoding. -/
theorem size_message
    (nulFree : NulFree address)
    (putable : args.Putable)
    (small : (messageBytes address args).length < 2 ^ 31) :
    Size.message address args.numTags + args.size =
      (messageBytes address args).length := by
  have isAddress := length_oscString address
  rw [length_messageBytes] at small ⊢
  rw [Size.message, size_string nulFree (by omega), numTags_eq,
    align_eq (by omega), size_args putable (by omega)]

/-- `Size::bundle` counts the sizes in front of the packets. -/
theorem size_elements
    {elements : Elements (List UInt8)}
    (putable : elements.Putable)
    (small : elements.bytes.length < 2 ^ 31) :
    4 * elements.numPackets + elements.size = elements.bytes.length := by
  induction elements with
  | nil =>
      rfl
  | message address args rest inductionHypothesis =>
      obtain ⟨nulFree, putableArgs, putableRest⟩ := putable
      rw [Elements.bytes, List.length_append, length_sized] at small ⊢
      have isMessage := size_message nulFree putableArgs (by omega)
      have isRest := inductionHypothesis putableRest (by omega)
      rw [Elements.numPackets, Elements.size]
      omega
  | bundle time elements rest elementsHypothesis restHypothesis =>
      rw [Elements.bytes, List.length_append, length_sized,
        List.length_append, length_bundleHeader] at small ⊢
      have isInside := elementsHypothesis putable.1 (by omega)
      have isRest := restHypothesis putable.2 (by omega)
      rw [Elements.numPackets, Elements.size, Size.bundle]
      omega

/-- The size of a packet is the length of its encoding. -/
theorem size_content
    (putable : content.Putable)
    (small : content.bytes.length < 2 ^ 31) :
    content.size = content.bytes.length := by
  cases content with
  | message address args =>
      exact size_message putable.1 putable.2 small
  | bundle time elements =>
      rw [Content.bytes, List.length_append, length_bundleHeader] at small ⊢
      have isInside :
          4 * elements.numPackets + elements.size =
            elements.bytes.length :=
        size_elements putable (Nat.lt_of_add_left_lt small)
      rw [Content.size, Size.bundle]
      omega

end Sizes

section Writing

variable
  {content : Content (List UInt8)}
  {history : List (Content (List UInt8))}
  {native' : Endian}
  {conversions : Conversions}
  {memory : Memory}
  {buffer capacity : Nat}

/-- A caller that uses its packet for another content. -/
def Client.writeAgain
    (native : Endian)
    (content : Content (List UInt8)) :
    Method Client Unit := do
  Client.reset
  content.write native

/-- A caller that goes on when a content does not fit. -/
def Client.tryWrite
    (native : Endian)
    (content : Content (List UInt8)) :
    Method Client Unit := do
  let _ ← attempt (Client.writeAgain native content)
  return ()

/-- The client can write the content, and its sizes can be represented. -/
structure Content.Fine (content : Content (List UInt8)) : Prop where
  putable :
    content.Putable
  small :
    content.bytes.length < 2 ^ 31

/-- Writing succeeds where the content fits, and has its encoding written. -/
theorem writeAgain_spec
    (isAt : packet.At place)
    (fine : content.Fine) :
    Ends (Client.writeAgain native content packet)
      (fun _ next =>
        content.bytes.length ≤ place.capacity ∧
          next.Contains content.bytes ∧ next.At place)
      (fun exception next =>
        place.capacity < content.bytes.length ∧
          exception.Overruns ∧ next.At place)
      NoFault := by
  obtain ⟨empty, room, isReset, isCapacity, writing⟩ := isAt.reset
  have written :
      place.Needs (content.write native empty) content.bytes.length room
        fun next =>
        next.Writing place 0 0 content.bytes
          (room.drop content.bytes.length) :=
    writing.writeContent fine.putable fine.small
  rw [Client.writeAgain, bind_of_ok isReset, ← isCapacity]
  apply Ends.mono written
  case returns =>
    intro _ next both
    exact ⟨both.1, both.2.contains, both.2.isAt⟩
  case throws =>
    exact id
  case faults =>
    exact id

/-- Writing or not writing a content leaves the packet to its buffer. -/
theorem tryWrite_spec
    (isAt : packet.At place)
    (fine : content.Fine) :
    Ends (Client.tryWrite native content packet)
      (fun _ next => next.At place) (fun _ _ => False) NoFault := by
  apply Ends.bind
  apply Ends.attempt
  apply Ends.mono (writeAgain_spec isAt fine)
  case returns =>
    intro _ next both
    exact both.2.2
  case throws =>
    intro exception next thrown
    exact thrown.2.2
  case faults =>
    exact id

/-- The buffer of a packet in memory. -/
def Place.of (memory : Memory) (buffer capacity : Nat) : Place where
  address := memory.address
  before := memory.bytes.take (buffer - memory.address)
  after := memory.bytes.drop (buffer - memory.address + capacity)
  capacity := capacity

/-- A new packet writes to its buffer. -/
theorem at_make
    (begins : memory.address ≤ buffer)
    (ends : buffer + capacity ≤ memory.endAddress)
    (aligned : 4 ∣ buffer) :
    (Client.make memory buffer capacity).At
      (Place.of memory buffer capacity) := by
  rw [Memory.endAddress] at ends
  have isStart : (Place.of memory buffer capacity).start = buffer := by
    change memory.address +
      (memory.bytes.take (buffer - memory.address)).length = buffer
    rw [List.length_take_of_le (by omega)]
    omega
  constructor
  case address =>
    rfl
  case bytes =>
    refine ⟨(memory.bytes.drop (buffer - memory.address)).take capacity,
      ?_, ?_⟩
    · change _ = capacity
      rw [List.length_take_of_le]
      rw [List.length_drop]
      omega
    · change memory.bytes =
        memory.bytes.take (buffer - memory.address) ++
          ((memory.bytes.drop (buffer - memory.address)).take capacity ++
            memory.bytes.drop (buffer - memory.address + capacity))
      rw [← List.drop_drop, List.take_append_drop, List.take_append_drop]
  case buffer =>
    exact isStart.symm
  case capacity =>
    rfl
  case aligned =>
    rw [isStart]
    exact aligned

/--
However many contents were written to a packet before, or did not fit: the next
content is written when it fits into the buffer, and then the packet is its
encoding; otherwise the client throws.  Outside of the buffer nothing changes.
-/
theorem writeAgain_fits
    (begins : memory.address ≤ buffer)
    (ends : buffer + capacity ≤ memory.endAddress)
    (aligned : 4 ∣ buffer)
    (fineHistory : ∀ earlier ∈ history, earlier.Fine)
    (fine : content.Fine) :
    Ends
      ((do
        inOrder (history.map (Client.tryWrite native))
        Client.writeAgain native content)
        (Client.make memory buffer capacity))
      (fun _ next =>
        content.bytes.length ≤ capacity ∧
          next.Contains content.bytes ∧
          next.At (Place.of memory buffer capacity))
      (fun exception next =>
        capacity < content.bytes.length ∧
          exception.Overruns ∧
          next.At (Place.of memory buffer capacity))
      NoFault := by
  have keeps :
      ∀ {earlier : Content (List UInt8)} {state : Client},
        earlier ∈ history →
        state.At (Place.of memory buffer capacity) →
        Ends (Client.tryWrite native earlier state)
          (fun _ next => next.At (Place.of memory buffer capacity))
          (fun _ _ => False) NoFault := by
    intro earlier state member isAt
    exact tryWrite_spec isAt (fineHistory earlier member)
  apply Ends.bind
  apply Ends.mono (Ends.inOrder keeps (at_make begins ends aligned))
  case returns =>
    intro _ next isAt
    exact writeAgain_spec isAt fine
  case throws =>
    exact False.elim
  case faults =>
    intro fault faults
    obtain ⟨_, _, _, _, _, _, noFault⟩ := faults
    exact noFault

/-- A message without arguments. -/
def offMessage : Content (List UInt8) :=
  .message (ascii "/off") .nil

/-- A message with an array in it, in two bundles. -/
def chordBundle : Content (List UInt8) :=
  .bundle 1
    (.bundle 2
      (.message (ascii "/chord")
        (.array (.int32 60 (.int32 64 .nil)) (.string (ascii "on") .nil))
        .nil)
      (.message (ascii "/off") .nil .nil))

/-- The client can write the bundle. -/
theorem chordBundle_fine : chordBundle.Fine :=
  ⟨by decide, by decide +kernel⟩

/-- A small buffer in the middle of other bytes. -/
def smallMemory : Memory where
  address := 60
  bytes := List.replicate 24 255
  bounded := by decide

/-- After a bundle that did not fit, a message is written. -/
theorem writeAgain_fits_offMessage :
    Ends
      ((do
        inOrder ([chordBundle].map (Client.tryWrite .little))
        Client.writeAgain .little offMessage)
        (Client.make smallMemory 64 16))
      (fun _ next =>
        offMessage.bytes.length ≤ 16 ∧
          next.Contains offMessage.bytes ∧
          next.At (Place.of smallMemory 64 16))
      (fun exception next =>
        16 < offMessage.bytes.length ∧
          exception.Overruns ∧ next.At (Place.of smallMemory 64 16))
      NoFault := by
  have fineHistory : ∀ earlier ∈ [chordBundle], earlier.Fine := by
    intro earlier member
    rw [List.mem_singleton] at member
    subst member
    exact chordBundle_fine
  have fine : offMessage.Fine :=
    ⟨by decide, by decide +kernel⟩
  generalize [chordBundle] = history at fineHistory ⊢
  generalize offMessage = content at fine ⊢
  exact writeAgain_fits (by decide) (by decide) (by decide) fineHistory fine

/-- A buffer for the bundle. -/
def chordMemory : Memory where
  address := 4096
  bytes := List.replicate 120 0
  bounded := by decide

/-- A packet can write to the buffer. -/
theorem chordMemory_at :
    (Client.make chordMemory 4096 120).At
      (Place.of chordMemory 4096 120) :=
  at_make (by decide) (by decide +kernel) (by decide)

end Writing

end Pwcpp.Oscpp
