import Pwcpp.OscBundles

namespace Pwcpp.Oscpp

/-!
# Everything that can be read can be written

The dialect leaves some freedom: what strings and blobs are filled up with,
bytes after the arguments of a message, and a last element of any size.  The
encoding that uses none of it is never longer, and it reads back.
-/

section Strings

variable
  {string : StdString}
  {bytes rest wire : List UInt8}

/-- The encoding of a string is the shortest one. -/
theorem IsString.length_oscString_le
    (isString : IsString string wire) :
    (oscString string).length ≤ wire.length := by
  have ends := isString.length_lt
  have words := isString.length.1
  rw [length_oscString, fill]
  omega

/-- A C string and its NUL start the bytes that hold it. -/
theorem exists_cStr_append
    (hasNul : 0 ∈ bytes) :
    ∃ rest, bytes = cStr bytes ++ 0 :: rest := by
  induction bytes with
  | nil =>
      exact (List.not_mem_nil hasNul).elim
  | cons first bytes inductionHypothesis =>
      by_cases isNul : first = 0
      · subst first
        exact ⟨bytes, rfl⟩
      · have later : 0 ∈ bytes :=
          (List.mem_cons.mp hasNul).resolve_left (Ne.symm isNul)
        obtain ⟨rest, isBytes⟩ := inductionHypothesis later
        refine ⟨rest, ?_⟩
        rw [cStr_cons isNul, List.cons_append, ← isBytes]

/-- Bytes with a NUL start a bundle when they hold its tag and are long. -/
theorem startsBundle_iff (hasNul : 0 ∈ bytes) :
    StartsBundle bytes ↔ 15 < bytes.length ∧ cStr bytes = ascii "#bundle" := by
  refine and_congr_right fun _ => ?_
  constructor
  · intro isTag
    have isBytes := List.take_append_drop 8 bytes
    rw [isTag] at isBytes
    rw [← isBytes, cStr_append_of_nul_mem (by decide)]
    rfl
  · intro isContent
    obtain ⟨rest, isBytes⟩ := exists_cStr_append hasNul
    rw [isBytes, isContent]
    rfl

/-- A NUL among the first bytes is one among all. -/
theorem IsString.nul_mem_append
    (isString : IsString string wire)
    (rest : List UInt8) :
    0 ∈ wire ++ rest :=
  List.mem_append_left rest isString.nul_mem

/-- The bytes after a string do not change it. -/
theorem IsString.cStr_append
    (isString : IsString string wire)
    (rest : List UInt8) :
    cStr (wire ++ rest) = string := by
  rw [cStr_append_of_nul_mem isString.nul_mem, isString.content]

end Strings

section Arguments

variable
  {args : Args (List UInt8)}
  {address : StdString}
  {wire : List UInt8}

/-- The encoding of arguments is the shortest one. -/
theorem Args.IsData.length_data_le
    (isData : args.IsData wire) :
    args.data.length ≤ wire.length := by
  induction args generalizing wire with
  | nil =>
      exact Nat.zero_le _
  | int32 value rest inductionHypothesis
  | float32 value rest inductionHypothesis =>
      obtain ⟨tail, rfl, isTail⟩ := isData
      rw [Args.data, List.length_append, List.length_append, length_word]
      exact Nat.add_le_add_left (inductionHypothesis isTail) 4
  | string value rest inductionHypothesis =>
      obtain ⟨first, tail, rfl, isString, isTail⟩ := isData
      rw [Args.data, List.length_append, List.length_append]
      exact Nat.add_le_add isString.length_oscString_le
        (inductionHypothesis isTail)
  | blob value rest inductionHypothesis =>
      obtain ⟨filling, tail, rfl, -, isFilling, isTail⟩ := isData
      have shorter := inductionHypothesis isTail
      simp only [Args.data, List.length_append, length_word,
        length_padded, isFilling]
      exact Nat.add_le_add_left shorter _
  | array elements rest elementsHypothesis restHypothesis =>
      obtain ⟨first, tail, rfl, isFirst, isTail⟩ := isData
      rw [Args.data, List.length_append, List.length_append]
      exact Nat.add_le_add (elementsHypothesis isFirst)
        (restHypothesis isTail)
  | other tag rest inductionHypothesis =>
      exact inductionHypothesis isData

/-- Arguments that can be read can be written. -/
theorem Args.IsData.writable
    (isData : args.IsData wire)
    (nulFree : NulFree args.tags) :
    args.Writable := by
  induction args generalizing wire with
  | nil =>
      trivial
  | int32 value rest inductionHypothesis
  | float32 value rest inductionHypothesis =>
      obtain ⟨tail, rfl, isTail⟩ := isData
      exact inductionHypothesis isTail
        (List.not_mem_of_not_mem_cons nulFree)
  | string value rest inductionHypothesis =>
      obtain ⟨first, tail, rfl, isString, isTail⟩ := isData
      exact ⟨isString.nulFree, inductionHypothesis isTail
        (List.not_mem_of_not_mem_cons nulFree)⟩
  | blob value rest inductionHypothesis =>
      obtain ⟨filling, tail, rfl, small, -, isTail⟩ := isData
      exact ⟨small, inductionHypothesis isTail
        (List.not_mem_of_not_mem_cons nulFree)⟩
  | array elements rest elementsHypothesis restHypothesis =>
      obtain ⟨first, tail, rfl, isFirst, isTail⟩ := isData
      have inside := List.not_mem_of_not_mem_cons nulFree
      rw [List.mem_append, not_or] at inside
      exact ⟨elementsHypothesis isFirst inside.1, restHypothesis isTail
        (List.not_mem_of_not_mem_cons inside.2)⟩
  | other tag rest inductionHypothesis =>
      exact ⟨Ne.symm (List.ne_of_not_mem_cons nulFree),
        inductionHypothesis isData (List.not_mem_of_not_mem_cons nulFree)⟩

/-- The encoding of a message is the shortest one. -/
theorem IsMessage.length_messageBytes_le
    (isMessage : IsMessage address args wire) :
    (messageBytes address args).length ≤ wire.length := by
  obtain ⟨-, -, first, types, data, trailing, rfl, isAddress, isTypes,
    isData⟩ := isMessage
  simp only [messageBytes, List.length_append]
  have addressShorter := isAddress.length_oscString_le
  have typesShorter := isTypes.length_oscString_le
  have dataShorter := isData.length_data_le
  omega

/-- A message that can be read can be written. -/
theorem IsMessage.writable
    (isMessage : IsMessage address args wire) :
    WritableMessage address args := by
  have shorter := isMessage.length_messageBytes_le
  obtain ⟨notBundle, wellTagged, first, types, data, trailing, rfl,
    isAddress, isTypes, isData⟩ := isMessage
  have isEncoded := isString_oscString isAddress.nulFree
  constructor
  case nulFree =>
    exact isAddress.nulFree
  case notBundle =>
    -- With this address the message is too short for a bundle.
    intro starts
    rw [messageBytes, List.append_assoc,
      startsBundle_iff (isEncoded.nul_mem_append _),
      isEncoded.cStr_append] at starts
    rw [startsBundle_iff (isAddress.nul_mem_append _),
      isAddress.cStr_append] at notBundle
    rw [messageBytes, List.append_assoc] at shorter
    exact notBundle ⟨Nat.lt_of_lt_of_le starts.1 shorter, starts.2⟩
  case wellTagged =>
    exact wellTagged
  case writable =>
    exact isData.writable (List.not_mem_of_not_mem_cons isTypes.nulFree)

end Arguments

section Packets

variable
  {elements : Elements (List UInt8)}
  {content : Content (List UInt8)}
  {wire : List UInt8}

/-- The encoding of elements is the shortest one. -/
theorem Elements.IsBytes.length_bytes_le
    (isBytes : elements.IsBytes wire) :
    elements.bytes.length ≤ wire.length := by
  induction elements generalizing wire with
  | nil =>
      exact Nat.zero_le _
  | message address args rest inductionHypothesis =>
      obtain ⟨element, tail, ⟨rfl, -, -⟩, isMessage, isRest⟩ := isBytes
      simp only [Elements.bytes, List.length_append, length_sized]
      exact Nat.add_le_add
        (Nat.add_le_add_left isMessage.length_messageBytes_le 4)
        (inductionHypothesis isRest)
  | bundle time inside rest insideHypothesis restHypothesis =>
      obtain ⟨inner, tail, ⟨rfl, -, -⟩, isInside, isRest⟩ := isBytes
      simp only [Elements.bytes, List.length_append, length_sized,
        length_bundleHeader]
      exact Nat.add_le_add
        (Nat.add_le_add_left
          (Nat.add_le_add_left (insideHypothesis isInside) 16) 4)
        (restHypothesis isRest)

/-- Elements that can be read can be written. -/
theorem Elements.IsBytes.writable
    (isBytes : elements.IsBytes wire) :
    elements.Writable := by
  induction elements generalizing wire with
  | nil =>
      trivial
  | message address args rest inductionHypothesis =>
      obtain ⟨element, tail, isSized, isMessage, isRest⟩ := isBytes
      exact ⟨isMessage.writable,
        Nat.lt_of_le_of_lt isMessage.length_messageBytes_le
          isSized.isSmall,
        inductionHypothesis isRest⟩
  | bundle time inside rest insideHypothesis restHypothesis =>
      obtain ⟨inner, tail, isSized, isInside, isRest⟩ := isBytes
      have small := isSized.isSmall
      rw [List.length_append, length_bundleHeader] at small
      exact ⟨insideHypothesis isInside,
        Nat.lt_of_le_of_lt
          (Nat.add_le_add_left isInside.length_bytes_le 16) small,
        restHypothesis isRest⟩

/-- The encoding of a packet is the shortest one. -/
theorem Content.IsBytes.length_bytes_le
    (isBytes : content.IsBytes wire) :
    content.bytes.length ≤ wire.length := by
  cases content with
  | message address args =>
      exact IsMessage.length_messageBytes_le isBytes
  | bundle time elements =>
      obtain ⟨inner, rfl, isInner⟩ := isBytes
      rw [Content.bytes, List.length_append, List.length_append]
      exact Nat.add_le_add_left isInner.length_bytes_le _

/-- A packet that can be read can be written. -/
theorem Content.IsBytes.writable
    (isBytes : content.IsBytes wire) :
    content.Writable := by
  cases content with
  | message address args =>
      exact IsMessage.writable isBytes
  | bundle time elements =>
      obtain ⟨inner, rfl, isInner⟩ := isBytes
      exact isInner.writable

end Packets

section Printing

variable
  {native native' : Endian}
  {conversions conversions' : Conversions}
  {memory memory' : Memory}
  {data data' size : Nat}
  {content : Content (List UInt8)}

/-- A packet that was written is printed as it is. -/
theorem printPacket_of_bytes
    (writable : content.Writable)
    (begins : memory.address ≤ data)
    (ends : data + content.bytes.length ≤ memory.endAddress)
    (aligned : 4 ∣ data)
    (few : content.bytes.length < 2 ^ 32)
    (isWritten :
      memory.window data (data + content.bytes.length) = content.bytes) :
    PrintsPacket native conversions memory data content.bytes.length
      content := by
  rw [printsPacket_iff_isBytes begins ends aligned few, isWritten]
  exact isBytes_content writable

/--
A packet that is printed can be written in no more bytes than it had, and is
then printed as before: in other memory, at other places, and by platforms with
another byte order.
-/
theorem printPacket_again
    (begins : memory.address ≤ data)
    (ends : data + size ≤ memory.endAddress)
    (aligned : 4 ∣ data)
    (few : size < 2 ^ 32)
    (prints :
      PrintsPacket native conversions memory data size content) :
    content.bytes.length ≤ size ∧
      ∀ {memory' data'},
        memory'.address ≤ data' →
        data' + content.bytes.length ≤ memory'.endAddress →
        4 ∣ data' →
        memory'.window data' (data' + content.bytes.length) =
          content.bytes →
        PrintsPacket native' conversions' memory' data'
          content.bytes.length content := by
  have isBytes := (printsPacket_iff_isBytes begins ends aligned few).mp prints
  have shorter : content.bytes.length ≤ size := by
    calc
      content.bytes.length ≤ (memory.window data (data + size)).length :=
        isBytes.length_bytes_le
      _ = size := by
        rw [length_window begins ends, Nat.add_sub_cancel_left]
  refine ⟨shorter, ?_⟩
  intro memory' data' begins' ends' aligned' isWritten
  exact printPacket_of_bytes isBytes.writable begins' ends' aligned'
    (Nat.lt_of_le_of_lt shorter few) isWritten

/-- The bytes of a message, with something after its arguments. -/
def chattyMemory : Memory where
  address := 4096
  bytes := messageBytes (ascii "/off") .nil ++ [1, 2, 3]
  bounded := by decide

/-- The bytes of the message alone, elsewhere. -/
def offMemory : Memory where
  address := 64
  bytes := messageBytes (ascii "/off") .nil
  bounded := by decide

/-- The message is printed again without what came after it. -/
theorem printPacket_again_off :
    PrintsPacket .big .ieee offMemory offMemory.address
      offMemory.bytes.length (.message (ascii "/off") .nil) := by
  have isMessage :
      Content.IsBytes (.message (ascii "/off") .nil) chattyMemory.bytes :=
    ⟨by decide, trivial, oscString (ascii "/off"),
      oscString [','.toUInt8], [], [1, 2, 3], by decide,
      isString_oscString (by decide), isString_oscString (by decide), rfl⟩
  have few : chattyMemory.bytes.length < 2 ^ 32 := by
    decide +kernel
  have prints :
      PrintsPacket .little .ieee chattyMemory
        chattyMemory.address chattyMemory.bytes.length
        (.message (ascii "/off") .nil) := by
    apply (printsPacket_iff_isBytes (Nat.le_refl _) (Nat.le_refl _) (by decide)
      few).mpr
    rw [← Memory.endAddress, window_whole]
    exact isMessage
  exact (printPacket_again (Nat.le_refl _) (Nat.le_refl _) (by decide) few
    prints).2 (Nat.le_refl _) (Nat.le_refl _) (by decide)
    (window_whole offMemory)

end Printing

end Pwcpp.Oscpp
