import Pwcpp.OscPrinting

namespace Pwcpp.Oscpp

open ThrowingMethods

/-!
# What printing a packet reads

The elements of a bundle are read one after the other, each in a stream of its
own.  A size that is negative, or an element that leaves the next size at an
odd place, ends in an exception.
-/

section Messages

variable
  {native : Endian}
  {conversions : Conversions}
  {memory : Memory}
  {stream : Stream}

/-- The streams of the arguments after a tag string. -/
def argsAfter (stream : Stream) (tags types : Nat) : ArgStream :=
  { mTags := Stream.make (stream.mPos + 1) tags
    mArgs := stream.advance types }

/-- A tag string starts with its comma. -/
theorem IsString.exists_tail
    {tag : UInt8}
    {tags types : List UInt8}
    (isString : IsString (tag :: tags) types) :
    ∃ tail, types = tag :: tail ∧ cStr tail = tags := by
  have content := isString.content
  cases types with
  | nil =>
      cases content
  | cons first tail =>
      by_cases isNul : first = 0
      · subst first
        cases content
      · rw [cStr_cons isNul] at content
        obtain ⟨rfl, rfl⟩ := List.cons.inj content
        exact ⟨tail, rfl, rfl⟩

/-- The streams after a tag string have its tags in front, and the data. -/
theorem argsAfter_at
    (valid : stream.Valid memory)
    (aligned : 4 ∣ stream.mPos)
    {tags types trailing : List UInt8}
    (isRest : stream.rest memory = types ++ trailing)
    (isString : IsString (','.toUInt8 :: tags) types) :
    (argsAfter stream tags.length types.length).At memory tags
      trailing := by
  obtain ⟨tail, isTypes, isTags⟩ := isString.exists_tail
  have isPrefix : tags <+: tail := by
    rw [← isTags]
    exact List.takeWhile_prefix _
  obtain ⟨later, isTail⟩ := isPrefix
  have oneByte : 1 ≤ (stream.rest memory).length := by
    rw [isRest, isTypes]
    simp
  have afterComma :
      (stream.advance 1).rest memory = tags ++ (later ++ trailing) := by
    rw [rest_advance valid oneByte, isRest, isTypes, ← isTail,
      ← List.append_assoc]
    rfl
  have enoughTags :
      tags.length ≤ ((stream.advance 1).rest memory).length := by
    rw [afterComma, List.length_append]
    exact Nat.le_add_right _ _
  have enoughData : types.length ≤ (stream.rest memory).length := by
    rw [isRest, List.length_append]
    exact Nat.le_add_right _ _
  have validTags := (valid.advance oneByte).make enoughTags
  have isTagsRest := rest_make (valid.advance oneByte) enoughTags
  rw [mPos_advance valid oneByte] at validTags isTagsRest
  rw [afterComma, List.take_left] at isTagsRest
  have isData :
      (stream.advance types.length).rest memory = trailing := by
    rw [rest_advance valid enoughData, isRest, List.drop_left]
  exact ⟨validTags, valid.advance enoughData, isTagsRest, isData,
    aligned_advance valid aligned isString.length.1 enoughData⟩

/-- The streams of a message are those after its tag string. -/
theorem ofStream_eq_ok_iff
    (valid : stream.Valid memory)
    {args : ArgStream} :
    ArgStream.ofStream memory stream = .ok args ↔
      ∃ tags types trailing,
        stream.rest memory = types ++ trailing ∧
          IsString (','.toUInt8 :: tags) types ∧
          args = argsAfter stream tags.length types.length := by
  have firstChar :
      ∀ {byte : UInt8} {tail : List UInt8},
        stream.rest memory = byte :: tail →
        memory.loadChar stream.mPos = .ok byte := by
    intro byte tail isRest
    have nonempty : 0 < (stream.rest memory).length := by
      rw [isRest]
      exact Nat.succ_pos _
    have isFirst : (stream.rest memory)[0]? = some byte := by
      rw [isRest]
      rfl
    exact loadChar_window (inside_of_rest valid nonempty).1 isFirst
  have isMade :
      ∀ {tags types trailing : List UInt8},
        stream.rest memory = types ++ trailing →
        IsString (','.toUInt8 :: tags) types →
        ArgStream.mk
            (Stream.make (ptrAdd stream.mPos 1)
              (ptrSub (','.toUInt8 :: tags).length 1))
            (stream.advance types.length) =
          argsAfter stream tags.length types.length := by
    intro tags types trailing isRest isString
    have isLength := length_rest valid
    have isPrefix := isString.length_lt
    have bounded := valid.bounded
    have inside := isString.length.2
    rw [isRest, List.length_append] at isLength
    rw [List.length_cons] at isPrefix ⊢
    rw [argsAfter, ptrAdd_eq (by omega), ptrSub_eq (by omega) (by omega),
      Nat.add_sub_cancel]
  rw [ArgStream.ofStream, construct_eq_ok_iff, ArgStream.readTags,
    ArgStream.onArgs]
  simp only [onPart_bind_eq_ok_iff, getString_eq_ok_iff valid]
  constructor
  · intro returns
    rcases returns with ⟨_, _, _, ⟨string, types, trailing, isRest,
      isString, isValue, rfl, rfl⟩, returns⟩
    obtain ⟨first, isFirst, returns⟩ := observe_bind_eq_ok_iff.mp returns
    cases types with
    | nil =>
        exact absurd isString.length.2 (by decide)
    | cons byte tail =>
        obtain rfl : byte = first :=
          Except.ok.inj ((firstChar isRest).symm.trans isFirst)
        by_cases isComma : byte = ','.toUInt8
        · subst byte
          obtain rfl : ','.toUInt8 :: cStr tail = string := by
            rw [← isString.content, cStr_cons (by decide)]
          rw [if_neg (not_not_intro rfl)] at returns
          obtain ⟨_, isString', returns⟩ :=
            observe_bind_eq_ok_iff.mp returns
          obtain rfl := Except.ok.inj (isValue.symm.trans isString')
          cases returns
          exact ⟨_, _, trailing, isRest, isString,
            isMade isRest isString⟩
        · rw [if_pos isComma] at returns
          cases returns
  · intro inFront
    rcases inFront with ⟨tags, types, trailing, isRest, isString, rfl⟩
    have isValue := cString_of_isString valid isRest isString
    refine ⟨(), _, _, ⟨_, types, trailing, isRest, isString, isValue, rfl,
      rfl⟩, ?_⟩
    obtain ⟨tail, rfl, -⟩ := isString.exists_tail
    refine observe_bind_eq_ok_iff.mpr ⟨_, firstChar isRest, ?_⟩
    rw [if_neg (not_not_intro rfl)]
    refine observe_bind_eq_ok_iff.mpr ⟨_, isValue, ?_⟩
    rw [← isMade isRest isString]
    rfl

/-- A copy of the streams has the same bytes in front. -/
theorem ArgStream.At.copy
    {args : ArgStream}
    {tags data : List UInt8}
    (atBytes : args.At memory tags data) :
    args.copy.At memory tags data :=
  ⟨atBytes.validTags.copy, atBytes.validArgs.copy, atBytes.isTags,
    atBytes.isData, atBytes.aligned⟩

/-- `printArgs` prints the arguments that are in front. -/
theorem printArgs_iff
    {args : ArgStream}
    {tags data : List UInt8}
    (atBytes : args.At memory tags data)
    (few : tags.length < 2 ^ 32)
    {read : Args (List UInt8)} :
    (∃ printed,
      printArgs native conversions memory args = .ok printed ∧
        printed.map memory.blobBytes = read) ↔
      read.ReadFrom tags data := by
  have isCount : args.mTags.consumable = tags.length := by
    rw [consumable_eq atBytes.validTags, atBytes.isTags]
  rw [← printsInFront (Nat.lt_succ_self tags.length) few atBytes
    (Nat.le_refl _), PrintsArgs, printArgs, isCount]
  simp only [callOn_bind_eq_ok_iff]
  constructor
  · intro prints
    rcases prints with ⟨_, ⟨printed, final, returns, same⟩, isRead⟩
    cases same
    exact ⟨_, final, returns, isRead⟩
  · intro prints
    rcases prints with ⟨printed, final, returns, isRead⟩
    exact ⟨printed, ⟨printed, final, returns, rfl⟩, isRead⟩

variable (native conversions memory)

/-- Taken for a message, the packet prints as this one. -/
def PrintsMessage
    (packet : Packet)
    (address : StdString)
    (args : Args (List UInt8)) : Prop :=
  ∃ message printed,
    packet.toMessage memory = .ok message ∧
      printMessage native conversions memory message =
        .ok (address, printed) ∧
      printed.map memory.blobBytes = args

variable {native conversions memory}

/-- Printing a message prints its address and its arguments. -/
theorem printMessage_eq_ok_iff
    {message : Message}
    {address : StdString}
    {printed : Args Blob} :
    printMessage native conversions memory message =
        .ok (address, printed) ↔
      memory.cString message.mAddress = .ok address ∧
        printArgs native conversions memory message.args = .ok printed := by
  rw [printMessage, call_bind_eq_ok_iff]
  constructor
  · intro prints
    rcases prints with ⟨_, isAddress, prints⟩
    obtain ⟨_, printsArgs, same⟩ := call_bind_eq_ok_iff.mp prints
    cases same
    exact ⟨isAddress, printsArgs⟩
  · intro prints
    rcases prints with ⟨isAddress, printsArgs⟩
    exact ⟨_, isAddress,
      call_bind_eq_ok_iff.mpr ⟨_, printsArgs, rfl⟩⟩

/-- A packet that is not a bundle is a message when its bytes are. -/
theorem toMessage_eq_ok_iff
    {message : Message} :
    Packet.toMessage memory { mStream := stream, mIsBundle := false } =
        .ok message ↔
      ∃ address next args,
        ReadStream.getString memory stream.copy = .ok address next ∧
          ArgStream.ofStream memory next = .ok args ∧
          message = { mAddress := address, mArgs := args } := by
  have isMessage :
      (!Packet.isMessage { mStream := stream, mIsBundle := false }) =
        false :=
    rfl
  rw [Packet.toMessage, isMessage, if_neg Bool.false_ne_true,
    callOn_bind_eq_ok_iff]
  constructor
  · intro returns
    rcases returns with ⟨address, next, gets, makes⟩
    obtain ⟨args, constructs, same⟩ := call_bind_eq_ok_iff.mp makes
    cases same
    exact ⟨address, next, args, gets, constructs, rfl⟩
  · intro parts
    rcases parts with ⟨address, next, args, gets, constructs, rfl⟩
    exact ⟨address, next, gets,
      call_bind_eq_ok_iff.mpr ⟨args, constructs, rfl⟩⟩

/-- A packet that is not a bundle prints as the message that it is. -/
theorem printsMessage_iff
    (valid : stream.Valid memory)
    (aligned : 4 ∣ stream.mPos)
    (few : (stream.rest memory).length < 2 ^ 32)
    (notBundle : ¬ StartsBundle (stream.rest memory))
    {address : StdString}
    {args : Args (List UInt8)} :
    PrintsMessage native conversions memory
        { mStream := stream, mIsBundle := false } address args ↔
      IsMessage address args (stream.rest memory) := by
  have validCopy := valid.copy
  have afterAddress :
      ∀ {first later : List UInt8},
        stream.copy.rest memory = first ++ later →
        4 ∣ first.length →
        (stream.copy.advance first.length).Valid memory ∧
          (stream.copy.advance first.length).rest memory = later ∧
          4 ∣ (stream.copy.advance first.length).mPos := by
    intro first later isRest words
    have enough : first.length ≤ (stream.copy.rest memory).length := by
      rw [isRest, List.length_append]
      exact Nat.le_add_right _ _
    refine ⟨validCopy.advance enough, ?_,
      aligned_advance validCopy aligned words enough⟩
    rw [rest_advance validCopy enough, isRest, List.drop_left]
  have fewTags :
      ∀ {first tags types trailing : List UInt8},
        stream.copy.rest memory = first ++ (types ++ trailing) →
        IsString (','.toUInt8 :: tags) types →
        tags.length < 2 ^ 32 := by
    intro first tags types trailing isRest isTypes
    have isPrefix := isTypes.length_lt
    rw [← rest_copy, isRest, List.length_append, List.length_append] at few
    rw [List.length_cons] at isPrefix
    omega
  rw [PrintsMessage, IsMessage]
  simp only [toMessage_eq_ok_iff, printMessage_eq_ok_iff,
    getString_eq_ok_iff validCopy]
  constructor
  · intro prints
    rcases prints with ⟨_, printed, ⟨_, _, _, ⟨string, first, later,
      isRest, isString, isAddress, rfl, rfl⟩, constructs, rfl⟩,
      ⟨isAddress', printsArgs⟩, rfl⟩
    obtain rfl := Except.ok.inj (isAddress.symm.trans isAddress')
    obtain ⟨validNext, isNext, alignedNext⟩ :=
      afterAddress isRest isString.length.1
    obtain ⟨tags, types, trailing, isTypesRest, isTypes, rfl⟩ :=
      (ofStream_eq_ok_iff validNext).mp constructs
    have atArgs := argsAfter_at validNext alignedNext isTypesRest isTypes
    rw [isNext] at isTypesRest
    rw [isTypesRest] at isRest
    obtain ⟨wellTagged, isTags, data, unread, rfl, isData⟩ :=
      (printArgs_iff atArgs.copy (fewTags isRest isTypes)).mp
        ⟨printed, printsArgs, rfl⟩
    rw [← isTags] at isTypes
    exact ⟨notBundle, wellTagged, first, types, data, unread, isRest,
      isString, isTypes, isData⟩
  · intro isMessage
    rcases isMessage with ⟨-, wellTagged, first, types, data, unread,
      isRest, isString, isTypes, isData⟩
    have isAddress := cString_of_isString validCopy isRest isString
    obtain ⟨validNext, isNext, alignedNext⟩ :=
      afterAddress isRest isString.length.1
    have atArgs := argsAfter_at validNext alignedNext isNext isTypes
    obtain ⟨printed, printsArgs, isRead⟩ :=
      (printArgs_iff atArgs.copy (fewTags isRest isTypes)).mpr
        ⟨wellTagged, rfl, data, unread, rfl, isData⟩
    exact ⟨_, printed, ⟨_, _, _, ⟨address, first, _, isRest, isString,
      isAddress, rfl, rfl⟩, (ofStream_eq_ok_iff validNext).mpr
        ⟨args.tags, types, _, isNext, isTypes, rfl⟩, rfl⟩,
      ⟨isAddress, printsArgs⟩, isRead⟩

end Messages

section Packets

variable
  {native : Endian}
  {conversions : Conversions}
  {memory : Memory}
  {stream : Stream}

/-- `isBundle` looks at the bytes in front. -/
theorem isBundleAt_eq (valid : stream.Valid memory) :
    Packet.isBundleAt memory stream.mPos stream.consumable =
      .ok (decide (StartsBundle (stream.rest memory))) := by
  rw [Packet.isBundleAt, consumable_eq valid]
  by_cases long : 15 < (stream.rest memory).length
  · rw [if_pos long, load_rest valid (by decide) (by omega), call_bind_ok]
    simp only [StartsBundle, long, true_and]
    by_cases isTag : (stream.rest memory).take 8 = bundleTag
    · rw [decide_eq_true isTag, isTag, beq_self_eq_true]
      rfl
    · rw [decide_eq_false isTag, beq_eq_false_iff_ne.mpr isTag]
      rfl
  · have short : ¬ StartsBundle (stream.rest memory) := by
      intro starts
      exact long starts.1
    rw [if_neg long, decide_eq_false short]
    rfl

/-- Bytes that do not start a bundle are a message. -/
theorem packet_of_message
    (valid : stream.Valid memory)
    (notBundle : ¬ StartsBundle (stream.rest memory)) :
    Packet.ofStream memory stream =
      .ok { mStream := stream.copy, mIsBundle := false } := by
  rw [Packet.ofStream, isBundleAt_eq valid, call_bind_ok,
    decide_eq_false notBundle, if_neg Bool.false_ne_true]
  rfl

/-- Bytes that start a bundle are one, after its tag. -/
theorem packet_of_bundle
    (valid : stream.Valid memory)
    (isBundle : StartsBundle (stream.rest memory)) :
    Packet.ofStream memory stream =
      .ok { mStream := stream.copy.advance 8, mIsBundle := true } := by
  have long : 8 ≤ (stream.copy.rest memory).length := by
    have isLong := isBundle.1
    rw [rest_copy]
    omega
  have skips :
      construct stream.copy (ReadStream.skip 8) =
        .ok (stream.copy.advance 8) :=
    construct_eq_ok_iff.mpr
      ⟨(), (skip_eq_ok_iff valid.copy).mpr ⟨long, rfl⟩⟩
  rw [Packet.ofStream, isBundleAt_eq valid, call_bind_ok,
    decide_eq_true isBundle, if_pos rfl, skips]
  rfl

/-- The stream of the elements of a bundle. -/
def elementsOf (stream : Stream) : Stream :=
  ((stream.copy.advance 8).copy.advance 8).copy

/-- The stream of a bundle after its tag has the time in front. -/
theorem rest_after_tag
    (valid : stream.Valid memory)
    {time : UInt64}
    {inner : List UInt8}
    (isRest : stream.rest memory = bundleHeader time ++ inner) :
    (stream.copy.advance 8).Valid memory ∧
      (stream.copy.advance 8).mPos = stream.mPos + 8 ∧
      (stream.copy.advance 8).rest memory =
        BigEndian.encode 8 time.toNat ++ inner := by
  have long : 8 ≤ (stream.copy.rest memory).length := by
    rw [rest_copy, isRest, List.length_append, length_bundleHeader]
    omega
  refine ⟨valid.copy.advance long, mPos_advance valid.copy long, ?_⟩
  rw [rest_advance valid.copy long, rest_copy, isRest, bundleHeader,
    List.append_assoc]
  exact List.drop_left' rfl

/-- The stream of the elements has these in front. -/
theorem elementsOf_spec
    (valid : stream.Valid memory)
    {time : UInt64}
    {inner : List UInt8}
    (isRest : stream.rest memory = bundleHeader time ++ inner) :
    (elementsOf stream).Valid memory ∧
      (elementsOf stream).rest memory = inner ∧
      (elementsOf stream).mPos = stream.mPos + 16 := by
  obtain ⟨validTag, isPos, isTime⟩ := rest_after_tag valid isRest
  have long :
      8 ≤ ((stream.copy.advance 8).copy.rest memory).length := by
    rw [rest_copy, isTime, List.length_append, BigEndian.length_encode]
    exact Nat.le_add_right _ _
  refine ⟨(validTag.copy.advance long).copy, ?_, ?_⟩
  · rw [elementsOf, rest_copy, rest_advance validTag.copy long, rest_copy,
      isTime]
    exact List.drop_left' (BigEndian.length_encode 8 _)
  · calc
      (elementsOf stream).mPos = (stream.copy.advance 8).mPos + 8 :=
        mPos_advance validTag.copy long
      _ = stream.mPos + 16 :=
        congrArg (· + 8) isPos

/-- A bundle in front is its time, and the stream of its elements. -/
theorem toBundle_eq
    (valid : stream.Valid memory)
    {time : UInt64}
    {inner : List UInt8}
    (isRest : stream.rest memory = bundleHeader time ++ inner) :
    Packet.toBundle memory native
        { mStream := stream.copy.advance 8, mIsBundle := true } =
      .ok { mTime := time, mStream := elementsOf stream } := by
  obtain ⟨validTag, -, isTime⟩ := rest_after_tag valid isRest
  have long :
      8 ≤ ((stream.copy.advance 8).copy.rest memory).length := by
    rw [rest_copy, isTime, List.length_append, BigEndian.length_encode]
    exact Nat.le_add_right _ _
  have isNumber :
      (BigEndian.decode
          (((stream.copy.advance 8).copy.rest memory).take 8)).toUInt64 =
        time := by
    rw [rest_copy, isTime, List.take_left' (BigEndian.length_encode 8 _),
      BigEndian.decode_encode time.toNat_lt]
    exact UInt64.ofNat_toNat
  have gets :
      ReadStream.getUInt64 native memory (stream.copy.advance 8).copy =
        .ok time ((stream.copy.advance 8).copy.advance 8) := by
    rw [getUInt64_eq validTag.copy, if_neg (Nat.not_lt_of_le long),
      isNumber]
  have isBundle :
      (!Packet.isBundle
        { mStream := stream.copy.advance 8, mIsBundle := true }) =
        false :=
    rfl
  rw [Packet.toBundle, isBundle, if_neg Bool.false_ne_true]
  exact callOn_bind_eq_ok_iff.mpr ⟨time, _, gets, rfl⟩

/-- The stream of an element of a bundle, after its size. -/
def elementOf (stream : Stream) (size : Nat) : Stream :=
  Stream.make (stream.mPos + 4) size

/-- An element in front is a packet of its own. -/
theorem elementOf_spec
    (valid : stream.Valid memory)
    {element tail : List UInt8}
    (isRest : stream.rest memory = sized element ++ tail) :
    (elementOf stream element.length).Valid memory ∧
      (elementOf stream element.length).rest memory = element ∧
      (stream.advance (4 + element.length)).Valid memory ∧
      (stream.advance (4 + element.length)).rest memory = tail ∧
      (stream.advance (4 + element.length)).mPos =
        stream.mPos + (4 + element.length) := by
  have enough : 4 + element.length ≤ (stream.rest memory).length := by
    rw [isRest, List.length_append, length_sized]
    exact Nat.le_add_right _ _
  have isSized :
      stream.rest memory =
        word element.length.toUInt32 ++ (element ++ tail) := by
    rw [isRest, sized, List.append_assoc]
  obtain ⟨validNext, -, isNext, isPos⟩ := valid_after_word valid isSized
  have enoughNext :
      element.length ≤ ((stream.advance 4).rest memory).length := by
    rw [isNext, List.length_append]
    exact Nat.le_add_right _ _
  have validElement := validNext.make enoughNext
  have isElement := rest_make validNext enoughNext
  rw [isPos] at validElement isElement
  rw [isNext, List.take_left] at isElement
  have isTail :
      (stream.advance (4 + element.length)).rest memory = tail := by
    rw [rest_advance valid enough, isRest]
    exact List.drop_left' (length_sized element)
  exact ⟨validElement, isElement, valid.advance enough, isTail,
    mPos_advance valid enough⟩

/-- `next` takes an element off that is in front, and makes a packet of it. -/
theorem next_eq_ok_iff
    (valid : stream.Valid memory)
    (few : (stream.rest memory).length < 2 ^ 32)
    {packet : Packet}
    {next : PacketStream} :
    PacketStream.next native memory { mStream := stream } =
        .ok packet next ↔
      4 ∣ stream.mPos ∧
        ∃ element tail,
          stream.rest memory = sized element ++ tail ∧
            element.length < 2 ^ 31 ∧
            Packet.ofStream memory (elementOf stream element.length) =
              .ok packet ∧
            next = { mStream := stream.advance (4 + element.length) } := by
  by_cases aligned : 4 ∣ stream.mPos
  · rw [PacketStream.next, PacketStream.onStream]
    simp only [onPart_bind_eq_ok_iff, getInt32_eq_ok_iff valid aligned]
    constructor
    · intro returns
      rcases returns with ⟨size, _, ⟨⟨trailing, isRest⟩, rfl⟩, returns⟩
      obtain ⟨validNext, -, isNext, isPos⟩ := valid_after_word valid isRest
      obtain ⟨element, makes, returns⟩ := observe_bind_eq_ok_iff.mp returns
      obtain ⟨_, _, skips, returns⟩ := onPart_bind_eq_ok_iff.mp returns
      obtain ⟨enough, rfl⟩ := (skip_eq_ok_iff validNext).mp skips
      obtain ⟨isPacket, rfl⟩ := observe_eq_ok_iff.mp returns
      obtain rfl : Stream.make (stream.mPos + 4) (toSize size) = element := by
        rw [← isPos]
        exact Except.ok.inj ((sub_eq validNext enough).symm.trans makes)
      rw [isNext] at enough
      have long : 4 + toSize size ≤ (stream.rest memory).length := by
        rw [isRest, List.length_append, length_word]
        exact Nat.add_le_add_left enough 4
      have nonneg : ¬ size < 0 := by
        intro negative
        have huge := le_toSize_of_neg negative
        omega
      have isLength : (trailing.take (toSize size)).length = toSize size :=
        List.length_take_of_le enough
      refine ⟨aligned, trailing.take (toSize size),
        trailing.drop (toSize size), ?_, ?_, ?_, ?_⟩
      · rw [sized, isLength, toUInt32_toSize nonneg, List.append_assoc,
          List.take_append_drop]
        exact isRest
      · rw [isLength]
        exact toSize_lt nonneg
      · rw [isLength]
        exact isPacket
      · rw [isLength]
        exact congrArg PacketStream.mk (advance_advance valid long)
    · intro inFront
      rcases inFront with ⟨-, element, tail, isRest, small, isPacket, rfl⟩
      have isSized :
          stream.rest memory =
            word element.length.toUInt32 ++ (element ++ tail) := by
        rw [isRest, sized, List.append_assoc]
      obtain ⟨validNext, -, isNext, isPos⟩ :=
        valid_after_word valid isSized
      have isSize := toSize_of_small small
      have enough :
          element.length ≤ ((stream.advance 4).rest memory).length := by
        rw [isNext, List.length_append]
        exact Nat.le_add_right _ _
      have long : 4 + element.length ≤ (stream.rest memory).length := by
        rw [isRest, List.length_append, length_sized]
        exact Nat.le_add_right _ _
      refine ⟨element.length.toUInt32.toInt32, _,
        ⟨⟨element ++ tail, isSized⟩, rfl⟩, ?_⟩
      refine observe_bind_eq_ok_iff.mpr
        ⟨elementOf stream element.length, ?_, ?_⟩
      · rw [isSize, elementOf, ← isPos]
        exact sub_eq validNext enough
      · rw [isSize]
        refine onPart_bind_eq_ok_iff.mpr
          ⟨(), _, (skip_eq_ok_iff validNext).mpr ⟨enough, rfl⟩, ?_⟩
        refine observe_eq_ok_iff.mpr ⟨isPacket, ?_⟩
        exact congrArg PacketStream.mk (advance_advance valid long).symm
  · constructor
    · intro returns
      rw [PacketStream.next, PacketStream.onStream,
        onPart_bind_eq_ok_iff] at returns
      obtain ⟨_, _, gets, -⟩ := returns
      exact (getInt32_ne_ok valid aligned _ _ gets).elim
    · intro inFront
      exact (aligned inFront.1).elim

end Packets

end Pwcpp.Oscpp
