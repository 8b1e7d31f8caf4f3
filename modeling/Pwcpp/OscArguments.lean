import Pwcpp.OscServer

namespace Pwcpp.Oscpp

open ThrowingMethods

/-!
# What the arguments of a message are read as

One lemma for each function that takes an argument off the streams: with the
tags and the data in front it returns exactly what the dialect says.  Printing
follows by induction; for an array it comes down to `dropArray`, which goes
over the elements with a counter of brackets.
-/

section ArgStreams

variable
  {memory : Memory}
  {args : ArgStream}

/-- The streams are valid, aligned, and have these bytes in front. -/
structure ArgStream.At
    (memory : Memory)
    (args : ArgStream)
    (tags data : List UInt8) : Prop where
  validTags :
    args.mTags.Valid memory
  validArgs :
    args.mArgs.Valid memory
  isTags :
    args.mTags.rest memory = tags
  isData :
    args.mArgs.rest memory = data
  aligned :
    4 ∣ args.mArgs.mPos

/-- The streams after some tags and some data. -/
def ArgStream.moved (args : ArgStream) (tags data : Nat) : ArgStream :=
  { mTags := args.mTags.advance tags, mArgs := args.mArgs.advance data }

/-- Going over tags and whole words of data. -/
theorem ArgStream.At.moved
    {firstTags tags firstData data : List UInt8}
    (atBytes : args.At memory (firstTags ++ tags) (firstData ++ data))
    (words : 4 ∣ firstData.length) :
    (args.moved firstTags.length firstData.length).At memory tags data := by
  have enoughTags : firstTags.length ≤ (args.mTags.rest memory).length := by
    rw [atBytes.isTags, List.length_append]
    exact Nat.le_add_right _ _
  have enoughData : firstData.length ≤ (args.mArgs.rest memory).length := by
    rw [atBytes.isData, List.length_append]
    exact Nat.le_add_right _ _
  have isTags :
      (args.mTags.advance firstTags.length).rest memory = tags := by
    rw [rest_advance atBytes.validTags enoughTags, atBytes.isTags,
      List.drop_left]
  have isData :
      (args.mArgs.advance firstData.length).rest memory = data := by
    rw [rest_advance atBytes.validArgs enoughData, atBytes.isData,
      List.drop_left]
  exact ⟨atBytes.validTags.advance enoughTags,
    atBytes.validArgs.advance enoughData, isTags, isData,
    aligned_advance atBytes.validArgs atBytes.aligned words enoughData⟩

/-- Going on after some tags and some data. -/
theorem ArgStream.At.moved_moved
    {tags data : List UInt8}
    (atBytes : args.At memory tags data)
    {firstTags secondTags firstData secondData : Nat}
    (enoughTags : firstTags + secondTags ≤ tags.length)
    (enoughData : firstData + secondData ≤ data.length) :
    (args.moved firstTags firstData).moved secondTags secondData =
      args.moved (firstTags + secondTags) (firstData + secondData) := by
  rw [← atBytes.isTags] at enoughTags
  rw [← atBytes.isData] at enoughData
  rw [ArgStream.moved, ArgStream.moved, ArgStream.moved,
    advance_advance atBytes.validTags enoughTags,
    advance_advance atBytes.validArgs enoughData]

/-- Going nowhere. -/
theorem ArgStream.At.moved_zero
    {tags data : List UInt8}
    (atBytes : args.At memory tags data) :
    args.moved 0 0 = args := by
  rw [ArgStream.moved, advance_zero atBytes.validTags,
    advance_zero atBytes.validArgs]

/-- Taking a tag off moves over it. -/
theorem ArgStream.At.advance_tags
    {tag : UInt8}
    {tags data : List UInt8}
    (atBytes : args.At memory (tag :: tags) data) :
    { args with mTags := args.mTags.advance 1 } = args.moved 1 0 := by
  rw [ArgStream.moved, advance_zero atBytes.validArgs]

/-- The streams after one tag. -/
theorem ArgStream.At.tail
    {tag : UInt8}
    {tags data : List UInt8}
    (atBytes : args.At memory (tag :: tags) data) :
    (args.moved 1 0).At memory tags data := by
  have split : args.At memory ([tag] ++ tags) ([] ++ data) := atBytes
  exact split.moved (Nat.dvd_zero 4)

/-- The streams after some data. -/
theorem ArgStream.At.afterData
    {tags first data : List UInt8}
    (atBytes : args.At memory tags (first ++ data))
    (words : 4 ∣ first.length) :
    (args.moved 0 first.length).At memory tags data := by
  have split : args.At memory ([] ++ tags) (first ++ data) := atBytes
  exact split.moved words

/-- A method that takes a tag off goes on with what is in front. -/
theorem ArgStream.At.getChar_bind
    {α : Type}
    {tag : UInt8}
    {tags data : List UInt8}
    (atBytes : args.At memory (tag :: tags) data)
    (second : UInt8 → Method ArgStream α) :
    (ArgStream.onTags (ReadStream.getChar memory) >>= second) args =
      second tag (args.moved 1 0) := by
  rw [← atBytes.advance_tags]
  exact bind_of_ok
    (onPart_ok (getChar_of_cons atBytes.validTags atBytes.isTags) _)
    second

end ArgStreams

section Data

variable
  {native : Endian}
  {memory : Memory}
  {args next : ArgStream}
  {tags data : List UInt8}

/-- The size that a nonnegative `int32_t` is converted to. -/
theorem toSize_of_nonneg
    {x : Int32}
    (nonneg : ¬ x < 0) :
    toSize x = x.toNatClampNeg := by
  have isInt := Int32.cast_toNatClampNeg x (Int32.not_lt.mp nonneg)
  have small := x.toNatClampNeg_lt
  rw [toSize, ← isInt]
  omega

/-- The size of a nonnegative `int32_t` is small. -/
theorem toSize_lt
    {x : Int32}
    (nonneg : ¬ x < 0) :
    toSize x < 2 ^ 31 := by
  rw [toSize_of_nonneg nonneg]
  exact x.toNatClampNeg_lt

/-- A negative `int32_t` is converted to a huge size. -/
theorem le_toSize_of_neg
    {x : Int32}
    (negative : x < 0) :
    2 ^ 63 ≤ toSize x := by
  have isNegative : x.toInt < 0 := Int32.lt_iff_toInt_lt.mp negative
  have small := x.le_toInt
  rw [toSize]
  omega

/-- A nonnegative `int32_t` is the word of its size. -/
theorem toUInt32_toSize
    {x : Int32}
    (nonneg : ¬ x < 0) :
    (toSize x).toUInt32 = x.toUInt32 := by
  rw [toSize_of_nonneg nonneg]
  exact congrArg Int32.toUInt32
    (Int32.ofNat_toNatClampNeg x (Int32.not_lt.mp nonneg))

/-- A small size is not negative as an `int32_t`. -/
theorem nonneg_of_small
    {size : Nat}
    (small : size < 2 ^ 31) :
    ¬ size.toUInt32.toInt32 < 0 := by
  have isInt : size.toUInt32.toInt32.toInt = size :=
    Int32.toInt_ofNat_of_lt small
  rw [Int32.lt_iff_toInt_lt, isInt]
  exact Int.not_lt.mpr (Int.natCast_nonneg size)

/-- A small size comes back from its word. -/
theorem toSize_of_small
    {size : Nat}
    (small : size < 2 ^ 31) :
    toSize size.toUInt32.toInt32 = size := by
  rw [toSize_of_nonneg (nonneg_of_small small)]
  exact Int32.toNatClampNeg_ofNat_of_lt small

/-- The stream after a word. -/
theorem valid_after_word
    {stream : Stream}
    (valid : stream.Valid memory)
    {value : UInt32}
    {trailing : List UInt8}
    (isRest : stream.rest memory = word value ++ trailing) :
    (stream.advance 4).Valid memory ∧
      4 ≤ (stream.rest memory).length ∧
      (stream.advance 4).rest memory = trailing ∧
      (stream.advance 4).mPos = stream.mPos + 4 := by
  have enough : 4 ≤ (stream.rest memory).length := by
    rw [isRest, List.length_append, length_word]
    exact Nat.le_add_right _ _
  refine ⟨valid.advance enough, enough, ?_, mPos_advance valid enough⟩
  rw [rest_advance valid enough, isRest]
  exact List.drop_left' (length_word value)

/-- Long enough bytes fall into three parts. -/
theorem exists_parts
    {bytes : List UInt8}
    {first second : Nat}
    (enough : first + second ≤ bytes.length) :
    ∃ value filling later,
      bytes = value ++ filling ++ later ∧
        value.length = first ∧ filling.length = second := by
  refine ⟨bytes.take first, (bytes.drop first).take second,
    bytes.drop (first + second), ?_, ?_, ?_⟩
  · rw [List.append_assoc, ← List.drop_drop, List.take_append_drop,
      List.take_append_drop]
  · exact List.length_take_of_le (Nat.le_of_add_right_le enough)
  · rw [List.length_take_of_le]
    rw [List.length_drop]
    exact Nat.le_sub_of_add_le' enough

/-- The bytes of a blob that is in front. -/
theorem blobBytes_of_rest
    {stream : Stream}
    (valid : stream.Valid memory)
    {value trailing : List UInt8}
    (isRest : stream.rest memory = value ++ trailing) :
    memory.blobBytes { size := value.length, data := stream.mPos } =
      value := by
  have inside : stream.mPos + value.length ≤ stream.mEnd := by
    have isLength := length_rest valid
    rw [isRest, List.length_append] at isLength
    have ends := valid.ends
    omega
  rw [Memory.blobBytes, window_take inside, ← Stream.rest, isRest,
    List.take_left]

/-- Reading data moves over them. -/
theorem ArgStream.At.advance_data
    (atBytes : args.At memory tags data)
    (n : Nat) :
    { args with mArgs := args.mArgs.advance n } = args.moved 0 n := by
  rw [ArgStream.moved, advance_zero atBytes.validTags]

/-- An integer whose word is in front. -/
theorem ArgStream.At.getInt32_eq_ok_iff
    (atBytes : args.At memory tags data)
    {value : Int32} :
    ArgStream.onArgs (ReadStream.getInt32 native memory) args =
        .ok value next ↔
      (∃ trailing, data = word value.toUInt32 ++ trailing) ∧
        next = args.moved 0 4 := by
  rw [ArgStream.onArgs, onPart_eq_ok_iff]
  simp only [Oscpp.getInt32_eq_ok_iff atBytes.validArgs atBytes.aligned,
    and_assoc, exists_and_left, exists_eq_left]
  rw [atBytes.isData, atBytes.advance_data]

/-- A float whose word is in front. -/
theorem ArgStream.At.getFloat32_eq_ok_iff
    (atBytes : args.At memory tags data)
    {value : UInt32} :
    ArgStream.onArgs (ReadStream.getFloat32 native memory) args =
        .ok value next ↔
      (∃ trailing, data = word value ++ trailing) ∧
        next = args.moved 0 4 := by
  rw [ArgStream.onArgs, onPart_eq_ok_iff]
  simp only [Oscpp.getFloat32_eq_ok_iff atBytes.validArgs atBytes.aligned,
    and_assoc, exists_and_left, exists_eq_left]
  rw [atBytes.isData, atBytes.advance_data]

/-- A string that is in front. -/
theorem ArgStream.At.getString_eq_ok_iff
    (atBytes : args.At memory tags data)
    {pointer : Nat} :
    ArgStream.onArgs (ReadStream.getString memory) args =
        .ok pointer next ↔
      ∃ string first trailing,
        data = first ++ trailing ∧
          IsString string first ∧
          memory.cString pointer = .ok string ∧
          pointer = args.mArgs.mPos ∧
          next = args.moved 0 first.length := by
  rw [ArgStream.onArgs, onPart_eq_ok_iff]
  constructor
  · intro returns
    rcases returns with ⟨_, gets, rfl⟩
    obtain ⟨string, first, trailing, isData, isString, isValue, isPos,
        rfl⟩ :=
      (Oscpp.getString_eq_ok_iff atBytes.validArgs).mp gets
    exact ⟨string, first, trailing, atBytes.isData.symm.trans isData,
      isString, isValue, isPos, atBytes.advance_data _⟩
  · intro inFront
    rcases inFront with ⟨string, first, trailing, isData, isString,
      isValue, isPos, rfl⟩
    exact ⟨_, (Oscpp.getString_eq_ok_iff atBytes.validArgs).mpr
      ⟨string, first, trailing, atBytes.isData.trans isData, isString,
        isValue, isPos, rfl⟩, (atBytes.advance_data _).symm⟩

/-- Skipping data that are in front. -/
theorem ArgStream.At.skip_eq_ok_iff
    (atBytes : args.At memory tags data)
    {n : Nat} :
    ArgStream.onArgs (ReadStream.skip n) args = .ok () next ↔
      n ≤ data.length ∧ next = args.moved 0 n := by
  rw [ArgStream.onArgs, onPart_eq_ok_iff]
  simp only [Oscpp.skip_eq_ok_iff atBytes.validArgs, and_assoc,
    exists_and_left, exists_eq_left]
  rw [atBytes.isData, atBytes.advance_data]

/-- The bytes of a blob that is in front. -/
theorem ArgStream.At.blobBytes_eq
    {value filling trailing : List UInt8}
    (atBytes :
      args.At memory tags
        (word value.length.toUInt32 ++ (value ++ filling) ++ trailing)) :
    memory.blobBytes
        { size := value.length, data := args.mArgs.mPos + 4 } =
      value := by
  have isRest := atBytes.isData
  rw [List.append_assoc] at isRest
  obtain ⟨validRest, -, isValue, isPos⟩ :=
    valid_after_word atBytes.validArgs isRest
  rw [List.append_assoc] at isValue
  rw [← isPos]
  exact blobBytes_of_rest validRest isValue

/-- A blob that is in front. -/
theorem ArgStream.At.parseBlob_eq_ok_iff
    (atBytes : args.At memory tags data)
    {blob : Blob} :
    args.parseBlob native memory = .ok blob next ↔
      ∃ value filling trailing,
        data =
            word value.length.toUInt32 ++ (value ++ filling) ++ trailing ∧
          value.length < 2 ^ 31 ∧
          filling.length = fill value.length ∧
          blob = { size := value.length, data := args.mArgs.mPos + 4 } ∧
          next = args.moved 0 (4 + (value.length + filling.length)) := by
  rw [ArgStream.parseBlob, bind_eq_ok_iff]
  constructor
  · intro returns
    rcases returns with ⟨size, _, gets, returns⟩
    obtain ⟨⟨rest, rfl⟩, rfl⟩ := atBytes.getInt32_eq_ok_iff.mp gets
    by_cases negative : size < 0
    · rw [if_pos negative] at returns
      cases returns
    · have afterSize :
          args.At memory ([] ++ tags) (word size.toUInt32 ++ rest) :=
        atBytes
      have atRest : (args.moved 0 4).At memory tags rest :=
        afterSize.moved (by rw [length_word])
      rw [if_neg negative, look_bind, bind_eq_ok_iff] at returns
      obtain ⟨_, _, skips, returns⟩ := returns
      obtain ⟨rfl, rfl⟩ := pure_eq_ok_iff.mp returns
      obtain ⟨enough, rfl⟩ := atRest.skip_eq_ok_iff.mp skips
      have small := toSize_lt negative
      rw [align_eq (by omega)] at enough ⊢
      obtain ⟨value, filling, later, rfl, isValue, isFilling⟩ :=
        exists_parts enough
      have isPos : (args.moved 0 4).mArgs.mPos = args.mArgs.mPos + 4 :=
        (valid_after_word atBytes.validArgs atBytes.isData).2.2.2
      have isNext :
          (args.moved 0 4).moved 0 (value.length + filling.length) =
            args.moved 0 (4 + (value.length + filling.length)) :=
        atBytes.moved_moved (Nat.zero_le _) (by simp)
      have isSize :
          word size.toUInt32 ++ (value ++ filling ++ later) =
            word value.length.toUInt32 ++ (value ++ filling) ++ later := by
        rw [isValue, toUInt32_toSize negative]
        exact (List.append_assoc _ _ _).symm
      have isFill : filling.length = fill value.length := by
        rw [isFilling, isValue]
      rw [← isValue] at small
      rw [← isFilling, ← isValue]
      exact ⟨value, filling, later, isSize, small, isFill, by rw [isPos],
        isNext⟩
  · intro inFront
    rcases inFront with ⟨value, filling, later, rfl, small, isFilling,
      rfl, rfl⟩
    have afterSize :
        args.At memory tags
          (word value.length.toUInt32 ++ (value ++ filling ++ later)) := by
      rw [← List.append_assoc]
      exact atBytes
    have atRest :
        (args.moved 0 4).At memory tags (value ++ filling ++ later) :=
      afterSize.afterData (by rw [length_word])
    have enough :
        value.length + filling.length ≤
          (value ++ filling ++ later).length := by
      rw [List.length_append, List.length_append]
      exact Nat.le_add_right _ _
    have gets :
        ArgStream.onArgs (ReadStream.getInt32 native memory) args =
          .ok value.length.toUInt32.toInt32 (args.moved 0 4) :=
      atBytes.getInt32_eq_ok_iff.mpr
        ⟨⟨_, List.append_assoc _ _ _⟩, rfl⟩
    have isPos : (args.moved 0 4).mArgs.mPos = args.mArgs.mPos + 4 :=
      (valid_after_word afterSize.validArgs afterSize.isData).2.2.2
    have isNext :
        (args.moved 0 4).moved 0 (value.length + filling.length) =
          args.moved 0 (4 + (value.length + filling.length)) :=
      afterSize.moved_moved (Nat.zero_le _) (by simp)
    have skips :
        ArgStream.onArgs
            (ReadStream.skip
              (align (toSize value.length.toUInt32.toInt32)))
            (args.moved 0 4) =
          .ok ()
            (args.moved 0 (4 + (value.length + filling.length))) := by
      rw [toSize_of_small small, align_eq (by omega), ← isFilling]
      exact atRest.skip_eq_ok_iff.mpr ⟨enough, isNext.symm⟩
    refine ⟨_, _, gets, ?_⟩
    rw [if_neg (nonneg_of_small small), look_bind, bind_of_ok skips,
      toSize_of_small small, isPos]
    rfl

end Data

section Atoms

variable
  {native : Endian}
  {memory : Memory}
  {args next : ArgStream}
  {tags data : List UInt8}

/-- The bytes are the data of an argument that is not an array. -/
def IsAtom (tag : UInt8) (bytes : List UInt8) : Prop :=
  if tag = 'i'.toUInt8 ∨ tag = 'f'.toUInt8 then
    bytes.length = 4
  else if tag = 's'.toUInt8 then
    ∃ value, IsString value bytes
  else if tag = 'b'.toUInt8 then
    ∃ value filling,
      bytes = word value.length.toUInt32 ++ (value ++ filling) ∧
        value.length < 2 ^ 31 ∧
        filling.length = fill value.length
  else
    bytes = []

/-- Skipping a word. -/
theorem ArgStream.At.skip_word_eq_ok_iff
    (atBytes : args.At memory tags data) :
    ArgStream.onArgs (ReadStream.skip 4) args = .ok () next ↔
      ∃ first trailing,
        data = first ++ trailing ∧ first.length = 4 ∧
          next = args.moved 0 first.length := by
  rw [atBytes.skip_eq_ok_iff]
  constructor
  · intro skips
    rcases skips with ⟨enough, rfl⟩
    have isWord : (data.take 4).length = 4 := List.length_take_of_le enough
    exact ⟨data.take 4, data.drop 4, (List.take_append_drop 4 data).symm,
      isWord, by rw [isWord]⟩
  · intro inFront
    rcases inFront with ⟨first, trailing, rfl, isWord, rfl⟩
    rw [isWord, List.length_append, isWord]
    exact ⟨Nat.le_add_right _ _, rfl⟩

/-- What `dropAtom` goes over. -/
theorem ArgStream.At.dropAtom_eq_ok_iff
    (atBytes : args.At memory tags data)
    {tag : UInt8} :
    ArgStream.dropAtom native memory tag args = .ok () next ↔
      ∃ first trailing,
        data = first ++ trailing ∧ IsAtom tag first ∧
          next = args.moved 0 first.length := by
  by_cases isInt : tag = 'i'.toUInt8
  · rw [ArgStream.dropAtom, if_pos isInt, atBytes.skip_word_eq_ok_iff]
    simp only [IsAtom, isInt, true_or, if_true]
  by_cases isFloat : tag = 'f'.toUInt8
  · rw [ArgStream.dropAtom, if_neg isInt, if_pos isFloat,
      atBytes.skip_word_eq_ok_iff]
    simp only [IsAtom, isFloat, or_true, if_true]
  have notWord : ¬ (tag = 'i'.toUInt8 ∨ tag = 'f'.toUInt8) :=
    not_or.mpr ⟨isInt, isFloat⟩
  by_cases isString : tag = 's'.toUInt8
  · rw [ArgStream.dropAtom, if_neg isInt, if_neg isFloat, if_pos isString,
      bind_eq_ok_iff]
    constructor
    · intro drops
      rcases drops with ⟨_, _, gets, returns⟩
      obtain ⟨-, rfl⟩ := pure_eq_ok_iff.mp returns
      obtain ⟨value, first, trailing, isData, holds, -, -, rfl⟩ :=
        atBytes.getString_eq_ok_iff.mp gets
      refine ⟨first, trailing, isData, ?_, rfl⟩
      rw [IsAtom, if_neg notWord, if_pos isString]
      exact ⟨value, holds⟩
    · intro inFront
      rcases inFront with ⟨first, trailing, rfl, isAtom, rfl⟩
      rw [IsAtom, if_neg notWord, if_pos isString] at isAtom
      obtain ⟨value, holds⟩ := isAtom
      have isValue :=
        cString_of_isString atBytes.validArgs atBytes.isData holds
      exact ⟨_, _, atBytes.getString_eq_ok_iff.mpr
        ⟨value, first, trailing, rfl, holds, isValue, rfl, rfl⟩, rfl⟩
  by_cases isBlob : tag = 'b'.toUInt8
  · rw [ArgStream.dropAtom, if_neg isInt, if_neg isFloat, if_neg isString,
      if_pos isBlob, bind_eq_ok_iff]
    constructor
    · intro drops
      rcases drops with ⟨_, _, parses, returns⟩
      obtain ⟨-, rfl⟩ := pure_eq_ok_iff.mp returns
      obtain ⟨value, filling, trailing, isData, small, isFilling, -,
          rfl⟩ :=
        atBytes.parseBlob_eq_ok_iff.mp parses
      refine ⟨_, trailing, isData, ?_, ?_⟩
      · rw [IsAtom, if_neg notWord, if_neg isString, if_pos isBlob]
        exact ⟨value, filling, rfl, small, isFilling⟩
      · rw [List.length_append, List.length_append, length_word]
    · intro inFront
      rcases inFront with ⟨first, trailing, isData, isAtom, rfl⟩
      rw [IsAtom, if_neg notWord, if_neg isString, if_pos isBlob] at isAtom
      obtain ⟨value, filling, rfl, small, isFilling⟩ := isAtom
      refine ⟨_, _, atBytes.parseBlob_eq_ok_iff.mpr
        ⟨value, filling, trailing, isData, small, isFilling, rfl, rfl⟩, ?_⟩
      rw [List.length_append, List.length_append, length_word]
      rfl
  · rw [ArgStream.dropAtom, if_neg isInt, if_neg isFloat, if_neg isString,
      if_neg isBlob, pure_eq_ok_iff]
    simp only [IsAtom, if_neg notWord, if_neg isString, if_neg isBlob]
    constructor
    · intro stays
      rcases stays with ⟨-, rfl⟩
      exact ⟨[], data, rfl, rfl, atBytes.moved_zero.symm⟩
    · intro inFront
      rcases inFront with ⟨first, trailing, -, rfl, rfl⟩
      exact ⟨trivial, atBytes.moved_zero⟩

end Atoms

section Elements

variable
  {native : Endian}
  {memory : Memory}
  {tags data first : List UInt8}

/--
These are the tags and the data of the elements of an array, as a scan that
matches brackets sees them.
-/
inductive IsElements : List UInt8 → List UInt8 → Prop where
  | nil : IsElements [] []
  | atom
      {tag : UInt8}
      {first tags data : List UInt8}
      (notOpen : tag ≠ '['.toUInt8)
      (notClose : tag ≠ ']'.toUInt8)
      (isAtom : IsAtom tag first)
      (rest : IsElements tags data) :
      IsElements (tag :: tags) (first ++ data)
  | array
      {innerTags innerData tags data : List UInt8}
      (inner : IsElements innerTags innerData)
      (rest : IsElements tags data) :
      IsElements ('['.toUInt8 :: (innerTags ++ ']'.toUInt8 :: tags))
        (innerData ++ data)

/-- An argument in front of others. -/
theorem exists_args_of_isAtom
    {tag : UInt8}
    (notOpen : tag ≠ '['.toUInt8)
    (notClose : tag ≠ ']'.toUInt8)
    (isAtom : IsAtom tag first)
    {args : Args (List UInt8)}
    (wellTagged : args.WellTagged)
    (closed : args.Closed)
    (isData : args.IsData data) :
    ∃ more : Args (List UInt8),
      more.WellTagged ∧ more.Closed ∧ more.tags = tag :: args.tags ∧
        more.IsData (first ++ data) := by
  by_cases isInt : tag = 'i'.toUInt8
  · subst tag
    rw [IsAtom, if_pos (Or.inl rfl)] at isAtom
    refine ⟨.int32 (wordOf first).toInt32 args, wellTagged, closed, rfl,
      data, ?_, isData⟩
    rw [UInt32.toUInt32_toInt32, word_wordOf isAtom]
  by_cases isFloat : tag = 'f'.toUInt8
  · subst tag
    rw [IsAtom, if_pos (Or.inr rfl)] at isAtom
    refine ⟨.float32 (wordOf first) args, wellTagged, closed, rfl,
      data, ?_, isData⟩
    rw [word_wordOf isAtom]
  have notWord : ¬ (tag = 'i'.toUInt8 ∨ tag = 'f'.toUInt8) :=
    not_or.mpr ⟨isInt, isFloat⟩
  by_cases isString : tag = 's'.toUInt8
  · rw [IsAtom, if_neg notWord, if_pos isString] at isAtom
    obtain ⟨value, holds⟩ := isAtom
    subst tag
    exact ⟨.string value args, wellTagged, closed, rfl, first, data, rfl,
      holds, isData⟩
  by_cases isBlob : tag = 'b'.toUInt8
  · rw [IsAtom, if_neg notWord, if_neg isString, if_pos isBlob] at isAtom
    obtain ⟨value, filling, rfl, small, isFilling⟩ := isAtom
    subst tag
    exact ⟨.blob value args, wellTagged, closed, rfl, filling, data, rfl,
      small, isFilling, isData⟩
  · rw [IsAtom, if_neg notWord, if_neg isString, if_neg isBlob] at isAtom
    subst first
    exact ⟨.other tag args,
      ⟨⟨isInt, isFloat, isString, isBlob, notOpen⟩, wellTagged⟩,
      ⟨notClose, closed⟩, rfl, isData⟩

/-- What a scan takes for the elements of an array are arguments. -/
theorem IsElements.exists_args
    (elements : IsElements tags data) :
    ∃ args : Args (List UInt8),
      args.WellTagged ∧ args.Closed ∧ args.tags = tags ∧
        args.IsData data := by
  induction elements with
  | nil =>
      exact ⟨.nil, trivial, trivial, rfl, rfl⟩
  | atom notOpen notClose isAtom rest inductionHypothesis =>
      obtain ⟨args, wellTagged, closed, rfl, isData⟩ := inductionHypothesis
      exact exists_args_of_isAtom notOpen notClose isAtom wellTagged closed
        isData
  | array inner rest innerHypothesis restHypothesis =>
      obtain ⟨innerArgs, innerTagged, innerClosed, rfl, isInner⟩ :=
        innerHypothesis
      obtain ⟨args, wellTagged, closed, rfl, isData⟩ := restHypothesis
      exact ⟨.array innerArgs args, ⟨innerTagged, innerClosed, wellTagged⟩,
        closed, rfl, _, _, rfl, isInner, isData⟩

/-- A scan sees arguments as elements of an array. -/
theorem isElements_of_args
    {args : Args (List UInt8)}
    (wellTagged : args.WellTagged)
    (closed : args.Closed)
    (isData : args.IsData data) :
    IsElements args.tags data := by
  induction args generalizing data with
  | nil =>
      obtain rfl : data = [] := isData
      exact .nil
  | int32 value rest inductionHypothesis
  | float32 value rest inductionHypothesis =>
      obtain ⟨tail, rfl, isTail⟩ := isData
      exact .atom (by decide) (by decide) (length_word _)
        (inductionHypothesis wellTagged closed isTail)
  | string value rest inductionHypothesis =>
      obtain ⟨bytes, tail, rfl, isString, isTail⟩ := isData
      exact .atom (by decide) (by decide) ⟨value, isString⟩
        (inductionHypothesis wellTagged closed isTail)
  | blob value rest inductionHypothesis =>
      obtain ⟨filling, tail, rfl, small, isFilling, isTail⟩ := isData
      exact .atom (by decide) (by decide)
        ⟨value, filling, rfl, small, isFilling⟩
        (inductionHypothesis wellTagged closed isTail)
  | array elements rest elementsHypothesis restHypothesis =>
      obtain ⟨inner, tail, rfl, isInner, isTail⟩ := isData
      obtain ⟨innerTagged, innerClosed, restTagged⟩ := wellTagged
      exact .array (elementsHypothesis innerTagged innerClosed isInner)
        (restHypothesis restTagged closed isTail)
  | other tag rest inductionHypothesis =>
      obtain ⟨⟨notInt, notFloat, notString, notBlob, notOpen⟩,
        restTagged⟩ := wellTagged
      have isAtom : IsAtom tag [] := by
        rw [IsAtom, if_neg (not_or.mpr ⟨notInt, notFloat⟩),
          if_neg notString, if_neg notBlob]
      exact .atom notOpen closed.1 isAtom
        (inductionHypothesis restTagged closed.2 isData)

/-- The data of an argument fill words. -/
theorem IsAtom.four_dvd
    {tag : UInt8}
    (isAtom : IsAtom tag first) :
    4 ∣ first.length := by
  rw [IsAtom] at isAtom
  split at isAtom
  · rw [isAtom]
  · split at isAtom
    · obtain ⟨value, isString⟩ := isAtom
      exact isString.length.1
    · split at isAtom
      · obtain ⟨value, filling, rfl, -, isFilling⟩ := isAtom
        rw [List.length_append, List.length_append, length_word, isFilling]
        exact Nat.dvd_add (Nat.dvd_refl 4) (four_dvd_add_fill _)
      · rw [isAtom]
        exact Nat.dvd_zero 4

/-- The data of elements fill words. -/
theorem IsElements.four_dvd
    (elements : IsElements tags data) :
    4 ∣ data.length := by
  obtain ⟨args, -, -, -, isData⟩ := elements.exists_args
  exact isData.four_dvd

variable {args next : ArgStream}

/-- At the end of the tags `dropArray` throws. -/
theorem ArgStream.At.dropArrayFrom_nil
    (atBytes : args.At memory [] data)
    (fuel level : Nat) :
    ArgStream.dropArrayFrom native memory (fuel + 1) level args =
      .error (.thrown .underrunError) args :=
  bind_of_error
    (onPart_error (getChar_of_nil atBytes.validTags atBytes.isTags) _) _

/-- A closing bracket goes up a level, or ends the array. -/
theorem ArgStream.At.dropArrayFrom_close
    (atBytes : args.At memory (']'.toUInt8 :: tags) data)
    (fuel level : Nat) :
    ArgStream.dropArrayFrom native memory (fuel + 1) level args =
      if level = 0 then
        .ok () (args.moved 1 0)
      else
        ArgStream.dropArrayFrom native memory fuel (level - 1)
          (args.moved 1 0) := by
  rw [ArgStream.dropArrayFrom, atBytes.getChar_bind, if_pos rfl]
  split <;> rfl

/-- An opening bracket goes down a level. -/
theorem ArgStream.At.dropArrayFrom_open
    (atBytes : args.At memory ('['.toUInt8 :: tags) data)
    (fuel level : Nat) :
    ArgStream.dropArrayFrom native memory (fuel + 1) level args =
      ArgStream.dropArrayFrom native memory fuel ((level + 1) % 2 ^ 32)
        (args.moved 1 0) := by
  rw [ArgStream.dropArrayFrom, atBytes.getChar_bind,
    if_neg (by decide), if_pos rfl]

/-- Another tag is dropped. -/
theorem ArgStream.At.dropArrayFrom_other
    {tag : UInt8}
    (atBytes : args.At memory (tag :: tags) data)
    (notOpen : tag ≠ '['.toUInt8)
    (notClose : tag ≠ ']'.toUInt8)
    (fuel level : Nat) :
    ArgStream.dropArrayFrom native memory (fuel + 1) level args =
      (do
        ArgStream.dropAtom native memory tag
        ArgStream.dropArrayFrom native memory fuel level)
        (args.moved 1 0) := by
  rw [ArgStream.dropArrayFrom, atBytes.getChar_bind, if_neg notClose,
    if_neg notOpen]

/-- A tag and its data, one after the other. -/
theorem ArgStream.At.moved_tag_data
    {tag : UInt8}
    (atBytes : args.At memory (tag :: tags) (first ++ data)) :
    (args.moved 1 0).moved 0 first.length = args.moved 1 first.length := by
  rw [atBytes.moved_moved (by simp) (by simp), Nat.zero_add]

/-- The streams after a tag and its data. -/
theorem ArgStream.At.atom
    {tag : UInt8}
    (atBytes : args.At memory (tag :: tags) (first ++ data))
    (words : 4 ∣ first.length) :
    (args.moved 1 first.length).At memory tags data := by
  have split : args.At memory ([tag] ++ tags) (first ++ data) := atBytes
  exact split.moved words

/-- Dropping goes over an argument that is not an array. -/
theorem ArgStream.At.dropArrayFrom_atom
    {tag : UInt8}
    (atBytes : args.At memory (tag :: tags) (first ++ data))
    (notOpen : tag ≠ '['.toUInt8)
    (notClose : tag ≠ ']'.toUInt8)
    (isAtom : IsAtom tag first)
    (fuel level : Nat) :
    ArgStream.dropArrayFrom native memory (fuel + 1) level args =
      ArgStream.dropArrayFrom native memory fuel level
        (args.moved 1 first.length) := by
  have drops :
      ArgStream.dropAtom native memory tag (args.moved 1 0) =
        .ok () (args.moved 1 first.length) :=
    atBytes.tail.dropAtom_eq_ok_iff.mpr
      ⟨first, data, rfl, isAtom, atBytes.moved_tag_data.symm⟩
  rw [atBytes.dropArrayFrom_other notOpen notClose, bind_of_ok drops]

/-- Dropping goes over all elements of an array, to its closing bracket. -/
theorem IsElements.dropArrayFrom
    {elementTags elementData : List UInt8}
    (elements : IsElements elementTags elementData)
    (atBytes : args.At memory (elementTags ++ tags) (elementData ++ data))
    {level : Nat}
    (few : level + elementTags.length < 2 ^ 32)
    (fuel : Nat) :
    ArgStream.dropArrayFrom native memory (elementTags.length + fuel)
        level args =
      ArgStream.dropArrayFrom native memory fuel level
        (args.moved elementTags.length elementData.length) := by
  induction elements generalizing args tags data level fuel with
  | nil =>
      rw [List.length_nil, Nat.zero_add, atBytes.moved_zero]
  | @atom tag first restTags restData notOpen notClose isAtom rest
      inductionHypothesis =>
      have atAtom :
          args.At memory (tag :: (restTags ++ tags))
            (first ++ (restData ++ data)) := by
        rw [← List.append_assoc]
        exact atBytes
      have isMoved :
          (args.moved 1 first.length).moved restTags.length
              restData.length =
            args.moved (1 + restTags.length)
              (first.length + restData.length) :=
        atAtom.moved_moved (by simp; omega) (by simp)
      rw [List.length_cons] at few ⊢
      rw [Nat.add_right_comm, atAtom.dropArrayFrom_atom notOpen notClose
          isAtom,
        inductionHypothesis (atAtom.atom isAtom.four_dvd) (by omega),
        isMoved, List.length_append, Nat.add_comm 1]
  | @array innerTags innerData restTags restData inner rest innerHypothesis
      restHypothesis =>
      have atOpen :
          args.At memory
            ('['.toUInt8 ::
              (innerTags ++ (']'.toUInt8 :: (restTags ++ tags))))
            (innerData ++ (restData ++ data)) := by
        simpa only [List.cons_append, List.append_assoc] using atBytes
      have atInner := atOpen.tail
      have atClose := atInner.moved inner.four_dvd
      have isFuel :
          ('['.toUInt8 :: (innerTags ++ ']'.toUInt8 :: restTags)).length +
              fuel =
            innerTags.length + (restTags.length + fuel + 1) + 1 := by
        simp only [List.length_cons, List.length_append]
        omega
      simp only [List.length_cons, List.length_append] at few
      rw [isFuel, atOpen.dropArrayFrom_open,
        Nat.mod_eq_of_lt (by omega),
        innerHypothesis atInner (by omega),
        atClose.dropArrayFrom_close, if_neg (Nat.succ_ne_zero level),
        Nat.add_sub_cancel, restHypothesis atClose.tail (by omega),
        atOpen.moved_moved (by simp; omega) (by simp),
        atOpen.moved_moved (by simp; omega) (by simp),
        atOpen.moved_moved (by simp; omega) (by simp)]
      have isTags :
          1 + innerTags.length + 1 + restTags.length =
            ('['.toUInt8 ::
              (innerTags ++ ']'.toUInt8 :: restTags)).length := by
        simp only [List.length_cons, List.length_append]
        omega
      rw [isTags, Nat.zero_add, Nat.add_zero, ← List.length_append]

/-- The streams after elements and a closing bracket. -/
theorem ArgStream.At.afterArray
    {innerTags innerData : List UInt8}
    (atBytes :
      args.At memory (innerTags ++ ']'.toUInt8 :: tags)
        (innerData ++ data))
    (inner : IsElements innerTags innerData) :
    (args.moved (innerTags.length + 1) innerData.length).At memory
      tags data := by
  have split :
      args.At memory ((innerTags ++ [']'.toUInt8]) ++ tags)
        (innerData ++ data) := by
    rw [List.append_assoc]
    exact atBytes
  have after := split.moved inner.four_dvd
  rwa [List.length_append, List.length_singleton] at after

/-- What dropping went over before it came back up from a level. -/
theorem ArgStream.At.exists_elements
    (atBytes : args.At memory tags data)
    {fuel level : Nat}
    (few : level + tags.length < 2 ^ 32)
    (drops :
      ArgStream.dropArrayFrom native memory fuel level args =
        .ok () next) :
    ∃ innerTags laterTags innerData laterData,
      tags = innerTags ++ ']'.toUInt8 :: laterTags ∧
        data = innerData ++ laterData ∧
        IsElements innerTags innerData ∧
        (level = 0 →
          next = args.moved (innerTags.length + 1) innerData.length) ∧
        (0 < level →
          ∃ fuelLeft < fuel,
            ArgStream.dropArrayFrom native memory fuelLeft (level - 1)
                (args.moved (innerTags.length + 1) innerData.length) =
              .ok () next) := by
  induction fuel using Nat.strong_induction_on generalizing level args tags
    data with
  | _ fuel inductionHypothesis =>
      cases fuel with
      | zero =>
          cases drops
      | succ fuel =>
          cases tags with
          | nil =>
              rw [atBytes.dropArrayFrom_nil] at drops
              cases drops
          | cons tag tags =>
              by_cases isClose : tag = ']'.toUInt8
              · subst tag
                rw [atBytes.dropArrayFrom_close] at drops
                refine ⟨[], tags, [], data, rfl, rfl, .nil, ?_, ?_⟩
                · intro isTop
                  rw [if_pos isTop] at drops
                  cases drops
                  rfl
                · intro isInner
                  rw [if_neg (Nat.ne_of_gt isInner)] at drops
                  exact ⟨fuel, Nat.lt_succ_self fuel, drops⟩
              by_cases isOpen : tag = '['.toUInt8
              · subst tag
                rw [List.length_cons] at few
                rw [atBytes.dropArrayFrom_open,
                  Nat.mod_eq_of_lt (by omega)] at drops
                obtain ⟨firstTags, _, firstData, _, rfl, rfl, first, -,
                    goesOn⟩ :=
                  inductionHypothesis fuel (Nat.lt_succ_self fuel)
                    atBytes.tail (by omega) drops
                obtain ⟨fuelLeft, less, dropsOn⟩ :=
                  goesOn (Nat.succ_pos level)
                rw [Nat.add_sub_cancel] at dropsOn
                have atRest := atBytes.tail.afterArray first
                simp only [List.length_append, List.length_cons] at few
                obtain ⟨restTags, laterTags, restData, laterData, rfl, rfl,
                    rest, ends, goesUp⟩ :=
                  inductionHypothesis fuelLeft
                    (Nat.lt_trans less (Nat.lt_succ_self fuel))
                    atRest (by omega) dropsOn
                have isMoved :
                    ((args.moved 1 0).moved (firstTags.length + 1)
                        firstData.length).moved (restTags.length + 1)
                        restData.length =
                      args.moved
                        (('['.toUInt8 ::
                          (firstTags ++ ']'.toUInt8 :: restTags)).length + 1)
                        (firstData ++ restData).length := by
                  rw [atBytes.moved_moved (by simp; omega) (by simp),
                    atBytes.moved_moved (by simp; omega) (by simp)]
                  simp only [List.length_cons, List.length_append,
                    Nat.zero_add]
                  congr 1
                  omega
                rw [isMoved] at ends goesUp
                refine ⟨_, laterTags, _, laterData, ?_,
                  (List.append_assoc _ _ _).symm, .array first rest, ends,
                  ?_⟩
                · simp only [List.cons_append, List.append_assoc]
                · intro isInner
                  obtain ⟨fuelLeft', less', dropsUp⟩ := goesUp isInner
                  exact ⟨fuelLeft', by omega, dropsUp⟩
              · rw [atBytes.dropArrayFrom_other isOpen isClose,
                  bind_eq_ok_iff] at drops
                obtain ⟨_, _, dropsAtom, dropsOn⟩ := drops
                obtain ⟨first, trailing, rfl, isAtom, rfl⟩ :=
                  atBytes.tail.dropAtom_eq_ok_iff.mp dropsAtom
                rw [atBytes.moved_tag_data] at dropsOn
                rw [List.length_cons] at few
                obtain ⟨restTags, laterTags, restData, laterData, rfl, rfl,
                    rest, ends, goesUp⟩ :=
                  inductionHypothesis fuel (Nat.lt_succ_self fuel)
                    (atBytes.atom isAtom.four_dvd) (by omega) dropsOn
                have isMoved :
                    (args.moved 1 first.length).moved (restTags.length + 1)
                        restData.length =
                      args.moved ((tag :: restTags).length + 1)
                        (first ++ restData).length := by
                  rw [atBytes.moved_moved (by simp; omega) (by simp)]
                  simp only [List.length_cons, List.length_append]
                  congr 1
                  omega
                rw [isMoved] at ends goesUp
                refine ⟨_, laterTags, _, laterData, rfl,
                  (List.append_assoc _ _ _).symm,
                  .atom isOpen isClose isAtom rest, ends, ?_⟩
                intro isInner
                obtain ⟨fuelLeft, less, dropsUp⟩ := goesUp isInner
                exact ⟨fuelLeft, by omega, dropsUp⟩

/-- `dropArray` goes over elements and their closing bracket. -/
theorem ArgStream.At.dropArray_eq_ok_iff
    (atBytes : args.At memory tags data)
    (few : tags.length < 2 ^ 32) :
    args.dropArray native memory = .ok () next ↔
      ∃ innerTags laterTags innerData laterData,
        tags = innerTags ++ ']'.toUInt8 :: laterTags ∧
          data = innerData ++ laterData ∧
          IsElements innerTags innerData ∧
          next = args.moved (innerTags.length + 1) innerData.length := by
  have isCount : args.mTags.consumable = tags.length := by
    rw [consumable_eq atBytes.validTags, atBytes.isTags]
  rw [ArgStream.dropArray, look_bind, isCount]
  constructor
  · intro drops
    obtain ⟨innerTags, laterTags, innerData, laterData, isTags, isData,
        inner, ends, -⟩ :=
      atBytes.exists_elements (by omega) drops
    exact ⟨innerTags, laterTags, innerData, laterData, isTags, isData,
      inner, ends rfl⟩
  · intro inFront
    rcases inFront with ⟨innerTags, laterTags, innerData, laterData, rfl,
      rfl, inner, rfl⟩
    have isFuel :
        (innerTags ++ ']'.toUInt8 :: laterTags).length + 1 =
          innerTags.length + (laterTags.length + 1 + 1) := by
      rw [List.length_append, List.length_cons]
      rfl
    rw [List.length_append] at few
    rw [isFuel, inner.dropArrayFrom atBytes (by omega),
      (atBytes.moved inner.four_dvd).dropArrayFrom_close, if_pos rfl,
      atBytes.moved_moved (by simp) (by simp)]
    rfl

/-- The streams of an array whose elements are in front. -/
def ArgStream.arrayOf (args : ArgStream) (tags data : Nat) : ArgStream :=
  { mTags := Stream.make args.mTags.mPos tags
    mArgs := Stream.make args.mArgs.mPos data }

/-- The streams of an array have its elements in front. -/
theorem ArgStream.At.arrayOf
    {innerTags innerData : List UInt8}
    (atBytes : args.At memory (innerTags ++ tags) (innerData ++ data)) :
    (args.arrayOf innerTags.length innerData.length).At memory
      innerTags innerData := by
  have enoughTags : innerTags.length ≤ (args.mTags.rest memory).length := by
    rw [atBytes.isTags, List.length_append]
    exact Nat.le_add_right _ _
  have enoughData : innerData.length ≤ (args.mArgs.rest memory).length := by
    rw [atBytes.isData, List.length_append]
    exact Nat.le_add_right _ _
  have isTags :
      (Stream.make args.mTags.mPos innerTags.length).rest memory =
        innerTags := by
    rw [rest_make atBytes.validTags enoughTags, atBytes.isTags,
      List.take_left]
  have isData :
      (Stream.make args.mArgs.mPos innerData.length).rest memory =
        innerData := by
    rw [rest_make atBytes.validArgs enoughData, atBytes.isData,
      List.take_left]
  exact ⟨atBytes.validTags.make enoughTags,
    atBytes.validArgs.make enoughData, isTags, isData, atBytes.aligned⟩

/-- The streams that `array` makes of how far `dropArray` went. -/
theorem ArgStream.At.arrayOf_eq
    (atBytes : args.At memory tags data)
    {tagCount dataCount : Nat}
    (enoughTags : tagCount + 1 ≤ tags.length)
    (enoughData : dataCount ≤ data.length) :
    ArgStream.mk
        (Stream.make args.mTags.mPos
          (ptrSub
            (ptrSub (args.moved (tagCount + 1) dataCount).mTags.mPos
              args.mTags.mPos)
            1))
        (Stream.make args.mArgs.mPos
          (ptrSub (args.moved (tagCount + 1) dataCount).mArgs.mPos
            args.mArgs.mPos)) =
      args.arrayOf tagCount dataCount := by
  rw [← atBytes.isTags] at enoughTags
  rw [← atBytes.isData] at enoughData
  have small : tagCount + 1 < 2 ^ 64 := by
    have bounded := atBytes.validTags.bounded
    rw [length_rest atBytes.validTags] at enoughTags
    omega
  rw [ArgStream.moved, ptrSub_advance atBytes.validTags enoughTags,
    ptrSub_advance atBytes.validArgs enoughData,
    ptrSub_eq small (Nat.le_add_left 1 tagCount), Nat.add_sub_cancel]
  rfl

/-- `array` returns the streams of an array that is in front. -/
theorem ArgStream.At.array_eq_ok_iff
    (atBytes : args.At memory ('['.toUInt8 :: tags) data)
    (few : tags.length < 2 ^ 32)
    {array : ArgStream} :
    args.array native memory = .ok array next ↔
      ∃ innerTags laterTags innerData laterData,
        tags = innerTags ++ ']'.toUInt8 :: laterTags ∧
          data = innerData ++ laterData ∧
          IsElements innerTags innerData ∧
          next = args.moved (innerTags.length + 2) innerData.length ∧
          array =
            (args.moved 1 0).arrayOf innerTags.length innerData.length := by
  have atTail := atBytes.tail
  rw [ArgStream.array, atBytes.getChar_bind, if_pos rfl, look_bind,
    look_bind, bind_eq_ok_iff]
  constructor
  · intro returns
    rcases returns with ⟨_, _, drops, sees⟩
    obtain ⟨innerTags, laterTags, innerData, laterData, rfl, rfl, inner,
        rfl⟩ :=
      (atTail.dropArray_eq_ok_iff few).mp drops
    obtain ⟨isMade, rfl⟩ := observe_eq_ok_iff.mp sees
    refine ⟨innerTags, laterTags, innerData, laterData, rfl, rfl, inner,
      ?_, ?_⟩
    · rw [atBytes.moved_moved (by simp; omega) (by simp), Nat.zero_add,
        Nat.add_comm 1]
    · rw [← atTail.arrayOf_eq (by simp) (by simp)]
      exact (Except.ok.inj isMade).symm
  · intro inFront
    rcases inFront with ⟨innerTags, laterTags, innerData, laterData, rfl,
      rfl, inner, rfl, rfl⟩
    refine ⟨(), _, (atTail.dropArray_eq_ok_iff few).mpr
      ⟨innerTags, laterTags, innerData, laterData, rfl, rfl, inner, rfl⟩,
      ?_⟩
    rw [observe_eq_ok_iff, ← atTail.arrayOf_eq (by simp) (by simp),
      atBytes.moved_moved (by simp; omega) (by simp), Nat.zero_add,
      Nat.add_comm 1]
    exact ⟨rfl, rfl⟩

end Elements

end Pwcpp.Oscpp
