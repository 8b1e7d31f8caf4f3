import Pwcpp.OscArguments

namespace Pwcpp.Oscpp

open ThrowingMethods

/-!
# What printing reads

Printing a packet that starts at a multiple of four succeeds exactly when its
bytes are those of some content, and then prints this content.  Both
directions go by induction on the steps that are left: what one step reads is
known from the functions that take an argument or a packet off a stream.
-/

section Arguments

variable
  {native : Endian}
  {conversions : Conversions}
  {memory : Memory}
  {args next : ArgStream}
  {tags data : List UInt8}

/-- `int32` returns an integer that is in front. -/
theorem ArgStream.At.int32_eq_ok_iff
    (atBytes : args.At memory ('i'.toUInt8 :: tags) data)
    {value : Int32} :
    args.int32 native memory conversions = .ok value next ↔
      (∃ trailing, data = word value.toUInt32 ++ trailing) ∧
        next = (args.moved 1 0).moved 0 4 := by
  rw [ArgStream.int32, atBytes.getChar_bind, if_pos rfl,
    atBytes.tail.getInt32_eq_ok_iff]

/-- `float32` returns a float that is in front. -/
theorem ArgStream.At.float32_eq_ok_iff
    (atBytes : args.At memory ('f'.toUInt8 :: tags) data)
    {value : UInt32} :
    args.float32 native memory conversions = .ok value next ↔
      (∃ trailing, data = word value ++ trailing) ∧
        next = (args.moved 1 0).moved 0 4 := by
  rw [ArgStream.float32, atBytes.getChar_bind, if_pos rfl,
    atBytes.tail.getFloat32_eq_ok_iff]

/-- `string` returns where a string is that is in front. -/
theorem ArgStream.At.string_eq_ok_iff
    (atBytes : args.At memory ('s'.toUInt8 :: tags) data)
    {pointer : Nat} :
    args.string memory = .ok pointer next ↔
      ∃ string first trailing,
        data = first ++ trailing ∧
          IsString string first ∧
          memory.cString pointer = .ok string ∧
          pointer = (args.moved 1 0).mArgs.mPos ∧
          next = (args.moved 1 0).moved 0 first.length := by
  rw [ArgStream.string, atBytes.getChar_bind, if_pos rfl,
    atBytes.tail.getString_eq_ok_iff]

/-- `blob` returns where a blob is that is in front. -/
theorem ArgStream.At.blob_eq_ok_iff
    (atBytes : args.At memory ('b'.toUInt8 :: tags) data)
    {blob : Blob} :
    args.blob native memory = .ok blob next ↔
      ∃ value filling trailing,
        data =
            word value.length.toUInt32 ++ (value ++ filling) ++ trailing ∧
          value.length < 2 ^ 31 ∧
          filling.length = fill value.length ∧
          blob =
            { size := value.length
              data := (args.moved 1 0).mArgs.mPos + 4 } ∧
          next =
            (args.moved 1 0).moved 0
              (4 + (value.length + filling.length)) := by
  rw [ArgStream.blob, atBytes.getChar_bind, if_pos rfl,
    atBytes.tail.parseBlob_eq_ok_iff]

/-- `drop` goes over an argument of another type. -/
theorem ArgStream.At.drop_eq_ok_iff
    {tag : UInt8}
    (atBytes : args.At memory (tag :: tags) data)
    (isOther : IsOtherTag tag) :
    args.drop native memory = .ok () next ↔ next = args.moved 1 0 := by
  obtain ⟨notInt, notFloat, notString, notBlob, notOpen⟩ := isOther
  rw [ArgStream.drop, atBytes.getChar_bind, ArgStream.dropType,
    if_neg notOpen, ArgStream.dropAtom, if_neg notInt, if_neg notFloat,
    if_neg notString, if_neg notBlob, pure_eq_ok_iff]
  simp only [true_and]

variable (native conversions memory)

/-- The loop prints these arguments. -/
def PrintsArgs
    (fuel : Nat)
    (args : ArgStream)
    (read : Args (List UInt8)) : Prop :=
  ∃ printed final,
    printArgsFrom native conversions memory fuel args =
        .ok printed final ∧
      printed.map memory.blobBytes = read

variable {native conversions memory}

/-- A step that reads one value, and the steps after it. -/
theorem prints_step_iff
    {α : Type}
    {read : Args (List UInt8)}
    {fuel : Nat}
    {value : Method ArgStream α}
    {node : α → Args Blob → Args Blob}
    {readNode : α → Args (List UInt8) → Args (List UInt8)}
    (isNode :
      ∀ value rest,
        (node value rest).map memory.blobBytes =
          readNode value (rest.map memory.blobBytes)) :
    (∃ printed final,
      (do
        let value ← value
        let rest ← printArgsFrom native conversions memory fuel
        return node value rest) args = .ok printed final ∧
        printed.map memory.blobBytes = read) ↔
      ∃ seen next rest,
        value args = .ok seen next ∧
          PrintsArgs native conversions memory fuel next rest ∧
          read = readNode seen rest := by
  constructor
  · intro prints
    rcases prints with ⟨_, _, returns, rfl⟩
    obtain ⟨seen, next, sees, returns⟩ := bind_eq_ok_iff.mp returns
    obtain ⟨rest, final, restPrints, returns⟩ := bind_eq_ok_iff.mp returns
    obtain ⟨rfl, rfl⟩ := pure_eq_ok_iff.mp returns
    exact ⟨seen, next, _, sees, ⟨rest, _, restPrints, rfl⟩,
      isNode seen rest⟩
  · intro steps
    rcases steps with ⟨seen, next, _, sees, ⟨rest, final, prints, rfl⟩,
      rfl⟩
    refine ⟨node seen rest, final, ?_, isNode seen rest⟩
    rw [bind_of_ok sees, bind_of_ok prints]
    rfl

/-- Without tags nothing is printed. -/
theorem ArgStream.At.printArgsFrom_nil
    (atBytes : args.At memory [] data)
    (fuel : Nat) :
    printArgsFrom native conversions memory (fuel + 1) args =
      .ok .nil args := by
  have isEnd : args.atEnd = true :=
    (atEnd_iff atBytes.validTags).mpr atBytes.isTags
  rw [printArgsFrom, look_bind, isEnd, if_pos rfl]
  rfl

/-- With a tag in front the loop does what the tag says. -/
theorem ArgStream.At.printArgsFrom_cons
    {tag : UInt8}
    (atBytes : args.At memory (tag :: tags) data)
    (fuel : Nat) :
    printArgsFrom native conversions memory (fuel + 1) args =
      (if tag = 'i'.toUInt8 then do
        let value ← ArgStream.int32 native memory conversions
        let rest ← printArgsFrom native conversions memory fuel
        return .int32 value rest
      else if tag = 'f'.toUInt8 then do
        let value ← ArgStream.float32 native memory conversions
        let rest ← printArgsFrom native conversions memory fuel
        return .float32 value rest
      else if tag = 's'.toUInt8 then do
        let string ← ArgStream.string memory
        let value ← observe fun _ => memory.cString string
        let rest ← printArgsFrom native conversions memory fuel
        return .string value rest
      else if tag = 'b'.toUInt8 then do
        let value ← ArgStream.blob native memory
        let rest ← printArgsFrom native conversions memory fuel
        return .blob value rest
      else if tag = '['.toUInt8 then do
        let array ← ArgStream.array native memory
        let (elements, _) ← observe fun _ =>
          callOn array (printArgsFrom native conversions memory fuel)
        let rest ← printArgsFrom native conversions memory fuel
        return .array elements rest
      else do
        ArgStream.drop native memory
        let rest ← printArgsFrom native conversions memory fuel
        return .other tag rest : Method ArgStream (Args Blob)) args := by
  have notEnd : args.atEnd = false := by
    rw [← Bool.not_eq_true, ArgStream.atEnd, atEnd_iff atBytes.validTags,
      atBytes.isTags]
    exact List.cons_ne_nil _ _
  have isTag : args.tag memory = .ok tag :=
    peekChar_of_cons atBytes.validTags atBytes.isTags
  rw [printArgsFrom, look_bind, notEnd, if_neg Bool.false_ne_true,
    bind_of_ok (observe_ok isTag)]

variable (native conversions memory)

/-- With this many steps, the loop prints what is in front up to some tags. -/
def PrintsInFront (fuel count : Nat) : Prop :=
  ∀ {args tags data read},
    ArgStream.At memory args tags data →
    tags.length ≤ count →
    (PrintsArgs native conversions memory fuel args read ↔
      read.ReadFrom tags data)

variable
  {native conversions memory}
  {fuel : Nat}
  {read : Args (List UInt8)}

/-- An integer is printed, and what comes after it. -/
theorem printsArgs_int32_iff
    (goesOn : PrintsInFront native conversions memory fuel tags.length)
    (atBytes : args.At memory ('i'.toUInt8 :: tags) data) :
    PrintsArgs native conversions memory (fuel + 1) args read ↔
      read.ReadFrom ('i'.toUInt8 :: tags) data := by
  rw [PrintsArgs, atBytes.printArgsFrom_cons, if_pos rfl,
    prints_step_iff fun _ _ => rfl, readFrom_int32]
  simp only [atBytes.int32_eq_ok_iff]
  constructor
  · intro prints
    rcases prints with ⟨value, _, rest, ⟨⟨trailing, rfl⟩, rfl⟩, prints,
      rfl⟩
    have atRest := atBytes.tail.afterData (by rw [length_word])
    exact ⟨value, rest, trailing, rfl, rfl,
      (goesOn atRest (Nat.le_refl _)).mp prints⟩
  · intro reads
    rcases reads with ⟨value, rest, trailing, rfl, rfl, reads⟩
    have atRest := atBytes.tail.afterData (by rw [length_word])
    exact ⟨value, _, rest, ⟨⟨trailing, rfl⟩, rfl⟩,
      (goesOn atRest (Nat.le_refl _)).mpr reads, rfl⟩

/-- A float is printed, and what comes after it. -/
theorem printsArgs_float32_iff
    (goesOn : PrintsInFront native conversions memory fuel tags.length)
    (atBytes : args.At memory ('f'.toUInt8 :: tags) data) :
    PrintsArgs native conversions memory (fuel + 1) args read ↔
      read.ReadFrom ('f'.toUInt8 :: tags) data := by
  rw [PrintsArgs, atBytes.printArgsFrom_cons, if_neg (by decide),
    if_pos rfl, prints_step_iff fun _ _ => rfl, readFrom_float32]
  simp only [atBytes.float32_eq_ok_iff]
  constructor
  · intro prints
    rcases prints with ⟨value, _, rest, ⟨⟨trailing, rfl⟩, rfl⟩, prints,
      rfl⟩
    have atRest := atBytes.tail.afterData (by rw [length_word])
    exact ⟨value, rest, trailing, rfl, rfl,
      (goesOn atRest (Nat.le_refl _)).mp prints⟩
  · intro reads
    rcases reads with ⟨value, rest, trailing, rfl, rfl, reads⟩
    have atRest := atBytes.tail.afterData (by rw [length_word])
    exact ⟨value, _, rest, ⟨⟨trailing, rfl⟩, rfl⟩,
      (goesOn atRest (Nat.le_refl _)).mpr reads, rfl⟩

/-- A string is printed, and what comes after it. -/
theorem printsArgs_string_iff
    (goesOn : PrintsInFront native conversions memory fuel tags.length)
    (atBytes : args.At memory ('s'.toUInt8 :: tags) data) :
    PrintsArgs native conversions memory (fuel + 1) args read ↔
      read.ReadFrom ('s'.toUInt8 :: tags) data := by
  rw [PrintsArgs, atBytes.printArgsFrom_cons, if_neg (by decide),
    if_neg (by decide), if_pos rfl, ← bind_assoc,
    prints_step_iff fun _ _ => rfl, readFrom_string]
  simp only [bind_eq_ok_iff, observe_eq_ok_iff, atBytes.string_eq_ok_iff]
  constructor
  · intro prints
    rcases prints with ⟨value, _, rest, ⟨_, _, ⟨string, first, trailing,
      rfl, isString, isValue, rfl, rfl⟩, isValue', rfl⟩, prints, rfl⟩
    obtain rfl : string = value :=
      Except.ok.inj (isValue.symm.trans isValue')
    have atRest := atBytes.tail.afterData isString.length.1
    exact ⟨string, rest, first, trailing, rfl, rfl, isString,
      (goesOn atRest (Nat.le_refl _)).mp prints⟩
  · intro reads
    rcases reads with ⟨value, rest, first, trailing, rfl, rfl, isString,
      reads⟩
    have atTail := atBytes.tail
    have isValue :=
      cString_of_isString atTail.validArgs atTail.isData isString
    have atRest := atTail.afterData isString.length.1
    exact ⟨value, _, rest, ⟨_, _, ⟨value, first, trailing, rfl, isString,
      isValue, rfl, rfl⟩, isValue, rfl⟩,
      (goesOn atRest (Nat.le_refl _)).mpr reads, rfl⟩

/-- A blob is printed, and what comes after it. -/
theorem printsArgs_blob_iff
    (goesOn : PrintsInFront native conversions memory fuel tags.length)
    (atBytes : args.At memory ('b'.toUInt8 :: tags) data) :
    PrintsArgs native conversions memory (fuel + 1) args read ↔
      read.ReadFrom ('b'.toUInt8 :: tags) data := by
  rw [PrintsArgs, atBytes.printArgsFrom_cons, if_neg (by decide),
    if_neg (by decide), if_neg (by decide), if_pos rfl,
    prints_step_iff fun _ _ => rfl, readFrom_blob]
  simp only [atBytes.blob_eq_ok_iff]
  have afterBlob :
      ∀ {value filling trailing : List UInt8},
        ArgStream.At memory (args.moved 1 0) tags
          (word value.length.toUInt32 ++ (value ++ filling) ++ trailing) →
        filling.length = fill value.length →
        ((args.moved 1 0).moved 0
          (4 + (value.length + filling.length))).At memory tags
            trailing := by
    intro value filling trailing atBlob isFilling
    have isLength :
        (word value.length.toUInt32 ++ (value ++ filling)).length =
          4 + (value.length + filling.length) := by
      rw [List.length_append, List.length_append, length_word]
    rw [← isLength]
    apply atBlob.afterData
    rw [isLength, isFilling]
    exact Nat.dvd_add (Nat.dvd_refl 4) (four_dvd_add_fill _)
  constructor
  · intro prints
    rcases prints with ⟨_, _, rest, ⟨value, filling, trailing, rfl, small,
      isFilling, rfl, rfl⟩, prints, rfl⟩
    refine ⟨_, rest, filling, trailing, ?_, rfl, small, isFilling,
      (goesOn (afterBlob atBytes.tail isFilling) (Nat.le_refl _)).mp
        prints⟩
    rw [atBytes.tail.blobBytes_eq]
  · intro reads
    rcases reads with ⟨value, rest, filling, trailing, rfl, rfl, small,
      isFilling, reads⟩
    refine ⟨_, _, rest, ⟨value, filling, trailing, rfl, small, isFilling,
      rfl, rfl⟩,
      (goesOn (afterBlob atBytes.tail isFilling) (Nat.le_refl _)).mpr
        reads, ?_⟩
    rw [atBytes.tail.blobBytes_eq]

/-- An argument without data is printed, and what comes after it. -/
theorem printsArgs_other_iff
    {tag : UInt8}
    (isOther : IsOtherTag tag)
    (goesOn : PrintsInFront native conversions memory fuel tags.length)
    (atBytes : args.At memory (tag :: tags) data) :
    PrintsArgs native conversions memory (fuel + 1) args read ↔
      read.ReadFrom (tag :: tags) data := by
  have isOther' := isOther
  obtain ⟨notInt, notFloat, notString, notBlob, notOpen⟩ := isOther'
  rw [PrintsArgs, atBytes.printArgsFrom_cons, if_neg notInt,
    if_neg notFloat, if_neg notString, if_neg notBlob, if_neg notOpen,
    prints_step_iff fun _ _ => rfl, readFrom_other isOther]
  constructor
  · intro prints
    rcases prints with ⟨_, _, rest, drops, prints, rfl⟩
    obtain rfl := (atBytes.drop_eq_ok_iff isOther).mp drops
    exact ⟨rest, rfl,
      (goesOn atBytes.tail (Nat.le_refl _)).mp prints⟩
  · intro reads
    rcases reads with ⟨rest, rfl, reads⟩
    exact ⟨(), _, rest, (atBytes.drop_eq_ok_iff isOther).mpr rfl,
      (goesOn atBytes.tail (Nat.le_refl _)).mpr reads, rfl⟩

/-- A loop prints one thing only. -/
theorem PrintsArgs.unique
    {first second : Args (List UInt8)}
    (printsFirst :
      PrintsArgs native conversions memory fuel args first)
    (printsSecond :
      PrintsArgs native conversions memory fuel args second) :
    first = second := by
  obtain ⟨_, _, isFirst, rfl⟩ := printsFirst
  obtain ⟨_, _, isSecond, rfl⟩ := printsSecond
  cases isFirst.symm.trans isSecond
  rfl

/-- An array is printed, and what comes after it. -/
theorem printsArgs_array_iff
    (goesOn : PrintsInFront native conversions memory fuel tags.length)
    (few : tags.length < 2 ^ 32)
    (atBytes : args.At memory ('['.toUInt8 :: tags) data) :
    PrintsArgs native conversions memory (fuel + 1) args read ↔
      read.ReadFrom ('['.toUInt8 :: tags) data := by
  have atTail := atBytes.tail
  rw [PrintsArgs, atBytes.printArgsFrom_cons, if_neg (by decide),
    if_neg (by decide), if_neg (by decide), if_neg (by decide), if_pos rfl,
    readFrom_array]
  constructor
  · intro prints
    rcases prints with ⟨_, _, returns, rfl⟩
    obtain ⟨array, _, takes, returns⟩ := bind_eq_ok_iff.mp returns
    obtain ⟨_, later, first, trailing, rfl, rfl, inner, rfl, rfl⟩ :=
      (atBytes.array_eq_ok_iff few).mp takes
    obtain ⟨⟨printed, _⟩, printsInner, returns⟩ :=
      observe_bind_eq_ok_iff.mp returns
    obtain ⟨rest, _, printsRest, returns⟩ := bind_eq_ok_iff.mp returns
    obtain ⟨rfl, rfl⟩ := pure_eq_ok_iff.mp returns
    obtain ⟨elements, wellTagged, closed, rfl, isData⟩ := inner.exists_args
    have readsInner : elements.ReadFrom elements.tags first :=
      ⟨wellTagged, rfl, first, [], (List.append_nil _).symm, isData⟩
    have isPrinted : printed.map memory.blobBytes = elements :=
      PrintsArgs.unique ⟨printed, _, callOn_eq_ok_iff.mp printsInner, rfl⟩
        ((goesOn atTail.arrayOf (by simp)).mpr readsInner)
    have atLater := atTail.afterArray inner
    rw [atBytes.moved_moved (by simp; omega) (by simp), Nat.zero_add,
      Nat.add_comm 1] at atLater
    refine ⟨elements, _, later, first, trailing, ?_, rfl, rfl, wellTagged,
      closed, isData,
      (goesOn atLater (by simp; omega)).mp ⟨rest, _, printsRest, rfl⟩⟩
    rw [Args.map, isPrinted]
  · intro reads
    rcases reads with ⟨elements, rest, later, first, trailing, rfl, rfl,
      rfl, wellTagged, closed, isData, readsRest⟩
    have inner := isElements_of_args wellTagged closed isData
    have takes :
        args.array native memory =
          .ok ((args.moved 1 0).arrayOf elements.tags.length first.length)
            (args.moved (elements.tags.length + 2) first.length) :=
      (atBytes.array_eq_ok_iff few).mpr
        ⟨elements.tags, later, first, trailing, rfl, rfl, inner, rfl, rfl⟩
    have readsInner : elements.ReadFrom elements.tags first :=
      ⟨wellTagged, rfl, first, [], (List.append_nil _).symm, isData⟩
    have atLater := atTail.afterArray inner
    rw [atBytes.moved_moved (by simp; omega) (by simp), Nat.zero_add,
      Nat.add_comm 1] at atLater
    obtain ⟨printed, final, printsInner, isPrinted⟩ :=
      (goesOn atTail.arrayOf (by simp)).mpr readsInner
    obtain ⟨restPrinted, restFinal, printsRest, isRest⟩ :=
      (goesOn atLater (by simp; omega)).mpr readsRest
    refine ⟨.array printed restPrinted, restFinal, ?_, ?_⟩
    · rw [bind_of_ok takes]
      exact observe_bind_eq_ok_iff.mpr
        ⟨(printed, final), callOn_eq_ok_iff.mpr printsInner,
          bind_eq_ok_iff.mpr ⟨restPrinted, restFinal, printsRest, rfl⟩⟩
    · rw [Args.map, isPrinted, isRest]

/-- With enough steps, the loop prints the arguments that are in front. -/
theorem printsInFront
    {count : Nat}
    (enough : count < fuel)
    (few : count < 2 ^ 32) :
    PrintsInFront native conversions memory fuel count := by
  induction fuel generalizing count with
  | zero =>
      cases enough
  | succ fuel inductionHypothesis =>
      intro args tags data read atBytes bounded
      cases tags with
      | nil =>
          rw [readFrom_nil, PrintsArgs, atBytes.printArgsFrom_nil]
          constructor
          · intro prints
            rcases prints with ⟨_, _, returns, rfl⟩
            cases returns
            rfl
          · intro isNil
            exact ⟨_, _, rfl, isNil.symm⟩
      | cons tag tags =>
          rw [List.length_cons] at bounded
          have goesOn :
              PrintsInFront native conversions memory fuel tags.length :=
            inductionHypothesis (by omega) (by omega)
          by_cases isInt : tag = 'i'.toUInt8
          · subst tag
            exact printsArgs_int32_iff goesOn atBytes
          by_cases isFloat : tag = 'f'.toUInt8
          · subst tag
            exact printsArgs_float32_iff goesOn atBytes
          by_cases isString : tag = 's'.toUInt8
          · subst tag
            exact printsArgs_string_iff goesOn atBytes
          by_cases isBlob : tag = 'b'.toUInt8
          · subst tag
            exact printsArgs_blob_iff goesOn atBytes
          by_cases isOpen : tag = '['.toUInt8
          · subst tag
            exact printsArgs_array_iff goesOn (by omega) atBytes
          · exact printsArgs_other_iff
              ⟨isInt, isFloat, isString, isBlob, isOpen⟩ goesOn atBytes

end Arguments

end Pwcpp.Oscpp
