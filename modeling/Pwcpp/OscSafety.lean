import Pwcpp.OscBundles

namespace Pwcpp.Oscpp

open ThrowingMethods

/-!
# Reading whatever the bytes are

A packet comes from outside, and nothing is known about its bytes or about
where it lies.  Reading it never goes out of bounds and always ends; what is
no packet is rejected with an exception.  Of the faults, which do not count the
addresses that are formed, the only one is that of a float that `int32` is to
convert.
-/

/-- The exceptions with which a packet is rejected. -/
def Exception.Rejects : Exception → Prop
  | .underrunError | .parseError _ =>
      True
  | .runtimeError what =>
      what = "Unaligned pointer"
  | .overflowError _ | .logicError _ | .invalidArgument _ =>
      False

section Streams

variable
  {native : Endian}
  {memory : Memory}
  {stream next : Stream}

/-- The stream has been advanced over bytes that were in front. -/
def Stream.After (memory : Memory) (stream next : Stream) : Prop :=
  ∃ n, n ≤ (stream.rest memory).length ∧ next = stream.advance n

/-- A stream that was advanced is valid. -/
theorem Stream.After.valid
    (after : stream.After memory next)
    (valid : stream.Valid memory) :
    next.Valid memory := by
  obtain ⟨n, readable, rfl⟩ := after
  exact valid.advance readable

/-- A stream that was advanced has no more in front. -/
theorem Stream.After.length_rest_le
    (after : stream.After memory next)
    (valid : stream.Valid memory) :
    (next.rest memory).length ≤ (stream.rest memory).length := by
  obtain ⟨n, readable, rfl⟩ := after
  rw [rest_advance valid readable, List.length_drop]
  exact Nat.sub_le _ _

/-- A stream that was not advanced. -/
theorem Stream.After.refl (valid : stream.Valid memory) :
    stream.After memory stream :=
  ⟨0, Nat.zero_le _, (advance_zero valid).symm⟩

/-- A stream that was advanced twice. -/
theorem Stream.After.trans
    {last : Stream}
    (valid : stream.Valid memory)
    (first : stream.After memory next)
    (second : next.After memory last) :
    stream.After memory last := by
  obtain ⟨n, readable, rfl⟩ := first
  obtain ⟨m, readableNext, rfl⟩ := second
  rw [rest_advance valid readable, List.length_drop] at readableNext
  have inside : n + m ≤ (stream.rest memory).length := by
    omega
  exact ⟨n + m, inside, advance_advance valid inside⟩

/-- A method of a stream moves it forward, or rejects and leaves it. -/
def Stream.Moves
    {α : Type}
    (memory : Memory)
    (stream : Stream)
    (method : Method Stream α)
    (Returns : α → Stream → Prop) : Prop :=
  Ends (method stream)
    (fun value next => stream.After memory next ∧ Returns value next)
    (fun exception next => next = stream ∧ exception.Rejects)
    NoFault

/-- `skip` goes forward. -/
theorem Stream.Valid.skip
    (valid : stream.Valid memory)
    (n : Nat) :
    stream.Moves memory (ReadStream.skip n) fun _ next =>
      n ≤ (stream.rest memory).length ∧ next = stream.advance n := by
  rw [Stream.Moves, skip_eq valid]
  split
  · exact ⟨rfl, trivial⟩
  · rename_i readable
    have inside := Nat.le_of_not_lt readable
    exact ⟨⟨n, inside, rfl⟩, inside, rfl⟩

/-- `getChar` goes over the character in front. -/
theorem Stream.Valid.getChar (valid : stream.Valid memory) :
    stream.Moves memory (ReadStream.getChar memory) fun character next =>
      (stream.rest memory).head? = some character ∧
        next = stream.advance 1 := by
  rw [Stream.Moves]
  cases isRest : stream.rest memory with
  | nil =>
      rw [getChar_of_nil valid isRest]
      exact ⟨rfl, trivial⟩
  | cons character tail =>
      rw [getChar_of_cons valid isRest]
      have inside : 1 ≤ (stream.rest memory).length := by
        rw [isRest]
        exact Nat.le_add_left _ _
      exact ⟨⟨1, inside, rfl⟩, rfl, rfl⟩

/-- `getInt32` goes over a word. -/
theorem Stream.Valid.getInt32 (valid : stream.Valid memory) :
    stream.Moves memory (ReadStream.getInt32 native memory) fun _ next =>
      4 ≤ (stream.rest memory).length ∧ next = stream.advance 4 := by
  rw [Stream.Moves, getInt32_eq valid]
  split
  · exact ⟨rfl, trivial⟩
  · rename_i readable
    have inside := Nat.le_of_not_lt readable
    split
    · exact ⟨⟨4, inside, rfl⟩, inside, rfl⟩
    · exact ⟨rfl, rfl⟩

/-- `getFloat32` goes over the word that it returns. -/
theorem Stream.Valid.getFloat32 (valid : stream.Valid memory) :
    stream.Moves memory (ReadStream.getFloat32 native memory)
      fun value _ => (stream.rest memory).take 4 = word value := by
  rw [Stream.Moves, getFloat32_eq valid]
  split
  · exact ⟨rfl, trivial⟩
  · rename_i readable
    have inside := Nat.le_of_not_lt readable
    split
    · exact ⟨⟨4, inside, rfl⟩,
        (word_wordOf (List.length_take_of_le inside)).symm⟩
    · exact ⟨rfl, rfl⟩

/-- `getUInt64` goes over a long word. -/
theorem Stream.Valid.getUInt64 (valid : stream.Valid memory) :
    stream.Moves memory (ReadStream.getUInt64 native memory)
      fun _ _ => True := by
  rw [Stream.Moves, getUInt64_eq valid]
  split
  · exact ⟨rfl, trivial⟩
  · rename_i readable
    exact ⟨⟨8, Nat.le_of_not_lt readable, rfl⟩, trivial⟩

/-- `getString` goes over the string that it returns. -/
theorem Stream.Valid.getString (valid : stream.Valid memory) :
    stream.Moves memory (ReadStream.getString memory)
      fun pointer next =>
        ∃ string first trailing,
          stream.rest memory = first ++ trailing ∧
            IsString string first ∧
            memory.cString pointer = .ok string ∧
            pointer = stream.mPos ∧
            next = stream.advance first.length := by
  have spec := @getString_eq_ok_iff memory stream valid
  rw [Stream.Moves]
  cases result : ReadStream.getString memory stream with
  | ok pointer next =>
      obtain ⟨string, first, trailing, isRest, isString, isPart⟩ :=
        spec.mp result
      refine ⟨⟨first.length, ?_, isPart.2.2⟩, string, first, trailing,
        isRest, isString, isPart⟩
      rw [isRest, List.length_append]
      exact Nat.le_add_right _ _
  | error stop next =>
      rw [getString_eq valid] at result
      split at result
      · cases result
        exact ⟨rfl, trivial⟩
      · cases result

end Streams

section Arguments

variable
  {α β : Type}
  {native : Endian}
  {conversions : Conversions}
  {memory : Memory}
  {args next : ArgStream}

/-- Both streams are valid. -/
structure ArgStream.Valid
    (memory : Memory)
    (args : ArgStream) : Prop where
  tags :
    args.mTags.Valid memory
  data :
    args.mArgs.Valid memory

/-- Both streams have been advanced. -/
structure ArgStream.After
    (memory : Memory)
    (args next : ArgStream) : Prop where
  tags :
    args.mTags.After memory next.mTags
  data :
    args.mArgs.After memory next.mArgs

/-- Tags have been taken. -/
def ArgStream.Fewer
    (memory : Memory)
    (args next : ArgStream) : Prop :=
  (next.mTags.rest memory).length < (args.mTags.rest memory).length

/-- Streams that were advanced are valid. -/
theorem ArgStream.After.valid
    (after : args.After memory next)
    (valid : args.Valid memory) :
    next.Valid memory where
  tags := after.tags.valid valid.tags
  data := after.data.valid valid.data

/-- Streams that were not advanced. -/
theorem ArgStream.After.refl (valid : args.Valid memory) :
    args.After memory args where
  tags := Stream.After.refl valid.tags
  data := Stream.After.refl valid.data

/-- Streams that were advanced twice. -/
theorem ArgStream.After.trans
    {last : ArgStream}
    (valid : args.Valid memory)
    (first : args.After memory next)
    (second : next.After memory last) :
    args.After memory last where
  tags := first.tags.trans valid.tags second.tags
  data := first.data.trans valid.data second.data

/-- No tags come back. -/
theorem ArgStream.Fewer.after
    {last : ArgStream}
    (fewer : args.Fewer memory next)
    (valid : next.Valid memory)
    (after : next.After memory last) :
    args.Fewer memory last :=
  Nat.lt_of_le_of_lt (after.tags.length_rest_le valid.tags) fewer

/-- A method of arguments moves them forward, also when it rejects. -/
def ArgStream.Moves
    (memory : Memory)
    (args : ArgStream)
    (method : Method ArgStream α)
    (Returns : α → ArgStream → Prop)
    (Faults : Fault → Prop) : Prop :=
  Ends (method args)
    (fun value next => args.After memory next ∧ Returns value next)
    (fun exception next => args.After memory next ∧ exception.Rejects)
    Faults

variable
  {Returns : α → ArgStream → Prop}
  {Faults : Fault → Prop}

/-- The consequence rule. -/
theorem ArgStream.Moves.mono
    {method : Method ArgStream α}
    {Returns' : α → ArgStream → Prop}
    {Faults' : Fault → Prop}
    (moves : args.Moves memory method Returns' Faults')
    (returns :
      ∀ {value next}, Returns' value next → Returns value next)
    (faults : ∀ {fault}, Faults' fault → Faults fault) :
    args.Moves memory method Returns Faults := by
  apply Ends.mono moves
  case returns =>
    intro value next moved
    exact ⟨moved.1, returns moved.2⟩
  case throws =>
    exact id
  case faults =>
    exact faults

/-- The rule for a method of the tags. -/
theorem ArgStream.Valid.onTags
    {method : Method Stream α}
    {ReturnsTags : α → Stream → Prop}
    (valid : args.Valid memory)
    (moves : args.mTags.Moves memory method ReturnsTags)
    (returns :
      ∀ {value tags},
        ReturnsTags value tags →
        Returns value { args with mTags := tags }) :
    args.Moves memory (ArgStream.onTags method) Returns Faults := by
  apply Ends.onPart
  apply Ends.mono moves
  case returns =>
    intro value tags moved
    exact ⟨⟨moved.1, Stream.After.refl valid.data⟩, returns moved.2⟩
  case throws =>
    intro exception tags thrown
    obtain ⟨rfl, rejects⟩ := thrown
    exact ⟨ArgStream.After.refl valid, rejects⟩
  case faults =>
    exact False.elim

/-- The rule for a method of the data. -/
theorem ArgStream.Valid.onArgs
    {method : Method Stream α}
    {ReturnsData : α → Stream → Prop}
    (valid : args.Valid memory)
    (moves : args.mArgs.Moves memory method ReturnsData)
    (returns :
      ∀ {value data},
        ReturnsData value data →
        Returns value { args with mArgs := data }) :
    args.Moves memory (ArgStream.onArgs method) Returns Faults := by
  apply Ends.onPart
  apply Ends.mono moves
  case returns =>
    intro value data moved
    exact ⟨⟨Stream.After.refl valid.tags, moved.1⟩, returns moved.2⟩
  case throws =>
    intro exception data thrown
    obtain ⟨rfl, rejects⟩ := thrown
    exact ⟨ArgStream.After.refl valid, rejects⟩
  case faults =>
    exact False.elim

/-- The rule for two methods in a row. -/
theorem ArgStream.Valid.bind
    {first : Method ArgStream β}
    {second : β → Method ArgStream α}
    {ReturnsFirst : β → ArgStream → Prop}
    (valid : args.Valid memory)
    (moves : args.Moves memory first ReturnsFirst Faults)
    (goesOn :
      ∀ {value next},
        next.Valid memory →
        args.After memory next →
        ReturnsFirst value next →
        next.Moves memory (second value) Returns Faults) :
    args.Moves memory (first >>= second) Returns Faults := by
  apply Ends.bind
  apply Ends.mono moves
  case returns =>
    intro value next moved
    obtain ⟨after, returned⟩ := moved
    apply Ends.mono (goesOn (after.valid valid) after returned)
    case returns =>
      intro value last moved
      exact ⟨after.trans valid moved.1, moved.2⟩
    case throws =>
      intro exception last thrown
      exact ⟨after.trans valid thrown.1, thrown.2⟩
    case faults =>
      exact id
  case throws =>
    exact id
  case faults =>
    exact id

/-- The rule for returning a value. -/
theorem ArgStream.Valid.pure
    {value : α}
    (valid : args.Valid memory)
    (returns : Returns value args) :
    args.Moves memory (Pure.pure value) Returns Faults :=
  ⟨ArgStream.After.refl valid, returns⟩

/-- The rule for rejecting. -/
theorem ArgStream.Valid.fail
    {exception : Exception}
    (valid : args.Valid memory)
    (rejects : exception.Rejects) :
    args.Moves memory (ThrowingMethods.fail exception) Returns Faults :=
  ⟨ArgStream.After.refl valid, rejects⟩

/-- The rule for a method that only looks at its object. -/
theorem ArgStream.Valid.observe
    {call : ArgStream → Call α}
    (valid : args.Valid memory)
    (ends :
      CallEnds (call args) (fun value => Returns value args)
        Exception.Rejects Faults) :
    args.Moves memory (ThrowingMethods.observe call) Returns Faults := by
  apply Ends.observe
  apply CallEnds.mono ends
  case returns =>
    intro value returned
    exact ⟨ArgStream.After.refl valid, returned⟩
  case throws =>
    intro exception rejects
    exact ⟨ArgStream.After.refl valid, rejects⟩
  case faults =>
    exact id

/-- The arguments without the tag in front. -/
def ArgStream.afterTag (args : ArgStream) : ArgStream :=
  { args with mTags := args.mTags.advance 1 }

/-- The rule for methods that first take a tag. -/
theorem ArgStream.Valid.takesTag
    {second : UInt8 → Method ArgStream α}
    (valid : args.Valid memory)
    (goesOn :
      ∀ {tag : UInt8},
        (args.mTags.rest memory).head? = some tag →
        args.afterTag.Valid memory →
        args.Fewer memory args.afterTag →
        args.afterTag.Moves memory (second tag) Returns Faults) :
    args.Moves memory
      (ArgStream.onTags (ReadStream.getChar memory) >>= second)
      (fun value last => args.Fewer memory last ∧ Returns value last)
      Faults := by
  have takes :
      args.Moves memory (ArgStream.onTags (ReadStream.getChar memory))
        (fun tag next =>
          (args.mTags.rest memory).head? = some tag ∧
            next = args.afterTag)
        Faults := by
    apply valid.onTags valid.tags.getChar
    intro tag tags taken
    obtain ⟨isFirst, rfl⟩ := taken
    exact ⟨isFirst, rfl⟩
  apply valid.bind takes
  intro tag next validNext _ taken
  obtain ⟨isFirst, rfl⟩ := taken
  have inside : 1 ≤ (args.mTags.rest memory).length := by
    cases isRest : args.mTags.rest memory with
    | nil =>
        rw [isRest] at isFirst
        cases isFirst
    | cons first tail =>
        exact Nat.le_add_left _ _
  have fewer : args.Fewer memory args.afterTag := by
    have isRest := rest_advance valid.tags inside
    rw [ArgStream.Fewer, ArgStream.afterTag, isRest, List.length_drop]
    omega
  apply Ends.mono (goesOn isFirst validNext fewer)
  case returns =>
    intro value last moved
    exact ⟨moved.1, fewer.after validNext moved.1, moved.2⟩
  case throws =>
    exact id
  case faults =>
    exact id

/-- The conversion of a float in front to an integer is undefined. -/
def ArgStream.Unrepresentable
    (memory : Memory)
    (conversions : Conversions)
    (args : ArgStream)
    (fault : Fault) : Prop :=
  fault = .unrepresentableValue ∧
    (args.mTags.rest memory).head? = some 'f'.toUInt8 ∧
    ∃ value,
      (args.mArgs.rest memory).take 4 = word value ∧
        conversions.toInt32 value = none

/-- `int32` takes a tag; it has a fault for some floats only. -/
theorem ArgStream.Valid.int32 (valid : args.Valid memory) :
    args.Moves memory (ArgStream.int32 native memory conversions)
      (fun _ next => args.Fewer memory next ∧ True)
      (args.Unrepresentable memory conversions) := by
  apply valid.takesTag
  intro tag isFirst validNext _
  split
  · exact validNext.onArgs validNext.data.getInt32 fun _ => trivial
  split
  · rename_i isFloat
    have reads :
        args.afterTag.Moves memory
          (ArgStream.onArgs (ReadStream.getFloat32 native memory))
          (fun value _ => (args.mArgs.rest memory).take 4 = word value)
          (args.Unrepresentable memory conversions) :=
      validNext.onArgs validNext.data.getFloat32 fun isWord => isWord
    apply validNext.bind reads
    intro value last validLast _ isWord
    cases converts : conversions.toInt32 value with
    | some integer =>
        exact validLast.pure trivial
    | none =>
        subst tag
        exact ⟨rfl, isFirst, value, isWord, converts⟩
  · exact validNext.fail trivial

/-- `float32` takes a tag. -/
theorem ArgStream.Valid.float32 (valid : args.Valid memory) :
    args.Moves memory (ArgStream.float32 native memory conversions)
      (fun _ next => args.Fewer memory next ∧ True) NoFault := by
  apply valid.takesTag
  intro tag isFirst validNext _
  split
  · exact validNext.onArgs validNext.data.getFloat32 fun _ => trivial
  split
  · have reads :
        args.afterTag.Moves memory
          (ArgStream.onArgs (ReadStream.getInt32 native memory))
          (fun _ _ => True) NoFault :=
      validNext.onArgs validNext.data.getInt32 fun _ => trivial
    apply validNext.bind reads
    intro value last validLast _ _
    exact validLast.pure trivial
  · exact validNext.fail trivial

/-- `tag` is rejected at the end. -/
theorem ArgStream.Valid.tag (valid : args.Valid memory) :
    args.Moves memory (ThrowingMethods.observe (ArgStream.tag memory))
      (fun _ _ => True) NoFault := by
  apply valid.observe
  rw [ArgStream.tag]
  cases isRest : args.mTags.rest memory with
  | nil =>
      rw [peekChar_of_nil valid.tags isRest]
      trivial
  | cons tag tags =>
      rw [peekChar_of_cons valid.tags isRest]
      trivial

/-- `string` takes a tag, and returns a C string. -/
theorem ArgStream.Valid.string (valid : args.Valid memory) :
    args.Moves memory (ArgStream.string memory)
      (fun pointer next =>
        args.Fewer memory next ∧
          ∃ string, memory.cString pointer = .ok string)
      NoFault := by
  apply valid.takesTag
  intro tag isFirst validNext _
  split
  · apply validNext.onArgs validNext.data.getString
    intro pointer data isString
    obtain ⟨string, -, -, -, -, isValue, -⟩ := isString
    exact ⟨string, isValue⟩
  · exact validNext.fail trivial

/-- The bytes of the blob are in memory. -/
def Blob.Inside (memory : Memory) (blob : Blob) : Prop :=
  blob.size = 0 ∨
    memory.address ≤ blob.data ∧
      blob.data + blob.size ≤ memory.endAddress

/-- Bytes that can be skipped are in memory. -/
theorem Stream.Valid.blob_inside
    {stream : Stream}
    {size : Nat}
    (valid : stream.Valid memory)
    (readable : size ≤ (stream.rest memory).length) :
    Blob.Inside memory { size := size, data := stream.mPos } := by
  rcases Nat.eq_zero_or_pos size with none | some
  · exact Or.inl none
  · obtain ⟨begins, ends⟩ :=
      inside_of_rest valid (Nat.lt_of_lt_of_le some readable)
    rw [length_rest valid] at readable
    have short : stream.mPos + size ≤ stream.mEnd :=
      Nat.add_le_of_le_sub' valid.ends readable
    exact Or.inr ⟨begins, Nat.le_trans short ends⟩

/-- `parseBlob` returns a blob in memory. -/
theorem ArgStream.Valid.parseBlob (valid : args.Valid memory) :
    args.Moves memory (ArgStream.parseBlob native memory)
      (fun blob _ => blob.Inside memory) NoFault := by
  have reads :
      args.Moves memory
        (ArgStream.onArgs (ReadStream.getInt32 native memory))
        (fun _ _ => True) NoFault :=
    valid.onArgs valid.data.getInt32 fun _ => trivial
  apply valid.bind reads
  intro size next validNext _ _
  split
  · exact validNext.fail trivial
  rename_i nonneg
  have looks :
      next.Moves memory
        (ThrowingMethods.observe fun args => .ok args.mArgs.mPos)
        (fun data after => after = next ∧ data = next.mArgs.mPos)
        NoFault :=
    validNext.observe ⟨rfl, rfl⟩
  apply validNext.bind looks
  intro data after _ _ looked
  obtain ⟨rfl, rfl⟩ := looked
  have skips :
      after.Moves memory
        (ArgStream.onArgs (ReadStream.skip (align (toSize size))))
        (fun _ _ =>
          align (toSize size) ≤ (after.mArgs.rest memory).length)
        NoFault :=
    validNext.onArgs (validNext.data.skip _) fun skipped => skipped.1
  apply validNext.bind skips
  intro _ last validLast _ readable
  apply validLast.pure
  have small := toSize_lt nonneg
  rw [align_eq (by omega)] at readable
  exact validNext.data.blob_inside (Nat.le_of_add_right_le readable)

/-- `blob` takes a tag, and returns a blob in memory. -/
theorem ArgStream.Valid.blob (valid : args.Valid memory) :
    args.Moves memory (ArgStream.blob native memory)
      (fun blob next => args.Fewer memory next ∧ blob.Inside memory)
      NoFault := by
  apply valid.takesTag
  intro tag isFirst validNext _
  split
  · exact validNext.parseBlob
  · exact validNext.fail trivial

/-- `dropAtom` goes over the data of an argument. -/
theorem ArgStream.Valid.dropAtom
    (valid : args.Valid memory)
    (tag : UInt8) :
    args.Moves memory (ArgStream.dropAtom native memory tag)
      (fun _ _ => True) NoFault := by
  have skips :
      args.Moves memory (ArgStream.onArgs (ReadStream.skip 4))
        (fun _ _ => True) NoFault :=
    valid.onArgs (valid.data.skip 4) fun _ => trivial
  rw [ArgStream.dropAtom]
  split
  · exact skips
  split
  · exact skips
  split
  · have reads :
        args.Moves memory
          (ArgStream.onArgs (ReadStream.getString memory))
          (fun _ _ => True) NoFault :=
      valid.onArgs valid.data.getString fun _ => trivial
    apply valid.bind reads
    intro _ next validNext _ _
    exact validNext.pure trivial
  split
  · apply valid.bind valid.parseBlob
    intro _ next validNext _ _
    exact validNext.pure trivial
  · exact valid.pure trivial

/-- The loop of `dropArray` ends, and takes tags. -/
theorem ArgStream.Valid.dropArrayFrom
    {fuel level : Nat}
    (valid : args.Valid memory)
    (enough : (args.mTags.rest memory).length < fuel) :
    args.Moves memory (ArgStream.dropArrayFrom native memory fuel level)
      (fun _ next => args.Fewer memory next ∧ True) NoFault := by
  induction fuel generalizing args level with
  | zero =>
      cases enough
  | succ fuel inductionHypothesis =>
      apply valid.takesTag
      intro tag _ validNext fewer
      have fewTags : (args.afterTag.mTags.rest memory).length < fuel :=
        Nat.lt_of_lt_of_le fewer (Nat.le_of_lt_succ enough)
      have goesOn :
          ∀ {next : ArgStream} {level : Nat},
            next.Valid memory →
            args.afterTag.After memory next →
            next.Moves memory
              (ArgStream.dropArrayFrom native memory fuel level)
              (fun _ _ => True) NoFault := by
        intro next level validNow after
        have fewNow : (next.mTags.rest memory).length < fuel :=
          Nat.lt_of_le_of_lt (after.tags.length_rest_le validNext.tags)
            fewTags
        exact (inductionHypothesis validNow fewNow).mono
          (fun _ => trivial) id
      have stays := ArgStream.After.refl validNext
      split
      · split
        · exact validNext.pure trivial
        · exact goesOn validNext stays
      split
      · exact goesOn validNext stays
      · apply validNext.bind (validNext.dropAtom tag)
        intro _ last validLast after _
        exact goesOn validLast after

/-- `dropArray` ends, and takes tags. -/
theorem ArgStream.Valid.dropArray (valid : args.Valid memory) :
    args.Moves memory (ArgStream.dropArray native memory)
      (fun _ next => args.Fewer memory next ∧ True) NoFault := by
  have isCount : args.mTags.consumable = (args.mTags.rest memory).length :=
    consumable_eq valid.tags
  rw [ArgStream.Moves, ArgStream.dropArray, look_bind, isCount]
  exact valid.dropArrayFrom (Nat.lt_succ_self _)

/-- `drop` takes a tag. -/
theorem ArgStream.Valid.drop (valid : args.Valid memory) :
    args.Moves memory (ArgStream.drop native memory)
      (fun _ next => args.Fewer memory next ∧ True) NoFault := by
  apply valid.takesTag
  intro tag _ validNext _
  rw [ArgStream.dropType]
  split
  · exact validNext.dropArray.mono (fun _ => trivial) id
  · exact validNext.dropAtom tag

/-- The arguments between the bracket in front and the one just taken. -/
theorem ArgStream.After.between
    (after : args.After memory next)
    (valid : args.Valid memory)
    (fewer : args.Fewer memory next) :
    let array : ArgStream :=
      { mTags :=
          Stream.make args.mTags.mPos
            (ptrSub (ptrSub next.mTags.mPos args.mTags.mPos) 1)
        mArgs :=
          Stream.make args.mArgs.mPos
            (ptrSub next.mArgs.mPos args.mArgs.mPos) }
    array.Valid memory ∧
      (array.mTags.rest memory).length ≤
        (args.mTags.rest memory).length := by
  obtain ⟨⟨n, readableTags, isTags⟩, m, readableData, isData⟩ := after
  have isLength := length_rest valid.tags
  have inRange := valid.tags.bounded
  rw [ArgStream.Fewer, isTags, rest_advance valid.tags readableTags,
    List.length_drop] at fewer
  have inside : n - 1 ≤ (args.mTags.rest memory).length := by
    omega
  rw [isTags, isData, ptrSub_advance valid.tags readableTags,
    ptrSub_advance valid.data readableData,
    ptrSub_eq (by omega) (by omega)]
  refine ⟨⟨valid.tags.make inside, valid.data.make readableData⟩, ?_⟩
  rw [rest_make valid.tags inside, List.length_take]
  exact Nat.min_le_right _ _

/-- `array` takes tags, and returns fewer arguments. -/
theorem ArgStream.Valid.array (valid : args.Valid memory) :
    args.Moves memory (ArgStream.array native memory)
      (fun array next =>
        args.Fewer memory next ∧
          array.Valid memory ∧ args.Fewer memory array)
      NoFault := by
  apply valid.takesTag
  intro tag _ validNext fewer
  split
  · have looks :
        ∀ {look : ArgStream → Nat},
          args.afterTag.Moves memory
            (ThrowingMethods.observe fun args => .ok (look args))
            (fun pos after =>
              after = args.afterTag ∧ pos = look args.afterTag)
            NoFault :=
      validNext.observe ⟨rfl, rfl⟩
    apply validNext.bind looks
    intro tags _ _ _ looked
    obtain ⟨rfl, rfl⟩ := looked
    apply validNext.bind looks
    intro data _ _ _ looked
    obtain ⟨rfl, rfl⟩ := looked
    apply validNext.bind validNext.dropArray
    intro _ last validLast after dropped
    apply validLast.observe
    obtain ⟨validArray, noMore⟩ := after.between validNext dropped.1
    exact ⟨validArray, Nat.lt_of_le_of_lt noMore fewer⟩
  · exact validNext.fail trivial

/-- The stream of the tags after the comma is valid. -/
theorem Stream.Valid.tags_of_isString
    {stream : Stream}
    {string : StdString}
    {first trailing : List UInt8}
    (valid : stream.Valid memory)
    (isRest : stream.rest memory = first ++ trailing)
    (isString : IsString string first)
    (nonempty : 0 < string.length) :
    (Stream.make (ptrAdd stream.mPos 1)
      (ptrSub string.length 1)).Valid memory := by
  have isPrefix := isString.length_lt
  have isLength := length_rest valid
  have inRange := valid.bounded
  have isSum := congrArg List.length isRest
  rw [List.length_append] at isSum
  have oneByte : 1 ≤ (stream.rest memory).length := by
    omega
  have enough :
      string.length - 1 ≤ ((stream.advance 1).rest memory).length := by
    rw [rest_advance valid oneByte, List.length_drop]
    omega
  have validTags := (valid.advance oneByte).make enough
  rw [mPos_advance valid oneByte] at validTags
  rw [ptrAdd_eq (by omega), ptrSub_eq (by omega) (by omega)]
  exact validTags

/-- A stream makes arguments, or is rejected. -/
theorem ArgStream.ofStream_ends
    {stream : Stream}
    (valid : stream.Valid memory) :
    CallEnds (ArgStream.ofStream memory stream)
      (fun args => args.Valid memory) Exception.Rejects NoFault := by
  apply CallEnds.construct
  apply Ends.bind
  apply Ends.onPart
  apply Ends.mono valid.getString
  case returns =>
    intro pointer next moved
    obtain ⟨after, string, first, trailing, isRest, isString, isValue, rfl,
      rfl⟩ := moved
    have validNext := after.valid valid
    cases first with
    | nil =>
        exact absurd isString.length.2 (by decide)
    | cons byte tail =>
        have isFirst : memory.loadChar stream.mPos = .ok byte := by
          have inFront : (stream.rest memory)[0]? = some byte := by
            rw [isRest]
            rfl
          have nonempty : 0 < (stream.rest memory).length := by
            rw [isRest]
            exact Nat.succ_pos _
          exact loadChar_window (inside_of_rest valid nonempty).1 inFront
        apply Ends.bind
        apply Ends.observe
        rw [isFirst]
        change Ends _ _ _ _
        split
        · exact Ends.fail trivial
        · rename_i isComma
          have isComma : byte = ','.toUInt8 := not_not.mp isComma
          have nonempty : 0 < string.length := by
            rw [← isString.content, isComma, cStr_cons (by decide)]
            exact Nat.succ_pos _
          apply Ends.bind
          apply Ends.observe
          rw [isValue]
          exact ⟨valid.tags_of_isString isRest isString nonempty,
            validNext⟩
  case throws =>
    intro exception next thrown
    exact thrown.2
  case faults =>
    exact id

/-- Whatever is taken first, what comes after it can be printed. -/
theorem ArgStream.Valid.printsNext
    {fuel : Nat}
    {first : Method ArgStream β}
    {ReturnsFirst : β → Prop}
    {second : β → Method ArgStream (Args Blob)}
    (valid : args.Valid memory)
    (enough : (args.mTags.rest memory).length < fuel + 1)
    (takes :
      args.Moves memory first
        (fun value next => args.Fewer memory next ∧ ReturnsFirst value)
        NoFault)
    (goesOn :
      ∀ {value : β} {next : ArgStream},
        next.Valid memory →
        (next.mTags.rest memory).length < fuel →
        ReturnsFirst value →
        next.Moves memory (second value) (fun _ _ => True) NoFault) :
    args.Moves memory (first >>= second) (fun _ _ => True) NoFault := by
  apply valid.bind takes
  intro value next validNext _ taken
  exact goesOn validNext
    (Nat.lt_of_lt_of_le taken.1 (Nat.le_of_lt_succ enough)) taken.2

/-- `printArgs` ends. -/
theorem ArgStream.Valid.printArgsFrom
    {fuel : Nat}
    (valid : args.Valid memory)
    (enough : (args.mTags.rest memory).length < fuel) :
    args.Moves memory (printArgsFrom native conversions memory fuel)
      (fun _ _ => True) NoFault := by
  induction fuel generalizing args with
  | zero =>
      cases enough
  | succ fuel inductionHypothesis =>
      have printsRest :
          ∀ {next : ArgStream} {node : Args Blob → Args Blob},
            next.Valid memory →
            (next.mTags.rest memory).length < fuel →
            next.Moves memory
              (do
                let rest ←
                  Oscpp.printArgsFrom native conversions memory fuel
                return node rest)
              (fun _ _ => True) NoFault := by
        intro next node validNext fewTags
        apply validNext.bind (inductionHypothesis validNext fewTags)
        intro rest last validLast _ _
        exact validLast.pure trivial
      rw [ArgStream.Moves, Oscpp.printArgsFrom, look_bind]
      cases isRest : args.mTags.rest memory with
      | nil =>
          have isEnd : args.atEnd = true :=
            (atEnd_iff valid.tags).mpr isRest
          rw [isEnd, if_pos rfl]
          exact valid.pure trivial
      | cons tag tags =>
          have notEnd : args.atEnd = false := by
            rw [← Bool.not_eq_true, ArgStream.atEnd,
              atEnd_iff valid.tags, isRest]
            exact List.cons_ne_nil _ _
          have isTag : args.tag memory = .ok tag :=
            peekChar_of_cons valid.tags isRest
          rw [notEnd, if_neg Bool.false_ne_true,
            bind_of_ok (observe_ok isTag)]
          split
          · rename_i isInt
            apply valid.printsNext enough
            · apply valid.int32.mono id
              intro fault unrepresentable
              obtain ⟨-, isFloat, -⟩ := unrepresentable
              rw [isRest, isInt] at isFloat
              exact absurd (Option.some.inj isFloat) (by decide)
            · intro value next validNext fewTags _
              exact printsRest validNext fewTags
          split
          · apply valid.printsNext enough valid.float32
            intro value next validNext fewTags _
            exact printsRest validNext fewTags
          split
          · apply valid.printsNext enough valid.string
            intro pointer next validNext fewTags isString
            obtain ⟨string, isValue⟩ := isString
            have sees :
                ThrowingMethods.observe
                    (fun _ : ArgStream => memory.cString pointer) next =
                  .ok string next :=
              observe_ok isValue
            rw [ArgStream.Moves, bind_of_ok sees]
            exact printsRest validNext fewTags
          split
          · apply valid.printsNext enough valid.blob
            intro value next validNext fewTags _
            exact printsRest validNext fewTags
          split
          · apply valid.printsNext enough valid.array
            intro array next validNext fewTags isArray
            obtain ⟨validArray, fewer⟩ := isArray
            have printsArray :
                CallEnds
                  (callOn array
                    (Oscpp.printArgsFrom native conversions memory fuel))
                  (fun _ => True) Exception.Rejects NoFault := by
              apply CallEnds.callOn
              apply Ends.mono (inductionHypothesis validArray
                (Nat.lt_of_lt_of_le fewer (Nat.le_of_lt_succ enough)))
              case returns =>
                intro value last _
                trivial
              case throws =>
                intro exception last thrown
                exact thrown.2
              case faults =>
                exact id
            have observes :
                next.Moves memory
                  (ThrowingMethods.observe fun _ =>
                    callOn array
                      (Oscpp.printArgsFrom native conversions memory fuel))
                  (fun _ after => after = next) NoFault :=
              validNext.observe (printsArray.mono (fun _ => rfl) id id)
            apply validNext.bind observes
            intro elements after _ _ same
            subst after
            exact printsRest validNext fewTags
          · apply valid.printsNext enough valid.drop
            intro value next validNext fewTags _
            exact printsRest validNext fewTags

end Arguments

section Packets

variable
  {native : Endian}
  {conversions : Conversions}
  {memory : Memory}
  {stream : Stream}

/-- The address is a C string, and the arguments are valid. -/
structure Message.Valid
    (memory : Memory)
    (message : Message) : Prop where
  address :
    ∃ string, memory.cString message.mAddress = .ok string
  args :
    message.mArgs.Valid memory

/-- The stream has no more in front than another one. -/
structure Stream.Within
    (memory : Memory)
    (stream inner : Stream) : Prop where
  valid :
    inner.Valid memory
  noMore :
    (inner.rest memory).length ≤ (stream.rest memory).length

/-- A stream that was advanced is within the one that it was. -/
theorem Stream.After.within
    {next : Stream}
    (after : stream.After memory next)
    (valid : stream.Valid memory) :
    stream.Within memory next where
  valid := after.valid valid
  noMore := after.length_rest_le valid

/-- `Packet` ends. -/
theorem Packet.ofStream_ends (valid : stream.Valid memory) :
    CallEnds (Packet.ofStream memory stream)
      (fun packet => stream.Within memory packet.mStream)
      Exception.Rejects NoFault := by
  by_cases starts : StartsBundle (stream.rest memory)
  · have long : 8 ≤ (stream.copy.rest memory).length := by
      have isLong := starts.1
      rw [rest_copy]
      omega
    have after : stream.copy.After memory (stream.copy.advance 8) :=
      ⟨8, long, rfl⟩
    have within := after.within valid.copy
    rw [packet_of_bundle valid starts]
    exact ⟨within.valid, within.noMore⟩
  · rw [packet_of_message valid starts]
    exact ⟨valid.copy, Nat.le_refl _⟩

/-- `operator Message` ends. -/
theorem Packet.toMessage_ends
    {packet : Packet}
    (valid : packet.mStream.Valid memory) :
    CallEnds (packet.toMessage memory) (fun message => message.Valid memory)
      Exception.Rejects NoFault := by
  rw [Packet.toMessage]
  split
  · trivial
  · apply CallEnds.bind
    apply CallEnds.callOn
    apply Ends.mono valid.copy.getString
    case returns =>
      intro address next moved
      obtain ⟨after, string, -, -, -, -, isValue, -⟩ := moved
      apply CallEnds.bind
      apply CallEnds.mono (ArgStream.ofStream_ends (after.valid valid.copy))
      case returns =>
        intro args validArgs
        exact ⟨⟨string, isValue⟩, validArgs⟩
      case throws =>
        exact id
      case faults =>
        exact id
    case throws =>
      intro exception next thrown
      exact thrown.2
    case faults =>
      exact id

/-- `operator Bundle` ends. -/
theorem Packet.toBundle_ends
    {packet : Packet}
    (valid : packet.mStream.Valid memory) :
    CallEnds (packet.toBundle memory native)
      (fun bundle => packet.mStream.Within memory bundle.mStream)
      Exception.Rejects NoFault := by
  rw [Packet.toBundle]
  split
  · trivial
  · apply CallEnds.bind
    apply CallEnds.callOn
    apply Ends.mono valid.copy.getUInt64
    case returns =>
      intro time next moved
      have within := moved.1.within valid.copy
      exact ⟨within.valid.copy, within.noMore⟩
    case throws =>
      intro exception next thrown
      exact thrown.2
    case faults =>
      exact id

/-- A part of a stream is made, or rejected. -/
theorem Stream.sub_ends (n : Nat) :
    CallEnds (stream.sub n) (fun part => part = Stream.make stream.mPos n)
      Exception.Rejects NoFault := by
  rw [Stream.sub]
  by_cases short : stream.mEnd < ptrAdd stream.mPos n
  · rw [if_pos short]
    trivial
  · rw [if_neg short]
    rfl

/-- `next` ends; it goes forward, and the packet is smaller. -/
theorem PacketStream.next_ends (valid : stream.Valid memory) :
    Ends (PacketStream.next native memory { mStream := stream })
      (fun packet after =>
        stream.After memory after.mStream ∧
          (after.mStream.rest memory).length <
            (stream.rest memory).length ∧
          packet.mStream.Valid memory ∧
          (packet.mStream.rest memory).length <
            (stream.rest memory).length)
      (fun exception after =>
        stream.After memory after.mStream ∧ exception.Rejects)
      NoFault := by
  apply Ends.bind
  apply Ends.onPart
  apply Ends.mono valid.getInt32
  case throws =>
    intro exception next thrown
    obtain ⟨rfl, rejects⟩ := thrown
    exact ⟨Stream.After.refl valid, rejects⟩
  case faults =>
    exact id
  intro size next moved
  obtain ⟨after, readable, rfl⟩ := moved
  have validNext := after.valid valid
  have isLength := congrArg List.length (rest_advance valid readable)
  rw [List.length_drop] at isLength
  apply Ends.bind
  apply Ends.observe
  apply CallEnds.mono (Stream.sub_ends (toSize size))
  case throws =>
    intro exception rejects
    exact ⟨after, rejects⟩
  case faults =>
    exact id
  intro element isPart
  subst element
  apply Ends.bind
  apply Ends.onPart
  apply Ends.mono (validNext.skip (toSize size))
  case throws =>
    intro exception next thrown
    obtain ⟨rfl, rejects⟩ := thrown
    exact ⟨after, rejects⟩
  case faults =>
    exact id
  intro _ next moved
  obtain ⟨afterNext, inside, rfl⟩ := moved
  -- Only now is it known that the size was one of bytes in front.
  have validElement := validNext.make inside
  have isElement := congrArg List.length (rest_make validNext inside)
  rw [List.length_take_of_le inside] at isElement
  have noMore := afterNext.length_rest_le validNext
  have whole := after.trans valid afterNext
  have fewer :
      (((stream.advance 4).advance (toSize size)).rest memory).length <
        (stream.rest memory).length := by
    omega
  apply Ends.observe
  apply CallEnds.mono (Packet.ofStream_ends validElement)
  case returns =>
    intro packet within
    exact ⟨whole, fewer, within.valid,
      Nat.lt_of_le_of_lt within.noMore (by omega)⟩
  case throws =>
    intro exception rejects
    exact ⟨whole, rejects⟩
  case faults =>
    exact id

/-- `printMessage` ends. -/
theorem Message.Valid.print
    {message : Message}
    (valid : message.Valid memory) :
    CallEnds (printMessage native conversions memory message)
      (fun _ => True) Exception.Rejects NoFault := by
  obtain ⟨⟨string, isValue⟩, validArgs⟩ := valid
  have validCopy : message.args.Valid memory :=
    ⟨validArgs.tags.copy, validArgs.data.copy⟩
  have isCount :
      message.args.mTags.consumable =
        (message.args.mTags.rest memory).length :=
    consumable_eq validCopy.tags
  rw [printMessage, isValue, call_bind_ok, printArgs, isCount]
  apply CallEnds.bind
  apply CallEnds.bind
  apply CallEnds.callOn
  apply Ends.mono (validCopy.printArgsFrom (Nat.lt_succ_self _))
  case returns =>
    intro printed last _
    trivial
  case throws =>
    intro exception last thrown
    exact thrown.2
  case faults =>
    exact id

/-- The loop of `printBundle` ends. -/
theorem printPacketsFrom_ends
    {fuel : Nat}
    {packets : PacketStream}
    (valid : packets.mStream.Valid memory)
    (enough : (packets.mStream.rest memory).length < fuel) :
    Ends (printPacketsFrom native conversions memory fuel packets)
      (fun _ _ => True) (fun exception _ => exception.Rejects)
      NoFault := by
  induction fuel generalizing packets with
  | zero =>
      cases enough
  | succ fuel inductionHypothesis =>
      rw [printPacketsFrom, look_bind]
      split
      · exact Ends.pure trivial
      apply Ends.bind
      apply Ends.mono (PacketStream.next_ends valid)
      case throws =>
        intro exception after thrown
        exact thrown.2
      case faults =>
        exact id
      intro packet after taken
      obtain ⟨wentOn, fewer, validPacket, smaller⟩ := taken
      have printsRest :
          ∀ {node : Elements Blob → Elements Blob},
            Ends
              ((do
                let rest ←
                  printPacketsFrom native conversions memory fuel
                return node rest : Method PacketStream (Elements Blob))
                after)
              (fun _ _ => True) (fun exception _ => exception.Rejects)
              NoFault := by
        intro node
        apply Ends.bind
        exact inductionHypothesis (wentOn.valid valid) (by omega)
      split
      · apply Ends.bind
        apply Ends.observe
        apply CallEnds.mono (Packet.toMessage_ends validPacket)
        case throws =>
          exact id
        case faults =>
          exact id
        intro message validMessage
        apply Ends.bind
        apply Ends.observe
        apply CallEnds.mono (Message.Valid.print validMessage)
        case throws =>
          exact id
        case faults =>
          exact id
        intro printed _
        exact printsRest
      · apply Ends.bind
        apply Ends.observe
        apply CallEnds.mono (Packet.toBundle_ends validPacket)
        case throws =>
          exact id
        case faults =>
          exact id
        intro bundle within
        have validInner : bundle.packets.mStream.Valid memory :=
          within.valid.copy
        have fewInner :
            (bundle.packets.mStream.rest memory).length < fuel :=
          Nat.lt_of_le_of_lt within.noMore (by omega)
        apply Ends.bind
        apply Ends.observe
        apply CallEnds.callOn
        apply Ends.mono (inductionHypothesis validInner fewInner)
        case throws =>
          exact id
        case faults =>
          exact id
        intro elements last _
        exact printsRest

/-- `printPacket` ends. -/
theorem Packet.print_ends
    {packet : Packet}
    (valid : packet.mStream.Valid memory) :
    CallEnds (printPacket native conversions memory packet)
      (fun _ => True) Exception.Rejects NoFault := by
  rw [printPacket]
  split
  · apply CallEnds.bind
    apply CallEnds.mono (Packet.toMessage_ends valid)
    case throws =>
      exact id
    case faults =>
      exact id
    intro message validMessage
    apply CallEnds.bind
    exact validMessage.print
  · apply CallEnds.bind
    apply CallEnds.mono (Packet.toBundle_ends valid)
    case throws =>
      exact id
    case faults =>
      exact id
    intro bundle within
    have validInner : bundle.packets.mStream.Valid memory :=
      within.valid.copy
    have isCount :
        bundle.mStream.consumable =
          (bundle.packets.mStream.rest memory).length :=
      consumable_eq within.valid
    rw [printBundle, isCount]
    apply CallEnds.bind
    apply CallEnds.bind
    apply CallEnds.callOn
    exact printPacketsFrom_ends validInner (Nat.lt_succ_self _)

/--
Whatever the bytes, their number and where they lie: the packet in them is
printed, or rejected with an exception, without any of the faults.
-/
theorem printPacket_ends
    {data size : Nat}
    (begins : memory.address ≤ data)
    (ends : data + size ≤ memory.endAddress) :
    CallEnds
      (Packet.ofData memory data size >>=
        printPacket native conversions memory)
      (fun _ => True) Exception.Rejects NoFault := by
  obtain ⟨valid, -⟩ := valid_make_of_inside begins ends
  apply CallEnds.bind
  apply CallEnds.mono (Packet.ofStream_ends valid)
  case returns =>
    intro packet within
    exact Packet.print_ends within.valid
  case throws =>
    exact id
  case faults =>
    exact id

/-- Bytes that are no packet, at an odd address. -/
def oddMemory : Memory where
  address := 4099
  bytes := ascii "#bundle" ++ [0, 0, 0, 0, 0, 0, 0, 0, 1, 255, 255, 255, 255]
  bounded := by decide

/-- They are rejected. -/
theorem printPacket_ends_oddMemory :
    CallEnds
      (Packet.ofData oddMemory oddMemory.address oddMemory.bytes.length >>=
        printPacket .little .ieee oddMemory)
      (fun _ => True) Exception.Rejects NoFault :=
  printPacket_ends (Nat.le_refl _) (Nat.le_refl _)

end Packets

end Pwcpp.Oscpp
