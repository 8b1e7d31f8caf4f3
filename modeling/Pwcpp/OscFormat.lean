import Mathlib.Data.List.TakeWhile
import Pwcpp.BigEndian
import Pwcpp.Cxx

namespace Pwcpp.Oscpp

/-!
# The library's dialect of the OSC format

What the bytes of a packet mean to the OSC library, said without any code.  It
is a dialect of OSC, in which the arguments of a message fill words, and in
which more is allowed:

* an address is any string and need not start with '/';
* a string may have anything between its NUL and its end, since a reader looks
  at every fourth byte only, and likewise for what fills up a blob;
* a type tag that the library does not know is one without data, whatever OSC
  says about it, and so is a ']' that ends no array;
* anything may follow the arguments of a message, and the last element of a
  bundle may be of any size.

`IsBytes` is what the dialect allows, `bytes` is the encoding that leaves no
choice.
-/

section Strings

/-- How many bytes are missing to a multiple of four. -/
def fill (size : Nat) : Nat :=
  (4 - size % 4) % 4

/-- The bytes, filled up with zeros. -/
def padded (bytes : List UInt8) : List UInt8 :=
  bytes ++ List.replicate (fill bytes.length) 0

/-- The encoding of a string. -/
def oscString (string : StdString) : List UInt8 :=
  padded (string ++ [0])

/-- Where a string ends: the first NUL among every fourth byte. -/
def stringSize : List UInt8 → Option Nat
  | _ :: _ :: _ :: last :: rest =>
      if last = 0 then some 4 else (stringSize rest).map (· + 4)
  | _ =>
      none

/-- The bytes are those of one string, whatever follows its NUL. -/
structure IsString (string : StdString) (wire : List UInt8) : Prop where
  ends :
    stringSize wire = some wire.length
  content :
    cStr wire = string

/-- A filled size is a multiple of four. -/
theorem four_dvd_add_fill (size : Nat) : 4 ∣ size + fill size := by
  rw [fill]
  omega

/-- Filling takes less than four bytes. -/
theorem fill_lt (size : Nat) : fill size < 4 :=
  Nat.mod_lt _ (by decide)

@[simp] theorem length_padded (bytes : List UInt8) :
    (padded bytes).length = bytes.length + fill bytes.length := by
  rw [padded, List.length_append, List.length_replicate]

@[simp] theorem length_oscString (string : StdString) :
    (oscString string).length =
      string.length + 1 + fill (string.length + 1) := by
  rw [oscString, length_padded, List.length_append, List.length_singleton]

/-- A string that ended has ended whatever follows. -/
theorem stringSize_append
    {bytes : List UInt8}
    {size : Nat}
    (ends : stringSize bytes = some size)
    (rest : List UInt8) :
    stringSize (bytes ++ rest) = some size := by
  induction bytes using stringSize.induct generalizing size with
  | case1 first second third tail =>
      exact ends
  | case2 first second third last tail notNul inductionHypothesis =>
      simp only [stringSize, List.cons_append, notNul, if_false,
        Option.map_eq_some_iff] at ends ⊢
      obtain ⟨before, tailEnds, sum⟩ := ends
      exact ⟨before, inductionHypothesis tailEnds, sum⟩
  | case3 bytes short =>
      rw [stringSize] at ends
      · cases ends
      · exact short

/-- What a string that ends looks like. -/
theorem stringSize_spec
    {bytes : List UInt8}
    {size : Nat}
    (ends : stringSize bytes = some size) :
    size ≤ bytes.length ∧ 4 ∣ size ∧ 4 ≤ size ∧
      0 ∈ bytes.take size ∧
        stringSize (bytes.take size) = some size := by
  induction bytes using stringSize.induct generalizing size with
  | case1 first second third tail =>
      obtain rfl : 4 = size := Option.some.inj ends
      refine ⟨?_, Nat.dvd_refl 4, Nat.le_refl 4, by simp, rfl⟩
      simp only [List.length_cons]
      omega
  | case2 first second third last tail notNul inductionHypothesis =>
      simp only [stringSize, notNul, if_false,
        Option.map_eq_some_iff] at ends
      obtain ⟨before, tailEnds, rfl⟩ := ends
      obtain ⟨inside, multiple, _, hasNul, again⟩ :=
        inductionHypothesis tailEnds
      refine ⟨?_, Nat.dvd_add multiple (Nat.dvd_refl 4),
        Nat.le_add_left _ _, ?_, ?_⟩
      · simp only [List.length_cons]
        omega
      · simp only [List.take_succ_cons, List.mem_cons]
        exact Or.inr (Or.inr (Or.inr (Or.inr hasNul)))
      · simp only [List.take_succ_cons, stringSize, notNul, if_false,
          again, Option.map_some]
  | case3 bytes short =>
      rw [stringSize] at ends
      · cases ends
      · exact short

/-- A string of the dialect fills words, at least one. -/
theorem IsString.length
    {string : StdString}
    {wire : List UInt8}
    (isString : IsString string wire) :
    4 ∣ wire.length ∧ 4 ≤ wire.length := by
  obtain ⟨-, multiple, positive, -⟩ := stringSize_spec isString.ends
  exact ⟨multiple, positive⟩

/-- A string of the dialect has a NUL. -/
theorem IsString.nul_mem
    {string : StdString}
    {wire : List UInt8}
    (isString : IsString string wire) :
    0 ∈ wire := by
  obtain ⟨-, -, -, hasNul, -⟩ := stringSize_spec isString.ends
  rwa [List.take_length] at hasNul

/-- The bytes that follow a NUL are not part of the C string. -/
theorem cStr_append_of_nul_mem
    {bytes : List UInt8}
    (hasNul : 0 ∈ bytes)
    (rest : List UInt8) :
    cStr (bytes ++ rest) = cStr bytes := by
  rw [cStr, List.takeWhile_append, if_neg]
  · rfl
  · exact Nat.ne_of_lt ((length_cStr_lt_iff bytes).mpr hasNul)

/-- A nonempty C string starts with the first byte. -/
theorem cStr_cons
    {first : UInt8}
    (notNul : first ≠ 0)
    (rest : List UInt8) :
    cStr (first :: rest) = first :: cStr rest := by
  rw [cStr, List.takeWhile_cons, if_pos (by simpa using notNul)]
  rfl

/-- A C string has no NUL. -/
theorem nulFree_cStr (bytes : List UInt8) : NulFree (cStr bytes) := by
  intro member
  have notNul := List.mem_takeWhile_imp member
  simp at notNul

/-- A string of the dialect is shorter than its bytes. -/
theorem IsString.length_lt
    {string : StdString}
    {wire : List UInt8}
    (isString : IsString string wire) :
    string.length < wire.length := by
  rw [← isString.content, length_cStr_lt_iff]
  exact isString.nul_mem

/-- What a string of the dialect holds has no NUL. -/
theorem IsString.nulFree
    {string : StdString}
    {wire : List UInt8}
    (isString : IsString string wire) :
    NulFree string := by
  rw [← isString.content]
  exact nulFree_cStr wire

/-- Four bytes more leave as many missing. -/
theorem fill_add_four (size : Nat) : fill (size + 4) = fill size := by
  rw [fill, fill, Nat.add_mod_right]

/-- A string is encoded word by word. -/
theorem oscString_cons_word
    (first second third fourth : UInt8)
    (rest : StdString) :
    oscString (first :: second :: third :: fourth :: rest) =
      first :: second :: third :: fourth :: oscString rest := by
  have sameFill :
      fill (first :: second :: third :: fourth :: rest ++ [0]).length =
        fill (rest ++ [0]).length :=
    fill_add_four (rest ++ [0]).length
  rw [oscString, padded, sameFill]
  rfl

/-- The encoding of a string without NUL ends where it should. -/
theorem stringSize_oscString
    {string : StdString}
    (nulFree : NulFree string) :
    stringSize (oscString string) = some (oscString string).length := by
  induction string using stringSize.induct with
  | case1 first second third rest =>
      exact (nulFree (by simp)).elim
  | case2 first second third last rest notNul inductionHypothesis =>
      have restNulFree : NulFree rest := by
        intro member
        exact nulFree (by simp [member])
      simp only [oscString_cons_word, stringSize, notNul, if_false,
        inductionHypothesis restNulFree, Option.map_some,
        List.length_cons]
  | case3 string short =>
      match string, short with
      | [], _ =>
          rfl
      | [_], _ =>
          rfl
      | [_, _], _ =>
          rfl
      | [_, _, _], _ =>
          simp [oscString, padded, fill, stringSize]
      | first :: second :: third :: last :: rest, short =>
          exact (short first second third last rest rfl).elim

/-- The encoding of a string without NUL is one that the dialect allows. -/
theorem isString_oscString
    {string : StdString}
    (nulFree : NulFree string) :
    IsString string (oscString string) where
  ends :=
    stringSize_oscString nulFree
  content := by
    rw [oscString, padded, cStr_append_of_nul_mem (by simp),
      cStr_append_nul, cStr_eq_self nulFree]

end Strings

section Arguments

variable {β γ : Type}

/--
The arguments of a message.  A float is given by its bits; `other` is an
argument of a type without data.
-/
inductive Args (β : Type) where
  | nil
  | int32 (value : Int32) (rest : Args β)
  | float32 (value : UInt32) (rest : Args β)
  | string (value : StdString) (rest : Args β)
  | blob (value : β) (rest : Args β)
  | array (elements rest : Args β)
  | other (tag : UInt8) (rest : Args β)
  deriving Repr, DecidableEq

/-- Change what the blobs are. -/
def Args.map (change : β → γ) : Args β → Args γ
  | .nil =>
      .nil
  | .int32 value rest =>
      .int32 value (rest.map change)
  | .float32 value rest =>
      .float32 value (rest.map change)
  | .string value rest =>
      .string value (rest.map change)
  | .blob value rest =>
      .blob (change value) (rest.map change)
  | .array elements rest =>
      .array (elements.map change) (rest.map change)
  | .other tag rest =>
      .other tag (rest.map change)

/-- The type tags of the arguments. -/
def Args.tags : Args β → List UInt8
  | .nil =>
      []
  | .int32 _ rest =>
      'i'.toUInt8 :: rest.tags
  | .float32 _ rest =>
      'f'.toUInt8 :: rest.tags
  | .string _ rest =>
      's'.toUInt8 :: rest.tags
  | .blob _ rest =>
      'b'.toUInt8 :: rest.tags
  | .array elements rest =>
      '['.toUInt8 :: (elements.tags ++ ']'.toUInt8 :: rest.tags)
  | .other tag rest =>
      tag :: rest.tags

/-- The four bytes of a word. -/
def word (value : UInt32) : List UInt8 :=
  BigEndian.encode 4 value.toNat

/-- The encoding of the arguments, without their tags. -/
def Args.data : Args (List UInt8) → List UInt8
  | .nil =>
      []
  | .int32 value rest =>
      word value.toUInt32 ++ rest.data
  | .float32 value rest =>
      word value ++ rest.data
  | .string value rest =>
      oscString value ++ rest.data
  | .blob value rest =>
      word value.length.toUInt32 ++ padded value ++ rest.data
  | .array elements rest =>
      elements.data ++ rest.data
  | .other _ rest =>
      rest.data

/-- The bytes are those of the arguments. -/
def Args.IsData : Args (List UInt8) → List UInt8 → Prop
  | .nil, wire =>
      wire = []
  | .int32 value rest, wire =>
      ∃ tail, wire = word value.toUInt32 ++ tail ∧ rest.IsData tail
  | .float32 value rest, wire =>
      ∃ tail, wire = word value ++ tail ∧ rest.IsData tail
  | .string value rest, wire =>
      ∃ first tail,
        wire = first ++ tail ∧ IsString value first ∧ rest.IsData tail
  | .blob value rest, wire =>
      ∃ filling tail,
        wire = word value.length.toUInt32 ++ (value ++ filling) ++ tail ∧
          value.length < 2 ^ 31 ∧
          filling.length = fill value.length ∧
          rest.IsData tail
  | .array elements rest, wire =>
      ∃ first tail,
        wire = first ++ tail ∧ elements.IsData first ∧ rest.IsData tail
  | .other _ rest, wire =>
      rest.IsData wire

/-- The tag says neither that data follow nor that an array starts. -/
def IsOtherTag (tag : UInt8) : Prop :=
  tag ≠ 'i'.toUInt8 ∧ tag ≠ 'f'.toUInt8 ∧ tag ≠ 's'.toUInt8 ∧
    tag ≠ 'b'.toUInt8 ∧ tag ≠ '['.toUInt8

instance (tag : UInt8) : Decidable (IsOtherTag tag) :=
  inferInstanceAs (Decidable (_ ∧ _))

/-- No argument ends an array that did not start. -/
def Args.Closed : Args β → Prop
  | .nil =>
      True
  | .int32 _ rest | .float32 _ rest | .string _ rest | .blob _ rest
  | .array _ rest =>
      rest.Closed
  | .other tag rest =>
      tag ≠ ']'.toUInt8 ∧ rest.Closed

/-- The tags are those of the arguments, and arrays end where they should. -/
def Args.WellTagged : Args β → Prop
  | .nil =>
      True
  | .int32 _ rest | .float32 _ rest | .string _ rest | .blob _ rest =>
      rest.WellTagged
  | .array elements rest =>
      elements.WellTagged ∧ elements.Closed ∧ rest.WellTagged
  | .other tag rest =>
      IsOtherTag tag ∧ rest.WellTagged

/-- The arguments can be written: NUL is nowhere, and blobs are small. -/
def Args.Writable : Args (List UInt8) → Prop
  | .nil =>
      True
  | .int32 _ rest | .float32 _ rest =>
      rest.Writable
  | .string value rest =>
      NulFree value ∧ rest.Writable
  | .blob value rest =>
      value.length < 2 ^ 31 ∧ rest.Writable
  | .array elements rest =>
      elements.Writable ∧ rest.Writable
  | .other tag rest =>
      tag ≠ 0 ∧ rest.Writable

instance Args.decidableClosed : (args : Args β) → Decidable args.Closed
  | .nil =>
      inferInstanceAs (Decidable True)
  | .int32 _ rest | .float32 _ rest | .string _ rest | .blob _ rest
  | .array _ rest =>
      rest.decidableClosed
  | .other _ rest =>
      have := rest.decidableClosed
      inferInstanceAs (Decidable (_ ∧ _))

instance Args.decidableWellTagged :
    (args : Args β) → Decidable args.WellTagged
  | .nil =>
      inferInstanceAs (Decidable True)
  | .int32 _ rest | .float32 _ rest | .string _ rest | .blob _ rest =>
      rest.decidableWellTagged
  | .array elements rest =>
      have := elements.decidableWellTagged
      have := rest.decidableWellTagged
      inferInstanceAs (Decidable (_ ∧ _ ∧ _))
  | .other _ rest =>
      have := rest.decidableWellTagged
      inferInstanceAs (Decidable (_ ∧ _))

instance Args.decidableWritable :
    (args : Args (List UInt8)) → Decidable args.Writable
  | .nil =>
      inferInstanceAs (Decidable True)
  | .int32 _ rest | .float32 _ rest =>
      rest.decidableWritable
  | .string _ rest | .blob _ rest | .other _ rest =>
      have := rest.decidableWritable
      inferInstanceAs (Decidable (_ ∧ _))
  | .array elements rest =>
      have := elements.decidableWritable
      have := rest.decidableWritable
      inferInstanceAs (Decidable (_ ∧ _))

@[simp] theorem length_word (value : UInt32) : (word value).length = 4 :=
  BigEndian.length_encode 4 value.toNat

/-- A word spells its value. -/
theorem decode_word (value : UInt32) :
    BigEndian.decode (word value) = value.toNat :=
  BigEndian.decode_encode value.toNat_lt

/-- Every four bytes are a word. -/
theorem word_decode
    {bytes : List UInt8}
    (isWord : bytes.length = 4) :
    word (BigEndian.decode bytes).toUInt32 = bytes := by
  have inRange : BigEndian.decode bytes < 2 ^ 32 := by
    have bound := BigEndian.decode_lt bytes
    rw [isWord] at bound
    exact bound
  have sameNumber :
      (BigEndian.decode bytes).toUInt32.toNat = BigEndian.decode bytes :=
    UInt32.toNat_ofNat_of_lt' inRange
  have roundTrip := BigEndian.encode_decode bytes
  rw [isWord] at roundTrip
  rw [word, sameNumber, roundTrip]

/-- The data of arguments fill words. -/
theorem Args.IsData.four_dvd
    {args : Args (List UInt8)}
    {wire : List UInt8}
    (isData : args.IsData wire) :
    4 ∣ wire.length := by
  induction args generalizing wire with
  | nil =>
      obtain rfl : wire = [] := isData
      exact Nat.dvd_zero 4
  | int32 value rest inductionHypothesis
  | float32 value rest inductionHypothesis =>
      obtain ⟨tail, rfl, isTail⟩ := isData
      rw [List.length_append, length_word]
      exact Nat.dvd_add (Nat.dvd_refl 4) (inductionHypothesis isTail)
  | string value rest inductionHypothesis =>
      obtain ⟨first, tail, rfl, isString, isTail⟩ := isData
      rw [List.length_append]
      exact Nat.dvd_add isString.length.1 (inductionHypothesis isTail)
  | blob value rest inductionHypothesis =>
      obtain ⟨filling, tail, rfl, -, isFilling, isTail⟩ := isData
      rw [List.length_append, List.length_append, List.length_append,
        length_word, isFilling]
      exact Nat.dvd_add
        (Nat.dvd_add (Nat.dvd_refl 4) (four_dvd_add_fill value.length))
        (inductionHypothesis isTail)
  | array elements rest elementsHypothesis restHypothesis =>
      obtain ⟨first, tail, rfl, isFirst, isTail⟩ := isData
      rw [List.length_append]
      exact Nat.dvd_add (elementsHypothesis isFirst)
        (restHypothesis isTail)
  | other tag rest inductionHypothesis =>
      exact inductionHypothesis isData

/-- The encoding of arguments that can be written is theirs. -/
theorem isData_data
    {args : Args (List UInt8)}
    (writable : args.Writable) :
    args.IsData args.data := by
  induction args with
  | nil =>
      rfl
  | int32 value rest inductionHypothesis
  | float32 value rest inductionHypothesis =>
      exact ⟨rest.data, rfl, inductionHypothesis writable⟩
  | string value rest inductionHypothesis =>
      exact ⟨oscString value, rest.data, rfl,
        isString_oscString writable.1, inductionHypothesis writable.2⟩
  | blob value rest inductionHypothesis =>
      exact ⟨List.replicate (fill value.length) 0, rest.data, rfl,
        writable.1, List.length_replicate,
        inductionHypothesis writable.2⟩
  | array elements rest elementsHypothesis restHypothesis =>
      exact ⟨elements.data, rest.data, rfl,
        elementsHypothesis writable.1, restHypothesis writable.2⟩
  | other tag rest inductionHypothesis =>
      exact inductionHypothesis writable.2

/-- No tag of arguments that can be written is NUL. -/
theorem nulFree_tags
    {args : Args (List UInt8)}
    (writable : args.Writable) :
    NulFree args.tags := by
  induction args with
  | nil =>
      exact List.not_mem_nil
  | int32 value rest inductionHypothesis
  | float32 value rest inductionHypothesis =>
      exact List.not_mem_cons_of_ne_of_not_mem (by decide)
        (inductionHypothesis writable)
  | string value rest inductionHypothesis
  | blob value rest inductionHypothesis =>
      exact List.not_mem_cons_of_ne_of_not_mem (by decide)
        (inductionHypothesis writable.2)
  | array elements rest elementsHypothesis restHypothesis =>
      apply List.not_mem_cons_of_ne_of_not_mem (by decide)
      rw [List.mem_append, not_or]
      exact ⟨elementsHypothesis writable.1,
        List.not_mem_cons_of_ne_of_not_mem (by decide)
          (restHypothesis writable.2)⟩
  | other tag rest inductionHypothesis =>
      exact List.not_mem_cons_of_ne_of_not_mem writable.1.symm
        (inductionHypothesis writable.2)

end Arguments

section ReadFrom

/-- The tags are those of the arguments, and the bytes start with their data. -/
def Args.ReadFrom
    (args : Args (List UInt8))
    (tags bytes : List UInt8) : Prop :=
  args.WellTagged ∧ args.tags = tags ∧
    ∃ data trailing, bytes = data ++ trailing ∧ args.IsData data

variable
  {args : Args (List UInt8)}
  {tag : UInt8}
  {tags bytes : List UInt8}

/-- Without tags there are no arguments. -/
theorem readFrom_nil : args.ReadFrom [] bytes ↔ args = .nil := by
  constructor
  · intro reads
    rcases reads with ⟨-, noTags, -⟩
    cases args <;> first | rfl | cases noTags
  · intro isNil
    subst args
    exact ⟨trivial, rfl, [], bytes, rfl, rfl⟩

/-- The tag of an integer: a word, and the other arguments after it. -/
theorem readFrom_int32 :
    args.ReadFrom ('i'.toUInt8 :: tags) bytes ↔
      ∃ value rest trailing,
        args = .int32 value rest ∧
          bytes = word value.toUInt32 ++ trailing ∧
          rest.ReadFrom tags trailing := by
  constructor
  · intro reads
    rcases reads with ⟨wellTagged, sameTags, data, trailing, rfl, isData⟩
    cases args with
    | int32 value rest =>
        obtain ⟨tail, rfl, isTail⟩ := isData
        exact ⟨value, rest, tail ++ trailing, rfl,
          List.append_assoc _ _ _, wellTagged, (List.cons.inj sameTags).2,
          tail, trailing, rfl, isTail⟩
    | other tag rest =>
        exact (wellTagged.1.1 (List.cons.inj sameTags).1).elim
    | nil =>
        cases sameTags
    | float32 _ _ | string _ _ | blob _ _ | array _ _ =>
        exact absurd (List.cons.inj sameTags).1 (by decide)
  · intro reads
    rcases reads with ⟨value, rest, _, rfl, rfl, wellTagged, rfl, data,
      trailing, rfl, isData⟩
    exact ⟨wellTagged, rfl, word value.toUInt32 ++ data, trailing,
      (List.append_assoc _ _ _).symm, data, rfl, isData⟩

/-- The tag of a float: a word, and the other arguments after it. -/
theorem readFrom_float32 :
    args.ReadFrom ('f'.toUInt8 :: tags) bytes ↔
      ∃ value rest trailing,
        args = .float32 value rest ∧
          bytes = word value ++ trailing ∧
          rest.ReadFrom tags trailing := by
  constructor
  · intro reads
    rcases reads with ⟨wellTagged, sameTags, data, trailing, rfl, isData⟩
    cases args with
    | float32 value rest =>
        obtain ⟨tail, rfl, isTail⟩ := isData
        exact ⟨value, rest, tail ++ trailing, rfl,
          List.append_assoc _ _ _, wellTagged, (List.cons.inj sameTags).2,
          tail, trailing, rfl, isTail⟩
    | other tag rest =>
        exact (wellTagged.1.2.1 (List.cons.inj sameTags).1).elim
    | nil =>
        cases sameTags
    | int32 _ _ | string _ _ | blob _ _ | array _ _ =>
        exact absurd (List.cons.inj sameTags).1 (by decide)
  · intro reads
    rcases reads with ⟨value, rest, _, rfl, rfl, wellTagged, rfl, data,
      trailing, rfl, isData⟩
    exact ⟨wellTagged, rfl, word value ++ data, trailing,
      (List.append_assoc _ _ _).symm, data, rfl, isData⟩

/-- The tag of a string: a string, and the other arguments after it. -/
theorem readFrom_string :
    args.ReadFrom ('s'.toUInt8 :: tags) bytes ↔
      ∃ value rest first trailing,
        args = .string value rest ∧
          bytes = first ++ trailing ∧
          IsString value first ∧
          rest.ReadFrom tags trailing := by
  constructor
  · intro reads
    rcases reads with ⟨wellTagged, sameTags, data, trailing, rfl, isData⟩
    cases args with
    | string value rest =>
        obtain ⟨first, tail, rfl, isString, isTail⟩ := isData
        exact ⟨value, rest, first, tail ++ trailing, rfl,
          List.append_assoc _ _ _, isString, wellTagged,
          (List.cons.inj sameTags).2, tail, trailing, rfl, isTail⟩
    | other tag rest =>
        exact (wellTagged.1.2.2.1 (List.cons.inj sameTags).1).elim
    | nil =>
        cases sameTags
    | int32 _ _ | float32 _ _ | blob _ _ | array _ _ =>
        exact absurd (List.cons.inj sameTags).1 (by decide)
  · intro reads
    rcases reads with ⟨value, rest, first, _, rfl, rfl, isString,
      wellTagged, rfl, data, trailing, rfl, isData⟩
    exact ⟨wellTagged, rfl, first ++ data, trailing,
      (List.append_assoc _ _ _).symm, first, data, rfl, isString, isData⟩

/-- The tag of a blob: its size, its bytes, and the other arguments. -/
theorem readFrom_blob :
    args.ReadFrom ('b'.toUInt8 :: tags) bytes ↔
      ∃ value rest filling trailing,
        args = .blob value rest ∧
          bytes =
            word value.length.toUInt32 ++ (value ++ filling) ++ trailing ∧
          value.length < 2 ^ 31 ∧
          filling.length = fill value.length ∧
          rest.ReadFrom tags trailing := by
  constructor
  · intro reads
    rcases reads with ⟨wellTagged, sameTags, data, trailing, rfl, isData⟩
    cases args with
    | blob value rest =>
        obtain ⟨filling, tail, rfl, isSmall, isFilling, isTail⟩ := isData
        exact ⟨value, rest, filling, tail ++ trailing, rfl,
          List.append_assoc _ _ _, isSmall, isFilling, wellTagged,
          (List.cons.inj sameTags).2, tail, trailing, rfl, isTail⟩
    | other tag rest =>
        exact (wellTagged.1.2.2.2.1 (List.cons.inj sameTags).1).elim
    | nil =>
        cases sameTags
    | int32 _ _ | float32 _ _ | string _ _ | array _ _ =>
        exact absurd (List.cons.inj sameTags).1 (by decide)
  · intro reads
    rcases reads with ⟨value, rest, filling, _, rfl, rfl, isSmall,
      isFilling, wellTagged, rfl, data, trailing, rfl, isData⟩
    exact ⟨wellTagged, rfl,
      word value.length.toUInt32 ++ (value ++ filling) ++ data, trailing,
      (List.append_assoc _ _ _).symm, filling, data, rfl, isSmall,
      isFilling, isData⟩

/-- The tag of an array: its elements up to its end, and the others. -/
theorem readFrom_array :
    args.ReadFrom ('['.toUInt8 :: tags) bytes ↔
      ∃ elements rest later first trailing,
        args = .array elements rest ∧
          tags = elements.tags ++ ']'.toUInt8 :: later ∧
          bytes = first ++ trailing ∧
          elements.WellTagged ∧ elements.Closed ∧
          elements.IsData first ∧
          rest.ReadFrom later trailing := by
  constructor
  · intro reads
    rcases reads with ⟨wellTagged, sameTags, data, trailing, rfl, isData⟩
    cases args with
    | array elements rest =>
        obtain ⟨first, tail, rfl, isFirst, isTail⟩ := isData
        obtain ⟨inner, closed, restTagged⟩ := wellTagged
        exact ⟨elements, rest, rest.tags, first, tail ++ trailing, rfl,
          (List.cons.inj sameTags).2.symm, List.append_assoc _ _ _, inner,
          closed, isFirst, restTagged, rfl, tail, trailing, rfl, isTail⟩
    | other tag rest =>
        exact (wellTagged.1.2.2.2.2 (List.cons.inj sameTags).1).elim
    | nil =>
        cases sameTags
    | int32 _ _ | float32 _ _ | string _ _ | blob _ _ =>
        exact absurd (List.cons.inj sameTags).1 (by decide)
  · intro reads
    rcases reads with ⟨elements, rest, _, first, _, rfl, rfl, rfl, inner,
      closed, isFirst, restTagged, rfl, data, trailing, rfl, isData⟩
    exact ⟨⟨inner, closed, restTagged⟩, rfl, first ++ data, trailing,
      (List.append_assoc _ _ _).symm, first, data, rfl, isFirst, isData⟩

/-- Any other tag: nothing, and the other arguments. -/
theorem readFrom_other (isOther : IsOtherTag tag) :
    args.ReadFrom (tag :: tags) bytes ↔
      ∃ rest, args = .other tag rest ∧ rest.ReadFrom tags bytes := by
  obtain ⟨notInt, notFloat, notString, notBlob, notArray⟩ := isOther
  constructor
  · intro reads
    rcases reads with ⟨wellTagged, sameTags, isData⟩
    cases args with
    | nil =>
        cases sameTags
    | int32 _ rest =>
        exact (notInt (List.cons.inj sameTags).1.symm).elim
    | float32 _ rest =>
        exact (notFloat (List.cons.inj sameTags).1.symm).elim
    | string _ rest =>
        exact (notString (List.cons.inj sameTags).1.symm).elim
    | blob _ rest =>
        exact (notBlob (List.cons.inj sameTags).1.symm).elim
    | array _ rest =>
        exact (notArray (List.cons.inj sameTags).1.symm).elim
    | other same rest =>
        obtain ⟨rfl, rfl⟩ := List.cons.inj sameTags
        exact ⟨rest, rfl, wellTagged.2, rfl, isData⟩
  · intro reads
    rcases reads with ⟨rest, rfl, wellTagged, rfl, isData⟩
    exact ⟨⟨⟨notInt, notFloat, notString, notBlob, notArray⟩, wellTagged⟩,
      rfl, isData⟩

end ReadFrom

section Packets

variable {β γ : Type}

/-- The elements of a bundle. -/
inductive Elements (β : Type) where
  | nil
  | message (address : StdString) (args : Args β) (rest : Elements β)
  | bundle (time : UInt64) (elements rest : Elements β)
  deriving Repr, DecidableEq

/-- What a packet contains. -/
inductive Content (β : Type) where
  | message (address : StdString) (args : Args β)
  | bundle (time : UInt64) (elements : Elements β)
  deriving Repr, DecidableEq

/-- Change what the blobs are. -/
def Elements.map (change : β → γ) : Elements β → Elements γ
  | .nil =>
      .nil
  | .message address args rest =>
      .message address (args.map change) (rest.map change)
  | .bundle time elements rest =>
      .bundle time (elements.map change) (rest.map change)

/-- Change what the blobs are. -/
def Content.map (change : β → γ) : Content β → Content γ
  | .message address args =>
      .message address (args.map change)
  | .bundle time elements =>
      .bundle time (elements.map change)

/-- The eight bytes with which a bundle starts. -/
def bundleTag : List UInt8 :=
  ascii "#bundle" ++ [0]

/-- The header of a bundle: its tag and its time. -/
def bundleHeader (time : UInt64) : List UInt8 :=
  bundleTag ++ BigEndian.encode 8 time.toNat

/-- The encoding of a message. -/
def messageBytes
    (address : StdString)
    (args : Args (List UInt8)) :
    List UInt8 :=
  oscString address ++ oscString (','.toUInt8 :: args.tags) ++ args.data

/-- A bundle with every kind of argument in it. -/
def noteBundle : Content (List UInt8) :=
  .bundle 1
    (.message (ascii "/note")
      (.int32 60
        (.array (.string (ascii "velocity") (.float32 0x3f000000 .nil))
          (.blob [1, 2, 3, 4, 5] (.other 'T'.toUInt8 .nil))))
      (.bundle 2 (.message (ascii "/off") .nil .nil) .nil))

/-- Bytes after their number. -/
def sized (bytes : List UInt8) : List UInt8 :=
  word bytes.length.toUInt32 ++ bytes

/-- The encoding of the elements of a bundle. -/
def Elements.bytes : Elements (List UInt8) → List UInt8
  | .nil =>
      []
  | .message address args rest =>
      sized (messageBytes address args) ++ rest.bytes
  | .bundle time elements rest =>
      sized (bundleHeader time ++ elements.bytes) ++ rest.bytes

/-- The encoding of a packet. -/
def Content.bytes : Content (List UInt8) → List UInt8
  | .message address args =>
      messageBytes address args
  | .bundle time elements =>
      bundleHeader time ++ elements.bytes

/-- The bytes are taken for a bundle. -/
def StartsBundle (wire : List UInt8) : Prop :=
  15 < wire.length ∧ wire.take 8 = bundleTag

instance (wire : List UInt8) : Decidable (StartsBundle wire) :=
  inferInstanceAs (Decidable (_ ∧ _))

/-- The bytes are those of a message, perhaps with something after it. -/
def IsMessage
    (address : StdString)
    (args : Args (List UInt8))
    (wire : List UInt8) : Prop :=
  ¬ StartsBundle wire ∧ args.WellTagged ∧
    ∃ first types data trailing,
      wire = first ++ (types ++ (data ++ trailing)) ∧
        IsString address first ∧
        IsString (','.toUInt8 :: args.tags) types ∧
        args.IsData data

/--
The bytes are an element of a bundle and what follows it.  Only the last
element may be of a size that is not a multiple of four.
-/
structure IsSized (element tail wire : List UInt8) : Prop where
  isWire :
    wire = sized element ++ tail
  isSmall :
    element.length < 2 ^ 31
  isAligned :
    tail = [] ∨ 4 ∣ element.length

/-- The bytes are those of the elements of a bundle. -/
def Elements.IsBytes : Elements (List UInt8) → List UInt8 → Prop
  | .nil, wire =>
      wire = []
  | .message address args rest, wire =>
      ∃ element tail,
        IsSized element tail wire ∧
          IsMessage address args element ∧ rest.IsBytes tail
  | .bundle time elements rest, wire =>
      ∃ inner tail,
        IsSized (bundleHeader time ++ inner) tail wire ∧
          elements.IsBytes inner ∧ rest.IsBytes tail

/-- The bytes are those of a packet, in the library's dialect. -/
def Content.IsBytes : Content (List UInt8) → List UInt8 → Prop
  | .message address args, wire =>
      IsMessage address args wire
  | .bundle time elements, wire =>
      ∃ inner, wire = bundleHeader time ++ inner ∧ elements.IsBytes inner

/--
The message can be written: its address has no NUL, and with it the message
is not taken for a bundle.
-/
structure WritableMessage
    (address : StdString)
    (args : Args (List UInt8)) : Prop where
  nulFree :
    NulFree address
  notBundle :
    ¬ StartsBundle (messageBytes address args)
  wellTagged :
    args.WellTagged
  writable :
    args.Writable

/-- The elements can be written: none is too large for its size. -/
def Elements.Writable : Elements (List UInt8) → Prop
  | .nil =>
      True
  | .message address args rest =>
      WritableMessage address args ∧
        (messageBytes address args).length < 2 ^ 31 ∧ rest.Writable
  | .bundle _ elements rest =>
      elements.Writable ∧ 16 + elements.bytes.length < 2 ^ 31 ∧
        rest.Writable

/-- The packet can be written. -/
def Content.Writable : Content (List UInt8) → Prop
  | .message address args =>
      WritableMessage address args
  | .bundle _ elements =>
      elements.Writable

/-- What it takes to write a message. -/
theorem writableMessage_iff
    {address : StdString}
    {args : Args (List UInt8)} :
    WritableMessage address args ↔
      NulFree address ∧ ¬ StartsBundle (messageBytes address args) ∧
        args.WellTagged ∧ args.Writable := by
  constructor
  · intro message
    exact ⟨message.nulFree, message.notBundle, message.wellTagged,
      message.writable⟩
  · intro parts
    exact ⟨parts.1, parts.2.1, parts.2.2.1, parts.2.2.2⟩

instance
    (address : StdString)
    (args : Args (List UInt8)) :
    Decidable (WritableMessage address args) :=
  decidable_of_iff' _ writableMessage_iff

instance Elements.decidableWritable :
    (elements : Elements (List UInt8)) → Decidable elements.Writable
  | .nil =>
      inferInstanceAs (Decidable True)
  | .message _ _ rest =>
      have := rest.decidableWritable
      inferInstanceAs (Decidable (_ ∧ _ ∧ _))
  | .bundle _ elements rest =>
      have := elements.decidableWritable
      have := rest.decidableWritable
      inferInstanceAs (Decidable (_ ∧ _ ∧ _))

instance Content.decidableWritable :
    (content : Content (List UInt8)) → Decidable content.Writable
  | .message address args =>
      inferInstanceAs (Decidable (WritableMessage address args))
  | .bundle _ elements =>
      elements.decidableWritable

@[simp] theorem length_bundleHeader (time : UInt64) :
    (bundleHeader time).length = 16 := by
  rw [bundleHeader, List.length_append, BigEndian.length_encode]
  rfl

@[simp] theorem length_sized (bytes : List UInt8) :
    (sized bytes).length = 4 + bytes.length := by
  rw [sized, List.length_append, length_word]

/-- A header makes a bundle. -/
theorem startsBundle_bundleHeader
    (time : UInt64)
    (inner : List UInt8) :
    StartsBundle (bundleHeader time ++ inner) := by
  constructor
  · rw [List.length_append, length_bundleHeader]
    omega
  · rw [bundleHeader, List.append_assoc]
    rfl

/-- What starts a bundle has a header. -/
theorem StartsBundle.exists_header
    {wire : List UInt8}
    (starts : StartsBundle wire) :
    ∃ time inner, wire = bundleHeader time ++ inner := by
  obtain ⟨long, tag⟩ := starts
  have isWord : ((wire.drop 8).take 8).length = 8 := by
    rw [List.length_take, List.length_drop]
    omega
  have inRange : BigEndian.decode ((wire.drop 8).take 8) < 2 ^ 64 := by
    have bound := BigEndian.decode_lt ((wire.drop 8).take 8)
    rw [isWord] at bound
    exact bound
  have word := BigEndian.encode_decode ((wire.drop 8).take 8)
  rw [isWord] at word
  refine ⟨(BigEndian.decode ((wire.drop 8).take 8)).toUInt64,
    wire.drop 16, ?_⟩
  rw [bundleHeader, UInt64.toNat_ofNat_of_lt' inRange, word, ← tag,
    List.append_assoc]
  have rest : (wire.drop 8).take 8 ++ wire.drop 16 = wire.drop 8 := by
    have split := List.take_append_drop 8 (wire.drop 8)
    rwa [List.drop_drop] at split
  rw [rest, List.take_append_drop]

/-- The encoding of arguments that can be written fills words. -/
theorem four_dvd_length_data
    {args : Args (List UInt8)}
    (writable : args.Writable) :
    4 ∣ args.data.length :=
  (isData_data writable).four_dvd

/-- The encoding of a string fills words. -/
theorem four_dvd_length_oscString (string : StdString) :
    4 ∣ (oscString string).length := by
  rw [length_oscString]
  exact four_dvd_add_fill _

/-- The encoding of a message fills words. -/
theorem four_dvd_length_messageBytes
    {args : Args (List UInt8)}
    (writable : args.Writable)
    (address : StdString) :
    4 ∣ (messageBytes address args).length := by
  rw [messageBytes, List.length_append, List.length_append]
  exact Nat.dvd_add
    (Nat.dvd_add (four_dvd_length_oscString _)
      (four_dvd_length_oscString _))
    (four_dvd_length_data writable)

/-- The encoding of the elements of a bundle fills words. -/
theorem four_dvd_length_elements
    {elements : Elements (List UInt8)}
    (writable : elements.Writable) :
    4 ∣ elements.bytes.length := by
  induction elements with
  | nil =>
      exact Nat.dvd_zero 4
  | message address args rest inductionHypothesis =>
      obtain ⟨message, -, restWritable⟩ := writable
      rw [Elements.bytes, List.length_append, length_sized]
      exact Nat.dvd_add
        (Nat.dvd_add (Nat.dvd_refl 4)
          (four_dvd_length_messageBytes message.writable address))
        (inductionHypothesis restWritable)
  | bundle time elements rest elementsHypothesis restHypothesis =>
      obtain ⟨inner, -, restWritable⟩ := writable
      rw [Elements.bytes, List.length_append, length_sized,
        List.length_append, length_bundleHeader]
      exact Nat.dvd_add
        (Nat.dvd_add (Nat.dvd_refl 4)
          (Nat.dvd_add (by decide) (elementsHypothesis inner)))
        (restHypothesis restWritable)

/-- The encoding of a message that can be written is its own. -/
theorem isMessage_messageBytes
    {address : StdString}
    {args : Args (List UInt8)}
    (message : WritableMessage address args) :
    IsMessage address args (messageBytes address args) := by
  refine ⟨message.notBundle, message.wellTagged, oscString address,
    oscString (','.toUInt8 :: args.tags), args.data, [], ?_,
    isString_oscString message.nulFree, isString_oscString ?_,
    isData_data message.writable⟩
  · rw [messageBytes, List.append_nil, List.append_assoc]
  · exact List.not_mem_cons_of_ne_of_not_mem (by decide)
      (nulFree_tags message.writable)

/-- The encoding of elements that can be written is their own. -/
theorem isBytes_elements
    {elements : Elements (List UInt8)}
    (writable : elements.Writable) :
    elements.IsBytes elements.bytes := by
  induction elements with
  | nil =>
      rfl
  | message address args rest inductionHypothesis =>
      obtain ⟨message, isSmall, restWritable⟩ := writable
      exact ⟨messageBytes address args, rest.bytes,
        ⟨rfl, isSmall, Or.inr
          (four_dvd_length_messageBytes message.writable address)⟩,
        isMessage_messageBytes message, inductionHypothesis restWritable⟩
  | bundle time elements rest elementsHypothesis restHypothesis =>
      obtain ⟨inner, isSmall, restWritable⟩ := writable
      have isLength :
          (bundleHeader time ++ elements.bytes).length =
            16 + elements.bytes.length := by
        rw [List.length_append, length_bundleHeader]
      refine ⟨elements.bytes, rest.bytes, ⟨rfl, ?_, Or.inr ?_⟩,
        elementsHypothesis inner, restHypothesis restWritable⟩
      · rw [isLength]
        exact isSmall
      · rw [isLength]
        exact Nat.dvd_add (by decide) (four_dvd_length_elements inner)

/-- The encoding of a packet that can be written is its own. -/
theorem isBytes_content
    {content : Content (List UInt8)}
    (writable : content.Writable) :
    content.IsBytes content.bytes := by
  cases content with
  | message address args =>
      exact isMessage_messageBytes writable
  | bundle time elements =>
      exact ⟨elements.bytes, rfl, isBytes_elements writable⟩

end Packets

end Pwcpp.Oscpp
