import Pwcpp.BitFields
import Pwcpp.ParseMidi

namespace Pwcpp

/-!
# The bits of a MIDI packet

`parse_ump_64` reads its fields with shifts, masks and narrowing casts, and
finds the kind of a message by comparing a byte that holds the opcode and the
channel together.  Here a packet is described by the positions of its fields,
and by the fields it was assembled from.
-/

open BitFields

section Reading

/-- A shifted and masked word is one of its fields. -/
theorem toNat_shiftRight_and
    (word shift mask : UInt32)
    {high low : Nat}
    (isLow : shift.toNat % 32 = low)
    (isMask : mask.toNat = 2 ^ (high + 1 - low) - 1) :
    ((word >>> shift) &&& mask).toNat = bits word.toNat high low := by
  simp only [UInt32.toNat_and, UInt32.toNat_shiftRight, isLow]
  exact shiftRight_and_mask isMask

/-- `message_type` -/
theorem toNat_messageType (d0 : UInt32) :
    (((d0 >>> 28) &&& 0xf).toUInt8).toNat = bits d0.toNat 31 28 := by
  have field : ((d0 >>> 28) &&& 0xf).toNat = bits d0.toNat 31 28 :=
    toNat_shiftRight_and d0 28 0xf rfl rfl
  have small : bits d0.toNat 31 28 < 2 ^ 8 :=
    Nat.lt_trans (bits_lt d0.toNat 31 28) (by decide)
  rw [UInt32.toNat_toUInt8, field, Nat.mod_eq_of_lt small]

/-- `status` -/
theorem toNat_status (d0 : UInt32) :
    ((d0 >>> 16).toUInt8).toNat = bits d0.toNat 23 16 := by
  simp only [UInt32.toNat_toUInt8, UInt32.toNat_shiftRight, bits,
    Nat.shiftRight_eq_div_pow]
  rfl

/-- The channel is the low half of the status. -/
theorem toNat_channel (d0 : UInt32) :
    ((d0 >>> 16).toUInt8 &&& 0x0f).toNat = bits d0.toNat 19 16 := by
  have masked :
      (bits d0.toNat 23 16 >>> 0) &&& 0x0f =
        bits (bits d0.toNat 23 16) 3 0 :=
    shiftRight_and_mask rfl
  rw [UInt8.toNat_and, toNat_status]
  exact masked.trans (bits_bits (by decide))

/-- The number of a note or a controller. -/
theorem toNat_number (d0 : UInt32) :
    (((d0 >>> 8) &&& 0x7f).toUInt8).toNat = bits d0.toNat 14 8 := by
  have field : ((d0 >>> 8) &&& 0x7f).toNat = bits d0.toNat 14 8 :=
    toNat_shiftRight_and d0 8 0x7f rfl rfl
  have small : bits d0.toNat 14 8 < 2 ^ 8 :=
    Nat.lt_trans (bits_lt d0.toNat 14 8) (by decide)
  rw [UInt32.toNat_toUInt8, field, Nat.mod_eq_of_lt small]

/-- The velocity of a note. -/
theorem toNat_velocity (d1 : UInt32) :
    (((d1 >>> 16) &&& 0xffff).toUInt16).toNat = bits d1.toNat 31 16 := by
  have field : ((d1 >>> 16) &&& 0xffff).toNat = bits d1.toNat 31 16 :=
    toNat_shiftRight_and d1 16 0xffff rfl rfl
  have small : bits d1.toNat 31 16 < 2 ^ 16 :=
    bits_lt d1.toNat 31 16
  rw [UInt32.toNat_toUInt16, field, Nat.mod_eq_of_lt small]

/-- A range of sixteen statuses is an opcode. -/
theorem status_range_iff
    (d0 : UInt32)
    {first last : UInt8}
    {opcode : Nat}
    (isFirst : first.toNat = 16 * opcode)
    (isLast : last.toNat = 16 * opcode + 15) :
    (d0 >>> 16).toUInt8 ≥ first ∧ (d0 >>> 16).toUInt8 ≤ last ↔
      bits d0.toNat 23 20 = opcode := by
  have split : bits (bits d0.toNat 23 16) 7 4 = bits d0.toNat 23 20 :=
    bits_bits (by decide)
  have small := bits_lt d0.toNat 23 16
  rw [ge_iff_le, UInt8.le_iff_toNat_le, UInt8.le_iff_toNat_le, toNat_status,
    isFirst, isLast, ← split]
  simp only [bits] at small ⊢
  omega

/-- The packet is one of MIDI 2.0 exactly when its top four bits are 4. -/
theorem messageType_iff (d0 : UInt32) :
    ((d0 >>> 28) &&& 0xf).toUInt8 = 0x4 ↔ bits d0.toNat 31 28 = 4 := by
  rw [← UInt8.toNat_inj, toNat_messageType]
  rfl

/-- `parse_ump_64`, with its conditions on the fields. -/
theorem parseUmp64_eq (d0 d1 : UInt32) :
    parseUmp64 (some (d0, d1)) =
      if bits d0.toNat 31 28 = 4 then
        if bits d0.toNat 23 20 = 0xb then
          some (.controlChange {
            channel := (d0 >>> 16).toUInt8 &&& 0x0f
            ccNumber := ((d0 >>> 8) &&& 0x7f).toUInt8
            value := d1
          })
        else if bits d0.toNat 23 20 = 0x8 then
          some (.noteOff {
            channel := (d0 >>> 16).toUInt8 &&& 0x0f
            note := ((d0 >>> 8) &&& 0x7f).toUInt8
            velocity := ((d1 >>> 16) &&& 0xffff).toUInt16
          })
        else if bits d0.toNat 23 20 = 0x9 then
          some (.noteOn {
            channel := (d0 >>> 16).toUInt8 &&& 0x0f
            note := ((d0 >>> 8) &&& 0x7f).toUInt8
            velocity := ((d1 >>> 16) &&& 0xffff).toUInt16
          })
        else
          none
      else
        none := by
  have isController :
      (d0 >>> 16).toUInt8 ≥ 0xb0 ∧ (d0 >>> 16).toUInt8 ≤ 0xbf ↔
        bits d0.toNat 23 20 = 0xb :=
    status_range_iff d0 rfl rfl
  have isNoteOff :
      (d0 >>> 16).toUInt8 ≥ 0x80 ∧ (d0 >>> 16).toUInt8 ≤ 0x8f ↔
        bits d0.toNat 23 20 = 0x8 :=
    status_range_iff d0 rfl rfl
  have isNoteOn :
      (d0 >>> 16).toUInt8 ≥ 0x90 ∧ (d0 >>> 16).toUInt8 ≤ 0x9f ↔
        bits d0.toNat 23 20 = 0x9 :=
    status_range_iff d0 rfl rfl
  by_cases isMidi2 : ((d0 >>> 28) &&& 0xf).toUInt8 = 0x4
  · have inRange :
        ¬ ((0x4 : UInt8) < 0x4 ∨ (0x4 : UInt8) > 0x7) := by
      decide
    simp only [parseUmp64, isMidi2, if_neg inRange, ↓reduceIte,
      isController, isNoteOff, isNoteOn, if_pos ((messageType_iff d0).mp isMidi2)]
  · simp only [parseUmp64, isMidi2, ↓reduceIte, ite_self,
      if_neg (fun is4 => isMidi2 ((messageType_iff d0).mpr is4))]

/-- The opcode of the packets that a message stands for. -/
def Message.opcode : Message → Nat
  | .noteOff _ => 0x8
  | .noteOn _ => 0x9
  | .controlChange _ => 0xb

def Message.channel : Message → UInt8
  | .noteOff message => message.channel
  | .noteOn message => message.channel
  | .controlChange message => message.channel

/-- The number of the note or of the controller. -/
def Message.number : Message → UInt8
  | .noteOff message => message.note
  | .noteOn message => message.note
  | .controlChange message => message.ccNumber

/-- The velocity of the note or the value of the controller. -/
def Message.data : Message → Nat
  | .noteOff message => message.velocity.toNat
  | .noteOn message => message.velocity.toNat
  | .controlChange message => message.value.toNat

/-- A message is its opcode, channel, number and velocity or value. -/
theorem Message.eq_of_fields
    {first second : Message}
    (sameOpcode : first.opcode = second.opcode)
    (sameChannel : first.channel = second.channel)
    (sameNumber : first.number = second.number)
    (sameData : first.data = second.data) :
    first = second := by
  cases first <;> cases second <;>
    simp_all only [opcode, channel, number, data, UInt16.toNat_inj,
      UInt32.toNat_inj, Nat.reduceEqDiff, Nat.succ_ne_self]
  all_goals
    rename_i first second
    cases first
    cases second
    simp_all

/-- The velocity or the value that a packet with this opcode carries. -/
def dataBits (opcode : Nat) (d1 : UInt32) : Nat :=
  if opcode = 0xb then
    d1.toNat
  else
    bits d1.toNat 31 16

/-- A note carries a velocity. -/
theorem dataBits_of_ne
    {opcode : Nat}
    (isNote : opcode ≠ 0xb)
    (d1 : UInt32) :
    dataBits opcode d1 = bits d1.toNat 31 16 :=
  if_neg isNote

/-- The words carry the packet that the message stands for. -/
structure Message.FieldsOf
    (d0 d1 : UInt32)
    (message : Message) : Prop where
  opcode :
    message.opcode = bits d0.toNat 23 20
  channel :
    message.channel.toNat = bits d0.toNat 19 16
  number :
    message.number.toNat = bits d0.toNat 14 8
  data :
    message.data = dataBits (bits d0.toNat 23 20) d1

/-- Words carry the packet of one message at most. -/
theorem Message.FieldsOf.unique
    {d0 d1 : UInt32}
    {first second : Message}
    (firstFields : first.FieldsOf d0 d1)
    (secondFields : second.FieldsOf d0 d1) :
    first = second :=
  Message.eq_of_fields
    (firstFields.opcode.trans secondFields.opcode.symm)
    (UInt8.toNat_inj.mp
      (firstFields.channel.trans secondFields.channel.symm))
    (UInt8.toNat_inj.mp
      (firstFields.number.trans secondFields.number.symm))
    (firstFields.data.trans secondFields.data.symm)

/-- Bits 23 to 20 of a packet that `parse_ump_64` accepts. -/
def IsVoiceOpcode (opcode : Nat) : Prop :=
  opcode = 0x8 ∨ opcode = 0x9 ∨ opcode = 0xb

/-- The words of a packet that is accepted carry a message, which is returned. -/
theorem exists_parseUmp64
    {d0 d1 : UInt32}
    (isMidi2 : bits d0.toNat 31 28 = 4)
    (isVoice : IsVoiceOpcode (bits d0.toNat 23 20)) :
    ∃ message,
      parseUmp64 (some (d0, d1)) = some message ∧
        message.FieldsOf d0 d1 := by
  rw [parseUmp64_eq, if_pos isMidi2]
  rcases isVoice with isNoteOff | isNoteOn | isController
  · rw [isNoteOff]
    refine ⟨_, rfl, isNoteOff.symm, toNat_channel d0, toNat_number d0, ?_⟩
    rw [isNoteOff]
    exact toNat_velocity d1
  · rw [isNoteOn]
    refine ⟨_, rfl, isNoteOn.symm, toNat_channel d0, toNat_number d0, ?_⟩
    rw [isNoteOn]
    exact toNat_velocity d1
  · rw [isController]
    refine ⟨_, rfl, isController.symm, toNat_channel d0, toNat_number d0, ?_⟩
    rw [isController]
    rfl

/-- A message stands for packets with a voice opcode. -/
theorem Message.FieldsOf.isVoiceOpcode
    {d0 d1 : UInt32}
    {message : Message}
    (fields : message.FieldsOf d0 d1) :
    IsVoiceOpcode (bits d0.toNat 23 20) := by
  rw [← fields.opcode]
  cases message with
  | noteOff message =>
      exact Or.inl rfl
  | noteOn message =>
      exact Or.inr (Or.inl rfl)
  | controlChange message =>
      exact Or.inr (Or.inr rfl)

/-- Any other packet is refused. -/
theorem parseUmp64_eq_none
    {d0 d1 : UInt32}
    (refused :
      ¬ (bits d0.toNat 31 28 = 4 ∧
        IsVoiceOpcode (bits d0.toNat 23 20))) :
    parseUmp64 (some (d0, d1)) = none := by
  rw [parseUmp64_eq]
  by_cases isMidi2 : bits d0.toNat 31 28 = 4
  · have notVoice :
        ¬ IsVoiceOpcode (bits d0.toNat 23 20) :=
      fun isVoice => refused ⟨isMidi2, isVoice⟩
    simp only [IsVoiceOpcode, not_or] at notVoice
    simp only [isMidi2, notVoice, ↓reduceIte]
  · exact if_neg isMidi2

/-- `parse_ump_64` returns the message whose packet the words carry. -/
theorem parseUmp64_eq_some_iff
    {d0 d1 : UInt32}
    {message : Message} :
    parseUmp64 (some (d0, d1)) = some message ↔
      bits d0.toNat 31 28 = 4 ∧ message.FieldsOf d0 d1 := by
  constructor
  · intro returns
    by_cases accepted :
        bits d0.toNat 31 28 = 4 ∧
          IsVoiceOpcode (bits d0.toNat 23 20)
    · obtain ⟨returned, parses, fields⟩ :=
        exists_parseUmp64 accepted.1 accepted.2
      obtain rfl : returned = message :=
        Option.some.inj (parses.symm.trans returns)
      exact ⟨accepted.1, fields⟩
    · cases (parseUmp64_eq_none accepted).symm.trans returns
  · intro carries
    rcases carries with ⟨isMidi2, fields⟩
    obtain ⟨returned, parses, returnedFields⟩ :=
      exists_parseUmp64 isMidi2 fields.isVoiceOpcode
    rw [parses, returnedFields.unique fields]

end Reading

section Assembling

/-- Fields of 32 bits together fill a word. -/
theorem toNat_ofNat_pack
    {fields : List Field}
    (width : totalWidth fields = 32) :
    (UInt32.ofNat (pack fields)).toNat = pack fields := by
  have small := pack_lt fields
  rw [width] at small
  rw [UInt32.toNat_ofNat', Nat.mod_eq_of_lt small]

/-- What a packet says beyond the number of its note or controller. -/
inductive Ump64Body where
  | noteOff (velocity noteAttribute : BitVec 16)
  | noteOn (velocity noteAttribute : BitVec 16)
  | controlChange (value : BitVec 32)
  deriving Repr, DecidableEq

/-- The fields that a packet is assembled from. -/
structure Ump64Packet where
  group : BitVec 4
  channel : BitVec 4
  reserved : BitVec 1
  number : BitVec 7
  low : BitVec 8
  body : Ump64Body
  deriving Repr, DecidableEq

namespace Ump64Body

/-- Bits 23 to 20 of the first word. -/
def opcode : Ump64Body → BitVec 4
  | .noteOff _ _ => 0x8
  | .noteOn _ _ => 0x9
  | .controlChange _ => 0xb

/-- The fields of the second word. -/
def fields : Ump64Body → List Field
  | .noteOff velocity noteAttribute => [⟨16, velocity⟩, ⟨16, noteAttribute⟩]
  | .noteOn velocity noteAttribute => [⟨16, velocity⟩, ⟨16, noteAttribute⟩]
  | .controlChange value => [⟨32, value⟩]

/-- The second word. -/
def word (body : Ump64Body) : UInt32 :=
  .ofNat (pack body.fields)

theorem toNat_word (body : Ump64Body) :
    body.word.toNat = pack body.fields := by
  cases body <;> exact toNat_ofNat_pack rfl

/-- The velocity of a note is the upper half of the second word. -/
theorem bits_velocity (velocity noteAttribute : BitVec 16) :
    bits
        (UInt32.ofNat
          (pack [⟨16, velocity⟩, ⟨16, noteAttribute⟩])).toNat 31 16 =
      velocity.toNat := by
  rw [toNat_ofNat_pack rfl]
  exact bits_pack [] ⟨16, velocity⟩ [⟨16, noteAttribute⟩] rfl

end Ump64Body

namespace Ump64Packet

/-- The fields of the first word; the packet type is 4. -/
def fields (packet : Ump64Packet) : List Field :=
  [⟨4, 0x4⟩, ⟨4, packet.group⟩, ⟨4, packet.body.opcode⟩,
    ⟨4, packet.channel⟩, ⟨1, packet.reserved⟩, ⟨7, packet.number⟩,
    ⟨8, packet.low⟩]

/-- The first word. -/
def word (packet : Ump64Packet) : UInt32 :=
  .ofNat (pack packet.fields)

/-- The message that the packet carries. -/
def message (packet : Ump64Packet) : Message :=
  match packet.body with
  | .noteOff velocity _ =>
      .noteOff {
        channel := .ofNat packet.channel.toNat
        note := .ofNat packet.number.toNat
        velocity := .ofBitVec velocity
      }
  | .noteOn velocity _ =>
      .noteOn {
        channel := .ofNat packet.channel.toNat
        note := .ofNat packet.number.toNat
        velocity := .ofBitVec velocity
      }
  | .controlChange value =>
      .controlChange {
        channel := .ofNat packet.channel.toNat
        ccNumber := .ofNat packet.number.toNat
        value := .ofBitVec value
      }

theorem toNat_word (packet : Ump64Packet) :
    packet.word.toNat = pack packet.fields :=
  toNat_ofNat_pack rfl

/-- A field of the first word is found at its place. -/
theorem bits_word
    {packet : Ump64Packet}
    (before : List Field)
    {field : Field}
    {after : List Field}
    {high low : Nat}
    (isPlace : packet.fields = before ++ field :: after)
    (isLow : low = totalWidth after)
    (isHigh : high + 1 = field.width + totalWidth after) :
    bits packet.word.toNat high low = field.value.toNat := by
  rw [toNat_word, isPlace, isLow]
  exact bits_pack before field after isHigh

/-- The opcode of the message is that of the packet. -/
theorem message_opcode (packet : Ump64Packet) :
    packet.message.opcode = packet.body.opcode.toNat := by
  unfold message
  cases packet.body <;> rfl

/-- The channel of the message is that of the packet. -/
theorem message_channel (packet : Ump64Packet) :
    packet.message.channel.toNat = packet.channel.toNat := by
  have small : packet.channel.toNat < 2 ^ 8 :=
    Nat.lt_trans packet.channel.isLt (by decide)
  unfold message
  cases packet.body <;> exact UInt8.toNat_ofNat_of_lt' small

/-- The number of the message is that of the packet. -/
theorem message_number (packet : Ump64Packet) :
    packet.message.number.toNat = packet.number.toNat := by
  have small : packet.number.toNat < 2 ^ 8 :=
    Nat.lt_trans packet.number.isLt (by decide)
  unfold message
  cases packet.body <;> exact UInt8.toNat_ofNat_of_lt' small

/-- The data of the message are in the second word. -/
theorem message_data (packet : Ump64Packet) :
    packet.message.data =
      dataBits packet.body.opcode.toNat packet.body.word := by
  unfold message
  cases packet.body with
  | noteOff velocity noteAttribute =>
      have isNote : (0x8 : BitVec 4).toNat ≠ 0xb := by
        decide
      exact ((dataBits_of_ne isNote _).trans
        (Ump64Body.bits_velocity velocity noteAttribute)).symm
  | noteOn velocity noteAttribute =>
      have isNote : (0x9 : BitVec 4).toNat ≠ 0xb := by
        decide
      exact ((dataBits_of_ne isNote _).trans
        (Ump64Body.bits_velocity velocity noteAttribute)).symm
  | controlChange value =>
      have whole :
          (Ump64Body.controlChange value).word.toNat = value.toNat := by
        rw [Ump64Body.toNat_word, Ump64Body.fields, pack, pack, totalWidth]
        simp
      exact whole.symm

/-- The assembled words carry the packet's message. -/
theorem message_fieldsOf (packet : Ump64Packet) :
    packet.message.FieldsOf packet.word packet.body.word := by
  have opcode :
      bits packet.word.toNat 23 20 = packet.body.opcode.toNat :=
    bits_word [_, _] rfl rfl rfl
  exact {
    opcode := by
      rw [opcode]
      exact packet.message_opcode
    channel :=
      packet.message_channel.trans (bits_word [_, _, _] rfl rfl rfl).symm
    number :=
      packet.message_number.trans
        (bits_word [_, _, _, _, _] rfl rfl rfl).symm
    data := by
      rw [opcode]
      exact packet.message_data
  }

/-- An assembled packet decodes to its message. -/
theorem parseUmp64_words (packet : Ump64Packet) :
    parseUmp64 (some (packet.word, packet.body.word)) =
      some packet.message :=
  parseUmp64_eq_some_iff.mpr
    ⟨bits_word [] rfl rfl rfl, packet.message_fieldsOf⟩

end Ump64Packet

end Assembling

section Exactness

/-- Two packets agree on everything that a message says. -/
structure SameFields (d0 d1 e0 e1 : UInt32) : Prop where
  opcode :
    bits d0.toNat 23 20 = bits e0.toNat 23 20
  channel :
    bits d0.toNat 19 16 = bits e0.toNat 19 16
  number :
    bits d0.toNat 14 8 = bits e0.toNat 14 8
  data :
    dataBits (bits d0.toNat 23 20) d1 = dataBits (bits e0.toNat 23 20) e1

/--
A decoder accepts exactly the note and controller packets of MIDI 2.0, reads
the fields of a packet, recovers the fields a packet was assembled from, and
tells two packets apart exactly when they differ in such a field.
-/
structure DecodesUmp64Exactly
    (decode : Option (UInt32 × UInt32) → Option Message) : Prop where
  accepts :
    ∀ d0 d1,
      (decode (some (d0, d1))).isSome = true ↔
        bits d0.toNat 31 28 = 4 ∧
          IsVoiceOpcode (bits d0.toNat 23 20)
  reads :
    ∀ d0 d1 message,
      decode (some (d0, d1)) = some message →
      message.FieldsOf d0 d1
  recovers :
    ∀ packet : Ump64Packet,
      decode (some (packet.word, packet.body.word)) = some packet.message
  separates :
    ∀ d0 d1 e0 e1,
      (decode (some (d0, d1))).isSome = true →
      (decode (some (e0, e1))).isSome = true →
      (decode (some (d0, d1)) = decode (some (e0, e1)) ↔
        SameFields d0 d1 e0 e1)

/-- `parse_ump_64` accepts exactly the packets with a voice opcode. -/
theorem parseUmp64_isSome_iff (d0 d1 : UInt32) :
    (parseUmp64 (some (d0, d1))).isSome = true ↔
      bits d0.toNat 31 28 = 4 ∧
        IsVoiceOpcode (bits d0.toNat 23 20) := by
  constructor
  · intro accepted
    obtain ⟨message, returns⟩ := Option.isSome_iff_exists.mp accepted
    obtain ⟨isMidi2, fields⟩ := parseUmp64_eq_some_iff.mp returns
    exact ⟨isMidi2, fields.isVoiceOpcode⟩
  · intro voice
    obtain ⟨message, returns, fields⟩ :=
      exists_parseUmp64 voice.1 voice.2
    exact Option.isSome_iff_exists.mpr ⟨message, returns⟩

/-- Packets that carry the same message agree on its fields. -/
theorem Message.FieldsOf.sameFields
    {d0 d1 e0 e1 : UInt32}
    {message : Message}
    (first : message.FieldsOf d0 d1)
    (second : message.FieldsOf e0 e1) :
    SameFields d0 d1 e0 e1 where
  opcode := first.opcode.symm.trans second.opcode
  channel := first.channel.symm.trans second.channel
  number := first.number.symm.trans second.number
  data := first.data.symm.trans second.data

/-- A packet that agrees on its fields carries the same message. -/
theorem Message.FieldsOf.of_sameFields
    {d0 d1 e0 e1 : UInt32}
    {message : Message}
    (first : message.FieldsOf d0 d1)
    (same : SameFields d0 d1 e0 e1) :
    message.FieldsOf e0 e1 where
  opcode := first.opcode.trans same.opcode
  channel := first.channel.trans same.channel
  number := first.number.trans same.number
  data := first.data.trans same.data

/-- Accepted packets decode to the same message iff their fields agree. -/
theorem parseUmp64_eq_iff
    {d0 d1 e0 e1 : UInt32}
    (firstAccepted : (parseUmp64 (some (d0, d1))).isSome = true)
    (secondAccepted : (parseUmp64 (some (e0, e1))).isSome = true) :
    parseUmp64 (some (d0, d1)) = parseUmp64 (some (e0, e1)) ↔
      SameFields d0 d1 e0 e1 := by
  obtain ⟨message, returns⟩ :=
    Option.isSome_iff_exists.mp firstAccepted
  obtain ⟨isMidi2, fields⟩ := parseUmp64_eq_some_iff.mp returns
  rw [returns, eq_comm, parseUmp64_eq_some_iff]
  constructor
  · intro carries
    exact fields.sameFields carries.2
  · intro same
    exact ⟨((parseUmp64_isSome_iff e0 e1).mp secondAccepted).1,
      fields.of_sameFields same⟩

/-- `parse_ump_64` decodes MIDI 2.0 packets exactly. -/
theorem parseUmp64_decodesExactly :
    DecodesUmp64Exactly parseUmp64 where
  accepts := parseUmp64_isSome_iff
  reads _ _ _ returns := (parseUmp64_eq_some_iff.mp returns).2
  recovers := Ump64Packet.parseUmp64_words
  separates _ _ _ _ := parseUmp64_eq_iff

end Exactness

end Pwcpp
