import Pwcpp.BoundedSlots
import Pwcpp.Buffer
import Pwcpp.Error

namespace Pwcpp

/-!
# Parsing MIDI

`parse_midi` stores the messages of a sequence in a fixed number of slots.  It
asks whether the slots are used up before it looks at a control, so it reports
an overflow for any control after the last slot was filled.
-/

/-- `control_change`. -/
structure ControlChange where
  channel : UInt8
  ccNumber : UInt8
  value : UInt32
  deriving Repr, DecidableEq

/-- `note_off` -/
structure NoteOff where
  channel : UInt8
  note : UInt8
  velocity : UInt16
  deriving Repr, DecidableEq

/-- `note_on` -/
structure NoteOn where
  channel : UInt8
  note : UInt8
  velocity : UInt16
  deriving Repr, DecidableEq

/-- `midi::message`. -/
inductive Message where
  | controlChange (message : ControlChange)
  | noteOff (message : NoteOff)
  | noteOn (message : NoteOn)
  deriving Repr, DecidableEq

/-- `parse_ump_64`, on the two words that `data` points to. -/
def parseUmp64 (data : Option (UInt32 × UInt32)) : Option Message :=
  match data with
  | none =>
      none
  | some (d0, d1) =>
      let messageType : UInt8 := ((d0 >>> 28) &&& 0xf).toUInt8
      if messageType < 0x4 ∨ messageType > 0x7 then
        none
      else if messageType = 0x4 then
        let status : UInt8 := (d0 >>> 16).toUInt8
        if status ≥ 0xb0 ∧ status ≤ 0xbf then
          some (.controlChange {
            channel := status &&& 0x0f
            ccNumber := ((d0 >>> 8) &&& 0x7f).toUInt8
            value := d1
          })
        else if status ≥ 0x80 ∧ status ≤ 0x8f then
          some (.noteOff {
            channel := status &&& 0x0f
            note := ((d0 >>> 8) &&& 0x7f).toUInt8
            velocity := ((d1 >>> 16) &&& 0xffff).toUInt16
          })
        else if status ≥ 0x90 ∧ status ≤ 0x9f then
          some (.noteOn {
            channel := status &&& 0x0f
            note := ((d0 >>> 8) &&& 0x7f).toUInt8
            velocity := ((d1 >>> 16) &&& 0xffff).toUInt16
          })
        else
          none
      else
        none

section Parsing

variable {Pod Memory : Type}

/-- The loop of `parse_midi`. -/
def parseMidiControls
    (reader : PodReader Pod)
    (native : Endian)
    (maxN : Nat)
    (resultMessages : Vector (Option Message) maxN)
    (index : Nat) :
    List (PodControl Pod) →
      Expected (Vector (Option Message) maxN)
  | [] =>
      .ok resultMessages
  | podControl :: rest =>
      if index ≥ maxN then
        .error .midiParsingTooManyMessages
      else if podControl.type ≠ .ump then
        parseMidiControls reader native maxN resultMessages index rest
      else
        let data := reader.spaPodBody podControl.value
        let length := reader.spaPodBodySize podControl.value
        if length ≠ 8 then
          parseMidiControls reader native maxN resultMessages index rest
        else
          match
            parseUmp64
              (some (loadWord native data 0, loadWord native data 1))
          with
          | some message =>
              parseMidiControls reader native maxN
                (resultMessages.setIfInBounds index (some message))
                (index + 1) rest
          | none =>
              parseMidiControls reader native maxN
                resultMessages index rest

/-- `parse_midi`. -/
def parseMidi
    (reader : PodReader Pod)
    (native : Endian)
    (maxN : Nat)
    (buffer : Buffer Pod Memory) :
    Exec (Expected (Vector (Option Message) maxN)) := do
  match ← buffer.getPod 0 with
  | none =>
      return .ok (Vector.replicate maxN none)
  | some pod =>
      let sequence ← dereference pod
      if reader.spaPodIsSequence sequence then
        return parseMidiControls reader native maxN
          (Vector.replicate maxN none) 0
          (reader.spaPodSequenceForeach sequence)
      else
        return .error .midiParsingPodNotASequence

end Parsing

open BoundedSlots

section Messages

variable {Pod Memory : Type}

/-- The message that a control decodes to, if any. -/
def decodedMessage
    (reader : PodReader Pod)
    (native : Endian)
    (control : PodControl Pod) :
    Option Message :=
  if control.type = .ump ∧
      reader.spaPodBodySize control.value = 8 then
    let data := reader.spaPodBody control.value
    parseUmp64 (some (loadWord native data 0, loadWord native data 1))
  else
    none

variable
  {reader : PodReader Pod}
  {native : Endian}
  {maxN : Nat}

/-- One round of the loop, by what the control decodes to. -/
theorem parseMidiControls_cons
    (resultMessages : Vector (Option Message) maxN)
    {index : Nat}
    (notFull : index < maxN)
    (control : PodControl Pod)
    (rest : List (PodControl Pod)) :
    parseMidiControls reader native maxN resultMessages index
        (control :: rest) =
      match decodedMessage reader native control with
      | some message =>
          parseMidiControls reader native maxN
            (resultMessages.setIfInBounds index (some message))
            (index + 1) rest
      | none =>
          parseMidiControls reader native maxN
            resultMessages index rest := by
  rw [parseMidiControls, if_neg (Nat.not_le_of_lt notFull)]
  unfold decodedMessage
  by_cases isUmp : control.type = .ump
  · by_cases isPacket : reader.spaPodBodySize control.value = 8
    · simp only [isUmp, isPacket, ne_eq, not_true_eq_false, ↓reduceIte,
        and_self]
    · simp [isUmp, isPacket]
  · simp [isUmp]

/--
From messages stored in the first slots, the loop stores the messages of the
other controls after them, unless a control is left when the slots are full.
-/
theorem parseMidiControls_eq
    (controls : List (PodControl Pod))
    (stored : List Message)
    (fits : stored.length ≤ maxN) :
    parseMidiControls reader native maxN
        (ofList maxN stored) stored.length controls =
      if remaining (decodedMessage reader native)
          (maxN - stored.length) controls = [] then
        .ok (ofList maxN
          (stored ++
            controls.filterMap (decodedMessage reader native)))
      else
        .error .midiParsingTooManyMessages := by
  induction controls generalizing stored with
  | nil =>
      have noneLeft :
          remaining (decodedMessage reader native)
            (maxN - stored.length) [] = [] := by
        cases maxN - stored.length <;> rfl
      rw [if_pos noneLeft, List.filterMap_nil, List.append_nil]
      rfl
  | cons control rest inductionHypothesis =>
      by_cases notFull : stored.length < maxN
      · obtain ⟨free, isFree⟩ :
            ∃ free, maxN - stored.length = free + 1 :=
          Nat.exists_eq_succ_of_ne_zero (Nat.sub_ne_zero_of_lt notFull)
        rw [parseMidiControls_cons _ notFull, isFree, remaining]
        cases decodes : decodedMessage reader native control with
        | none =>
            have later := inductionHypothesis stored fits
            rw [isFree] at later
            rw [List.filterMap_cons_none decodes]
            exact later
        | some message =>
            have oneMore : (stored ++ [message]).length ≤ maxN := by
              rw [List.length_append, List.length_singleton]
              exact notFull
            have later := inductionHypothesis _ oneMore
            have isFree' :
                maxN - (stored ++ [message]).length = free := by
              rw [List.length_append, List.length_singleton]
              omega
            rw [isFree', ← ofList_push, List.length_append,
              List.append_assoc] at later
            rw [List.filterMap_cons_some decodes]
            exact later
      · have isFull : maxN - stored.length = 0 :=
          Nat.sub_eq_zero_of_le (Nat.le_of_not_lt notFull)
        rw [parseMidiControls, if_pos (Nat.le_of_not_lt notFull),
          isFull, remaining, if_neg (List.cons_ne_nil control rest)]

/-- What `parse_midi` returns for a sequence. -/
theorem parseMidi_of_sequence
    {buffer : Buffer Pod Memory}
    {pod : Pod}
    (delivers : buffer.getPod 0 = .ok (some (some pod)))
    (isSequence : reader.spaPodIsSequence pod = true) :
    parseMidi reader native maxN buffer =
      .ok (if remaining (decodedMessage reader native) maxN
            (reader.spaPodSequenceForeach pod) = [] then
          .ok (ofList maxN
            ((reader.spaPodSequenceForeach pod).filterMap
              (decodedMessage reader native)))
        else
          .error .midiParsingTooManyMessages) := by
  have loop :
      parseMidiControls reader native maxN (ofList maxN []) 0
          (reader.spaPodSequenceForeach pod) = _ :=
    parseMidiControls_eq (reader.spaPodSequenceForeach pod) []
      (Nat.zero_le maxN)
  rw [parseMidi, delivers]
  simp only [Bind.bind, Except.bind, dereference_some, isSequence,
    ↓reduceIte, Pure.pure, Except.pure]
  rw [← ofList_nil]
  exact congrArg Except.ok loop

end Messages

section Overflow

variable {Pod Memory : Type}

/--
`parse_midi` reports an overflow exactly when more than `maxN` controls decode
to a message, and succeeds exactly when it does so without the others.
-/
structure ReportsOverflowExactly
    (reader : PodReader Pod)
    (native : Endian)
    (maxN : Nat)
    (buffer : Buffer Pod Memory)
    (pod : Pod) : Prop where
  overflow :
    parseMidi reader native maxN buffer =
        .ok (.error .midiParsingTooManyMessages) ↔
      maxN <
        ((reader.spaPodSequenceForeach pod).filterMap
          (decodedMessage reader native)).length
  others :
    ∀ (stripped : Buffer Pod Memory) (strippedPod : Pod),
      stripped.getPod 0 = .ok (some (some strippedPod)) →
      reader.spaPodIsSequence strippedPod = true →
      reader.spaPodSequenceForeach strippedPod =
        (reader.spaPodSequenceForeach pod).filter
          (fun control =>
            (decodedMessage reader native control).isSome) →
      ((∃ messages,
          parseMidi reader native maxN buffer = .ok (.ok messages)) ↔
        ∃ messages,
          parseMidi reader native maxN stripped = .ok (.ok messages))

variable
  {reader : PodReader Pod}
  (native : Endian)
  (maxN : Nat)
  {buffer : Buffer Pod Memory}
  {pod : Pod}

/-- The overflow error says that a control is left after the last slot. -/
theorem parseMidi_tooMany_iff
    (delivers : buffer.getPod 0 = .ok (some (some pod)))
    (isSequence : reader.spaPodIsSequence pod = true) :
    parseMidi reader native maxN buffer =
        .ok (.error .midiParsingTooManyMessages) ↔
      remaining (decodedMessage reader native) maxN
        (reader.spaPodSequenceForeach pod) ≠ [] := by
  rw [parseMidi_of_sequence delivers isSequence]
  split
  · rename_i noneLeft
    simp [noneLeft]
  · rename_i someLeft
    simp [someLeft]

/-- Success says that no control is left after the last slot. -/
theorem parseMidi_succeeds_iff
    (delivers : buffer.getPod 0 = .ok (some (some pod)))
    (isSequence : reader.spaPodIsSequence pod = true) :
    (∃ messages,
        parseMidi reader native maxN buffer = .ok (.ok messages)) ↔
      remaining (decodedMessage reader native) maxN
        (reader.spaPodSequenceForeach pod) = [] := by
  rw [parseMidi_of_sequence delivers isSequence]
  split
  · rename_i noneLeft
    simp [noneLeft]
  · rename_i someLeft
    simp [someLeft]

/--
`parse_midi` reports overflow exactly when there is one if and only if nothing
follows the control that fills the last slot, or a message does.
-/
theorem reportsOverflowExactly_iff
    (delivers : buffer.getPod 0 = .ok (some (some pod)))
    (isSequence : reader.spaPodIsSequence pod = true) :
    ReportsOverflowExactly reader native maxN buffer pod ↔
      remaining (decodedMessage reader native) maxN
          (reader.spaPodSequenceForeach pod) = [] ∨
        ∃ control ∈
          remaining (decodedMessage reader native) maxN
            (reader.spaPodSequenceForeach pod),
          (decodedMessage reader native control).isSome = true := by
  have tooMany :=
    parseMidi_tooMany_iff native maxN delivers isSequence
  have overflows :=
    any_remaining_iff (decodedMessage reader native) maxN
      (reader.spaPodSequenceForeach pod)
  rw [List.any_eq_true] at overflows
  constructor
  · intro exact_
    by_cases noneLeft :
        remaining (decodedMessage reader native) maxN
          (reader.spaPodSequenceForeach pod) = []
    · exact Or.inl noneLeft
    · exact Or.inr
        (overflows.mpr (exact_.overflow.mp (tooMany.mpr noneLeft)))
  · intro condition
    have same :
        remaining (decodedMessage reader native) maxN
            (reader.spaPodSequenceForeach pod) ≠ [] ↔
          maxN <
            ((reader.spaPodSequenceForeach pod).filterMap
              (decodedMessage reader native)).length := by
      rw [← overflows]
      rcases condition with noneLeft | messageLeft
      · simp [noneLeft]
      · obtain ⟨control, isLeft, decodes⟩ := messageLeft
        exact ⟨fun _ => ⟨control, isLeft, decodes⟩,
          fun _ => List.ne_nil_of_mem isLeft⟩
    refine ⟨tooMany.trans same, ?_⟩
    intro stripped strippedPod strippedDelivers strippedSequence onlyMessages
    rw [parseMidi_succeeds_iff native maxN delivers isSequence,
      parseMidi_succeeds_iff native maxN strippedDelivers strippedSequence,
      onlyMessages, remaining_filter]
    rcases condition with noneLeft | messageLeft
    · simp [noneLeft]
    · obtain ⟨control, isLeft, decodes⟩ := messageLeft
      have notNil := List.ne_nil_of_mem isLeft
      constructor
      · intro isNil
        exact (notNil isNil).elim
      · intro isNil
        have none := List.filter_eq_nil_iff.mp isNil control isLeft
        exact (none decodes).elim

/-- A packet that switches a note on. -/
def referenceNote : PodControl ReferencePod where
  type := .ump
  value := .raw .bytes [0x00, 0x40, 0x90, 0x40, 0x00, 0x00, 0xff, 0xff] []

/-- A control that carries no packet. -/
def referenceForeign : PodControl ReferencePod where
  type := .midi
  value := .raw .bytes [0x90, 0x40, 0x7f] []

/-- One slot, and a foreign control between two notes. -/
theorem reportsOverflowExactly_two_notes :
    ReportsOverflowExactly referenceSpa.toPodReader .little 1
      (referenceBuffer
        (.sequence [referenceNote, referenceForeign, referenceNote]))
      (.sequence [referenceNote, referenceForeign, referenceNote]) :=
  (reportsOverflowExactly_iff .little 1 rfl rfl).mpr
    (Or.inr ⟨referenceNote, .tail _ (.head _), by decide⟩)

/-- One slot, one note, and a foreign control after it. -/
theorem not_reportsOverflowExactly_trailing :
    ¬ ReportsOverflowExactly referenceSpa.toPodReader .little 1
      (referenceBuffer (.sequence [referenceNote, referenceForeign]))
      (.sequence [referenceNote, referenceForeign]) := by
  intro exact_
  have reported :
      parseMidi referenceSpa.toPodReader .little 1
          (referenceBuffer (.sequence [referenceNote, referenceForeign])) =
        .ok (.error .midiParsingTooManyMessages) := by
    decide
  exact absurd (exact_.overflow.mp reported) (by decide)

end Overflow

section Success

variable
  {Pod Memory : Type}
  {reader : PodReader Pod}
  {native : Endian}
  {maxN : Nat}
  {buffer : Buffer Pod Memory}
  {pod : Pod}
  {messages : Vector (Option Message) maxN}

/--
A successful `parse_midi` fills the slots from the front with the messages of
the sequence, in order and without a hole, and leaves the others empty.
-/
theorem parseMidi_filled
    (delivers : buffer.getPod 0 = .ok (some (some pod)))
    (isSequence : reader.spaPodIsSequence pod = true)
    (succeeds :
      parseMidi reader native maxN buffer = .ok (.ok messages)) :
    Filled
      ((reader.spaPodSequenceForeach pod).filterMap
        (decodedMessage reader native))
      messages := by
  have noneLeft :
      remaining (decodedMessage reader native) maxN
          (reader.spaPodSequenceForeach pod) = [] :=
    (parseMidi_succeeds_iff native maxN delivers isSequence).mp
      ⟨messages, succeeds⟩
  rw [parseMidi_of_sequence delivers isSequence, if_pos noneLeft] at succeeds
  obtain rfl :
      ofList maxN
          ((reader.spaPodSequenceForeach pod).filterMap
            (decodedMessage reader native)) =
        messages :=
    Except.ok.inj (Except.ok.inj succeeds)
  exact filled_ofList (length_le_of_remaining_eq_nil noneLeft)

/-- Three slots for two notes with a foreign control between them. -/
theorem parseMidi_filled_two_notes :
    Filled
      ([referenceNote, referenceForeign, referenceNote].filterMap
        (decodedMessage referenceSpa.toPodReader .little))
      #v[some (.noteOn ⟨0, 64, 65535⟩), some (.noteOn ⟨0, 64, 65535⟩),
        none] := by
  have delivers :
      (referenceBuffer
          (.sequence
            [referenceNote, referenceForeign, referenceNote])).getPod 0 =
        .ok (some (some
          (.sequence
            [referenceNote, referenceForeign, referenceNote]))) := rfl
  have succeeds :
      parseMidi referenceSpa.toPodReader .little 3
          (referenceBuffer
            (.sequence
              [referenceNote, referenceForeign, referenceNote])) =
        .ok (.ok
          #v[some (.noteOn ⟨0, 64, 65535⟩), some (.noteOn ⟨0, 64, 65535⟩),
            none]) := by
    decide
  exact parseMidi_filled delivers rfl succeeds

end Success

end Pwcpp
