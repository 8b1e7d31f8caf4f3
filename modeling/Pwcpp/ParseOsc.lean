import Pwcpp.BoundedSlots
import Pwcpp.Buffer
import Pwcpp.Error

namespace Pwcpp

/-!
# Parsing OSC

`parse_osc` is written like `parse_midi`, but its loop never moves to the next
slot: every message goes into the first one.  The packets of the OSC library
are a parameter, a function of the bytes and the length of a control's body.

The loop prints these bytes as a C string before it makes a packet of them, so
it reads past a body that has no zero byte.
-/

/-- What `parse_osc` prints to the standard output. -/
inductive OscOutput where
  | podIsEmpty
  | podIsNotASequence
  | index (index : Nat)
  | tooManyMessages
  | notAnOscMessage
  /-- `data` is printed as a C string, from these bytes on. -/
  | data (bytes : List UInt8) (length : UInt32)
  deriving Repr, DecidableEq

section Parsing

variable {Pod Memory Packet : Type}

/-- The loop of `parse_osc`; nothing changes `index`. -/
def parseOscControls
    (reader : PodReader Pod)
    (packet : List UInt8 → UInt32 → Packet)
    (maxN : Nat)
    (index : Nat)
    (output : List OscOutput)
    (resultMessages : Vector (Option Packet) maxN) :
    List (PodControl Pod) →
      Exec (List OscOutput × Expected (Vector (Option Packet) maxN))
  | [] =>
      .ok (output, .ok resultMessages)
  | podControl :: rest =>
      let indexed := output ++ [.index index]
      if index ≥ maxN then
        .ok (indexed ++ [.tooManyMessages],
          .error .midiParsingTooManyMessages)
      else if podControl.type ≠ .osc then
        parseOscControls reader packet maxN index
          (indexed ++ [.notAnOscMessage]) resultMessages rest
      else
        match reader.spaPodGetBytes podControl.value with
        | none =>
            -- `data` is still null when it is printed as a C string
            .error .nullCString
        | some data =>
            if 0 ∈ data then
              let length := data.length.toUInt32
              parseOscControls reader packet maxN index
                (indexed ++ [.data data length])
                (resultMessages.setIfInBounds index
                  (some (packet data length)))
                rest
            else
              -- nothing ends the C string inside of the body
              .error .outOfBoundsRead

/-- `parse_osc`, with what it printed. -/
def parseOsc
    (reader : PodReader Pod)
    (packet : List UInt8 → UInt32 → Packet)
    (maxN : Nat)
    (buffer : Buffer Pod Memory) :
    Exec (List OscOutput × Expected (Vector (Option Packet) maxN)) := do
  match ← buffer.getPod 0 with
  | none =>
      return ([.podIsEmpty], .ok (Vector.replicate maxN none))
  | some pod =>
      let sequence ← dereference pod
      if reader.spaPodIsSequence sequence then
        parseOscControls reader packet maxN 0 []
          (Vector.replicate maxN none)
          (reader.spaPodSequenceForeach sequence)
      else
        return ([.podIsNotASequence],
          .error .midiParsingPodNotASequence)

end Parsing

open BoundedSlots

section Messages

variable {Pod Memory Packet : Type}

/-- The packet of an OSC control, if its value delivers bytes. -/
def oscPacket
    (reader : PodReader Pod)
    (packet : List UInt8 → UInt32 → Packet)
    (control : PodControl Pod) :
    Option Packet :=
  if control.type = .osc then
    (reader.spaPodGetBytes control.value).map fun data =>
      packet data data.length.toUInt32
  else
    none

/-- The number of OSC controls. -/
def oscCount (controls : List (PodControl Pod)) : Nat :=
  controls.countP fun control => control.type = .osc

/-- Every OSC control carries bytes with a NUL among them. -/
def OscCarriesCStrings
    (reader : PodReader Pod)
    (controls : List (PodControl Pod)) : Prop :=
  ∀ control ∈ controls, control.type = .osc →
    ∃ bytes,
      reader.spaPodGetBytes control.value = some bytes ∧ 0 ∈ bytes

instance
    (reader : PodReader Pod)
    (controls : List (PodControl Pod)) :
    Decidable (OscCarriesCStrings reader controls) :=
  inferInstanceAs
    (Decidable (∀ control ∈ controls, control.type = .osc →
      ∃ bytes ∈ reader.spaPodGetBytes control.value, 0 ∈ bytes))

/-- What one round of the loop prints. -/
def oscPrinted
    (reader : PodReader Pod)
    (index : Nat)
    (control : PodControl Pod) :
    List OscOutput :=
  .index index ::
    if control.type = .osc then
      (reader.spaPodGetBytes control.value).toList.map fun data =>
        .data data data.length.toUInt32
    else
      [.notAnOscMessage]

variable
  {reader : PodReader Pod}
  {maxN : Nat}

/-- An OSC control with bytes gives the packet of these bytes. -/
theorem oscPacket_of_osc
    (packet : List UInt8 → UInt32 → Packet)
    {control : PodControl Pod}
    {data : List UInt8}
    (isOsc : control.type = .osc)
    (delivers : reader.spaPodGetBytes control.value = some data) :
    oscPacket reader packet control =
      some (packet data data.length.toUInt32) := by
  rw [oscPacket, if_pos isOsc, delivers]
  rfl

/-- A control of another type gives no packet. -/
theorem oscPacket_of_not_osc
    (packet : List UInt8 → UInt32 → Packet)
    {control : PodControl Pod}
    (notOsc : control.type ≠ .osc) :
    oscPacket reader packet control = none :=
  if_neg notOsc

/-- The C string that the first control delivers, if it is an OSC control. -/
theorem OscCarriesCStrings.head
    {control : PodControl Pod}
    {rest : List (PodControl Pod)}
    (cStrings : OscCarriesCStrings reader (control :: rest))
    (isOsc : control.type = .osc) :
    ∃ data,
      reader.spaPodGetBytes control.value = some data ∧ 0 ∈ data :=
  cStrings control List.mem_cons_self isOsc

theorem OscCarriesCStrings.tail
    {control : PodControl Pod}
    {rest : List (PodControl Pod)}
    (cStrings : OscCarriesCStrings reader (control :: rest)) :
    OscCarriesCStrings reader rest :=
  fun later member =>
    cStrings later (List.mem_cons_of_mem _ member)

theorem OscCarriesCStrings.cons
    {control : PodControl Pod}
    {rest : List (PodControl Pod)}
    (first :
      control.type = .osc →
        ∃ data,
          reader.spaPodGetBytes control.value = some data ∧ 0 ∈ data)
    (later : OscCarriesCStrings reader rest) :
    OscCarriesCStrings reader (control :: rest) :=
  List.forall_mem_cons.mpr ⟨first, later⟩

/-- There are as many packets as OSC controls. -/
theorem length_oscPackets
    (packet : List UInt8 → UInt32 → Packet)
    {controls : List (PodControl Pod)}
    (cStrings : OscCarriesCStrings reader controls) :
    (controls.filterMap (oscPacket reader packet)).length =
      oscCount controls := by
  induction controls with
  | nil =>
      rfl
  | cons control rest inductionHypothesis =>
      have restCount := inductionHypothesis cStrings.tail
      by_cases isOsc : control.type = .osc
      · obtain ⟨data, delivers, -⟩ := cStrings.head isOsc
        have decodes := oscPacket_of_osc packet isOsc delivers
        rw [List.filterMap_cons_some decodes, List.length_cons,
          restCount, oscCount, oscCount,
          List.countP_cons_of_pos (by simpa using isOsc)]
      · have skips : oscPacket reader packet control = none :=
          oscPacket_of_not_osc packet isOsc
        rw [List.filterMap_cons_none skips, restCount, oscCount,
          oscCount, List.countP_cons_of_neg (by simpa using isOsc)]

/-- A round that is given a C string stores its packet and goes on. -/
theorem parseOscControls_osc
    (packet : List UInt8 → UInt32 → Packet)
    {index : Nat}
    (room : index < maxN)
    {control : PodControl Pod}
    {data : List UInt8}
    (isOsc : control.type = .osc)
    (delivers : reader.spaPodGetBytes control.value = some data)
    (hasNul : 0 ∈ data)
    (output : List OscOutput)
    (resultMessages : Vector (Option Packet) maxN)
    (rest : List (PodControl Pod)) :
    parseOscControls reader packet maxN index
        output resultMessages (control :: rest) =
      parseOscControls reader packet maxN index
        (output ++ oscPrinted reader index control)
        (resultMessages.setIfInBounds index
          (some (packet data data.length.toUInt32)))
        rest := by
  rw [parseOscControls, if_neg (Nat.not_le_of_lt room),
    if_neg (not_not_intro isOsc), delivers]
  simp [oscPrinted, isOsc, delivers, hasNul]

/-- A round that is given no OSC control goes on. -/
theorem parseOscControls_foreign
    (packet : List UInt8 → UInt32 → Packet)
    {index : Nat}
    (room : index < maxN)
    {control : PodControl Pod}
    (notOsc : control.type ≠ .osc)
    (output : List OscOutput)
    (resultMessages : Vector (Option Packet) maxN)
    (rest : List (PodControl Pod)) :
    parseOscControls reader packet maxN index
        output resultMessages (control :: rest) =
      parseOscControls reader packet maxN index
        (output ++ oscPrinted reader index control)
        resultMessages rest := by
  rw [parseOscControls, if_neg (Nat.not_le_of_lt room), if_pos notOsc]
  simp [oscPrinted, notOsc]

/-- While a slot is left the loop completes, with the last packet in it. -/
theorem parseOscControls_eq
    (packet : List UInt8 → UInt32 → Packet)
    {index : Nat}
    (room : index < maxN)
    {controls : List (PodControl Pod)}
    (cStrings : OscCarriesCStrings reader controls)
    (output : List OscOutput)
    (resultMessages : Vector (Option Packet) maxN) :
    parseOscControls reader packet maxN index
        output resultMessages controls =
      .ok (output ++ controls.flatMap (oscPrinted reader index), .ok
        (match
          (controls.filterMap (oscPacket reader packet)).getLast?
        with
        | some last =>
            resultMessages.setIfInBounds index (some last)
        | none =>
            resultMessages)) := by
  induction controls generalizing output resultMessages with
  | nil =>
      rw [List.flatMap_nil, List.append_nil]
      rfl
  | cons control rest inductionHypothesis =>
      have later := inductionHypothesis cStrings.tail
      rw [List.flatMap_cons, ← List.append_assoc]
      by_cases isOsc : control.type = .osc
      · obtain ⟨data, delivers, hasNul⟩ := cStrings.head isOsc
        have decodes := oscPacket_of_osc packet isOsc delivers
        rw [parseOscControls_osc packet room isOsc delivers hasNul, later,
          List.filterMap_cons_some decodes, List.getLast?_cons]
        cases (rest.filterMap (oscPacket reader packet)).getLast? with
        | none =>
            rfl
        | some last =>
            simp
      · have skips : oscPacket reader packet control = none :=
          oscPacket_of_not_osc packet isOsc
        rw [parseOscControls_foreign packet room isOsc, later,
          List.filterMap_cons_none skips]

/-- A loop that completes while a slot is left was given C strings only. -/
theorem oscCarriesCStrings_of_parseOscControls
    {packet : List UInt8 → UInt32 → Packet}
    {index : Nat}
    (room : index < maxN)
    {controls : List (PodControl Pod)}
    {output : List OscOutput}
    {resultMessages : Vector (Option Packet) maxN}
    {result : List OscOutput × Expected (Vector (Option Packet) maxN)}
    (completes :
      parseOscControls reader packet maxN index output resultMessages
          controls =
        .ok result) :
    OscCarriesCStrings reader controls := by
  induction controls generalizing output resultMessages with
  | nil =>
      intro control member
      cases member
  | cons control rest inductionHypothesis =>
      by_cases isOsc : control.type = .osc
      · have given :
            ∃ data,
              reader.spaPodGetBytes control.value = some data ∧
                0 ∈ data := by
          rw [parseOscControls, if_neg (Nat.not_le_of_lt room),
            if_neg (not_not_intro isOsc)] at completes
          cases delivers : reader.spaPodGetBytes control.value with
          | none =>
              rw [delivers] at completes
              cases completes
          | some data =>
              by_cases hasNul : 0 ∈ data
              · exact ⟨data, rfl, hasNul⟩
              · simp [delivers, hasNul] at completes
        obtain ⟨data, delivers, hasNul⟩ := given
        rw [parseOscControls_osc packet room isOsc delivers hasNul]
          at completes
        exact .cons (fun _ => ⟨data, delivers, hasNul⟩)
          (inductionHypothesis completes)
      · rw [parseOscControls_foreign packet room isOsc] at completes
        exact .cons (fun osc => (isOsc osc).elim)
          (inductionHypothesis completes)

section Sequences

variable
  (packet : List UInt8 → UInt32 → Packet)
  {buffer : Buffer Pod Memory}
  {pod : Pod}

/-- On a sequence `parse_osc` is its loop. -/
theorem parseOsc_eq_loop
    (maxN : Nat)
    (delivers : buffer.getPod 0 = .ok (some (some pod)))
    (isSequence : reader.spaPodIsSequence pod = true) :
    parseOsc reader packet maxN buffer =
      parseOscControls reader packet maxN 0 []
        (Vector.replicate maxN none)
        (reader.spaPodSequenceForeach pod) := by
  rw [parseOsc, delivers]
  simp only [Bind.bind, Except.bind, dereference_some, isSequence,
    ↓reduceIte]

/-- What `parse_osc` prints and returns for a sequence when there is a slot. -/
theorem parseOsc_of_sequence
    (delivers : buffer.getPod 0 = .ok (some (some pod)))
    (isSequence : reader.spaPodIsSequence pod = true)
    (cStrings :
      OscCarriesCStrings reader (reader.spaPodSequenceForeach pod))
    (hasSlot : 0 < maxN) :
    parseOsc reader packet maxN buffer =
      .ok ((reader.spaPodSequenceForeach pod).flatMap
          (oscPrinted reader 0),
        .ok (ofList maxN
          ((reader.spaPodSequenceForeach pod).filterMap
            (oscPacket reader packet)).getLast?.toList)) := by
  rw [parseOsc_eq_loop packet maxN delivers isSequence, ← ofList_nil,
    parseOscControls_eq packet hasSlot cStrings, List.nil_append]
  cases ((reader.spaPodSequenceForeach pod).filterMap
      (oscPacket reader packet)).getLast? with
  | none =>
      rfl
  | some last =>
      have stored :
          (ofList maxN []).setIfInBounds 0 (some last) =
            ofList maxN [last] :=
        ofList_push maxN [] last
      simp only [stored, Option.toList_some]

/-- Without a slot, `parse_osc` returns an overflow for every control. -/
theorem parseOsc_of_no_slots
    (delivers : buffer.getPod 0 = .ok (some (some pod)))
    (isSequence : reader.spaPodIsSequence pod = true) :
    ∃ printed,
      (∀ bytes length, .data bytes length ∉ printed) ∧
        parseOsc reader packet 0 buffer =
          .ok (printed,
            if reader.spaPodSequenceForeach pod = [] then
              .ok (ofList 0 [])
            else
              .error .midiParsingTooManyMessages) := by
  rw [parseOsc_eq_loop packet 0 delivers isSequence]
  cases reader.spaPodSequenceForeach pod with
  | nil =>
      exact ⟨[], by simp, rfl⟩
  | cons control rest =>
      exact ⟨[.index 0, .tooManyMessages], by simp, rfl⟩

/-- `parse_osc` returns unless it has a slot and is given no C string. -/
theorem parseOsc_returns_iff
    (maxN : Nat)
    (delivers : buffer.getPod 0 = .ok (some (some pod)))
    (isSequence : reader.spaPodIsSequence pod = true) :
    (∃ result, parseOsc reader packet maxN buffer = .ok result) ↔
      maxN = 0 ∨
        OscCarriesCStrings reader (reader.spaPodSequenceForeach pod) := by
  rcases Nat.eq_zero_or_pos maxN with noSlots | hasSlot
  · subst maxN
    obtain ⟨printed, -, returns⟩ :=
      parseOsc_of_no_slots packet delivers isSequence
    exact ⟨fun _ => Or.inl rfl, fun _ => ⟨_, returns⟩⟩
  · constructor
    · intro returns
      rcases returns with ⟨result, completes⟩
      rw [parseOsc_eq_loop packet maxN delivers isSequence] at completes
      exact Or.inr
        (oscCarriesCStrings_of_parseOscControls hasSlot completes)
    · intro condition
      have cStrings :=
        condition.resolve_left (Nat.ne_of_gt hasSlot)
      exact ⟨_, parseOsc_of_sequence packet delivers isSequence cStrings
        hasSlot⟩

end Sequences

end Messages

section NoLoss

variable {Pod Memory Packet : Type}

/--
Slot `k` holds the packet of OSC control number `k`, and too many OSC controls
are an error.
-/
def LosesNoMessage
    (reader : PodReader Pod)
    (packet : List UInt8 → UInt32 → Packet)
    (maxN : Nat)
    (buffer : Buffer Pod Memory)
    (pod : Pod) : Prop :=
  ∃ printed,
    parseOsc reader packet maxN buffer =
      .ok (printed,
        if oscCount (reader.spaPodSequenceForeach pod) ≤ maxN then
          .ok (ofList maxN
            ((reader.spaPodSequenceForeach pod).filterMap
              (oscPacket reader packet)))
        else
          .error .midiParsingTooManyMessages)

/-- A list is its last element iff it has at most one element. -/
theorem getLast?_toList_eq_self_iff
    {α : Type}
    {items : List α} :
    items.getLast?.toList = items ↔ items.length ≤ 1 := by
  rcases items with _ | ⟨first, _ | ⟨second, rest⟩⟩
  · simp
  · simp
  · constructor
    · intro same
      have lengths := congrArg List.length same
      rw [List.getLast?_cons] at lengths
      simp at lengths
    · intro short
      simp at short

section Slots

variable
  {reader : PodReader Pod}
  {packet : List UInt8 → UInt32 → Packet}
  {maxN : Nat}
  {buffer : Buffer Pod Memory}
  {pod : Pod}

/-- Without a slot, nothing is lost where nothing or an OSC control is. -/
theorem losesNoMessage_of_no_slots
    (delivers : buffer.getPod 0 = .ok (some (some pod)))
    (isSequence : reader.spaPodIsSequence pod = true) :
    LosesNoMessage reader packet 0 buffer pod ↔
      reader.spaPodSequenceForeach pod = [] ∨
        0 < oscCount (reader.spaPodSequenceForeach pod) := by
  obtain ⟨printed, -, returns⟩ :=
    parseOsc_of_no_slots packet delivers isSequence
  rw [LosesNoMessage, returns]
  by_cases empty : reader.spaPodSequenceForeach pod = []
  · rw [empty]
    simp [oscCount]
  · by_cases noOsc :
        oscCount (reader.spaPodSequenceForeach pod) = 0
    · simp [empty, noOsc]
    · simp [empty, noOsc, Nat.pos_of_ne_zero noOsc]

/-- With a slot and C strings, a second OSC control is one too many. -/
theorem losesNoMessage_of_cStrings
    (delivers : buffer.getPod 0 = .ok (some (some pod)))
    (isSequence : reader.spaPodIsSequence pod = true)
    (cStrings :
      OscCarriesCStrings reader (reader.spaPodSequenceForeach pod))
    (hasSlot : 0 < maxN) :
    LosesNoMessage reader packet maxN buffer pod ↔
      oscCount (reader.spaPodSequenceForeach pod) ≤ 1 := by
  have count := length_oscPackets packet cStrings
  have returns :=
    parseOsc_of_sequence packet delivers isSequence cStrings hasSlot
  rw [LosesNoMessage, returns]
  by_cases enough :
      oscCount (reader.spaPodSequenceForeach pod) ≤ maxN
  · have lastFits :
        ((reader.spaPodSequenceForeach pod).filterMap
          (oscPacket reader packet)).getLast?.toList.length ≤ maxN :=
      Nat.le_trans Option.length_toList_le hasSlot
    have sameSlots :=
      (ofList_inj lastFits (count.trans_le enough)).trans
        getLast?_toList_eq_self_iff
    rw [count] at sameSlots
    generalize
      (reader.spaPodSequenceForeach pod).filterMap
        (oscPacket reader packet) = packets at *
    simp [enough, sameSlots]
  · have several :
        ¬ oscCount (reader.spaPodSequenceForeach pod) ≤ 1 :=
      fun single => enough (Nat.le_trans single hasSlot)
    simp [enough, several]

/-- With a slot, no message is lost only among C strings. -/
theorem LosesNoMessage.cStrings
    (losesNone : LosesNoMessage reader packet maxN buffer pod)
    (delivers : buffer.getPod 0 = .ok (some (some pod)))
    (isSequence : reader.spaPodIsSequence pod = true)
    (hasSlot : 0 < maxN) :
    OscCarriesCStrings reader (reader.spaPodSequenceForeach pod) := by
  obtain ⟨printed, returns⟩ := losesNone
  have condition :=
    (parseOsc_returns_iff packet maxN delivers isSequence).mp ⟨_, returns⟩
  exact condition.resolve_left (Nat.ne_of_gt hasSlot)

end Slots

/--
`parse_osc` loses no message exactly when there is a slot, at most one OSC
control and a NUL in its bytes, or no slot and not only controls of other types.
-/
theorem losesNoMessage_iff
    (reader : PodReader Pod)
    (packet : List UInt8 → UInt32 → Packet)
    (maxN : Nat)
    {buffer : Buffer Pod Memory}
    {pod : Pod}
    (delivers : buffer.getPod 0 = .ok (some (some pod)))
    (isSequence : reader.spaPodIsSequence pod = true) :
    LosesNoMessage reader packet maxN buffer pod ↔
      (0 < maxN ∧
          oscCount (reader.spaPodSequenceForeach pod) ≤ 1 ∧
          OscCarriesCStrings reader (reader.spaPodSequenceForeach pod)) ∨
        (maxN = 0 ∧
          (reader.spaPodSequenceForeach pod = [] ∨
            0 < oscCount (reader.spaPodSequenceForeach pod))) := by
  rcases Nat.eq_zero_or_pos maxN with noSlots | hasSlot
  · subst maxN
    rw [losesNoMessage_of_no_slots delivers isSequence]
    simp
  · constructor
    · intro losesNone
      have cStrings := losesNone.cStrings delivers isSequence hasSlot
      have single :=
        (losesNoMessage_of_cStrings delivers isSequence cStrings
          hasSlot).mp losesNone
      exact Or.inl ⟨hasSlot, single, cStrings⟩
    · intro condition
      rcases condition with ⟨-, single, cStrings⟩ | ⟨noSlots, -⟩
      · exact (losesNoMessage_of_cStrings delivers isSequence cStrings
          hasSlot).mpr single
      · exact (Nat.ne_of_gt hasSlot noSlots).elim

/-- A sequence of controls with these types and bodies. -/
def referenceControls (controls : List (SpaControl × List UInt8)) :
    ReferencePod :=
  .sequence (controls.map fun control => {
    type := control.1
    value := .raw .bytes control.2 []
  })

/-- Four slots, and one OSC message after a foreign control. -/
theorem losesNoMessage_single :
    LosesNoMessage referenceSpa.toPodReader Prod.mk 4
      (referenceBuffer
        (referenceControls [(.ump, []), (.osc, ascii "/a" ++ [0, 0])]))
      (referenceControls [(.ump, []), (.osc, ascii "/a" ++ [0, 0])]) :=
  (losesNoMessage_iff referenceSpa.toPodReader Prod.mk 4
    rfl rfl).mpr (by decide)

/-- Four slots, and two OSC messages: the second one replaces the first. -/
theorem not_losesNoMessage_two :
    ¬ LosesNoMessage referenceSpa.toPodReader Prod.mk 4
      (referenceBuffer
        (referenceControls
          [(.osc, ascii "/a" ++ [0, 0]), (.osc, ascii "/b" ++ [0, 0])]))
      (referenceControls
        [(.osc, ascii "/a" ++ [0, 0]), (.osc, ascii "/b" ++ [0, 0])]) := by
  intro losesNone
  rcases losesNone with ⟨printed, returns⟩
  have returned :=
    parseOsc_of_sequence Prod.mk
      (rfl :
        (referenceBuffer
          (referenceControls
            [(.osc, ascii "/a" ++ [0, 0]),
              (.osc, ascii "/b" ++ [0, 0])])).getPod 0 = _)
      (rfl : referenceSpa.spaPodIsSequence _ = true)
      (by decide) (by decide : 0 < 4)
  rw [returned] at returns
  simp only [Except.ok.injEq, Prod.mk.injEq] at returns
  exact absurd returns.2 (by decide)

end NoLoss

end Pwcpp
