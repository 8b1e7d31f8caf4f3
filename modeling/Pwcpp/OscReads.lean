import Pwcpp.ParseOsc

namespace Pwcpp

/-!
# What `parse_osc` reads of a control

For every OSC control the loop prints the data as a C string and then makes a
packet of them.  The code of `spa_pod_get_bytes` is dropped, and nothing bounds
the C string, so two kinds of controls lead it astray: those whose value is not
Bytes, and those whose bytes contain no NUL.
-/

section Printing

variable {Pod : Type}

/-- The control is an OSC control whose value carries these bytes. -/
structure CarriesBytes
    (reader : PodReader Pod)
    (control : PodControl Pod)
    (bytes : List UInt8) : Prop where
  isOsc :
    control.type = .osc
  isBytes :
    reader.spaPodType control.value = .bytes
  delivers :
    reader.spaPodGetBytes control.value = some bytes

variable {reader : PodReader Pod}

/-- Data are printed for the OSC controls that deliver them, and no others. -/
theorem data_mem_oscPrinted_iff
    {index : Nat}
    {controls : List (PodControl Pod)}
    {bytes : List UInt8}
    {length : UInt32} :
    .data bytes length ∈ controls.flatMap (oscPrinted reader index) ↔
      ∃ control ∈ controls,
        control.type = .osc ∧
          reader.spaPodGetBytes control.value = some bytes ∧
          length = bytes.length.toUInt32 := by
  rw [List.mem_flatMap]
  constructor
  · intro printed
    rcases printed with ⟨control, member, printed⟩
    by_cases isOsc : control.type = .osc
    · cases delivers : reader.spaPodGetBytes control.value with
      | none =>
          simp [oscPrinted, isOsc, delivers] at printed
      | some data =>
          simp only [oscPrinted, isOsc, delivers, ↓reduceIte,
            Option.toList_some, List.map_cons, List.map_nil,
            List.mem_cons, List.not_mem_nil, reduceCtorEq, or_false,
            false_or, OscOutput.data.injEq] at printed
          obtain ⟨rfl, rfl⟩ := printed
          exact ⟨control, member, isOsc, delivers, rfl⟩
    · simp [oscPrinted, isOsc] at printed
  · intro carries
    rcases carries with ⟨control, member, isOsc, delivers, rfl⟩
    exact ⟨control, member, by simp [oscPrinted, isOsc, delivers]⟩

end Printing

section Reads

variable {Pod Memory Packet : Type}

/-- `spa_pod_get_bytes` delivers from Bytes pods only. -/
def PodReader.DeliversFromBytesOnly (reader : PodReader Pod) : Prop :=
  ∀ pod bytes,
    reader.spaPodGetBytes pod = some bytes →
    reader.spaPodType pod = .bytes

/--
`parse_osc` reads only what its controls carry: it completes, what it prints
are bytes of such a control up to a NUL among them, and what it stores are
packets of such bytes.
-/
def ReadsOnlyCarried
    (reader : PodReader Pod)
    (packet : List UInt8 → UInt32 → Packet)
    (maxN : Nat)
    (buffer : Buffer Pod Memory)
    (pod : Pod) : Prop :=
  ∃ printed result,
    parseOsc reader packet maxN buffer = .ok (printed, result) ∧
      (∀ bytes length,
        .data bytes length ∈ printed →
        (cStr bytes).length < bytes.length ∧
          length = bytes.length.toUInt32 ∧
          ∃ control ∈ reader.spaPodSequenceForeach pod,
            CarriesBytes reader control bytes) ∧
      ∀ (messages : Vector (Option Packet) maxN)
          (slot : Nat)
          (made : Packet),
        result = .ok messages →
        messages[slot]? = some (some made) →
        ∃ control ∈ reader.spaPodSequenceForeach pod,
          ∃ bytes,
            CarriesBytes reader control bytes ∧
              made = packet bytes bytes.length.toUInt32

variable
  {reader : PodReader Pod}
  (packet : List UInt8 → UInt32 → Packet)
  {maxN : Nat}
  {buffer : Buffer Pod Memory}
  {pod : Pod}

/-- A packet that was stored is that of a control's bytes. -/
theorem exists_control_of_oscPacket
    (bytesOnly : reader.DeliversFromBytesOnly)
    {controls : List (PodControl Pod)}
    {made : Packet}
    (isMade : made ∈ controls.filterMap (oscPacket reader packet)) :
    ∃ control ∈ controls,
      ∃ bytes,
        CarriesBytes reader control bytes ∧
          made = packet bytes bytes.length.toUInt32 := by
  obtain ⟨control, member, makes⟩ := List.mem_filterMap.mp isMade
  by_cases isOsc : control.type = .osc
  · cases delivers : reader.spaPodGetBytes control.value with
    | none =>
        simp [oscPacket, isOsc, delivers] at makes
    | some bytes =>
        rw [oscPacket_of_osc packet isOsc delivers] at makes
        exact ⟨control, member, bytes,
          ⟨isOsc, bytesOnly control.value bytes delivers, delivers⟩,
          (Option.some.inj makes).symm⟩
  · rw [oscPacket_of_not_osc packet isOsc] at makes
    cases makes

/-- With a slot, reading only what is carried takes a NUL in every body. -/
theorem oscCarriesCStrings_of_readsOnlyCarried
    (delivers : buffer.getPod 0 = .ok (some (some pod)))
    (isSequence : reader.spaPodIsSequence pod = true)
    (hasSlot : 0 < maxN)
    (reads : ReadsOnlyCarried reader packet maxN buffer pod) :
    OscCarriesCStrings reader (reader.spaPodSequenceForeach pod) := by
  obtain ⟨printed, result, completes, -⟩ := reads
  exact ((parseOsc_returns_iff packet maxN delivers isSequence).mp
    ⟨_, completes⟩).resolve_left (Nat.ne_of_gt hasSlot)

/-- Without a slot nothing is read at all. -/
theorem readsOnlyCarried_of_no_slots
    (delivers : buffer.getPod 0 = .ok (some (some pod)))
    (isSequence : reader.spaPodIsSequence pod = true) :
    ReadsOnlyCarried reader packet 0 buffer pod := by
  obtain ⟨printed, noData, returns⟩ :=
    parseOsc_of_no_slots packet delivers isSequence
  refine ⟨printed, _, returns, ?_, ?_⟩
  · intro bytes length isData
    exact (noData bytes length isData).elim
  · intro messages slot made _ isStored
    exact (Nat.not_lt_zero slot
      (Vector.getElem?_eq_some_iff.mp isStored).1).elim

/-- With a NUL in every body only what is carried is read. -/
theorem readsOnlyCarried_of_cStrings
    (bytesOnly : reader.DeliversFromBytesOnly)
    (delivers : buffer.getPod 0 = .ok (some (some pod)))
    (isSequence : reader.spaPodIsSequence pod = true)
    (hasSlot : 0 < maxN)
    (cStrings :
      OscCarriesCStrings reader (reader.spaPodSequenceForeach pod)) :
    ReadsOnlyCarried reader packet maxN buffer pod := by
  refine ⟨_, _,
    parseOsc_of_sequence packet delivers isSequence cStrings hasSlot,
    ?_, ?_⟩
  · intro bytes length isData
    rw [data_mem_oscPrinted_iff] at isData
    obtain ⟨control, member, isOsc, gets, isLength⟩ := isData
    obtain ⟨bytes', gets', hasNul⟩ := cStrings control member isOsc
    obtain rfl : bytes' = bytes :=
      Option.some.inj (gets'.symm.trans gets)
    exact ⟨(length_cStr_lt_iff bytes').mpr hasNul, isLength, control,
      member, isOsc, bytesOnly control.value bytes' gets, gets⟩
  · intro messages slot made isMessages isStored
    obtain rfl := Except.ok.inj isMessages
    obtain ⟨inBounds, stored⟩ := Vector.getElem?_eq_some_iff.mp isStored
    rw [BoundedSlots.getElem_ofList] at stored
    have isLast := List.mem_of_getElem? stored
    exact exists_control_of_oscPacket packet bytesOnly
      (List.mem_of_getLast? (Option.mem_toList.mp isLast))

/--
`parse_osc` reads only what its controls carry exactly when it has no slot, or
every OSC control carries bytes with a NUL among them.
-/
theorem readsOnlyCarried_iff
    (bytesOnly : reader.DeliversFromBytesOnly)
    (delivers : buffer.getPod 0 = .ok (some (some pod)))
    (isSequence : reader.spaPodIsSequence pod = true) :
    ReadsOnlyCarried reader packet maxN buffer pod ↔
      maxN = 0 ∨
        OscCarriesCStrings reader (reader.spaPodSequenceForeach pod) := by
  rcases Nat.eq_zero_or_pos maxN with noSlots | hasSlot
  · subst maxN
    exact ⟨fun _ => Or.inl rfl, fun _ =>
      readsOnlyCarried_of_no_slots packet delivers isSequence⟩
  · constructor
    · intro reads
      exact Or.inr (oscCarriesCStrings_of_readsOnlyCarried packet
        delivers isSequence hasSlot reads)
    · intro condition
      rcases condition with noSlots | cStrings
      · exact (Nat.ne_of_gt hasSlot noSlots).elim
      · exact readsOnlyCarried_of_cStrings packet bytesOnly delivers
          isSequence hasSlot cStrings

/-- The reference library delivers from Bytes pods only. -/
theorem referenceSpa_deliversFromBytesOnly :
    referenceSpa.DeliversFromBytesOnly := by
  intro pod bytes delivers
  cases pod with
  | raw type body children =>
      cases type <;> first | rfl | cases delivers
  | value content =>
      cases delivers
  | frame head items =>
      cases delivers
  | sequence controls =>
      cases delivers

/-- One slot and one OSC control whose body ends in a NUL. -/
theorem readsOnlyCarried_padded :
    ReadsOnlyCarried referenceSpa.toPodReader Prod.mk 1
      (referenceBuffer
        (referenceControls [(.osc, ascii "/a" ++ [0, 0])]))
      (referenceControls [(.osc, ascii "/a" ++ [0, 0])]) := by
  have cStrings :
      OscCarriesCStrings referenceSpa.toPodReader
        (referenceSpa.spaPodSequenceForeach
          (referenceControls [(.osc, ascii "/a" ++ [0, 0])])) := by
    intro control member isOsc
    obtain rfl := List.mem_singleton.mp member
    exact ⟨ascii "/a" ++ [0, 0], rfl, by decide⟩
  exact (readsOnlyCarried_iff Prod.mk referenceSpa_deliversFromBytesOnly
    rfl rfl).mpr (Or.inr cStrings)

/-- A body without NUL is read past its end, a value without bytes is read. -/
theorem not_readsOnlyCarried :
    ¬ ReadsOnlyCarried referenceSpa.toPodReader Prod.mk 1
        (referenceBuffer (referenceControls [(.osc, ascii "/a")]))
        (referenceControls [(.osc, ascii "/a")]) ∧
      ¬ ReadsOnlyCarried referenceSpa.toPodReader Prod.mk 1
        (referenceBuffer (.sequence [⟨.osc, .value (.int 1)⟩]))
        (.sequence [⟨.osc, .value (.int 1)⟩]) := by
  constructor
  · intro reads
    obtain ⟨bytes, delivers, hasNul⟩ :=
      oscCarriesCStrings_of_readsOnlyCarried Prod.mk rfl rfl
        Nat.one_pos reads _ (.head _) rfl
    obtain rfl : ascii "/a" = bytes := Option.some.inj delivers
    exact absurd hasNul (by decide)
  · intro reads
    obtain ⟨bytes, delivers, -⟩ :=
      oscCarriesCStrings_of_readsOnlyCarried Prod.mk rfl rfl
        Nat.one_pos reads _ (.head _) rfl
    cases delivers

end Reads

end Pwcpp
