import Pwcpp.ParseMidi
import Pwcpp.ParseOsc

namespace Pwcpp

/-!
# Buffers without a readable pod

`get_pod` has two ways to say that there is nothing to read: an empty optional
for a missing plane, and an optional that holds a null pointer for a plane that
`spa_pod_from_data` rejects.  Both parsers test only the first one, so they
return for a readable buffer only; `parse_osc` also needs a NUL in what it
prints.
-/

section Dereferencing

variable {Pod Memory Packet : Type}

/-- `get_pod` hands out a null pointer, or reads through one. -/
def MeetsNull (outcome : Exec (Option (Option Pod))) : Prop :=
  outcome = .ok (some none) ∨ outcome = .error .nullDereference

/-- `parse_midi` meets null exactly when `get_pod` does. -/
theorem parseMidi_nullDereference_iff
    (reader : PodReader Pod)
    (native : Endian)
    (maxN : Nat)
    (buffer : Buffer Pod Memory) :
    parseMidi reader native maxN buffer = .error .nullDereference ↔
      MeetsNull (buffer.getPod 0) := by
  rw [parseMidi, MeetsNull]
  rcases buffer.getPod 0 with fault | _ | _ | pod
  · simp [Bind.bind, Except.bind]
  · simp [Bind.bind, Except.bind, Pure.pure, Except.pure]
  · simp [Bind.bind, Except.bind, dereference]
  · simp only [Bind.bind, Except.bind, dereference_some, Pure.pure,
      Except.pure]
    cases reader.spaPodIsSequence pod <;> simp

/-- The loop of `parse_osc` follows no pod pointer. -/
theorem parseOscControls_ne_nullDereference
    (reader : PodReader Pod)
    (packet : List UInt8 → UInt32 → Packet)
    (maxN index : Nat)
    (controls : List (PodControl Pod))
    (output : List OscOutput)
    (resultMessages : Vector (Option Packet) maxN) :
    parseOscControls reader packet maxN index
        output resultMessages controls ≠
      .error .nullDereference := by
  induction controls generalizing output resultMessages with
  | nil =>
      intro faults
      cases faults
  | cons control rest inductionHypothesis =>
      rw [parseOscControls]
      by_cases full : index ≥ maxN
      · rw [if_pos full]
        intro faults
        cases faults
      · rw [if_neg full]
        by_cases isOsc : control.type = .osc
        · rw [if_neg (not_not_intro isOsc)]
          cases reader.spaPodGetBytes control.value with
          | none =>
              intro faults
              cases faults
          | some data =>
              by_cases hasNul : 0 ∈ data
              · simp only [if_pos hasNul]
                exact inductionHypothesis _ _
              · simp only [if_neg hasNul]
                intro faults
                cases faults
        · rw [if_pos isOsc]
          exact inductionHypothesis _ _

/-- `parse_osc` meets null exactly when `get_pod` does. -/
theorem parseOsc_nullDereference_iff
    (reader : PodReader Pod)
    (packet : List UInt8 → UInt32 → Packet)
    (maxN : Nat)
    (buffer : Buffer Pod Memory) :
    parseOsc reader packet maxN buffer = .error .nullDereference ↔
      MeetsNull (buffer.getPod 0) := by
  rw [parseOsc, MeetsNull]
  rcases buffer.getPod 0 with fault | _ | _ | pod
  · simp [Bind.bind, Except.bind]
  · simp [Bind.bind, Except.bind, Pure.pure, Except.pure]
  · simp [Bind.bind, Except.bind, dereference]
  · simp only [Bind.bind, Except.bind, dereference_some, Pure.pure,
      Except.pure]
    cases reader.spaPodIsSequence pod with
    | false =>
        simp
    | true =>
        simp [parseOscControls_ne_nullDereference]

end Dereferencing

section Returning

variable {Pod Memory Packet : Type}

/-- If the pod is a sequence, all that its OSC controls carry is C strings. -/
def CarriesCStrings
    (reader : PodReader Pod)
    (pod : Option Pod) : Prop :=
  ∀ sequence,
    pod = some sequence →
    reader.spaPodIsSequence sequence = true →
    OscCarriesCStrings reader (reader.spaPodSequenceForeach sequence)

variable
  {reader : PodReader Pod}
  {buffer : Buffer Pod Memory}
  {pod : Option Pod}

/-- `parse_midi` returns when it is handed no null pointer. -/
theorem parseMidi_returns
    (found : buffer.getPod 0 = .ok (pod.map some))
    (native : Endian)
    (maxN : Nat) :
    ∃ result, parseMidi reader native maxN buffer = .ok result := by
  rw [parseMidi, found]
  cases pod with
  | none =>
      exact ⟨_, rfl⟩
  | some sequence =>
      simp only [Option.map_some, Exec.bind_ok, dereference_some]
      split
      · exact ⟨_, rfl⟩
      · exact ⟨_, rfl⟩

/-- `parse_osc` needs a slot and a C string that it lacks, or it returns. -/
theorem parseOsc_returns_iff_of_found
    (found : buffer.getPod 0 = .ok (pod.map some))
    (packet : List UInt8 → UInt32 → Packet)
    (maxN : Nat) :
    (∃ result, parseOsc reader packet maxN buffer = .ok result) ↔
      maxN = 0 ∨ CarriesCStrings reader pod := by
  cases pod with
  | none =>
      have returns :
          ∃ result, parseOsc reader packet maxN buffer = .ok result := by
        rw [parseOsc, found]
        exact ⟨_, rfl⟩
      have nothing : CarriesCStrings reader (none : Option Pod) := by
        intro sequence isSome
        cases isSome
      exact iff_of_true returns (Or.inr nothing)
  | some sequence =>
      by_cases isSequence : reader.spaPodIsSequence sequence = true
      · rw [parseOsc_returns_iff packet maxN found isSequence]
        apply or_congr_right
        constructor
        · intro cStrings other same _
          cases same
          exact cStrings
        · intro cStrings
          exact cStrings sequence rfl isSequence
      · have returns :
            ∃ result,
              parseOsc reader packet maxN buffer = .ok result := by
          rw [parseOsc, found]
          simp only [Option.map_some, Exec.bind_ok, dereference_some,
            if_neg isSequence]
          exact ⟨_, rfl⟩
        have noSequence : CarriesCStrings reader (some sequence) := by
          intro other same otherIsSequence
          cases same
          exact (isSequence otherIsSequence).elim
        exact iff_of_true returns (Or.inr noSequence)

end Returning

section Reporting

variable {Pod Memory Packet : Type}

/--
`get_pod` returns, an optional that it engages holds a pod, and it returns an
empty one when the plane is missing, has no data or is rejected.
-/
def ReportsUnreadable
    (spaPodFromData : SpaPodFromData Pod Memory)
    (dequeued : PwBuffer Memory)
    (buffer : Buffer Pod Memory)
    (index : Nat) : Prop :=
  ∃ result,
    buffer.getPod index = .ok result ∧
      (∀ pod, result = some pod → pod ≠ none) ∧
      ((dequeued.datas.length ≤ index ∨
          ∃ plane, dequeued.datas[index]? = some plane ∧
            (plane.data = none ∨
              plane.pod spaPodFromData = .ok none)) →
        result = none)

variable
  {reader : PodReader Pod}
  {podAt : Memory → UInt32 → Pod}
  {spaPodFromData : SpaPodFromData Pod Memory}

/-- The pod that starts where the chunk of a plane says. -/
def PwBuffer.podIn
    (podAt : Memory → UInt32 → Pod)
    (buffer : PwBuffer Memory)
    (index : Nat) :
    Option Pod := do
  let plane ← buffer.datas[index]?
  let memory ← plane.data
  return podAt memory plane.chunk.offset

/-- In a readable buffer `get_pod` finds the pod of the plane, if there is one. -/
theorem getPod_of_readable
    (contract : FromDataContract reader podAt spaPodFromData)
    {dequeued : PwBuffer Memory}
    {index : Nat}
    (readable : dequeued.ReadableAt reader podAt index) :
    (Buffer.ofPort spaPodFromData dequeued).getPod index =
      .ok ((dequeued.podIn podAt index).map some) := by
  unfold PwBuffer.podIn
  cases present : dequeued.datas[index]? with
  | none =>
      rw [getPod_ofPort_of_none spaPodFromData present]
      rfl
  | some plane =>
      obtain ⟨inBounds, memory, data, contains⟩ := readable plane present
      rw [getPod_ofPort_of_some spaPodFromData present,
        contract.contained plane memory inBounds data contains]
      simp [data, Except.map]

/-- `get_pod` meets null in every plane that is not readable. -/
theorem meetsNull_iff
    (contract : FromDataContract reader podAt spaPodFromData)
    (dequeued : PwBuffer Memory)
    (index : Nat) :
    MeetsNull ((Buffer.ofPort spaPodFromData dequeued).getPod index) ↔
      ¬ dequeued.ReadableAt reader podAt index := by
  unfold PwBuffer.ReadableAt MeetsNull
  cases present : dequeued.datas[index]? with
  | none =>
      rw [getPod_ofPort_of_none spaPodFromData present]
      simp
  | some plane =>
      rw [getPod_ofPort_of_some spaPodFromData present]
      by_cases accepted : plane.Accepted reader podAt
      · obtain ⟨pod, found⟩ := contract.pod_of_accepted accepted
        rw [found]
        simp [Except.map, accepted]
      · rcases contract.pod_of_not_accepted accepted with
          isNull | faults
        · rw [isNull]
          simp [Except.map, accepted]
        · rw [faults]
          simp [Except.map, accepted]

/-- `get_pod` reports an unreadable plane unless it meets null in it. -/
theorem reportsUnreadable_iff
    (contract : FromDataContract reader podAt spaPodFromData)
    (dequeued : PwBuffer Memory)
    (index : Nat) :
    ReportsUnreadable spaPodFromData dequeued
        (Buffer.ofPort spaPodFromData dequeued) index ↔
      dequeued.ReadableAt reader podAt index := by
  constructor
  · intro reports
    rcases reports with ⟨result, returns, engaged, -⟩
    by_contra notReadable
    rcases (meetsNull_iff contract dequeued index).mpr notReadable with
      isNull | faults
    · rw [returns, Except.ok.injEq] at isNull
      exact engaged none isNull rfl
    · rw [returns] at faults
      cases faults
  · intro readable
    cases present : dequeued.datas[index]? with
    | none =>
        have missing := getPod_ofPort_of_none spaPodFromData present
        exact ⟨none, missing, by simp, fun _ => rfl⟩
    | some plane =>
        have accepted := readable plane present
        obtain ⟨pod, found⟩ := contract.pod_of_accepted accepted
        have returns := getPod_ofPort_of_some spaPodFromData present
        rw [found] at returns
        refine ⟨some (some pod), returns, by simp, fun unreadable => ?_⟩
        have below := (List.getElem?_eq_some_iff.mp present).1
        obtain ⟨-, memory, data, -⟩ := accepted
        rcases unreadable with absent | ⟨other, isOther, rejected⟩
        · exact (Nat.not_le_of_lt below absent).elim
        · rw [present, Option.some.injEq] at isOther
          subst other
          rcases rejected with noData | isNull
          · rw [data] at noData
            cases noData
          · rw [found] at isNull
            cases isNull

/-- `parse_midi` returns exactly for readable buffers. -/
theorem parseMidi_returns_iff
    (contract : FromDataContract reader podAt spaPodFromData)
    (dequeued : PwBuffer Memory)
    (native : Endian)
    (maxN : Nat) :
    (∃ result,
        parseMidi reader native maxN
            (Buffer.ofPort spaPodFromData dequeued) =
          .ok result) ↔
      dequeued.ReadableAt reader podAt 0 := by
  constructor
  · intro returns
    by_contra notReadable
    obtain ⟨result, completes⟩ := returns
    have faults :=
      (parseMidi_nullDereference_iff reader native maxN _).mpr
        ((meetsNull_iff contract dequeued 0).mpr notReadable)
    cases completes.symm.trans faults
  · intro readable
    exact parseMidi_returns (getPod_of_readable contract readable)
      native maxN

/-- `parse_osc` returns for readable buffers if what it prints are C strings. -/
theorem parseOsc_returns_iff_readable
    (contract : FromDataContract reader podAt spaPodFromData)
    (dequeued : PwBuffer Memory)
    (packet : List UInt8 → UInt32 → Packet)
    (maxN : Nat) :
    (∃ result,
        parseOsc reader packet maxN
            (Buffer.ofPort spaPodFromData dequeued) =
          .ok result) ↔
      dequeued.ReadableAt reader podAt 0 ∧
        (maxN = 0 ∨
          CarriesCStrings reader (dequeued.podIn podAt 0)) := by
  by_cases readable : dequeued.ReadableAt reader podAt 0
  · rw [parseOsc_returns_iff_of_found
      (getPod_of_readable contract readable) packet maxN]
    exact (and_iff_right readable).symm
  · have faults :=
      (parseOsc_nullDereference_iff reader packet maxN _).mpr
        ((meetsNull_iff contract dequeued 0).mpr readable)
    rw [faults]
    simp [readable]

/--
`get_pod` reports an unreadable plane, and the parsers return and follow no
null pointer, exactly when the plane is missing or a pod is found in it; for
`parse_osc` to return, what it prints must be C strings as well.
-/
theorem unreadable_reported_iff
    (contract : FromDataContract reader podAt spaPodFromData)
    {dequeued : PwBuffer Memory}
    {buffer : Buffer Pod Memory}
    (obtained :
      FilterPort.getBuffer spaPodFromData (some dequeued) = some buffer)
    (native : Endian)
    (packet : List UInt8 → UInt32 → Packet) :
    (∀ index,
        ReportsUnreadable spaPodFromData dequeued buffer index ↔
          dequeued.ReadableAt reader podAt index) ∧
      (∀ maxN,
        (∃ result,
            parseMidi reader native maxN buffer = .ok result) ↔
          dequeued.ReadableAt reader podAt 0) ∧
      (∀ maxN,
        (∃ result,
            parseOsc reader packet maxN buffer = .ok result) ↔
          dequeued.ReadableAt reader podAt 0 ∧
            (maxN = 0 ∨
              CarriesCStrings reader (dequeued.podIn podAt 0))) ∧
      (∀ maxN,
        parseMidi reader native maxN buffer ≠
            .error .nullDereference ↔
          dequeued.ReadableAt reader podAt 0) ∧
      ∀ maxN,
        parseOsc reader packet maxN buffer ≠
            .error .nullDereference ↔
          dequeued.ReadableAt reader podAt 0 := by
  have isPortBuffer : Buffer.ofPort spaPodFromData dequeued = buffer :=
    Option.some.inj obtained
  subst buffer
  have readsNull := meetsNull_iff contract dequeued 0
  refine ⟨reportsUnreadable_iff contract dequeued,
    parseMidi_returns_iff contract dequeued native,
    parseOsc_returns_iff_readable contract dequeued packet,
    fun maxN => ?_, fun maxN => ?_⟩
  · rw [ne_eq, parseMidi_nullDereference_iff, readsNull, not_not]
  · rw [ne_eq, parseOsc_nullDereference_iff, readsNull, not_not]

end Reporting

section Reference

/-- `spa_pod_from_data` over memories that hold a pod at every offset. -/
def referencePodFromData :
    SpaPodFromData ReferencePod (UInt32 → ReferencePod) :=
  fun data maxsize offset size =>
    if size.toNat < 8 ∨ maxsize.toNat < offset.toNat + size.toNat then
      .ok none
    else do
      let memory ← dereference data
      if 8 + (referenceSpa.spaPodBodySize (memory offset)).toNat ≤
          size.toNat then
        return some (memory offset)
      else
        return none

/-- The reference function behaves as documented. -/
theorem referencePodFromData_contract :
    FromDataContract referenceSpa.toPodReader
      (fun memory offset => memory offset) referencePodFromData where
  outOfBounds plane outside := by
    rw [SpaData.InBounds, not_and_or, Nat.not_le, Nat.not_le] at outside
    rw [SpaData.pod, referencePodFromData, if_pos outside]
  noData plane inBounds data := by
    rw [SpaData.InBounds, ← Nat.not_lt, ← Nat.not_lt, ← not_or]
      at inBounds
    rw [SpaData.pod, referencePodFromData, if_neg inBounds, data]
    rfl
  tooLarge plane memory inBounds data outside := by
    rw [SpaData.InBounds, ← Nat.not_lt, ← Nat.not_lt, ← not_or]
      at inBounds
    rw [SpaData.Contains] at outside
    rw [SpaData.pod, referencePodFromData, if_neg inBounds, data,
      dereference_some]
    exact if_neg outside
  contained plane memory inBounds data inside := by
    rw [SpaData.InBounds, ← Nat.not_lt, ← Nat.not_lt, ← not_or]
      at inBounds
    rw [SpaData.Contains] at inside
    rw [SpaData.pod, referencePodFromData, if_neg inBounds, data,
      dereference_some]
    exact if_pos inside

/-- A buffer with one plane that holds the pod at offset 16. -/
def referencePlane
    (pod : ReferencePod)
    (size : UInt32) :
    PwBuffer (UInt32 → ReferencePod) where
  datas := [{
    data := some fun offset => if offset = 16 then pod else .struct []
    maxsize := 4096
    chunk := { offset := 16, size := size, stride := 1, flags := 0 }
  }]

/-- A note and an OSC message: 16 bytes and 24 for each control. -/
def referenceSequence : ReferencePod :=
  .sequence [referenceNote, {
    type := .osc
    value := .raw .bytes (ascii "/a" ++ [0, 0]) []
  }]

/-- A plane with a whole pod in its chunk, which has the size of the pod. -/
theorem unreadable_reported_whole :
    ReportsUnreadable referencePodFromData
        (referencePlane referenceSequence 64)
        (.ofPort referencePodFromData
          (referencePlane referenceSequence 64))
        0 ∧
      (∃ result,
        parseMidi referenceSpa.toPodReader .little 4
            (.ofPort referencePodFromData
              (referencePlane referenceSequence 64)) =
          .ok result) ∧
      ∃ result,
        parseOsc referenceSpa.toPodReader Prod.mk 4
            (.ofPort referencePodFromData
              (referencePlane referenceSequence 64)) =
          .ok result := by
  have readable :
      (referencePlane referenceSequence 64).ReadableAt
        referenceSpa.toPodReader (fun memory offset => memory offset)
        0 := by
    intro plane present
    cases present
    exact ⟨by decide, _, rfl, by decide⟩
  have cStrings :
      CarriesCStrings referenceSpa.toPodReader
        ((referencePlane referenceSequence 64).podIn
          (fun memory offset => memory offset) 0) := by
    intro sequence isFirst _
    obtain rfl : referenceSequence = sequence := Option.some.inj isFirst
    decide
  obtain ⟨reports, midi, osc, -⟩ :=
    unreadable_reported_iff referencePodFromData_contract
      rfl .little Prod.mk
  exact ⟨(reports 0).mpr readable, (midi 4).mpr readable,
    (osc 4).mpr ⟨readable, Or.inr cStrings⟩⟩

/-- The same plane with an empty chunk: null is engaged and followed. -/
theorem not_unreadable_reported_empty_chunk :
    ¬ (ReportsUnreadable referencePodFromData
          (referencePlane referenceSequence 0)
          (.ofPort referencePodFromData
            (referencePlane referenceSequence 0)) 0 ∨
        parseMidi referenceSpa.toPodReader .little 4
            (.ofPort referencePodFromData
              (referencePlane referenceSequence 0)) ≠
          .error .nullDereference ∨
        parseOsc referenceSpa.toPodReader Prod.mk 4
            (.ofPort referencePodFromData
              (referencePlane referenceSequence 0)) ≠
          .error .nullDereference) := by
  have engagesNull :
      (Buffer.ofPort referencePodFromData
          (referencePlane referenceSequence 0)).getPod 0 =
        .ok (some none) :=
    rfl
  intro reported
  rcases reported with ⟨result, returns, engaged, -⟩ | midi | osc
  · rw [engagesNull] at returns
    cases returns
    exact engaged none rfl rfl
  · exact midi
      ((parseMidi_nullDereference_iff _ _ _ _).mpr (Or.inl engagesNull))
  · exact osc
      ((parseOsc_nullDereference_iff _ _ _ _).mpr (Or.inl engagesNull))

end Reference

end Pwcpp
