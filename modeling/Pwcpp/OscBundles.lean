import Pwcpp.OscPackets

namespace Pwcpp.Oscpp

open ThrowingMethods

/-!
# What printing a packet accepts

`printPacket` goes through a whole packet: it opens every bundle, and every
array of every message.  It succeeds exactly when the bytes are those of a
packet of the library's dialect, and then it has printed that packet.
-/

section Bytes

variable
  {elements : Elements (List UInt8)}
  {wire : List UInt8}

/-- Only no elements have no bytes. -/
theorem isBytes_nil_iff :
    elements.IsBytes [] ↔ elements = .nil := by
  have notSized :
      ∀ {element tail : List UInt8}, ¬ IsSized element tail [] := by
    intro element tail isSized
    have isLength := congrArg List.length isSized.isWire
    rw [List.length_append, length_sized, List.length_nil] at isLength
    omega
  constructor
  · intro isBytes
    cases elements with
    | nil =>
        rfl
    | message address args rest =>
        obtain ⟨_, _, isSized, -⟩ := isBytes
        exact (notSized isSized).elim
    | bundle time inside rest =>
        obtain ⟨_, _, isSized, -⟩ := isBytes
        exact (notSized isSized).elim
  · intro isNil
    subst elements
    rfl

/-- The first element is this one, and the others are those in the tail. -/
def Elements.IsFirst (element tail : List UInt8) :
    Elements (List UInt8) → Prop
  | .nil =>
      False
  | .message address args rest =>
      IsMessage address args element ∧ rest.IsBytes tail
  | .bundle time elements rest =>
      ∃ inner,
        element = bundleHeader time ++ inner ∧
          elements.IsBytes inner ∧ rest.IsBytes tail

/-- Other bytes have an element in front. -/
theorem isBytes_iff (nonempty : wire ≠ []) :
    elements.IsBytes wire ↔
      ∃ element tail,
        IsSized element tail wire ∧ elements.IsFirst element tail := by
  cases elements with
  | nil =>
      constructor
      · intro isBytes
        exact (nonempty isBytes).elim
      · intro inFront
        rcases inFront with ⟨_, _, -, isFirst⟩
        exact isFirst.elim
  | message address args rest =>
      rfl
  | bundle time inside rest =>
      constructor
      · intro isBytes
        rcases isBytes with ⟨inner, tail, isSized, isInside, isRest⟩
        exact ⟨_, tail, isSized, inner, rfl, isInside, isRest⟩
      · intro inFront
        rcases inFront with ⟨_, tail, isSized, inner, rfl, isInside,
          isRest⟩
        exact ⟨inner, tail, isSized, isInside, isRest⟩

/-- Bytes that do not start a bundle are a message. -/
theorem isFirst_of_message
    {element tail : List UInt8}
    (notBundle : ¬ StartsBundle element) :
    elements.IsFirst element tail ↔
      ∃ address args rest,
        elements = .message address args rest ∧
          IsMessage address args element ∧ rest.IsBytes tail := by
  constructor
  · intro isFirst
    cases elements with
    | nil =>
        exact isFirst.elim
    | message address args rest =>
        exact ⟨address, args, rest, rfl, isFirst⟩
    | bundle time inside rest =>
        obtain ⟨inner, rfl, -⟩ := isFirst
        exact (notBundle (startsBundle_bundleHeader time inner)).elim
  · intro isMessage
    rcases isMessage with ⟨address, args, rest, rfl, isFirst⟩
    exact isFirst

/-- A header has one time only. -/
theorem bundleHeader_append_inj
    {time time' : UInt64}
    {inner inner' : List UInt8}
    (same : bundleHeader time ++ inner = bundleHeader time' ++ inner') :
    time = time' ∧ inner = inner' := by
  have sameLength :
      (bundleHeader time).length = (bundleHeader time').length := by
    rw [length_bundleHeader, length_bundleHeader]
  obtain ⟨sameHeader, sameInner⟩ := List.append_inj same sameLength
  have sameTime := List.append_cancel_left sameHeader
  have isTime :
      ∀ time : UInt64,
        BigEndian.decode (BigEndian.encode 8 time.toNat) = time.toNat :=
    fun time => BigEndian.decode_encode time.toNat_lt
  have sameNumber : time.toNat = time'.toNat := by
    rw [← isTime time, sameTime, isTime time']
  exact ⟨UInt64.toNat_inj.mp sameNumber, sameInner⟩

/-- Bytes that start with a header are a bundle. -/
theorem isFirst_of_bundle
    {time : UInt64}
    {inner tail : List UInt8} :
    elements.IsFirst (bundleHeader time ++ inner) tail ↔
      ∃ inside rest,
        elements = .bundle time inside rest ∧
          inside.IsBytes inner ∧ rest.IsBytes tail := by
  constructor
  · intro isFirst
    cases elements with
    | nil =>
        exact isFirst.elim
    | message address args rest =>
        exact (isFirst.1.1 (startsBundle_bundleHeader time inner)).elim
    | bundle time' inside rest =>
        obtain ⟨inner', same, isInside, isRest⟩ := isFirst
        obtain ⟨rfl, rfl⟩ := bundleHeader_append_inj same
        exact ⟨inside, rest, rfl, isInside, isRest⟩
  · intro isBundle
    rcases isBundle with ⟨inside, rest, rfl, isInside, isRest⟩
    exact ⟨inner, rfl, isInside, isRest⟩

end Bytes

section Elements

variable
  (native : Endian)
  (conversions : Conversions)
  (memory : Memory)

/-- The loop of `printBundle` prints these elements. -/
def PrintsElements
    (fuel : Nat)
    (stream : Stream)
    (elements : Elements (List UInt8)) : Prop :=
  ∃ printed final,
    printPacketsFrom native conversions memory fuel
        { mStream := stream } =
      .ok printed final ∧
        printed.map memory.blobBytes = elements

variable
  {native : Endian}
  {conversions : Conversions}
  {memory : Memory}
  {stream : Stream}
  {elements : Elements (List UInt8)}
  {element tail : List UInt8}

/-- At the end nothing is printed. -/
theorem printPacketsFrom_nil
    (valid : stream.Valid memory)
    (isEnd : stream.rest memory = [])
    (fuel : Nat) :
    printPacketsFrom native conversions memory (fuel + 1)
        { mStream := stream } =
      .ok .nil { mStream := stream } := by
  have atEnd : PacketStream.atEnd { mStream := stream } = true :=
    (atEnd_iff valid).mpr isEnd
  rw [printPacketsFrom, look_bind, atEnd, if_pos rfl]
  rfl

/-- Before the end the loop takes an element off and prints it. -/
theorem printPacketsFrom_cons
    (valid : stream.Valid memory)
    (nonempty : stream.rest memory ≠ [])
    (fuel : Nat) :
    printPacketsFrom native conversions memory (fuel + 1)
        { mStream := stream } =
      (do
        let packet ← PacketStream.next native memory
        if packet.isMessage then do
          let message ← observe fun _ => packet.toMessage memory
          let (address, args) ← observe fun _ =>
            printMessage native conversions memory message
          let rest ← printPacketsFrom native conversions memory fuel
          return .message address args rest
        else do
          let bundle ← observe fun _ => packet.toBundle memory native
          let (elements, _) ← observe fun _ =>
            callOn bundle.packets
              (printPacketsFrom native conversions memory fuel)
          let rest ← printPacketsFrom native conversions memory fuel
          return .bundle bundle.mTime elements rest :
            Method PacketStream (Elements Blob)) { mStream := stream } := by
  have notEnd : PacketStream.atEnd { mStream := stream } = false := by
    rw [← Bool.not_eq_true, PacketStream.atEnd, atEnd_iff valid]
    exact nonempty
  rw [printPacketsFrom, look_bind, notEnd, if_neg Bool.false_ne_true]

/-- What is printed before the end has an element in front. -/
theorem PrintsElements.exists_element
    {fuel : Nat}
    (valid : stream.Valid memory)
    (few : (stream.rest memory).length < 2 ^ 32)
    (nonempty : stream.rest memory ≠ [])
    (prints :
      PrintsElements native conversions memory (fuel + 1) stream
        elements) :
    4 ∣ stream.mPos ∧
      ∃ element tail,
        stream.rest memory = sized element ++ tail ∧
          element.length < 2 ^ 31 := by
  obtain ⟨_, _, returns, -⟩ := prints
  rw [printPacketsFrom_cons valid nonempty, bind_eq_ok_iff] at returns
  obtain ⟨packet, next, takes, -⟩ := returns
  obtain ⟨aligned, element, tail, isRest, small, -, -⟩ :=
    (next_eq_ok_iff valid few).mp takes
  exact ⟨aligned, element, tail, isRest, small⟩

/-- What is in front of an element is not the end. -/
theorem ne_nil_of_sized
    (isRest : stream.rest memory = sized element ++ tail) :
    stream.rest memory ≠ [] := by
  intro isEnd
  have isLength := congrArg List.length (isRest.symm.trans isEnd)
  rw [List.length_append, length_sized, List.length_nil] at isLength
  omega

/-- A message in front is printed, and what comes after it. -/
theorem printsElements_message_iff
    {fuel : Nat}
    (valid : stream.Valid memory)
    (few : (stream.rest memory).length < 2 ^ 32)
    (aligned : 4 ∣ stream.mPos)
    (isRest : stream.rest memory = sized element ++ tail)
    (small : element.length < 2 ^ 31)
    (notBundle : ¬ StartsBundle element) :
    PrintsElements native conversions memory (fuel + 1) stream
        elements ↔
      ∃ address args rest,
        elements = .message address args rest ∧
          IsMessage address args element ∧
          PrintsElements native conversions memory fuel
            (stream.advance (4 + element.length)) rest := by
  obtain ⟨validElement, isElement, -, -, -⟩ := elementOf_spec valid isRest
  have isPacket :
      Packet.ofStream memory (elementOf stream element.length) =
        .ok
          { mStream := (elementOf stream element.length).copy
            mIsBundle := false } :=
    packet_of_message validElement (by rw [isElement]; exact notBundle)
  have takes :
      PacketStream.next native memory { mStream := stream } =
        .ok _ { mStream := stream.advance (4 + element.length) } :=
    (next_eq_ok_iff valid few).mpr
      ⟨aligned, element, tail, isRest, small, isPacket, rfl⟩
  have isMessage :
      Packet.isMessage
        { mStream := (elementOf stream element.length).copy
          mIsBundle := false } =
        true :=
    rfl
  have alignedElement :
      4 ∣ (elementOf stream element.length).copy.mPos :=
    Nat.dvd_add aligned (Nat.dvd_refl 4)
  have printsMessage :
      ∀ {address : StdString} {args : Args (List UInt8)},
        PrintsMessage native conversions memory
            { mStream := (elementOf stream element.length).copy
              mIsBundle := false }
            address args ↔
          IsMessage address args element := by
    intro address args
    rw [printsMessage_iff validElement.copy alignedElement, rest_copy,
      isElement]
    · rw [rest_copy, isElement]
      omega
    · rw [rest_copy, isElement]
      exact notBundle
  rw [PrintsElements, printPacketsFrom_cons valid (ne_nil_of_sized isRest),
    bind_of_ok takes, isMessage, if_pos rfl]
  simp only [bind_eq_ok_iff, observe_eq_ok_iff, pure_eq_ok_iff]
  constructor
  · intro prints
    rcases prints with ⟨_, _, ⟨message, _, ⟨isTaken, rfl⟩,
      ⟨address, args⟩, _, ⟨isPrinted, rfl⟩, rest, _, printsRest, rfl, rfl⟩,
      rfl⟩
    exact ⟨address, _, _, rfl,
      printsMessage.mp ⟨message, args, isTaken, isPrinted, rfl⟩,
      ⟨rest, _, printsRest, rfl⟩⟩
  · intro prints
    rcases prints with ⟨address, args, _, rfl, isMessage, rest, final,
      printsRest, rfl⟩
    obtain ⟨message, printed, isTaken, isPrinted, rfl⟩ :=
      printsMessage.mpr isMessage
    exact ⟨_, final, ⟨message, _, ⟨isTaken, rfl⟩, (address, printed), _,
      ⟨isPrinted, rfl⟩, rest, final, printsRest, rfl, rfl⟩, rfl⟩

/-- A bundle in front is printed, and what comes after it. -/
theorem printsElements_bundle_iff
    {fuel : Nat}
    {time : UInt64}
    {inner : List UInt8}
    (valid : stream.Valid memory)
    (few : (stream.rest memory).length < 2 ^ 32)
    (aligned : 4 ∣ stream.mPos)
    (isRest :
      stream.rest memory = sized (bundleHeader time ++ inner) ++ tail)
    (small : (bundleHeader time ++ inner).length < 2 ^ 31) :
    PrintsElements native conversions memory (fuel + 1) stream
        elements ↔
      ∃ inside rest,
        elements = .bundle time inside rest ∧
          PrintsElements native conversions memory fuel
            (elementsOf
              (elementOf stream (bundleHeader time ++ inner).length))
            inside ∧
          PrintsElements native conversions memory fuel
            (stream.advance (4 + (bundleHeader time ++ inner).length))
            rest := by
  obtain ⟨validElement, isElement, -, -, -⟩ := elementOf_spec valid isRest
  have isPacket :=
    packet_of_bundle validElement
      (by rw [isElement]; exact startsBundle_bundleHeader time inner)
  have takes :
      PacketStream.next native memory { mStream := stream } =
        .ok _
          { mStream :=
              stream.advance (4 + (bundleHeader time ++ inner).length) } :=
    (next_eq_ok_iff valid few).mpr
      ⟨aligned, _, tail, isRest, small, isPacket, rfl⟩
  have isTaken :
      Packet.toBundle memory native _ = .ok _ :=
    toBundle_eq validElement isElement
  rw [PrintsElements, printPacketsFrom_cons valid (ne_nil_of_sized isRest),
    bind_of_ok takes, if_neg (by exact Bool.false_ne_true)]
  simp only [bind_eq_ok_iff, observe_eq_ok_iff, pure_eq_ok_iff]
  constructor
  · intro prints
    rcases prints with ⟨_, _, ⟨bundle, _, ⟨isTaken', rfl⟩, ⟨inside, _⟩, _,
      ⟨printsInside, rfl⟩, rest, _, printsRest, rfl, rfl⟩, rfl⟩
    obtain rfl := Except.ok.inj (isTaken.symm.trans isTaken')
    exact ⟨_, _, rfl,
      ⟨inside, _, callOn_eq_ok_iff.mp printsInside, rfl⟩,
      ⟨rest, _, printsRest, rfl⟩⟩
  · intro prints
    rcases prints with ⟨_, _, rfl, ⟨inside, last, printsInside, rfl⟩,
      ⟨rest, final, printsRest, rfl⟩⟩
    exact ⟨_, final, ⟨_, _, ⟨isTaken, rfl⟩, (inside, last), _,
      ⟨callOn_eq_ok_iff.mpr printsInside, rfl⟩, rest, final, printsRest,
      rfl, rfl⟩, rfl⟩

variable (native conversions memory)

/-- With this many steps, the loop prints what is in up to some bytes. -/
def ElementsInFront (fuel count : Nat) : Prop :=
  ∀ {stream elements},
    Stream.Valid memory stream →
    (stream.rest memory).length ≤ count →
    (PrintsElements native conversions memory fuel stream elements ↔
      (stream.rest memory = [] ∨ 4 ∣ stream.mPos) ∧
        elements.IsBytes (stream.rest memory))

variable
  {native conversions memory}
  {fuel count : Nat}

/-- What comes after an element is printed. -/
theorem ElementsInFront.tail_iff
    (goesOn : ElementsInFront native conversions memory fuel count)
    (valid : stream.Valid memory)
    (aligned : 4 ∣ stream.mPos)
    (isRest : stream.rest memory = sized element ++ tail)
    (bounded : (stream.rest memory).length ≤ count + 1) :
    PrintsElements native conversions memory fuel
        (stream.advance (4 + element.length)) elements ↔
      (tail = [] ∨ 4 ∣ element.length) ∧ elements.IsBytes tail := by
  obtain ⟨-, -, validTail, isTail, isPos⟩ := elementOf_spec valid isRest
  have isLength := congrArg List.length isRest
  rw [List.length_append, length_sized] at isLength
  have words :
      4 ∣ stream.mPos + (4 + element.length) ↔ 4 ∣ element.length := by
    rw [Nat.dvd_add_right aligned, Nat.dvd_add_right (Nat.dvd_refl 4)]
  rw [goesOn validTail (by rw [isTail]; omega), isTail, isPos, words]

/-- What is in a bundle is printed. -/
theorem ElementsInFront.inner_iff
    {time : UInt64}
    {inner : List UInt8}
    (goesOn : ElementsInFront native conversions memory fuel count)
    (valid : stream.Valid memory)
    (aligned : 4 ∣ stream.mPos)
    (isRest : stream.rest memory = bundleHeader time ++ inner)
    (bounded : (stream.rest memory).length ≤ count + 1) :
    PrintsElements native conversions memory fuel (elementsOf stream)
        elements ↔
      elements.IsBytes inner := by
  obtain ⟨validInner, isInner, isPos⟩ := elementsOf_spec valid isRest
  have isLength := congrArg List.length isRest
  rw [List.length_append, length_bundleHeader] at isLength
  have alignedInner : 4 ∣ (elementsOf stream).mPos := by
    rw [isPos]
    exact Nat.dvd_add aligned (by decide)
  rw [goesOn validInner (by rw [isInner]; omega), isInner]
  exact and_iff_right (Or.inr alignedInner)

/-- The element in front is printed, and what comes after it. -/
theorem printsElements_sized_iff
    (goesOn : ElementsInFront native conversions memory fuel count)
    (valid : stream.Valid memory)
    (few : (stream.rest memory).length < 2 ^ 32)
    (bounded : (stream.rest memory).length ≤ count + 1)
    (aligned : 4 ∣ stream.mPos)
    (isRest : stream.rest memory = sized element ++ tail)
    (small : element.length < 2 ^ 31) :
    PrintsElements native conversions memory (fuel + 1) stream
        elements ↔
      (tail = [] ∨ 4 ∣ element.length) ∧
        elements.IsFirst element tail := by
  have isLength := congrArg List.length isRest
  rw [List.length_append, length_sized] at isLength
  by_cases starts : StartsBundle element
  · obtain ⟨time, inner, rfl⟩ := starts.exists_header
    obtain ⟨validElement, isElement, -, -, -⟩ :=
      elementOf_spec valid isRest
    have alignedElement :
        4 ∣ (elementOf stream (bundleHeader time ++ inner).length).mPos :=
      Nat.dvd_add aligned (Nat.dvd_refl 4)
    rw [printsElements_bundle_iff valid few aligned isRest small,
      isFirst_of_bundle]
    simp only [goesOn.tail_iff valid aligned isRest bounded,
      goesOn.inner_iff validElement alignedElement isElement
        (by rw [isElement]; omega)]
    constructor
    · intro prints
      rcases prints with ⟨inside, rest, same, isInside, words, isTail⟩
      exact ⟨words, inside, rest, same, isInside, isTail⟩
    · intro both
      rcases both with ⟨words, inside, rest, same, isInside, isTail⟩
      exact ⟨inside, rest, same, isInside, words, isTail⟩
  · rw [printsElements_message_iff valid few aligned isRest small starts,
      isFirst_of_message starts]
    simp only [goesOn.tail_iff valid aligned isRest bounded]
    constructor
    · intro prints
      rcases prints with ⟨address, args, rest, same, isMessage, words,
        isTail⟩
      exact ⟨words, address, args, rest, same, isMessage, isTail⟩
    · intro both
      rcases both with ⟨words, address, args, rest, same, isMessage,
        isTail⟩
      exact ⟨address, args, rest, same, isMessage, words, isTail⟩

/-- With enough steps, the loop prints exactly the elements in front. -/
theorem elementsInFront
    (enough : count < fuel)
    (few : count < 2 ^ 32) :
    ElementsInFront native conversions memory fuel count := by
  induction fuel generalizing count with
  | zero =>
      cases enough
  | succ fuel inductionHypothesis =>
      intro stream elements valid bounded
      by_cases isEnd : stream.rest memory = []
      · rw [PrintsElements, printPacketsFrom_nil valid isEnd, isEnd,
          isBytes_nil_iff]
        constructor
        · intro prints
          rcases prints with ⟨_, _, returns, rfl⟩
          cases returns
          exact ⟨Or.inl rfl, rfl⟩
        · intro isNil
          exact ⟨_, _, rfl, isNil.2.symm⟩
      have fewHere : (stream.rest memory).length < 2 ^ 32 :=
        Nat.lt_of_le_of_lt bounded few
      have nonempty : 0 < (stream.rest memory).length :=
        List.length_pos_iff.mpr isEnd
      have goesOn :
          ElementsInFront native conversions memory fuel (count - 1) :=
        inductionHypothesis (by omega) (by omega)
      have boundedHere : (stream.rest memory).length ≤ count - 1 + 1 := by
        omega
      constructor
      · intro prints
        obtain ⟨aligned, element, tail, isRest, small⟩ :=
          prints.exists_element valid fewHere isEnd
        obtain ⟨words, isFirst⟩ :=
          (printsElements_sized_iff goesOn valid fewHere boundedHere
            aligned isRest small).mp prints
        exact ⟨Or.inr aligned, (isBytes_iff isEnd).mpr
          ⟨element, tail, ⟨isRest, small, words⟩, isFirst⟩⟩
      · intro both
        rcases both with ⟨atEnd | aligned, isBytes⟩
        · exact (isEnd atEnd).elim
        · obtain ⟨element, tail, ⟨isRest, small, words⟩, isFirst⟩ :=
            (isBytes_iff isEnd).mp isBytes
          exact (printsElements_sized_iff goesOn valid fewHere boundedHere
            aligned isRest small).mpr ⟨words, isFirst⟩

end Elements

section Packets

variable
  (native : Endian)
  (conversions : Conversions)
  (memory : Memory)
  (data size : Nat)

/-- The packet in some data is printed as this one. -/
def PrintsPacket (content : Content (List UInt8)) : Prop :=
  ∃ packet printed,
    Packet.ofData memory data size = .ok packet ∧
      printPacket native conversions memory packet = .ok printed ∧
      printed.map memory.blobBytes = content

variable
  {native : Endian}
  {conversions : Conversions}
  {memory : Memory}
  {data size : Nat}
  {stream : Stream}
  {content : Content (List UInt8)}

/-- A stream of some data is valid. -/
theorem valid_make_of_inside
    (begins : memory.address ≤ data)
    (ends : data + size ≤ memory.endAddress) :
    (Stream.make data size).Valid memory ∧
      (Stream.make data size).rest memory =
        memory.window data (data + size) := by
  have bounded : data + size < 2 ^ 64 := by
    have inMemory := memory.bounded
    rw [Memory.endAddress] at ends
    omega
  have isEnd : (Stream.make data size).mEnd = data + size :=
    ptrAdd_eq bounded
  constructor
  · exact
      { begins := Nat.le_refl _
        ends := by
          rw [isEnd]
          exact Nat.le_add_right _ _
        bounded := by
          rw [isEnd]
          exact bounded
        inside := fun _ => ⟨begins, by rw [isEnd]; exact ends⟩ }
  · rw [Stream.rest, isEnd]
    rfl

/-- A message is printed as what its bytes say. -/
theorem printPacket_message_iff
    (valid : stream.Valid memory)
    (aligned : 4 ∣ stream.mPos)
    (few : (stream.rest memory).length < 2 ^ 32)
    (notBundle : ¬ StartsBundle (stream.rest memory)) :
    (∃ printed,
      printPacket native conversions memory
          { mStream := stream, mIsBundle := false } =
        .ok printed ∧
          printed.map memory.blobBytes = content) ↔
      content.IsBytes (stream.rest memory) := by
  have isMessage :
      Packet.isMessage { mStream := stream, mIsBundle := false } = true :=
    rfl
  have printsMessage :
      ∀ {address : StdString} {args : Args (List UInt8)},
        PrintsMessage native conversions memory
            { mStream := stream, mIsBundle := false } address args ↔
          IsMessage address args (stream.rest memory) :=
    printsMessage_iff valid aligned few notBundle
  rw [printPacket, isMessage, if_pos rfl]
  simp only [call_bind_eq_ok_iff]
  constructor
  · intro prints
    rcases prints with ⟨_, ⟨message, isTaken, ⟨address, args⟩, isPrinted,
      same⟩, rfl⟩
    cases same
    exact printsMessage.mp ⟨message, args, isTaken, isPrinted, rfl⟩
  · intro isBytes
    cases content with
    | bundle time elements =>
        obtain ⟨inner, isRest, -⟩ := isBytes
        rw [isRest] at notBundle
        exact (notBundle (startsBundle_bundleHeader time inner)).elim
    | message address args =>
        obtain ⟨message, printed, isTaken, isPrinted, rfl⟩ :=
          printsMessage.mpr isBytes
        exact ⟨.message address printed,
          ⟨message, isTaken, (address, printed), isPrinted, rfl⟩, rfl⟩

/-- A bundle is printed as what its bytes say. -/
theorem printPacket_bundle_iff
    {time : UInt64}
    {inner : List UInt8}
    (valid : stream.Valid memory)
    (aligned : 4 ∣ stream.mPos)
    (few : (stream.rest memory).length < 2 ^ 32)
    (isRest : stream.rest memory = bundleHeader time ++ inner) :
    (∃ printed,
      printPacket native conversions memory
          { mStream := stream.copy.advance 8, mIsBundle := true } =
        .ok printed ∧
          printed.map memory.blobBytes = content) ↔
      content.IsBytes (stream.rest memory) := by
  have notMessage :
      Packet.isMessage
          { mStream := stream.copy.advance 8, mIsBundle := true } =
        false :=
    rfl
  have isTaken :
      Packet.toBundle memory native _ = .ok _ :=
    toBundle_eq valid isRest
  obtain ⟨validInner, isInner, isPos⟩ := elementsOf_spec valid isRest
  have isLength := congrArg List.length isRest
  rw [List.length_append, length_bundleHeader] at isLength
  have isCount : (elementsOf stream).consumable = inner.length := by
    rw [consumable_eq validInner, isInner]
  have printsInner :
      ∀ {elements : Elements (List UInt8)},
        PrintsElements native conversions memory (inner.length + 1)
            (elementsOf stream) elements ↔
          elements.IsBytes inner := by
    intro elements
    rw [elementsInFront (Nat.lt_succ_self inner.length) (by omega)
      validInner (by rw [isInner]), isInner]
    exact and_iff_right (Or.inr (by
      rw [isPos]
      exact Nat.dvd_add aligned (by decide)))
  rw [printPacket, notMessage, if_neg Bool.false_ne_true, isTaken,
    call_bind_ok, printBundle, isCount]
  simp only [call_bind_eq_ok_iff]
  constructor
  · intro prints
    rcases prints with ⟨_, ⟨_, ⟨⟨elements, _⟩, isPrinted, same⟩, same'⟩,
      rfl⟩
    cases same
    cases same'
    exact ⟨inner, isRest, printsInner.mp
      ⟨elements, _, callOn_eq_ok_iff.mp isPrinted, rfl⟩⟩
  · intro isBytes
    cases content with
    | message address args =>
        exact absurd
          (by rw [isRest]; exact startsBundle_bundleHeader time inner)
          isBytes.1
    | bundle time' elements =>
        obtain ⟨_, isRest', isElements⟩ := isBytes
        obtain ⟨rfl, rfl⟩ :=
          bundleHeader_append_inj (isRest.symm.trans isRest')
        obtain ⟨printed, final, isPrinted, rfl⟩ :=
          printsInner.mpr isElements
        exact ⟨.bundle time printed, ⟨printed, ⟨(printed, final),
          callOn_eq_ok_iff.mpr isPrinted, rfl⟩, rfl⟩, rfl⟩

/-- What is printed, of a message or of a bundle, is what the bytes are. -/
theorem printsPacket_iff_isBytes
    (begins : memory.address ≤ data)
    (ends : data + size ≤ memory.endAddress)
    (aligned : 4 ∣ data)
    (few : size < 2 ^ 32) :
    PrintsPacket native conversions memory data size content ↔
      content.IsBytes (memory.window data (data + size)) := by
  obtain ⟨valid, isRest⟩ := valid_make_of_inside begins ends
  have isLength :
      ((Stream.make data size).rest memory).length = size := by
    rw [isRest, length_window begins ends, Nat.add_sub_cancel_left]
  have fewBytes :
      ((Stream.make data size).rest memory).length < 2 ^ 32 := by
    rw [isLength]
    exact few
  have ofPacket :
      ∀ {packet : Packet},
        Packet.ofData memory data size = .ok packet →
        (PrintsPacket native conversions memory data size content ↔
          ∃ printed,
            printPacket native conversions memory packet = .ok printed ∧
              printed.map memory.blobBytes = content) := by
    intro packet isPacket
    rw [PrintsPacket, isPacket]
    constructor
    · intro prints
      rcases prints with ⟨_, printed, same, isPrinted⟩
      cases same
      exact ⟨printed, isPrinted⟩
    · intro prints
      rcases prints with ⟨printed, isPrinted⟩
      exact ⟨packet, printed, rfl, isPrinted⟩
  rw [← isRest]
  by_cases starts : StartsBundle ((Stream.make data size).rest memory)
  · obtain ⟨time, inner, isBundle⟩ := starts.exists_header
    rw [ofPacket (packet_of_bundle valid starts)]
    exact printPacket_bundle_iff valid aligned fewBytes isBundle
  · rw [ofPacket (packet_of_message valid starts)]
    exact printPacket_message_iff valid.copy aligned fewBytes starts

/--
`printPacket` succeeds exactly on the packets of the dialect, and prints the
packet that it was called on.
-/
theorem printPacket_iff
    (begins : memory.address ≤ data)
    (ends : data + size ≤ memory.endAddress)
    (aligned : 4 ∣ data)
    (few : size < 2 ^ 32) :
    PrintsPacket native conversions memory data size content ↔
      content.IsBytes (memory.window data (data + size)) :=
  printsPacket_iff_isBytes begins ends aligned few

/-- A bundle, somewhere in memory. -/
def noteMemory : Memory where
  address := 4096
  bytes := noteBundle.bytes
  bounded := by decide

/-- The bundle is printed as it is. -/
theorem printPacket_noteBundle :
    PrintsPacket .little .ieee noteMemory noteMemory.address
      noteMemory.bytes.length noteBundle := by
  have few : noteMemory.bytes.length < 2 ^ 32 := by
    decide +kernel
  apply (printPacket_iff (Nat.le_refl _) (Nat.le_refl _) (by decide)
    few).mpr
  rw [← Memory.endAddress, window_whole]
  exact isBytes_content (by decide)

end Packets

end Pwcpp.Oscpp
