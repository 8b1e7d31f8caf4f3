import Pwcpp.OscSafety

namespace Pwcpp.Oscpp

open ThrowingMethods

/-!
# Callers that read packets

A caller holds objects of the library and calls their methods in any order.
It catches what they throw, goes on with the objects as they were left, and
reads the strings and blobs that it is given.  As before, an address that is
only formed is no fault.
-/

section Requests

/-- An object that a caller holds. -/
inductive Object where
  | ofPacket (packet : Packet)
  | ofPackets (packets : PacketStream)
  | ofBundle (bundle : Bundle)
  | ofMessage (message : Message)
  | ofArgs (args : ArgStream)
  deriving Repr, DecidableEq

/-- The implicit copy. -/
def Object.copy : Object → Object
  | .ofPacket packet =>
      .ofPacket packet.copy
  | .ofPackets packets =>
      .ofPackets (.make packets.mStream)
  | .ofBundle bundle =>
      .ofBundle (.make bundle.mTime bundle.mStream)
  | .ofMessage message =>
      .ofMessage { message with mArgs := message.mArgs.copy }
  | .ofArgs args =>
      .ofArgs args.copy

/--
What a caller asks for.  The objects that it holds are numbered in the order in
which it got them.
-/
inductive Request where
  | packet (data size : Nat)
  | copy (object : Nat)
  | toBundle (packet : Nat)
  | toMessage (packet : Nat)
  | packets (bundle : Nat)
  | next (packets : Nat)
  | args (message : Nat)
  | tag (args : Nat)
  | int32 (args : Nat)
  | float32 (args : Nat)
  | string (args : Nat)
  | blob (args : Nat)
  | array (args : Nat)
  | drop (args : Nat)
  deriving Repr, DecidableEq

/-- What a caller does to the objects that it holds. -/
abbrev Caller (α : Type) :=
  Method (List Object) α

/-- Get an object. -/
def receive (object : Object) : Caller Unit :=
  update fun objects => objects ++ [object]

/-- Use the object with a number. -/
def withObject (i : Nat) (use : Object → Caller Unit) : Caller Unit := do
  let object ← observe fun objects => .ok objects[i]?
  match object with
  | some object =>
      use object
  | none =>
      return ()

/-- Call a method of the arguments with a number. -/
def callArgs
    {α : Type}
    (i : Nat)
    (method : Method ArgStream α)
    (use : α → Caller Unit) :
    Caller Unit :=
  withObject i fun object =>
    match object with
    | .ofArgs args => do
        let value ←
          onPart (fun _ => args)
            (fun objects next => objects.set i (.ofArgs next)) method
        use value
    | .ofPacket _ | .ofPackets _ | .ofBundle _ | .ofMessage _ =>
        return ()

variable
  (native : Endian)
  (conversions : Conversions)
  (memory : Memory)

/-- Serve a request.  What the types do not allow has no effect. -/
def serve : Request → Caller Unit
  | .packet data size => do
      let packet ← observe fun _ => Packet.ofData memory data size
      receive (.ofPacket packet)
  | .copy i =>
      withObject i fun object => receive object.copy
  | .toBundle i =>
      withObject i fun object =>
        match object with
        | .ofPacket packet => do
            let bundle ← observe fun _ => packet.toBundle memory native
            receive (.ofBundle bundle)
        | .ofPackets _ | .ofBundle _ | .ofMessage _ | .ofArgs _ =>
            return ()
  | .toMessage i =>
      withObject i fun object =>
        match object with
        | .ofPacket packet => do
            let message ← observe fun _ => packet.toMessage memory
            receive (.ofMessage message)
        | .ofPackets _ | .ofBundle _ | .ofMessage _ | .ofArgs _ =>
            return ()
  | .packets i =>
      withObject i fun object =>
        match object with
        | .ofBundle bundle =>
            receive (.ofPackets bundle.packets)
        | .ofPacket _ | .ofPackets _ | .ofMessage _ | .ofArgs _ =>
            return ()
  | .next i =>
      withObject i fun object =>
        match object with
        | .ofPackets packets => do
            let packet ←
              onPart (fun _ => packets)
                (fun objects next => objects.set i (.ofPackets next))
                (PacketStream.next native memory)
            receive (.ofPacket packet)
        | .ofPacket _ | .ofBundle _ | .ofMessage _ | .ofArgs _ =>
            return ()
  | .args i =>
      withObject i fun object =>
        match object with
        | .ofMessage message =>
            receive (.ofArgs message.args)
        | .ofPacket _ | .ofPackets _ | .ofBundle _ | .ofArgs _ =>
            return ()
  | .tag i =>
      callArgs i (observe (ArgStream.tag memory)) fun _ => return ()
  | .int32 i =>
      callArgs i (ArgStream.int32 native memory conversions)
        fun _ => return ()
  | .float32 i =>
      callArgs i (ArgStream.float32 native memory conversions)
        fun _ => return ()
  | .string i =>
      callArgs i (ArgStream.string memory) fun pointer => do
        let _ ← observe fun _ => memory.cString pointer
        return ()
  | .blob i =>
      callArgs i (ArgStream.blob native memory) fun blob =>
        if blob.size = 0 then
          return ()
        else do
          let _ ← observe fun _ => memory.load blob.data blob.size
          return ()
  | .array i =>
      callArgs i (ArgStream.array native memory) fun array =>
        receive (.ofArgs array)
  | .drop i =>
      callArgs i (ArgStream.drop native memory) fun _ => return ()

/-- Serve some requests; the caller catches what is thrown. -/
def serveAll (requests : List Request) : Caller Unit :=
  inOrder (requests.map fun request => do
    let _ ← attempt (serve native conversions memory request)
    return ())

end Requests

section Serving

variable
  {α : Type}
  {native : Endian}
  {conversions : Conversions}
  {memory : Memory}
  {objects : List Object}
  {object : Object}
  {Faults : Fault → Prop}

/-- The object is as the library made it. -/
def Object.Valid (memory : Memory) : Object → Prop
  | .ofPacket packet =>
      packet.mStream.Valid memory
  | .ofPackets packets =>
      packets.mStream.Valid memory
  | .ofBundle bundle =>
      bundle.mStream.Valid memory
  | .ofMessage message =>
      message.Valid memory
  | .ofArgs args =>
      args.Valid memory

/-- All objects are as the library made them. -/
def AllValid (memory : Memory) (objects : List Object) : Prop :=
  ∀ object ∈ objects, object.Valid memory

/-- Copies are valid. -/
theorem Object.Valid.copy
    (valid : object.Valid memory) :
    object.copy.Valid memory := by
  cases object with
  | ofPacket packet =>
      exact Stream.Valid.copy valid
  | ofPackets packets =>
      exact Stream.Valid.copy valid
  | ofBundle bundle =>
      exact Stream.Valid.copy valid
  | ofMessage message =>
      exact ⟨valid.address, valid.args.tags.copy, valid.args.data.copy⟩
  | ofArgs args =>
      exact ⟨valid.tags.copy, valid.data.copy⟩

/-- The caller's step keeps all objects valid, also when it throws. -/
def Serves
    (memory : Memory)
    (objects : List Object)
    (action : Caller α)
    (Faults : Fault → Prop) : Prop :=
  Ends (action objects)
    (fun _ next => AllValid memory next)
    (fun _ next => AllValid memory next)
    Faults

/-- A valid object is received. -/
theorem AllValid.receive
    (allValid : AllValid memory objects)
    (valid : object.Valid memory) :
    Serves memory objects (receive object) Faults := by
  apply Ends.update
  intro held member
  rcases List.mem_append.mp member with before | isNew
  · exact allValid held before
  · obtain rfl := List.mem_singleton.mp isNew
    exact valid

/-- A valid object takes the place of another one. -/
theorem AllValid.set
    (allValid : AllValid memory objects)
    (i : Nat)
    (valid : object.Valid memory) :
    AllValid memory (objects.set i object) := by
  intro held member
  rcases List.mem_or_eq_of_mem_set member with before | isNew
  · exact allValid held before
  · rw [isNew]
    exact valid

/-- The object with a number is valid. -/
theorem AllValid.withObject
    {i : Nat}
    {use : Object → Caller Unit}
    (allValid : AllValid memory objects)
    (serves :
      ∀ {object : Object},
        objects[i]? = some object →
        object.Valid memory →
        Serves memory objects (use object) Faults) :
    Serves memory objects (withObject i use) Faults := by
  rw [Serves, Oscpp.withObject, look_bind]
  cases isObject : objects[i]? with
  | none =>
      exact Ends.pure allValid
  | some object =>
      exact serves isObject (allValid object (List.mem_of_getElem? isObject))

/-- A call that makes an object, which is then received. -/
theorem AllValid.observe
    {call : Call α}
    {use : α → Caller Unit}
    {Returns : α → Prop}
    (allValid : AllValid memory objects)
    (ends : CallEnds call Returns Exception.Rejects NoFault)
    (serves :
      ∀ {value},
        Returns value →
        Serves memory objects (use value) Faults) :
    Serves memory objects
      (ThrowingMethods.observe (fun _ => call) >>= use) Faults := by
  apply Ends.bind
  apply Ends.observe
  apply CallEnds.mono ends
  case returns =>
    exact serves
  case throws =>
    intro exception _
    exact allValid
  case faults =>
    exact False.elim

/-- A method of the arguments with a number. -/
theorem AllValid.callArgs
    {i : Nat}
    {method : Method ArgStream α}
    {use : α → Caller Unit}
    {Returns : α → Prop}
    (allValid : AllValid memory objects)
    (moves :
      ∀ {args : ArgStream},
        objects[i]? = some (.ofArgs args) →
        args.Valid memory →
        args.Moves memory method (fun value _ => Returns value) Faults)
    (serves :
      ∀ {value next},
        AllValid memory next →
        Returns value →
        Serves memory next (use value) Faults) :
    Serves memory objects (callArgs i method use) Faults := by
  apply allValid.withObject
  intro object isObject valid
  cases object with
  | ofArgs args =>
      apply Ends.bind
      apply Ends.onPart
      apply Ends.mono (moves isObject valid)
      case returns =>
        intro value next moved
        exact serves (allValid.set i (moved.1.valid valid)) moved.2
      case throws =>
        intro exception next thrown
        exact allValid.set i (thrown.1.valid valid)
      case faults =>
        exact id
  | ofPacket _ | ofPackets _ | ofBundle _ | ofMessage _ =>
      exact Ends.pure allValid

/-- What the caller promises: the data that it names are in memory. -/
def Request.Promises (memory : Memory) : Request → Prop
  | .packet data size =>
      memory.address ≤ data ∧ data + size ≤ memory.endAddress
  | .copy _ | .toBundle _ | .toMessage _ | .packets _ | .next _ | .args _
  | .tag _ | .int32 _ | .float32 _ | .string _ | .blob _ | .array _
  | .drop _ =>
      True

/--
The fault of a request: it is `int32`, and the next of the arguments that it is
called on is a float that no integer represents.
-/
def Request.MayFault
    (memory : Memory)
    (conversions : Conversions)
    (objects : List Object)
    (request : Request)
    (fault : Fault) : Prop :=
  ∃ i args,
    request = .int32 i ∧
      objects[i]? = some (.ofArgs args) ∧
        args.Unrepresentable memory conversions fault

/-- A method of arguments whose result is not kept. -/
theorem AllValid.callArgs_only
    {i : Nat}
    {method : Method ArgStream α}
    (allValid : AllValid memory objects)
    (moves :
      ∀ {args : ArgStream},
        objects[i]? = some (.ofArgs args) →
        args.Valid memory →
        args.Moves memory method (fun _ _ => True) Faults) :
    Serves memory objects (Oscpp.callArgs i method fun _ => return ())
      Faults := by
  apply allValid.callArgs moves
  intro value next allValidNext _
  exact Ends.pure allValidNext

/-- Every request is served; the objects stay valid. -/
theorem AllValid.serve
    {request : Request}
    (allValid : AllValid memory objects)
    (promises : request.Promises memory) :
    Serves memory objects (serve native conversions memory request)
      (request.MayFault memory conversions objects) := by
  cases request with
  | packet data size =>
      obtain ⟨valid, -⟩ := valid_make_of_inside promises.1 promises.2
      apply allValid.observe (Packet.ofStream_ends valid)
      intro packet within
      exact allValid.receive within.valid
  | copy i =>
      apply allValid.withObject
      intro object _ valid
      exact allValid.receive valid.copy
  | toBundle i =>
      apply allValid.withObject
      intro object _ valid
      cases object with
      | ofPacket packet =>
          apply allValid.observe (Packet.toBundle_ends valid)
          intro bundle within
          exact allValid.receive within.valid
      | ofPackets _ | ofBundle _ | ofMessage _ | ofArgs _ =>
          exact Ends.pure allValid
  | toMessage i =>
      apply allValid.withObject
      intro object _ valid
      cases object with
      | ofPacket packet =>
          apply allValid.observe (Packet.toMessage_ends valid)
          intro message validMessage
          exact allValid.receive validMessage
      | ofPackets _ | ofBundle _ | ofMessage _ | ofArgs _ =>
          exact Ends.pure allValid
  | packets i =>
      apply allValid.withObject
      intro object _ valid
      cases object with
      | ofBundle bundle =>
          exact allValid.receive (Stream.Valid.copy valid)
      | ofPacket _ | ofPackets _ | ofMessage _ | ofArgs _ =>
          exact Ends.pure allValid
  | next i =>
      apply allValid.withObject
      intro object _ valid
      cases object with
      | ofPackets packets =>
          have validStream : packets.mStream.Valid memory := valid
          apply Ends.bind
          apply Ends.onPart
          apply Ends.mono (PacketStream.next_ends validStream)
          case returns =>
            intro packet next taken
            have validNext : next.mStream.Valid memory :=
              taken.1.valid validStream
            exact AllValid.receive (allValid.set i validNext) taken.2.2.1
          case throws =>
            intro exception next thrown
            have validNext : next.mStream.Valid memory :=
              thrown.1.valid validStream
            exact allValid.set i validNext
          case faults =>
            exact False.elim
      | ofPacket _ | ofBundle _ | ofMessage _ | ofArgs _ =>
          exact Ends.pure allValid
  | args i =>
      apply allValid.withObject
      intro object _ valid
      cases object with
      | ofMessage message =>
          exact allValid.receive
            ⟨valid.args.tags.copy, valid.args.data.copy⟩
      | ofPacket _ | ofPackets _ | ofBundle _ | ofArgs _ =>
          exact Ends.pure allValid
  | tag i =>
      apply allValid.callArgs_only
      intro args _ valid
      exact valid.tag.mono id False.elim
  | int32 i =>
      apply allValid.callArgs_only
      intro args isObject valid
      apply valid.int32.mono (fun _ => trivial)
      intro fault unrepresentable
      exact ⟨i, args, rfl, isObject, unrepresentable⟩
  | float32 i =>
      apply allValid.callArgs_only
      intro args _ valid
      exact valid.float32.mono (fun _ => trivial) False.elim
  | string i =>
      apply allValid.callArgs
      · intro args _ valid
        exact valid.string.mono (fun taken => taken.2) False.elim
      · intro pointer next allValidNext isString
        obtain ⟨string, isValue⟩ := isString
        have reads :
            CallEnds (memory.cString pointer) (fun _ => True)
              Exception.Rejects NoFault := by
          rw [isValue]
          trivial
        apply allValidNext.observe reads
        intro _ _
        exact Ends.pure allValidNext
  | blob i =>
      apply allValid.callArgs
      · intro args _ valid
        exact valid.blob.mono (fun taken => taken.2) False.elim
      · intro blob next allValidNext inside
        split
        · exact Ends.pure allValidNext
        · rename_i some
          have reads :
              CallEnds (memory.load blob.data blob.size) (fun _ => True)
                Exception.Rejects NoFault := by
            rw [Memory.load, if_pos (inside.resolve_left some)]
            trivial
          apply allValidNext.observe reads
          intro _ _
          exact Ends.pure allValidNext
  | array i =>
      apply allValid.callArgs
      · intro args _ valid
        exact valid.array.mono (fun taken => taken.2.1) False.elim
      · intro array next allValidNext validArray
        exact allValidNext.receive validArray
  | drop i =>
      apply allValid.callArgs_only
      intro args _ valid
      exact valid.drop.mono (fun _ => trivial) False.elim

/--
Whatever a caller asks for, in whatever order, and whatever the bytes are: all
requests are served, and no object is ever left invalid.  The only fault is
that of an `int32` whose next argument is a float that no integer represents;
all requests before it are served.
-/
theorem serveAll_ends
    {requests : List Request}
    (promises :
      ∀ request ∈ requests, Request.Promises memory request) :
    Ends (serveAll native conversions memory requests [])
      (fun _ objects => AllValid memory objects)
      (fun _ _ => False)
      (fun fault =>
        ∃ before request after objects,
          requests = before ++ request :: after ∧
            serveAll native conversions memory before [] =
              .ok () objects ∧
            request.MayFault memory conversions objects fault) := by
  apply Ends.inOrder
  · intro request objects member allValid
    apply Ends.bind
    apply Ends.attempt
    apply Ends.mono (allValid.serve (promises request member))
    case returns =>
      exact id
    case throws =>
      exact id
    case faults =>
      exact id
  · intro object member
    exact (List.not_mem_nil member).elim

/-- A caller that takes arguments as they come, and some twice. -/
def hastyRequests : List Request :=
  [.packet noteMemory.address noteMemory.bytes.length, .toMessage 0,
    .toBundle 0, .packets 1, .next 2, .toMessage 3, .args 4, .int32 5,
    .array 5, .copy 6, .string 6, .int32 6, .float32 7, .blob 5, .blob 5,
    .next 2, .drop 9, .tag 5]

/-- Its requests are all served. -/
theorem serveAll_ends_hasty :
    Ends (serveAll .little .ieee noteMemory hastyRequests [])
        (fun _ objects => AllValid noteMemory objects)
        (fun _ _ => False)
        (fun fault =>
          ∃ before request after objects,
            hastyRequests = before ++ request :: after ∧
              serveAll .little .ieee noteMemory before [] =
                .ok () objects ∧
              request.MayFault noteMemory .ieee objects fault) ∧
      (callOn [] (serveAll .little .ieee noteMemory hastyRequests)).isOk =
        true := by
  have inside :
      noteMemory.address ≤ noteMemory.address ∧
        noteMemory.address + noteMemory.bytes.length ≤
          noteMemory.endAddress :=
    ⟨Nat.le_refl _, Nat.le_refl _⟩
  have promises :
      ∀ request ∈ hastyRequests, Request.Promises noteMemory request := by
    simp only [hastyRequests, List.forall_mem_cons, Request.Promises,
      true_and]
    exact ⟨inside, List.forall_mem_nil _⟩
  have returns :
      (callOn [] (serveAll .little .ieee noteMemory hastyRequests)).isOk =
        true := by
    decide +kernel
  -- The requests are not to be carried out here.
  generalize hastyRequests = requests at promises returns ⊢
  exact ⟨serveAll_ends promises, returns⟩

end Serving

end Pwcpp.Oscpp
