import Pwcpp.SpaReference

namespace Pwcpp

/-!
# Buffers

A PipeWire buffer is a list of data planes, and `Buffer::get_pod` reads the
pod in one of them.  The memory of a plane and `spa_pod_from_data` belong to
the pod library and are parameters.  A pointer is an `Option`, so the result
of `get_pod`, an optional pointer, is an option of an option.
-/

/-- `struct spa_chunk`. -/
structure SpaChunk where
  offset : UInt32
  size : UInt32
  stride : Int32
  flags : Int32
  deriving Repr, DecidableEq

/-- `struct spa_data`: one data plane. -/
structure SpaData (Memory : Type) where
  data : Option Memory
  maxsize : UInt32
  chunk : SpaChunk

/-- `struct pw_buffer`: `n_datas` is the length of `datas`. -/
structure PwBuffer (Memory : Type) where
  datas : List (SpaData Memory)

/-- `spa_pod_from_data(data, maxsize, offset, size)` -/
abbrev SpaPodFromData (Pod Memory : Type) :=
  Option Memory → UInt32 → UInt32 → UInt32 → Exec (Option Pod)

/-- `Buffer`, as far as reading needs it. -/
structure Buffer (Pod Memory : Type) where
  buffer : Option (PwBuffer Memory)
  podConverter :
    Option (PwBuffer Memory) → Nat → Exec (Option (Option Pod))

namespace Buffer

variable {Pod Memory : Type}

/-- The default `pod_converter`. -/
def defaultPodConverter
    (spaPodFromData : SpaPodFromData Pod Memory)
    (pwBuffer : Option (PwBuffer Memory))
    (index : Nat) :
    Exec (Option (Option Pod)) := do
  let buffer ← dereference pwBuffer
  match buffer.datas[index]? with
  | some plane =>
      let pod ←
        spaPodFromData plane.data plane.maxsize
          plane.chunk.offset plane.chunk.size
      return some pod
  | none =>
      return none

/-- The buffer that `FilterPort::get_buffer` makes of a dequeued one. -/
def ofPort
    (spaPodFromData : SpaPodFromData Pod Memory)
    (buffer : PwBuffer Memory) :
    Buffer Pod Memory where
  buffer := some buffer
  podConverter := defaultPodConverter spaPodFromData

/-- The buffer for tests, with a converter of their own. -/
def forTesting
    (podConverter :
      Option (PwBuffer Memory) → Nat → Exec (Option (Option Pod))) :
    Buffer Pod Memory where
  buffer := none
  podConverter := podConverter

/-- `Buffer::get_pod`. -/
def getPod
    (buffer : Buffer Pod Memory)
    (index : Nat) :
    Exec (Option (Option Pod)) :=
  buffer.podConverter buffer.buffer index

end Buffer

namespace FilterPort

/-- `FilterPort::get_buffer`, given what the port dequeued. -/
def getBuffer
    (spaPodFromData : SpaPodFromData Pod Memory)
    (dequeued : Option (PwBuffer Memory)) :
    Option (Buffer Pod Memory) :=
  dequeued.map (Buffer.ofPort spaPodFromData)

end FilterPort

section Reading

variable {Pod Memory : Type}

/-- The bounds that a chunk must meet before its pod is looked at. -/
def SpaData.InBounds (plane : SpaData Memory) : Prop :=
  8 ≤ plane.chunk.size.toNat ∧
    plane.chunk.offset.toNat + plane.chunk.size.toNat ≤
      plane.maxsize.toNat

instance (plane : SpaData Memory) : Decidable plane.InBounds :=
  inferInstanceAs (Decidable (_ ∧ _))

/-- The pod's header and body lie inside the chunk. -/
def SpaData.Contains
    (reader : PodReader Pod)
    (plane : SpaData Memory)
    (pod : Pod) : Prop :=
  8 + (reader.spaPodBodySize pod).toNat ≤ plane.chunk.size.toNat

instance
    (reader : PodReader Pod)
    (plane : SpaData Memory)
    (pod : Pod) :
    Decidable (plane.Contains reader pod) :=
  inferInstanceAs (Decidable (_ ≤ _))

/-- The pointer `spa_pod_from_data` returns for a plane. -/
def SpaData.pod
    (spaPodFromData : SpaPodFromData Pod Memory)
    (plane : SpaData Memory) :
    Exec (Option Pod) :=
  spaPodFromData plane.data plane.maxsize
    plane.chunk.offset plane.chunk.size

/--
The documented behaviour of `spa_pod_from_data`, where `podAt` is the pod that
starts at an offset of a memory: null for a chunk out of bounds or smaller than
its pod, the pod otherwise.  It looks at the pod through the data pointer.
-/
structure FromDataContract
    (reader : PodReader Pod)
    (podAt : Memory → UInt32 → Pod)
    (spaPodFromData : SpaPodFromData Pod Memory) : Prop where
  outOfBounds :
    ∀ plane : SpaData Memory, ¬ plane.InBounds →
      plane.pod spaPodFromData = .ok none
  noData :
    ∀ plane : SpaData Memory, plane.InBounds → plane.data = none →
      plane.pod spaPodFromData = .error .nullDereference
  tooLarge :
    ∀ (plane : SpaData Memory) (memory : Memory),
      plane.InBounds → plane.data = some memory →
      ¬ plane.Contains reader (podAt memory plane.chunk.offset) →
      plane.pod spaPodFromData = .ok none
  contained :
    ∀ (plane : SpaData Memory) (memory : Memory),
      plane.InBounds → plane.data = some memory →
      plane.Contains reader (podAt memory plane.chunk.offset) →
      plane.pod spaPodFromData =
        .ok (some (podAt memory plane.chunk.offset))

/-- `spa_pod_from_data` finds a pod in the plane. -/
def SpaData.Accepted
    (reader : PodReader Pod)
    (podAt : Memory → UInt32 → Pod)
    (plane : SpaData Memory) : Prop :=
  plane.InBounds ∧
    ∃ memory, plane.data = some memory ∧
      plane.Contains reader (podAt memory plane.chunk.offset)

/-- There is no plane with the index, or a pod is found in it. -/
def PwBuffer.ReadableAt
    (reader : PodReader Pod)
    (podAt : Memory → UInt32 → Pod)
    (buffer : PwBuffer Memory)
    (index : Nat) : Prop :=
  ∀ plane, buffer.datas[index]? = some plane →
    plane.Accepted reader podAt

/-- An accepted plane gives a pod. -/
theorem FromDataContract.pod_of_accepted
    {reader : PodReader Pod}
    {podAt : Memory → UInt32 → Pod}
    {spaPodFromData : SpaPodFromData Pod Memory}
    (contract : FromDataContract reader podAt spaPodFromData)
    {plane : SpaData Memory}
    (accepted : plane.Accepted reader podAt) :
    ∃ pod, plane.pod spaPodFromData = .ok (some pod) := by
  obtain ⟨inBounds, memory, data, contains⟩ := accepted
  exact ⟨_, contract.contained plane memory inBounds data contains⟩

/-- Any other plane gives a null pointer or is read through one. -/
theorem FromDataContract.pod_of_not_accepted
    {reader : PodReader Pod}
    {podAt : Memory → UInt32 → Pod}
    {spaPodFromData : SpaPodFromData Pod Memory}
    (contract : FromDataContract reader podAt spaPodFromData)
    {plane : SpaData Memory}
    (notAccepted : ¬ plane.Accepted reader podAt) :
    plane.pod spaPodFromData = .ok none ∨
      plane.pod spaPodFromData = .error .nullDereference := by
  by_cases inBounds : plane.InBounds
  · cases data : plane.data with
    | none =>
        exact Or.inr (contract.noData plane inBounds data)
    | some memory =>
        have notContained :
            ¬ plane.Contains reader (podAt memory plane.chunk.offset) :=
          fun contains =>
            notAccepted ⟨inBounds, memory, data, contains⟩
        exact Or.inl
          (contract.tooLarge plane memory inBounds data notContained)
  · exact Or.inl (contract.outOfBounds plane inBounds)

/-- Without a plane of the index, `get_pod` reports that there is no pod. -/
theorem getPod_ofPort_of_none
    (spaPodFromData : SpaPodFromData Pod Memory)
    {buffer : PwBuffer Memory}
    {index : Nat}
    (absent : buffer.datas[index]? = none) :
    (Buffer.ofPort spaPodFromData buffer).getPod index = .ok none := by
  change
    (match buffer.datas[index]? with
      | some plane => (plane.pod spaPodFromData).map some
      | none => .ok none) = _
  rw [absent]

/-- With such a plane, `get_pod` passes on whatever pointer it was given. -/
theorem getPod_ofPort_of_some
    (spaPodFromData : SpaPodFromData Pod Memory)
    {buffer : PwBuffer Memory}
    {index : Nat}
    {plane : SpaData Memory}
    (present : buffer.datas[index]? = some plane) :
    (Buffer.ofPort spaPodFromData buffer).getPod index =
      (plane.pod spaPodFromData).map some := by
  change
    (match buffer.datas[index]? with
      | some plane => (plane.pod spaPodFromData).map some
      | none => .ok none) = _
  rw [present]

end Reading

/-- A buffer whose converter delivers the pod. -/
def referenceBuffer (pod : ReferencePod) : Buffer ReferencePod Unit :=
  .forTesting fun _ _ => .ok (some (some pod))

end Pwcpp
