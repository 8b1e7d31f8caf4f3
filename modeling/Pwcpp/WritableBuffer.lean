import Pwcpp.UnreadableBuffers

namespace Pwcpp

/-!
# Opening a plane for writing

`Buffer::get_spa_data` resets the chunk of a plane and returns a copy of its
`spa_data`, whose chunk pointer still leads to that plane.  The default
provider takes the index of the plane and does not use it: it opens plane 0 of
every buffer, without asking whether there is one.
-/

/-- A copy of a `struct spa_data`; `chunk` is the plane it points into. -/
structure SpaDataCopy (Memory : Type) where
  data : Option Memory
  maxsize : UInt32
  chunk : Nat
  deriving Repr, DecidableEq

/-- `Buffer` with the provider that writing needs, which can change planes. -/
structure WritableBuffer (Pod Memory : Type) extends Buffer Pod Memory where
  spaDataProvider :
    Option (PwBuffer Memory) →
      Nat → Exec (PwBuffer Memory × Option (SpaDataCopy Memory))

/-- The chunk that a plane is opened with. -/
def SpaChunk.opened : SpaChunk where
  offset := 0
  size := 0
  stride := 1
  flags := 0

namespace PwBuffer

variable {Memory : Type}

/-- Reset the chunk of the plane at an index. -/
def openChunk (buffer : PwBuffer Memory) (index : Nat) : PwBuffer Memory where
  datas := buffer.datas.modify index fun plane =>
    { plane with chunk := .opened }

/-- There is a plane at the index, and it has data. -/
def HasData (buffer : PwBuffer Memory) (index : Nat) : Prop :=
  ∃ plane,
    buffer.datas[index]? = some plane ∧ plane.data.isSome = true

/-- The plane at the index is opened. -/
theorem getElem?_openChunk
    {buffer : PwBuffer Memory}
    {index : Nat}
    {plane : SpaData Memory}
    (isAt : buffer.datas[index]? = some plane) :
    (buffer.openChunk index).datas[index]? =
      some { plane with chunk := .opened } := by
  simp [openChunk, isAt]

/-- The other planes stay as they are. -/
theorem getElem?_openChunk_of_ne
    (buffer : PwBuffer Memory)
    {index other : Nat}
    (isOther : other ≠ index) :
    (buffer.openChunk index).datas[other]? = buffer.datas[other]? := by
  simp [openChunk, isOther.symm]

end PwBuffer

namespace WritableBuffer

variable {Pod Memory : Type}

/-- The default `spa_data_provider`. -/
def defaultSpaDataProvider
    (pwBuffer : Option (PwBuffer Memory))
    (_index : Nat) :
    Exec (PwBuffer Memory × Option (SpaDataCopy Memory)) := do
  let spaBuffer ← dereference pwBuffer
  let spaData ← readElement spaBuffer.datas 0
  match spaData.data with
  | none =>
      return (spaBuffer, none)
  | some data =>
      return (spaBuffer.openChunk 0, some {
        data := some data
        maxsize := spaData.maxsize
        chunk := 0
      })

/-- The buffer that `FilterPort::get_buffer` makes of a dequeued one. -/
def ofPort
    (spaPodFromData : SpaPodFromData Pod Memory)
    (buffer : PwBuffer Memory) :
    WritableBuffer Pod Memory where
  toBuffer := .ofPort spaPodFromData buffer
  spaDataProvider := defaultSpaDataProvider

/-- `Buffer::get_spa_data`, with the buffer it leaves behind. -/
def getSpaData
    (buffer : WritableBuffer Pod Memory)
    (index : Nat) :
    Exec (WritableBuffer Pod Memory × Option (SpaDataCopy Memory)) := do
  let (changed, spaData) ← buffer.spaDataProvider buffer.buffer index
  return ({ buffer with buffer := some changed }, spaData)

end WritableBuffer

section Opening

variable {Pod Memory : Type}

/--
What opening the plane at `index` means: without such a plane or without data
in it nothing is returned and nothing changes; otherwise that plane is returned
and opened, and no other one changes.
-/
structure OpensPlane
    (spaPodFromData : SpaPodFromData Pod Memory)
    (dequeued : PwBuffer Memory)
    (index : Nat)
    (changed : PwBuffer Memory)
    (spaData : Option (SpaDataCopy Memory)) : Prop where
  refuses :
    ¬ dequeued.HasData index →
    spaData = none ∧ changed = dequeued
  opens :
    ∀ plane,
      dequeued.datas[index]? = some plane →
      plane.data.isSome = true →
      spaData = some {
          data := plane.data, maxsize := plane.maxsize, chunk := index } ∧
        changed.datas[index]? = some { plane with chunk := .opened }
  frame :
    ∀ other,
      other ≠ index →
      changed.datas[other]? = dequeued.datas[other]?
  pods :
    ∀ other,
      other ≠ index →
      (Buffer.ofPort spaPodFromData changed).getPod other =
        (Buffer.ofPort spaPodFromData dequeued).getPod other

/-- `get_spa_data` opens the plane at the index, and no other. -/
def OpensRequestedPlane
    (spaPodFromData : SpaPodFromData Pod Memory)
    (dequeued : PwBuffer Memory)
    (index : Nat) : Prop :=
  ∃ changed spaData,
    (WritableBuffer.ofPort spaPodFromData dequeued).getSpaData index =
        .ok (.ofPort spaPodFromData changed, spaData) ∧
      OpensPlane spaPodFromData dequeued index changed spaData

variable
  (spaPodFromData : SpaPodFromData Pod Memory)
  {dequeued : PwBuffer Memory}
  (index : Nat)

/-- Without planes, plane 0 is read all the same. -/
theorem getSpaData_of_no_planes
    (empty : dequeued.datas = []) :
    (WritableBuffer.ofPort spaPodFromData dequeued).getSpaData index =
      .error .outOfBoundsRead := by
  simp [WritableBuffer.getSpaData, WritableBuffer.ofPort, Buffer.ofPort,
    WritableBuffer.defaultSpaDataProvider, readElement, empty,
    Bind.bind, Except.bind]

/-- When plane 0 has no data, nothing is opened, whatever the index. -/
theorem getSpaData_of_no_data
    {plane : SpaData Memory}
    (isFirst : dequeued.datas[0]? = some plane)
    (noData : plane.data = none) :
    (WritableBuffer.ofPort spaPodFromData dequeued).getSpaData index =
      .ok (.ofPort spaPodFromData dequeued, none) := by
  simp [WritableBuffer.getSpaData, WritableBuffer.ofPort, Buffer.ofPort,
    WritableBuffer.defaultSpaDataProvider, readElement, isFirst, noData,
    Bind.bind, Except.bind, Pure.pure, Except.pure]

/-- When plane 0 has data, it is opened, whatever the index. -/
theorem getSpaData_of_data
    {plane : SpaData Memory}
    (isFirst : dequeued.datas[0]? = some plane)
    (hasData : plane.data.isSome = true) :
    (WritableBuffer.ofPort spaPodFromData dequeued).getSpaData index =
      .ok (.ofPort spaPodFromData (dequeued.openChunk 0), some {
        data := plane.data
        maxsize := plane.maxsize
        chunk := 0
      }) := by
  obtain ⟨data, isData⟩ := Option.isSome_iff_exists.mp hasData
  simp [WritableBuffer.getSpaData, WritableBuffer.ofPort, Buffer.ofPort,
    WritableBuffer.defaultSpaDataProvider, readElement, isFirst, isData,
    Bind.bind, Except.bind, Pure.pure, Except.pure]

/-- `get_pod` of a port's buffer looks at the plane of its index only. -/
theorem getPod_ofPort_congr
    {first second : PwBuffer Memory}
    {index : Nat}
    (samePlane : first.datas[index]? = second.datas[index]?) :
    (Buffer.ofPort spaPodFromData first).getPod index =
      (Buffer.ofPort spaPodFromData second).getPod index := by
  cases present : second.datas[index]? with
  | none =>
      rw [getPod_ofPort_of_none spaPodFromData present,
        getPod_ofPort_of_none spaPodFromData (samePlane.trans present)]
  | some plane =>
      rw [getPod_ofPort_of_some spaPodFromData present,
        getPod_ofPort_of_some spaPodFromData (samePlane.trans present)]

/-- Opening the first plane opens the plane at index 0. -/
theorem opensPlane_first
    {plane : SpaData Memory}
    (isFirst : dequeued.datas[0]? = some plane)
    (hasData : plane.data.isSome = true) :
    OpensPlane spaPodFromData dequeued 0 (dequeued.openChunk 0) (some {
      data := plane.data
      maxsize := plane.maxsize
      chunk := 0
    }) where
  refuses noData :=
    (noData ⟨plane, isFirst, hasData⟩).elim
  opens plane' isPlane _ := by
    obtain rfl : plane = plane' :=
      Option.some.inj (isFirst.symm.trans isPlane)
    exact ⟨rfl, PwBuffer.getElem?_openChunk isFirst⟩
  frame _ isOther :=
    dequeued.getElem?_openChunk_of_ne isOther
  pods _ isOther :=
    getPod_ofPort_congr spaPodFromData
      (dequeued.getElem?_openChunk_of_ne isOther)

/-- Opening nothing is right when the plane at the index has no data. -/
theorem opensPlane_none
    (noData : ¬ dequeued.HasData index) :
    OpensPlane spaPodFromData dequeued index dequeued none where
  refuses _ := ⟨rfl, rfl⟩
  opens plane isPlane hasData :=
    (noData ⟨plane, isPlane, hasData⟩).elim
  frame _ _ := rfl
  pods _ _ := rfl

/-- Opening plane 0 at another index is wrong with or without data there. -/
theorem not_opensPlane_first
    {index : Nat}
    (isOther : index ≠ 0)
    {changed : PwBuffer Memory}
    {spaData : SpaDataCopy Memory}
    (isFirst : spaData.chunk = 0) :
    ¬ OpensPlane spaPodFromData dequeued index changed (some spaData) := by
  intro opensPlane
  by_cases hasData : dequeued.HasData index
  · obtain ⟨plane, isPlane, hasData⟩ := hasData
    have returned := (opensPlane.opens plane isPlane hasData).1
    obtain rfl := Option.some.inj returned
    exact isOther isFirst
  · cases (opensPlane.refuses hasData).1

/-- Without data in plane 0, there must be none at the index either. -/
theorem opensRequestedPlane_iff_of_no_data
    {plane : SpaData Memory}
    (isFirst : dequeued.datas[0]? = some plane)
    (noData : plane.data = none) :
    OpensRequestedPlane spaPodFromData dequeued index ↔
      ¬ dequeued.HasData index := by
  have returns :=
    getSpaData_of_no_data spaPodFromData index isFirst noData
  constructor
  · intro opensRequested
    rcases opensRequested with ⟨changed, spaData, opened, opensPlane⟩
    have isNone : (none : Option (SpaDataCopy Memory)) = spaData :=
      (Prod.mk.inj (Except.ok.inj (returns.symm.trans opened))).2
    intro hasData
    rcases hasData with ⟨plane', isPlane, hasData⟩
    cases isNone.trans (opensPlane.opens plane' isPlane hasData).1
  · intro noneThere
    exact ⟨dequeued, none, returns,
      opensPlane_none spaPodFromData index noneThere⟩

/-- With data in plane 0, the index must be 0. -/
theorem opensRequestedPlane_iff_of_data
    {plane : SpaData Memory}
    (isFirst : dequeued.datas[0]? = some plane)
    (hasData : plane.data.isSome = true) :
    OpensRequestedPlane spaPodFromData dequeued index ↔ index = 0 := by
  have returns :=
    getSpaData_of_data spaPodFromData index isFirst hasData
  constructor
  · intro opensRequested
    rcases opensRequested with ⟨changed, spaData, opened, opensPlane⟩
    obtain rfl :=
      (Prod.mk.inj (Except.ok.inj (returns.symm.trans opened))).2
    by_contra isOther
    exact not_opensPlane_first spaPodFromData isOther rfl opensPlane
  · intro isZero
    subst isZero
    exact ⟨_, _, returns, opensPlane_first spaPodFromData isFirst hasData⟩

/--
`get_spa_data` opens the plane at the index exactly when there is a plane, and
the index is 0 or neither plane 0 nor the plane at the index has data.
-/
theorem opensRequestedPlane_iff
    (dequeued : PwBuffer Memory) :
    OpensRequestedPlane spaPodFromData dequeued index ↔
      0 < dequeued.datas.length ∧
        (index = 0 ∨
          ¬ dequeued.HasData 0 ∧ ¬ dequeued.HasData index) := by
  cases isFirst : dequeued.datas[0]? with
  | none =>
      have empty : dequeued.datas = [] := by
        simpa using isFirst
      simp [OpensRequestedPlane, empty,
        getSpaData_of_no_planes spaPodFromData index empty]
  | some plane =>
      have hasPlane : 0 < dequeued.datas.length :=
        (List.getElem?_eq_some_iff.mp isFirst).1
      have firstHasData :
          dequeued.HasData 0 ↔ plane.data.isSome = true := by
        simp [PwBuffer.HasData, isFirst]
      cases hasData : plane.data with
      | none =>
          have firstEmpty : ¬ dequeued.HasData 0 := by
            simp [firstHasData, hasData]
          rw [opensRequestedPlane_iff_of_no_data spaPodFromData index
            isFirst hasData]
          constructor
          · intro noneThere
            exact ⟨hasPlane, Or.inr ⟨firstEmpty, noneThere⟩⟩
          · intro condition
            rcases condition.2 with isZero | noneThere
            · exact isZero ▸ firstEmpty
            · exact noneThere.2
      | some data =>
          have isSome : plane.data.isSome = true := by
            simp [hasData]
          rw [opensRequestedPlane_iff_of_data spaPodFromData index
            isFirst isSome]
          simp [hasPlane, firstHasData, hasData]

/-- A buffer with two planes that both have data. -/
def referencePlanes : PwBuffer (UInt32 → ReferencePod) where
  datas :=
    (referencePlane (.sequence []) 16).datas ++
      (referencePlane (.struct []) 8).datas

/-- A request for the second of two planes opens the first one. -/
theorem not_opensRequestedPlane_second :
    ¬ OpensRequestedPlane referencePodFromData referencePlanes 1 := by
  intro opensSecond
  have isZero :=
    (opensRequestedPlane_iff_of_data referencePodFromData 1
      (rfl : referencePlanes.datas[0]? = some _) rfl).mp opensSecond
  exact absurd isZero Nat.one_ne_zero

end Opening

end Pwcpp
