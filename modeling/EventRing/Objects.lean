import EventRing.Ring.Control

/-!
# Shared memory objects

Processes share memory through named objects.  `Objects` holds every object that was ever made; the directory maps a
name to the object that has it now.  Creation is exclusive, and an object whose name was removed lives on for those who
have it open.  A `Region` is one process's mapping of an object: closing the creator's mapping removes the name, whoever
has it by then.
-/

namespace EventRing

/-- All memory objects and the directory of their names.  An object is known by its place in the array. -/
structure Objects where
  memories : Array Memory
  directory : List (String × Nat × Nat)

/-- A mapping of a shared object into a process. -/
structure Region where
  name : String
  object : Nat
  size : Nat
  creator : Bool
deriving DecidableEq

/-- A ring in a shared object. -/
structure SharedRing where
  region : Region
  ring : Ring
deriving DecidableEq

namespace Objects

/-- No object at all. -/
def empty : Objects := ⟨#[], []⟩

/-- The memory of an object. -/
def memory (s : Objects) (object : Nat) : Memory := s.memories[object]?.getD (Memory.zeros 0)

/-- The objects with the memory of one of them replaced. -/
def setMemory (s : Objects) (object : Nat) (m : Memory) : Objects :=
  { s with memories := s.memories.setIfInBounds object m }

/-- Runs an operation on the memory of one object. -/
def modify {α : Type} (s : Objects) (object : Nat) (f : Memory → α × Memory) : α × Objects :=
  let m := s.memory object
  let s := s.setMemory object (Memory.zeros 0)
  let (result, m) := f m
  (result, s.setMemory object m)

/-- Adds zeroed memory without a name; gives its place. -/
def allocate (s : Objects) (size : Nat) : Nat × Objects :=
  (s.memories.size, { s with memories := s.memories.push (Memory.zeros size) })

/-- The place and size of the object that has a name. -/
def find? (s : Objects) (name : String) : Option (Nat × Nat) := s.directory.lookup name

/-- Removes a name; the object stays. -/
def unlink (s : Objects) (name : String) : Objects :=
  { s with directory := s.directory.filter fun entry => entry.1 ≠ name }

/-- Whether a mapping may have the given size. -/
def isObjectSize (size : Nat) : Bool := minObjectSize ≤ size && size ≤ maxObjectSize

/-- Puts a zeroed object of any size under a name.  An object that has the name already is zeroed and given the new
size; those who have it open see the zeros, and their mappings stay as long as they are.  Bytes that no mapping can
reach are not kept. -/
def put (s : Objects) (name : String) (size : Nat) : Objects :=
  let reachable := if isObjectSize size then size else 0
  match s.find? name with
  | some (object, _) =>
    { s.setMemory object (Memory.zeros (max reachable (s.memory object).size)) with
      directory := (name, object, size) :: (s.unlink name).directory }
  | none =>
    let (object, s) := s.allocate reachable
    { s with directory := (name, object, size) :: s.directory }

/-- Why a name cannot be that of an object: it is empty, or has a slash, or a zero character.  Positions count the slash
that the system puts in front. -/
def checkName (name : String) : Option RegionFault :=
  if name = "" then some .nameEmpty
  else if name.toList.contains '/' then some .nameWithSlash
  else
    let before := name.toUTF8.toList.takeWhile (· ≠ 0)
    if before.length < name.utf8ByteSize then some (.nameWithZero (before.length + 1)) else none

/-- The names that the directory uses for itself. -/
def isReserved (name : String) : Bool := name = "." || name = ".."

/-- The longest name that the system takes, in bytes. -/
def nameLimit : Nat := 255

/-- Makes and maps a zeroed object; fails if the name is taken. -/
def create (s : Objects) (name : String) (size : Nat) : Except SharedMemoryError Region × Objects :=
  if !isObjectSize size then (.error (.createFailed name (.sizeOutOfRange size)), s)
  else
    match checkName name with
    | some fault => (.error (.createFailed name fault), s)
    | none =>
      if nameLimit < name.utf8ByteSize then (.error (.createFailed name (.system .nameTooLong)), s)
      else if isReserved name ∨ (s.find? name).isSome then (.error (.createFailed name (.system .taken)), s)
      else
        let (object, s) := s.allocate size
        (.ok ⟨name, object, size, true⟩, { s with directory := (name, object, size) :: s.directory })

/-- Maps an object that exists, at its own size. -/
def openRegion (s : Objects) (name : String) : Except SharedMemoryError Region :=
  match checkName name with
  | some fault => .error (.openFailed name fault)
  | none =>
    if nameLimit < name.utf8ByteSize then .error (.openFailed name (.system .nameTooLong))
    else if isReserved name then .error (.openFailed name (.system .isDirectory))
    else
      match s.find? name with
      | none => .error (.openFailed name (.system .missing))
      | some (object, size) =>
        if isObjectSize size then .ok ⟨name, object, size, false⟩
        else .error (.openFailed name (.objectSize size))

/-- What is mapped is the object that has the name, and not as its creator maps it. -/
theorem openRegion_eq_ok {s : Objects} {name : String} {region : Region} (h : s.openRegion name = .ok region) :
    ∃ object size, s.find? name = some (object, size) ∧ region = ⟨name, object, size, false⟩ := by
  unfold openRegion at h
  split at h
  · simp at h
  · split at h
    · simp at h
    · split at h
      · simp at h
      · split at h
        · simp at h
        · next object size hfind =>
          split at h
          · exact ⟨object, size, hfind, (Except.ok.inj h).symm⟩
          · simp at h

/-- Ends a mapping.  The creator's takes the name with it. -/
def close (s : Objects) (region : Region) : Objects :=
  if region.creator then s.unlink region.name else s

/-! ## Rings in shared objects -/

/-- Attaches to a mapped object; the mapping is ended if that fails. -/
def attach (s : Objects) (region : Region) (geometry : Geometry) : Except SharedMemoryError SharedRing × Objects :=
  match Ring.attach 0 region.size geometry (s.memory region.object) with
  | .error e => (.error e, s.close region)
  | .ok ring => (.ok ⟨region, ring⟩, s)

/-- Makes an object for a ring and sets the ring up. -/
def createRing (s : Objects) (name : RingName) (geometry : Geometry) :
    Except SharedMemoryError SharedRing × Objects :=
  match s.create name.text geometry.sharedSize with
  | (.error e, s) => (.error e, s)
  | (.ok region, s) =>
    match s.attach region geometry with
    | (.error e, s) => (.error e, s)
    | (.ok shared, s) =>
      match s.modify region.object fun m => shared.ring.setUp m name with
      | (.error e, s) => (.error e, s.close region)
      | (.ok (), s) => (.ok shared, s)

/-- Attaches to the ring in the object with the given name, whether or not it is set up. -/
def openRing (s : Objects) (name : RingName) (geometry : Geometry) :
    Except SharedMemoryError SharedRing × Objects :=
  match s.openRegion name.text with
  | .error e => (.error e, s)
  | .ok region => s.attach region geometry

end Objects

end EventRing
