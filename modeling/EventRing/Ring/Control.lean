import EventRing.Clock
import EventRing.Error
import EventRing.Geometry
import EventRing.RingName
import EventRing.Text.Utf8
import EventRing.Word

/-!
# Rings and their control block

A ring is a circular buffer in a block of memory, shared by one producer and one consumer.

```text
0        4        8          12            16         32
| write  | read   | capacity | initialized | name[16] | data[capacity] |
```

A `Ring` is a handle: where the ring starts and the geometry it was attached with.  Memory is passed to every operation,
and nothing read from it is trusted.  An empty ring has equal offsets, so at least one byte stays free.
-/

namespace EventRing

/-- A handle to a ring: where its control block begins, and the geometry its user assumes. -/
structure Ring where
  base : Nat
  geometry : Geometry
deriving DecidableEq

namespace Ring

/-- The bytes of the name field. -/
def nameFieldSize : Nat := 16

/-- The capacity that the handle assumes. -/
def capacity (r : Ring) : UInt32 := r.geometry.capacity

/-- The header size that the handle assumes. -/
def headerSize (r : Ring) : UInt32 := r.geometry.headerSize

/-- The position in memory of a data offset. -/
def dataAt (r : Ring) (offset : Nat) : Nat := r.base + controlBlockSize + offset

/-- The producer's offset as stored. -/
def writeOffset (r : Ring) (m : Memory) : UInt32 := m.word r.base

/-- The consumer's offset as stored. -/
def readOffset (r : Ring) (m : Memory) : UInt32 := m.word (r.base + 4)

/-- The capacity as stored. -/
def storedCapacity (r : Ring) (m : Memory) : UInt32 := m.word (r.base + 8)

/-- Whether a producer has set the ring up. -/
def isSetUp (r : Ring) (m : Memory) : Bool := m.word (r.base + 12) = 1

/-- Whether the offsets as stored are equal. -/
def isEmpty (r : Ring) (m : Memory) : Bool := r.readOffset m = r.writeOffset m

/-- The name in the control block, up to its first zero byte. -/
def name (r : Ring) (m : Memory) : String :=
  if r.isSetUp m then
    Text.Utf8.lossy ((m.read (r.base + 16) nameFieldSize).takeWhile (· ≠ 0))
  else "<uninitialized>"

/-- Memory with another consumer offset. -/
def setReadOffset (r : Ring) (m : Memory) (offset : UInt32) : Memory := m.setWord (r.base + 4) offset

/-- Memory with another producer offset. -/
def setWriteOffset (r : Ring) (m : Memory) (offset : UInt32) : Memory := m.setWord r.base offset

/-- Memory with both offsets replaced, whatever they are. -/
def setOffsets (r : Ring) (m : Memory) (read write : UInt32) : Memory :=
  r.setWriteOffset (r.setReadOffset m read) write

/-- Attaches to `size` bytes of memory from `base` on.  A ring already set up must have the assumed capacity. -/
def attach (base size : Nat) (geometry : Geometry) (m : Memory) : Except SharedMemoryError Ring :=
  let r : Ring := ⟨base, geometry⟩
  if size < geometry.memorySize then
    .error (.regionTooSmall size geometry.capacity geometry.memorySize)
  else if base % 4 ≠ 0 then .error .misaligned
  else if r.isSetUp m ∧ r.storedCapacity m ≠ geometry.capacity then
    .error (.capacityMismatch geometry.capacity (r.storedCapacity m))
  else .ok r

/-- The bytes of the name field for a name: the name and zeros. -/
def nameField (name : RingName) : List UInt8 :=
  let bytes := name.text.toUTF8.toList.take maxNameLength
  bytes ++ List.replicate (nameFieldSize - bytes.length) 0

/-- Sets an unused ring up as an empty one. -/
def setUp (r : Ring) (m : Memory) (name : RingName) : Except SharedMemoryError Unit × Memory :=
  if r.isSetUp m then (.error (.alreadyInitialized (r.name m)), m)
  else
    let offsets := r.setReadOffset (r.setWriteOffset m 0) 0
    let sized := offsets.setWord (r.base + 8) r.capacity
    let named := sized.blit (r.base + 16) (nameField name)
    (.ok (), named.setWord (r.base + 12) 1)

/-- Memory after an unused ring has been set up. -/
theorem setUp_unused {r : Ring} {m : Memory} (name : RingName) (h : r.isSetUp m = false) :
    r.setUp m name = (.ok (), ((((r.setReadOffset (r.setWriteOffset m 0) 0).setWord (r.base + 8) r.capacity).blit
      (r.base + 16) (nameField name)).setWord (r.base + 12) 1)) := by
  rw [setUp, if_neg (by simp [h])]

theorem size_setUp (r : Ring) (m : Memory) (name : RingName) : (r.setUp m name).2.size = m.size := by
  by_cases h : r.isSetUp m = true
  · rw [setUp, if_pos h]
  · rw [setUp_unused name (by simpa using h)]
    simp only [setReadOffset, setWriteOffset, Memory.size_setWord, Memory.size_blit]

/-! ## Offsets -/

/-- An offset, if it lies in the data area. -/
def boundedOffset (r : Ring) (field : OffsetField) (offset : UInt32) : Except FramingError UInt32 :=
  if offset < r.capacity then .ok offset else .error (.offsetOutOfRange field offset r.capacity)

/-- Both offsets, if they lie in the data area; the consumer's is looked at first. -/
def offsets (r : Ring) (m : Memory) : Except FramingError (UInt32 × UInt32) :=
  match r.boundedOffset .read (r.readOffset m) with
  | .error e => .error e
  | .ok read =>
    match r.boundedOffset .write (r.writeOffset m) with
    | .error e => .error e
    | .ok write => .ok (read, write)

/-- The bytes that can be written without touching unread ones; `none` if the computation would go below zero. -/
def writableBytes (r : Ring) (m : Memory) : Option UInt32 :=
  if r.isSetUp m then
    match r.offsets m with
    | .error _ => some 0
    | .ok (read, write) =>
      if read ≤ write then
        (Word.sub? r.capacity 1).bind fun most => (Word.sub? most write).bind fun rest => Word.add? rest read
      else (Word.sub? read write).bind fun gap => Word.sub? gap 1
  else some 0

/-- The bytes between the offsets; `none` if the computation would go below zero. -/
def occupancy (r : Ring) (read write : UInt32) : Option UInt32 :=
  if read ≤ write then Word.sub? write read
  else (Word.sub? r.capacity read).bind fun tail => Word.add? tail write

end Ring

end EventRing
