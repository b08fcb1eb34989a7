import EventRing.Validation

/-!
# Ring geometry

The data capacity of a ring and its header format, and the sizes of memory that follow from them.  Main statement:
`ofCapacity_eq_ok_iff` (a capacity is accepted exactly if it is larger than a header and at most `maxCapacity`).
-/

namespace EventRing

/-- The bytes of the control block in front of the data area. -/
def controlBlockSize : Nat := 32

/-- The page size to which shared memory is rounded. -/
def pageSize : Nat := 4096

/-- The least whole number of pages that holds `bytes`, in bytes. -/
def wholePages (bytes : Nat) : Nat := (bytes + pageSize - 1) / pageSize * pageSize

/-- The least whole number of pages that holds `bytes`, unless it needs more than 64 bits. -/
def wholePages? (bytes : Nat) : Option Nat :=
  if wholePages bytes < UInt64.size then some (wholePages bytes) else none

theorem le_wholePages (bytes : Nat) : bytes ≤ wholePages bytes := by
  unfold wholePages pageSize
  omega

/-- What both ends of a ring agree on: the size of the data area and the header format. -/
structure Geometry where
  capacity : UInt32
  format : HeaderFormat
  header_lt : format.size < capacity
  le_max : capacity ≤ maxCapacity
deriving DecidableEq

namespace Geometry

/-- Accepts a capacity for a header format. -/
def ofCapacity (capacity : UInt32) (format : HeaderFormat) : Except ValidationError Geometry :=
  if h : format.size < capacity ∧ capacity ≤ maxCapacity then .ok ⟨capacity, format, h.1, h.2⟩
  else .error (.capacity capacity format)

/-- The geometry of the driver service. -/
def standard : Geometry := ⟨10000, .packed, by decide, by decide⟩

/-- The bytes in a record header. -/
def headerSize (g : Geometry) : UInt32 := g.format.size

/-- The bytes of control block and data area together. -/
def memorySize (g : Geometry) : Nat := controlBlockSize + g.capacity.toNat

/-- The bytes of a shared memory object for the ring: whole pages. -/
def sharedSize (g : Geometry) : Nat := wholePages g.memorySize

theorem header_lt_toNat (g : Geometry) : g.headerSize.toNat < g.capacity.toNat :=
  UInt32.lt_iff_toNat_lt.1 g.header_lt

theorem capacity_le_toNat (g : Geometry) : g.capacity.toNat ≤ 1048576 :=
  UInt32.le_iff_toNat_le.1 g.le_max

theorem ofCapacity_eq_ok_iff {capacity : UInt32} {format : HeaderFormat} {g : Geometry} :
    ofCapacity capacity format = .ok g ↔
      format.size < capacity ∧ capacity ≤ maxCapacity ∧ g.capacity = capacity ∧ g.format = format := by
  obtain ⟨c, f, hlt, hle⟩ := g
  unfold ofCapacity
  constructor
  · intro h
    split at h
    · next hc =>
      simp only [Except.ok.injEq, Geometry.mk.injEq] at h
      exact ⟨hc.1, hc.2, h.1.symm, h.2.symm⟩
    · simp at h
  · rintro ⟨h1, h2, hc, hf⟩
    simp only at hc hf
    subst hc hf
    simp [h1, h2]

theorem memorySize_le_sharedSize (g : Geometry) : g.memorySize ≤ g.sharedSize := le_wholePages _

end Geometry

end EventRing
