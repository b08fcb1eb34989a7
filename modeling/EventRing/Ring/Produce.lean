import EventRing.Ring.Control

/-!
# The producer's side of a ring

A record goes to the write offset if it then ends at the end of the data area or leaves room for one more header.
Otherwise the rest of the data area is padded with a skip marker and the record goes to offset 0.  A record never
wraps.  `Ring.place` decides and touches nothing, `Ring.commit` carries the decision out, so a write that fails leaves
memory as it was: `write_of_place_failed`, `write_of_place_halted`, `write_of_ne_done`.  What a write answers is what
the decision says: `write_eq_done_iff`, `write_eq_failed_iff`, `write_eq_halted_iff`.
-/

namespace EventRing.Ring

/-- Where a record goes. -/
structure Placement where
  /-- The offset and payload size of the skip marker in front of a record that was moved to offset 0. -/
  pad : Option (Nat × Nat)
  /-- The offset of the record. -/
  target : Nat
  /-- The write offset once the record is published. -/
  next : Nat

/-- Whether a record of `span` bytes may stand at an offset: it ends at the end of the data area or leaves room for a
header. -/
def hasRoomAt (r : Ring) (span offset : Nat) : Bool :=
  offset + span = r.capacity.toNat || offset + span + r.headerSize.toNat ≤ r.capacity.toNat

/-- The write offset after a record of `span` bytes at `target`. -/
def offsetAfter (r : Ring) (span target : Nat) : Nat :=
  if target + span = r.capacity.toNat then 0 else target + span

/-- Decides where a payload of `size` bytes goes. -/
def place (r : Ring) (m : Memory) (size : Nat) : Outcome SharedMemoryError Placement :=
  let capacity := r.capacity.toNat
  let header := r.headerSize.toNat
  let span := size + header
  if !r.isSetUp m then .failed .uninitialized
  else if capacity ≤ span then .failed (.payloadTooLarge size (capacity - header - 1))
  else
    match r.offsets m with
    | .error e => .failed (.corruptControlBlock e)
    | .ok (read, write) =>
      match r.writableBytes m with
      | none => .halted
      | some writable =>
        if r.hasRoomAt span write.toNat then
          if writable.toNat < span then .failed (.ringFull size writable)
          else .done ⟨none, write.toNat, r.offsetAfter span write.toNat⟩
        else if !r.hasRoomAt span 0 then
          if capacity < 2 * header then .halted
          else .failed (.payloadTooLarge size (capacity - 2 * header))
        else if write < read ∨ read.toNat ≤ span then .failed (.ringFull size writable)
        else if capacity - write.toNat < header then .halted
        else .done ⟨some (write.toNat, capacity - write.toNat - header), 0, r.offsetAfter span 0⟩

/-- Memory with the header of a record in place. -/
def putHeader (r : Ring) (m : Memory) (offset : Nat) (header : Header) : Memory :=
  m.blit (r.dataAt offset) (header.encode r.geometry.format)

/-- Carries a placement out: the skip marker if there is one, then header and payload, then the write offset. -/
def commit (r : Ring) (m : Memory) (p : Placement) (kind : Kind) (timestamp : UInt64) (payload : List UInt8) :
    Memory :=
  let padded :=
    match p.pad with
    | none => m
    | some (offset, size) => r.putHeader m offset ⟨.skip, timestamp, UInt64.ofNat size⟩
  let headed := r.putHeader padded p.target ⟨kind, timestamp, UInt64.ofNat payload.length⟩
  let filled := headed.blit (r.dataAt (p.target + r.headerSize.toNat)) payload
  r.setWriteOffset filled (UInt32.ofNat p.next)

/-- Writes a record with the given timestamp. -/
def write (r : Ring) (m : Memory) (kind : Kind) (timestamp : UInt64) (payload : List UInt8) :
    Outcome SharedMemoryError Unit × Memory :=
  match r.place m payload.length with
  | .failed e => (.failed e, m)
  | .halted => (.halted, m)
  | .done p => (.done (), r.commit m p kind timestamp payload)

theorem write_of_place_failed {r : Ring} {m : Memory} {payload : List UInt8} {e : SharedMemoryError}
    (h : r.place m payload.length = .failed e) (kind : Kind) (timestamp : UInt64) :
    r.write m kind timestamp payload = (.failed e, m) := by
  rw [write, h]

theorem write_of_place_halted {r : Ring} {m : Memory} {payload : List UInt8}
    (h : r.place m payload.length = .halted) (kind : Kind) (timestamp : UInt64) :
    r.write m kind timestamp payload = (.halted, m) := by
  rw [write, h]

theorem write_of_place_done {r : Ring} {m : Memory} {payload : List UInt8} {p : Placement}
    (h : r.place m payload.length = .done p) (kind : Kind) (timestamp : UInt64) :
    r.write m kind timestamp payload = (.done (), r.commit m p kind timestamp payload) := by
  rw [write, h]

/-! ## What a write answers -/

variable {r : Ring} {m : Memory} {kind : Kind} {timestamp : UInt64} {payload : List UInt8}

theorem write_eq_done_iff :
    (r.write m kind timestamp payload).1 = .done () ↔ ∃ p, r.place m payload.length = .done p := by
  unfold write
  cases r.place m payload.length <;> simp

theorem write_eq_failed_iff {e : SharedMemoryError} :
    (r.write m kind timestamp payload).1 = .failed e ↔ r.place m payload.length = .failed e := by
  unfold write
  cases r.place m payload.length <;> simp

theorem write_eq_halted_iff :
    (r.write m kind timestamp payload).1 = .halted ↔ r.place m payload.length = .halted := by
  unfold write
  cases r.place m payload.length <;> simp

/-- A write that does not succeed changes nothing. -/
theorem write_of_ne_done (h : (r.write m kind timestamp payload).1 ≠ .done ()) :
    (r.write m kind timestamp payload).2 = m := by
  cases hplace : r.place m payload.length with
  | done p => exact absurd (write_eq_done_iff.2 ⟨p, hplace⟩) h
  | failed e => rw [write_of_place_failed hplace]
  | halted => rw [write_of_place_halted hplace]

end EventRing.Ring
