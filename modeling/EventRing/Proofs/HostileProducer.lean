import EventRing.Proofs.Placement

/-!
# A producer in hostile memory

Nothing is assumed here about what stands in the control block and in the data area of a ring that is set up.
`Placement.Inside` says that a record and the skip marker in front of it lie in the data area, `Ring.ProducerOwns` which
bytes of memory are the producer's.

Main statements: `place_inside` (a record is only ever placed in the data area), `byteAt_write_of_not_owned` (a write
changes only bytes that are the producer's), `place_eq_halted_iff` (when a placement halts), and `producer_hostile`,
which sums up what a write does.  Beside `producer_hostile` stands a control block at which a write halts.
-/

namespace EventRing.Ring

/-- A record of `span` bytes and the skip marker in front of it lie in the data area, and so does the next offset. -/
structure Placement.Inside (p : Placement) (r : Ring) (span : Nat) : Prop where
  record : p.target + span ≤ r.capacity.toNat
  marker : ∀ offset size, p.pad = some (offset, size) → offset + r.headerSize.toNat + size = r.capacity.toNat
  next : p.next < r.capacity.toNat

/-- The bytes that a producer writes: its own offset and the data area. -/
def ProducerOwns (r : Ring) (i : Nat) : Prop :=
  r.base ≤ i ∧ i < r.base + 4 ∨ r.dataAt 0 ≤ i ∧ i < r.dataAt r.capacity.toNat

instance (r : Ring) (i : Nat) : Decidable (r.ProducerOwns i) := inferInstanceAs (Decidable (_ ∨ _))

variable {r : Ring} {m : Memory} {n : Nat} {kind : Kind} {timestamp : UInt64} {payload : List UInt8}

/-! ### Where a write goes -/

/-- A record is only ever placed in the data area. -/
theorem place_inside {p : Placement} (h : r.place m n = .done p) : p.Inside r (n + r.headerSize.toNat) := by
  obtain ⟨hspan, hwhere⟩ := place_done h
  rcases hwhere with ⟨hroom, -, rfl⟩ | ⟨-, hroom, -, -, htail, rfl⟩
  · have hle : (r.writeOffset m).toNat + (n + r.headerSize.toNat) ≤ r.capacity.toNat := by
      have hcases := hasRoomAt_iff.1 hroom
      omega
    exact ⟨hle, by simp, offsetAfter_lt hle⟩
  · refine ⟨by dsimp only; omega, ?_, offsetAfter_lt (by omega)⟩
    intro offset size hpad
    simp only [Option.some.injEq, Prod.mk.injEq] at hpad
    omega

/-- Bytes that go into the data area leave everything else as it was. -/
theorem byteAt_blit_of_not_owned {i a : Nat} {bs : List UInt8} (h : ¬ r.ProducerOwns i)
    (hle : a + bs.length ≤ r.capacity.toNat) : (m.blit (r.dataAt a) bs).byteAt i = m.byteAt i := by
  unfold ProducerOwns at h
  rw [dataAt_eq, dataAt_eq] at h
  refine Memory.byteAt_blit_of_outside _ _ _ _ ?_
  rw [dataAt_eq]
  omega

theorem byteAt_commit_of_not_owned {i : Nat} {p : Placement} (h : ¬ r.ProducerOwns i)
    (hp : p.Inside r (payload.length + r.headerSize.toNat)) :
    (r.commit m p kind timestamp payload).byteAt i = m.byteAt i := by
  have hrecord := hp.record
  have hoffset : ∀ m' w, (r.setWriteOffset m' w).byteAt i = m'.byteAt i := by
    intro m' w
    unfold ProducerOwns at h
    exact Memory.byteAt_setWord_of_outside _ _ _ _ (by omega)
  have hheader : ∀ (m' : Memory) (a : Nat) (header : Header), a + r.headerSize.toNat ≤ r.capacity.toNat →
      (r.putHeader m' a header).byteAt i = m'.byteAt i := by
    intro m' a header hle
    exact byteAt_blit_of_not_owned h (by rw [Header.length_encode]; exact hle)
  unfold commit
  dsimp only
  rw [hoffset, byteAt_blit_of_not_owned h (by omega), hheader _ _ _ (by omega)]
  rcases hpad : p.pad with _ | ⟨offset, size⟩
  · rfl
  · have hmarker := hp.marker offset size hpad
    exact hheader _ _ _ (by omega)

/-- A write changes only bytes that are the producer's. -/
theorem byteAt_write_of_not_owned {i : Nat} (h : ¬ r.ProducerOwns i) :
    (r.write m kind timestamp payload).2.byteAt i = m.byteAt i := by
  cases hplace : r.place m payload.length with
  | failed e => rw [write_of_place_failed hplace]
  | halted => rw [write_of_place_halted hplace]
  | done p =>
    rw [write_of_place_done hplace]
    dsimp only
    exact byteAt_commit_of_not_owned h (place_inside hplace)

/-! ### When a write halts -/

/-- With offsets in range a placement halts for one of two reasons: the ring is too small to hold two headers, or the
record has to be moved and the bytes from the write offset on do not hold the header of a skip marker. -/
theorem place_eq_halted_iff (hset : r.isSetUp m = true) (hr : (r.readOffset m).toNat < r.capacity.toNat)
    (hw : (r.writeOffset m).toNat < r.capacity.toNat) :
    r.place m n = .halted ↔ n + r.headerSize.toNat < r.capacity.toNat ∧
      r.hasRoomAt (n + r.headerSize.toNat) (r.writeOffset m).toNat = false ∧
      (r.hasRoomAt (n + r.headerSize.toNat) 0 = false ∧ r.capacity.toNat < 2 * r.headerSize.toNat ∨
        r.hasRoomAt (n + r.headerSize.toNat) 0 = true ∧ (r.readOffset m).toNat ≤ (r.writeOffset m).toNat ∧
          n + r.headerSize.toNat < (r.readOffset m).toNat ∧
          r.capacity.toNat < (r.writeOffset m).toNat + r.headerSize.toNat) := by
  rw [place_eq n hset hr hw]
  dsimp only
  by_cases hspan : r.capacity.toNat ≤ n + r.headerSize.toNat
  · simp only [if_pos hspan, reduceCtorEq, false_iff]
    omega
  rw [if_neg hspan]
  cases hroom : r.hasRoomAt (n + r.headerSize.toNat) (r.writeOffset m).toNat with
  | true =>
    rw [if_pos rfl]
    split <;> simp
  | false =>
    rw [if_neg (by simp)]
    cases hstart : r.hasRoomAt (n + r.headerSize.toNat) 0 with
    | false =>
      rw [if_pos rfl]
      split <;> simp <;> omega
    | true =>
      rw [if_neg (by simp)]
      split
      · simp
        omega
      · split <;> simp <;> omega

/-- With an offset out of range no record is placed, and the placement does not halt either. -/
theorem place_of_out_of_range (n : Nat)
    (h : ¬ ((r.readOffset m).toNat < r.capacity.toNat ∧ (r.writeOffset m).toNat < r.capacity.toNat)) :
    ∃ e, r.place m n = .failed e := by
  unfold place
  dsimp only
  split
  · exact ⟨_, rfl⟩
  · split
    · exact ⟨_, rfl⟩
    · cases hoffsets : r.offsets m with
      | error e => exact ⟨_, rfl⟩
      | ok offsets =>
        obtain ⟨-, -, hr, hw⟩ := offsets_eq_ok_iff.1 (show r.offsets m = .ok (offsets.1, offsets.2) from hoffsets)
        exact absurd ⟨hr, hw⟩ h

/-- In a ring that has room for two headers, a write halts only where the skip marker would run past the end of the
data area. -/
theorem place_eq_halted_iff_of_le (hset : r.isSetUp m = true) (hcap : 2 * r.headerSize.toNat ≤ r.capacity.toNat) :
    r.place m n = .halted ↔ (r.writeOffset m).toNat < r.capacity.toNat ∧
      r.capacity.toNat < (r.writeOffset m).toNat + r.headerSize.toNat ∧
      n + 2 * r.headerSize.toNat ≤ r.capacity.toNat ∧ n + r.headerSize.toNat < (r.readOffset m).toNat ∧
      (r.readOffset m).toNat ≤ (r.writeOffset m).toNat := by
  have hpos := r.headerSize_pos
  by_cases hrange : (r.readOffset m).toNat < r.capacity.toNat ∧ (r.writeOffset m).toNat < r.capacity.toNat
  · rw [place_eq_halted_iff hset hrange.1 hrange.2, hasRoomAt_iff, hasRoomAt_eq_false_iff, hasRoomAt_eq_false_iff]
    omega
  · obtain ⟨e, hfailed⟩ := place_of_out_of_range n hrange
    rw [hfailed]
    simp only [reduceCtorEq, false_iff]
    omega

/-- **A producer in hostile memory.** Whatever stands in a ring that is set up and has room for two headers, a write
halts exactly if the write offset leaves less than a header at the end of the data area, and the record has room in
front of a read offset that is not ahead.  A write that does not succeed changes nothing.  One that succeeds places the
record and its skip marker in the data area, and no byte changes that is not the producer's. -/
theorem producer_hostile (hcap : 2 * r.headerSize.toNat ≤ r.capacity.toNat) (hset : r.isSetUp m = true)
    (kind : Kind) (timestamp : UInt64) (payload : List UInt8) :
    ((r.write m kind timestamp payload).1 = .halted ↔
      (r.writeOffset m).toNat < r.capacity.toNat ∧
      r.capacity.toNat < (r.writeOffset m).toNat + r.headerSize.toNat ∧
      payload.length + 2 * r.headerSize.toNat ≤ r.capacity.toNat ∧
      payload.length + r.headerSize.toNat < (r.readOffset m).toNat ∧
      (r.readOffset m).toNat ≤ (r.writeOffset m).toNat) ∧
    ((r.write m kind timestamp payload).1 ≠ .done () → (r.write m kind timestamp payload).2 = m) ∧
    (∀ p, r.place m payload.length = .done p → p.Inside r (payload.length + r.headerSize.toNat)) ∧
    ∀ i, ¬ r.ProducerOwns i → (r.write m kind timestamp payload).2.byteAt i = m.byteAt i := by
  refine ⟨?_, write_of_ne_done, fun p => place_inside, fun i => byteAt_write_of_not_owned⟩
  rw [write_eq_halted_iff]
  exact place_eq_halted_iff_of_le hset hcap

/-- A write to a ring of 64 bytes whose write offset has been overwritten. -/
theorem producer_hostile_overwritten :
    let r : Ring := ⟨0, ⟨64, .packed, by decide, by decide⟩⟩
    let m := ((Memory.zeros 96).setWord 12 1).setWord 0 0xFFFFFFFF
    (2 * r.headerSize.toNat ≤ r.capacity.toNat ∧ r.isSetUp m = true) ∧ (r.write m .hidInfo 5 [1]).1 ≠ .halted ∧
      (r.write m .hidInfo 5 [1]).2.byteAt 4 = m.byteAt 4 := by
  intro r m
  have hcap : 2 * r.headerSize.toNat ≤ r.capacity.toNat := by decide
  have hset : r.isSetUp m = true := by decide +kernel
  have hwrite : (r.writeOffset m).toNat = 0xFFFFFFFF := by decide +kernel
  obtain ⟨hhalted, -, -, hframe⟩ := producer_hostile hcap hset .hidInfo 5 [1]
  refine ⟨⟨hcap, hset⟩, fun h => ?_, hframe 4 (by decide)⟩
  obtain ⟨hlt, -⟩ := hhalted.1 h
  rw [hwrite] at hlt
  exact absurd hlt (by decide)

/-- A write halts in a ring of 64 bytes whose offsets stand at 40 and 50.  The record would go to offset 0, and 14
bytes are left for the skip marker. -/
theorem write_halts_before_end :
    let r : Ring := ⟨0, ⟨64, .packed, by decide, by decide⟩⟩
    let m := r.setOffsets ((Memory.zeros 96).setWord 12 1) 40 50
    2 * r.headerSize.toNat ≤ r.capacity.toNat ∧ r.Fits m ∧ r.isSetUp m = true ∧
      (r.write m .hidInfo 0 []).1 = .halted := by
  intro r m
  have hcap : 2 * r.headerSize.toNat ≤ r.capacity.toNat := by decide
  have hset : r.isSetUp m = true := by decide +kernel
  have hread : (r.readOffset m).toNat = 40 := by decide +kernel
  have hwrite : (r.writeOffset m).toNat = 50 := by decide +kernel
  refine ⟨hcap, by unfold Fits; decide +kernel, hset, ?_⟩
  rw [write_eq_halted_iff, place_eq_halted_iff_of_le hset hcap, hread, hwrite]
  decide

end EventRing.Ring
