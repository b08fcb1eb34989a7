import EventRing.Ring.Consume

/-!
# What a consumer leaves alone

A ring's region is its control block and its data area.  `Ring.SameRegion` says that none of its bytes differ
between two memories, `Ring.OnlyReadOffset` that at most the four bytes of the consumer's offset do.  Everything
that the producer owns is read back unchanged through the second relation, and moving the read offset stays within
it: `OnlyReadOffset.writeOffset_eq`, `OnlyReadOffset.isSetUp_eq`, `OnlyReadOffset.read_data`,
`onlyReadOffset_advance`.  In memories with the same region it succeeds or fails alike, and they stay so
(`SameRegion.advance`).  `Ring.ReadMoved` speaks of all memory, also outside the ring: whoever only moves the read
offset leaves memory that is known by where it stands now (`ReadMoved.eq`).

The last part is about positions in the circle.  `Ring.OnTheWay a w b` says that `b` lies between `a` and the write
offset `w`; `Ring.gap` is the number of bytes from one offset to another.  A clock is `Clock.Quiet` if asking it
changes nothing in a ring.
-/

namespace EventRing.Ring

/-- The region of a ring lies in memory. -/
def Fits (r : Ring) (m : Memory) : Prop := r.base + r.geometry.memorySize ≤ m.size

/-- Memory in which every byte of a ring is as before. -/
structure SameRegion (r : Ring) (m m' : Memory) : Prop where
  size : m'.size = m.size
  bytes : ∀ i, r.base ≤ i → i < r.base + r.geometry.memorySize → m'.byteAt i = m.byteAt i

/-- Memory in which every byte of a ring is as before, except for those of the consumer's offset. -/
structure OnlyReadOffset (r : Ring) (m m' : Memory) : Prop where
  size : m'.size = m.size
  bytes : ∀ i, r.base ≤ i → i < r.base + r.geometry.memorySize → i < r.base + 4 ∨ r.base + 8 ≤ i →
    m'.byteAt i = m.byteAt i

/-- Memory in which not a byte differs, inside the ring or outside, except for those of the consumer's offset. -/
def ReadMoved (r : Ring) (m m' : Memory) : Prop := ∃ offset, m' = r.setReadOffset m offset

variable {r : Ring} {m m' m'' : Memory}

/-! ### Relations between memories -/

theorem memorySize_eq (r : Ring) : r.geometry.memorySize = 32 + r.capacity.toNat := rfl

theorem dataAt_eq (r : Ring) (a : Nat) : r.dataAt a = r.base + 32 + a := rfl

theorem dataAt_add (r : Ring) (a n : Nat) : r.dataAt a + n = r.dataAt (a + n) := Nat.add_assoc _ _ _

theorem fits_zeros (r : Ring) {n : Nat} (h : r.base + r.geometry.memorySize ≤ n) : r.Fits (Memory.zeros n) := by
  rw [Fits, Memory.size_zeros]
  exact h

theorem SameRegion.refl (r : Ring) (m : Memory) : r.SameRegion m m := ⟨rfl, fun _ _ _ => rfl⟩

theorem SameRegion.trans (h : r.SameRegion m m') (h' : r.SameRegion m' m'') : r.SameRegion m m'' :=
  ⟨h'.size.trans h.size, fun i hlo hhi => (h'.bytes i hlo hhi).trans (h.bytes i hlo hhi)⟩

theorem SameRegion.onlyReadOffset (h : r.SameRegion m m') : r.OnlyReadOffset m m' :=
  ⟨h.size, fun i hlo hhi _ => h.bytes i hlo hhi⟩

theorem OnlyReadOffset.refl (r : Ring) (m : Memory) : r.OnlyReadOffset m m := (SameRegion.refl r m).onlyReadOffset

theorem OnlyReadOffset.trans (h : r.OnlyReadOffset m m') (h' : r.OnlyReadOffset m' m'') : r.OnlyReadOffset m m'' :=
  ⟨h'.size.trans h.size, fun i hlo hhi hout => (h'.bytes i hlo hhi hout).trans (h.bytes i hlo hhi hout)⟩

theorem OnlyReadOffset.fits (h : r.OnlyReadOffset m m') (hfits : r.Fits m) : r.Fits m' := by
  rw [Fits, h.size]
  exact hfits

theorem OnlyReadOffset.writeOffset_eq (h : r.OnlyReadOffset m m') : r.writeOffset m' = r.writeOffset m := by
  have hsize := r.memorySize_eq
  apply Memory.word_congr
  intro i hlo hhi
  exact h.bytes i (by omega) (by omega) (by omega)

theorem OnlyReadOffset.isSetUp_eq (h : r.OnlyReadOffset m m') : r.isSetUp m' = r.isSetUp m := by
  have hsize := r.memorySize_eq
  have hword : m'.word (r.base + 12) = m.word (r.base + 12) := by
    apply Memory.word_congr
    intro i hlo hhi
    exact h.bytes i (by omega) (by omega) (by omega)
  rw [isSetUp, isSetUp, hword]

/-- Data bytes are as before. -/
theorem OnlyReadOffset.byteAt_data (h : r.OnlyReadOffset m m') {x : Nat} (hx : x < r.capacity.toNat) :
    m'.byteAt (r.dataAt x) = m.byteAt (r.dataAt x) := by
  have hsize := r.memorySize_eq
  have hat := r.dataAt_eq x
  exact h.bytes _ (by omega) (by omega) (by omega)

theorem OnlyReadOffset.read_data (h : r.OnlyReadOffset m m') {a n : Nat} (hle : a + n ≤ r.capacity.toNat) :
    m'.read (r.dataAt a) n = m.read (r.dataAt a) n := by
  have hsize := r.memorySize_eq
  have hat := r.dataAt_eq a
  apply Memory.read_congr
  intro i hlo hhi
  exact h.bytes i (by omega) (by omega) (by omega)

theorem SameRegion.readOffset_eq (h : r.SameRegion m m') : r.readOffset m' = r.readOffset m := by
  have hsize := r.memorySize_eq
  apply Memory.word_congr
  intro i hlo hhi
  exact h.bytes i (by omega) (by omega)

theorem SameRegion.isEmpty_eq (h : r.SameRegion m m') : r.isEmpty m' = r.isEmpty m := by
  rw [isEmpty, isEmpty, h.readOffset_eq, h.onlyReadOffset.writeOffset_eq]

/-! ### Moving the read offset -/

theorem SameRegion.setReadOffset (h : r.SameRegion m m') (offset : UInt32) :
    r.SameRegion (r.setReadOffset m offset) (r.setReadOffset m' offset) := by
  rw [Ring.setReadOffset, Ring.setReadOffset]
  refine ⟨by rw [Memory.size_setWord, Memory.size_setWord, h.size], fun i hlo hhi => ?_⟩
  rw [Memory.setWord, Memory.setWord]
  exact Memory.byteAt_blit_congr _ _ h.size (h.bytes i hlo hhi)

/-- Moving the read offset has the same answer, and the same effect on the ring, whatever stands outside of it. -/
theorem SameRegion.advance (h : r.SameRegion m m') (consumed : UInt64) :
    (r.advance m' consumed).1 = (r.advance m consumed).1 ∧
      r.SameRegion (r.advance m consumed).2 (r.advance m' consumed).2 := by
  have hoffset : r.advancedOffset m' consumed = r.advancedOffset m consumed := by
    rw [advancedOffset, advancedOffset, h.readOffset_eq]
  rw [Ring.advance, Ring.advance, hoffset]
  cases r.advancedOffset m consumed with
  | error e => exact ⟨rfl, h⟩
  | ok offset =>
    dsimp only
    exact ⟨rfl, h.setReadOffset offset⟩

theorem onlyReadOffset_setReadOffset (r : Ring) (m : Memory) (offset : UInt32) :
    r.OnlyReadOffset m (r.setReadOffset m offset) :=
  ⟨Memory.size_setWord _ _ _, fun i _ _ hout => Memory.byteAt_setWord_of_outside m _ i offset (by omega)⟩

theorem readOffset_setReadOffset (hfits : r.Fits m) (offset : UInt32) :
    r.readOffset (r.setReadOffset m offset) = offset := by
  rw [Fits, memorySize_eq] at hfits
  apply Memory.word_setWord
  omega

theorem setReadOffset_setReadOffset (r : Ring) (m : Memory) (a b : UInt32) :
    r.setReadOffset (r.setReadOffset m a) b = r.setReadOffset m b := Memory.setWord_setWord _ _ _ _

theorem setReadOffset_readOffset (r : Ring) (m : Memory) : r.setReadOffset m (r.readOffset m) = m :=
  Memory.setWord_word _ _

theorem setReadOffset_blit_data (m : Memory) (offset : UInt32) (t : Nat) (bs : List UInt8) :
    (r.setReadOffset m offset).blit (r.dataAt t) bs = r.setReadOffset (m.blit (r.dataAt t) bs) offset :=
  Memory.setWord_blit_comm m offset bs (by rw [dataAt_eq]; omega)

theorem setReadOffset_setWriteOffset (m : Memory) (a b : UInt32) :
    r.setWriteOffset (r.setReadOffset m a) b = r.setReadOffset (r.setWriteOffset m b) a :=
  Memory.setWord_comm m a b (by omega)

theorem onlyReadOffset_advance (r : Ring) (m : Memory) (consumed : UInt64) :
    r.OnlyReadOffset m (r.advance m consumed).2 := by
  rw [advance]
  cases r.advancedOffset m consumed with
  | error e => exact .refl r m
  | ok offset =>
    dsimp only
    exact onlyReadOffset_setReadOffset r m offset

theorem ReadMoved.refl (r : Ring) (m : Memory) : r.ReadMoved m m :=
  ⟨r.readOffset m, (setReadOffset_readOffset r m).symm⟩

theorem ReadMoved.advance (h : r.ReadMoved m m') (consumed : UInt64) : r.ReadMoved m (r.advance m' consumed).2 := by
  rw [Ring.advance]
  cases r.advancedOffset m' consumed with
  | error e =>
    dsimp only
    exact h
  | ok next =>
    obtain ⟨offset, rfl⟩ := h
    dsimp only
    exact ⟨next, setReadOffset_setReadOffset r m offset next⟩

theorem ReadMoved.trans (h : r.ReadMoved m m') (h' : r.ReadMoved m' m'') : r.ReadMoved m m'' := by
  obtain ⟨offset, rfl⟩ := h
  obtain ⟨offset', hoffset⟩ := h'
  exact ⟨offset', hoffset.trans (setReadOffset_setReadOffset r m offset offset')⟩

theorem ReadMoved.onlyReadOffset (h : r.ReadMoved m m') : r.OnlyReadOffset m m' := by
  obtain ⟨offset, rfl⟩ := h
  exact onlyReadOffset_setReadOffset r m offset

/-- Every byte but those of the consumer's offset is as before, inside the ring and outside. -/
theorem ReadMoved.byteAt_eq {i : Nat} (h : r.ReadMoved m m') (hi : i < r.base + 4 ∨ r.base + 8 ≤ i) :
    m'.byteAt i = m.byteAt i := by
  obtain ⟨offset, rfl⟩ := h
  exact Memory.byteAt_setWord_of_outside _ _ _ _ (by omega)

/-- Where the read offset has come to stand tells all of memory. -/
theorem ReadMoved.eq (h : r.ReadMoved m m') (hfits : r.Fits m) : m' = r.setReadOffset m (r.readOffset m') := by
  obtain ⟨offset, rfl⟩ := h
  rw [readOffset_setReadOffset hfits]

theorem readMoved_free (r : Ring) (m : Memory) : r.ReadMoved m (r.free m).2 := by
  unfold free
  split
  · split
    · exact .refl r m
    · exact .refl r m
    · exact .refl r m
    · next found _ =>
      have hmoved := (ReadMoved.refl r m).advance found.span.toUInt64
      split <;> next hadvance => rw [hadvance] at hmoved; exact hmoved
  · exact .refl r m

/-! ### Positions in the circle -/

/-- Offset `b` lies between offset `a` and the write offset `w`, going forward and from the end of the data area on to
its start. -/
def OnTheWay (a w b : Nat) : Prop := if a ≤ w then a ≤ b ∧ b ≤ w else a ≤ b ∨ b ≤ w

/-- The bytes from offset `a` forward to offset `b`. -/
def gap (r : Ring) (a b : Nat) : Nat := if a ≤ b then b - a else r.capacity.toNat - a + b

theorem OnTheWay.refl (a w : Nat) : OnTheWay a w a := by
  unfold OnTheWay
  split <;> omega

theorem OnTheWay.trans {a b c w : Nat} (h : OnTheWay a w b) (h' : OnTheWay b w c) : OnTheWay a w c := by
  unfold OnTheWay at *
  split <;> split at h <;> split at h' <;> omega

theorem gap_eq_zero_iff {a b : Nat} (ha : a < r.capacity.toNat) : r.gap a b = 0 ↔ a = b := by
  unfold gap
  split <;> omega

theorem gap_lt {a b : Nat} (hb : b < r.capacity.toNat) : r.gap a b < r.capacity.toNat := by
  unfold gap
  split <;> omega

/-- On the way to the write offset there are fewer and fewer bytes left. -/
theorem gap_le_of_onTheWay {a b w : Nat} (hway : OnTheWay a w b) (hb : b < r.capacity.toNat) :
    r.gap b w ≤ r.gap a w := by
  unfold OnTheWay at hway
  unfold gap
  split at hway <;> split <;> omega

/-- The reader's count of published bytes is exact. -/
theorem occupancy_eq {read : UInt32} (write : UInt32) (hr : read.toNat < r.capacity.toNat) :
    ∃ n, r.occupancy read write = some n ∧ n.toNat = r.gap read.toNat write.toNat := by
  have hcap : r.capacity.toNat ≤ 1048576 := r.geometry.capacity_le_toNat
  rw [occupancy, gap]
  simp only [UInt32.le_iff_toNat_le]
  by_cases hle : read.toNat ≤ write.toNat
  · obtain ⟨n, hn, hsum⟩ := Word.sub?_of_le write read hle
    rw [if_pos hle, if_pos hle]
    exact ⟨n, hn, by omega⟩
  · obtain ⟨tail, htail, hrest⟩ := Word.sub?_of_le r.capacity read (by omega)
    obtain ⟨n, hn, hsum⟩ := Word.add?_of_lt tail write (show tail.toNat + write.toNat < 2 ^ 32 by omega)
    rw [if_neg hle, if_neg hle, htail]
    exact ⟨n, hn, by omega⟩

/-- The bytes that can be written and the unread ones make up the data area, but for one. -/
theorem writableBytes_eq (hset : r.isSetUp m = true) (hr : (r.readOffset m).toNat < r.capacity.toNat)
    (hw : (r.writeOffset m).toNat < r.capacity.toNat) :
    ∃ n, r.writableBytes m = some n ∧
      n.toNat + r.gap (r.readOffset m).toNat (r.writeOffset m).toNat + 1 = r.capacity.toNat := by
  have hcap : r.capacity.toNat ≤ 1048576 := r.geometry.capacity_le_toNat
  have hone : (1 : UInt32).toNat = 1 := rfl
  rw [writableBytes, gap, if_pos hset, offsets_eq_ok_iff.2 ⟨rfl, rfl, hr, hw⟩]
  dsimp only
  generalize r.readOffset m = read at *
  generalize r.writeOffset m = write at *
  simp only [UInt32.le_iff_toNat_le]
  by_cases hle : read.toNat ≤ write.toNat
  · obtain ⟨most, hmost, hsum⟩ := Word.sub?_of_le r.capacity 1 (by omega)
    obtain ⟨rest, hrest, hsum'⟩ := Word.sub?_of_le most write (by omega)
    obtain ⟨n, hn, htotal⟩ := Word.add?_of_lt rest read (show rest.toNat + read.toNat < 2 ^ 32 by omega)
    rw [if_pos hle, if_pos hle, hmost, Option.bind_some, hrest]
    exact ⟨n, hn, by omega⟩
  · obtain ⟨between, hbetween, hsum⟩ := Word.sub?_of_le read write (by omega)
    obtain ⟨n, hn, htotal⟩ := Word.sub?_of_le between 1 (by omega)
    rw [if_neg hle, if_neg hle, hbetween]
    exact ⟨n, hn, by omega⟩

end EventRing.Ring

namespace EventRing.Clock

/-- A clock that always shows a time, and changes nothing in a ring while it is asked. -/
def Quiet {σ : Type} (clock : Clock σ) (r : Ring) : Prop :=
  ∀ (c : σ) (m : Memory), (∃ now, (clock.ask c m).time = some now) ∧ r.SameRegion m (clock.ask c m).memory

theorem quiet_fixed (r : Ring) (time : UInt64) : (fixed time).Quiet r := fun _ m => ⟨⟨time, rfl⟩, .refl r m⟩

theorem time_fixed (time : UInt64) (c : Unit) (m : Memory) (now : UInt64)
    (h : ((fixed time).ask c m).time = some now) : now = time := (Option.some.inj h).symm

theorem quiet_ofReadings (r : Ring) (times : Nat → UInt64) : (ofReadings times).Quiet r :=
  fun c m => ⟨⟨times c, rfl⟩, .refl r m⟩

end EventRing.Clock
