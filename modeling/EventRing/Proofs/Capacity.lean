import EventRing.Objects
import EventRing.Proofs.HostileProducer
import EventRing.Proofs.Steps

/-!
# Handles of another capacity

A control block records the capacity with which a ring was set up, and every handle assumes one of its own.  The two are
compared when a handle attaches to a ring that is set up, and nowhere else.  `Ring.SetUpAt base capacity m` says that
`m` has come of setting up a ring of that capacity at `base`, and of any uses of it since, through handles of any
geometry.

The record stays as it is (`Declares.use`, `SetUpAt.declares`), so that from then on a handle of another capacity is
refused: `attach_of_declares`.  A handle from before does not see the record.  Changing the stored capacity commutes
with whatever it does: `place_setStoredCapacity`, `write_setStoredCapacity`, `free_setStoredCapacity`,
`poll_setStoredCapacity`.  Both halves are put together in `capacity_compared_on_attach`, and beside it stands a handle
from before that writes to a smaller ring.
-/

namespace EventRing

namespace Ring

/-- The control block at `base` says that a ring is set up, and of which capacity. -/
structure Declares (base : Nat) (capacity : UInt32) (m : Memory) : Prop where
  setUp : m.word (base + 12) = 1
  capacity_eq : m.word (base + 8) = capacity

/-- Memory in which a ring of some capacity has been set up at `base`.  Whatever handles there are at that place, of
whatever geometry: it has been used since, or set up again, through them. -/
inductive SetUpAt (base : Nat) : UInt32 → Memory → Prop
  | setUp {m : Memory} (g : Geometry) (name : RingName) (fits : (⟨base, g⟩ : Ring).Fits m)
      (unused : (⟨base, g⟩ : Ring).isSetUp m = false) : SetUpAt base g.capacity ((⟨base, g⟩ : Ring).setUp m name).2
  | again {capacity : UInt32} {m : Memory} (g : Geometry) (name : RingName) (before : SetUpAt base capacity m) :
      SetUpAt base capacity ((⟨base, g⟩ : Ring).setUp m name).2
  | use {capacity : UInt32} {m : Memory} (g : Geometry) (u : Use) (before : SetUpAt base capacity m) :
      SetUpAt base capacity ((⟨base, g⟩ : Ring).use m u)

/-- Memory with another stored capacity. -/
def setStoredCapacity (r : Ring) (m : Memory) (v : UInt32) : Memory := m.setWord (r.base + 8) v

variable {r : Ring} {m m' : Memory} {base : Nat} {capacity : UInt32} {g : Geometry}

/-! ### The record stays -/

theorem Declares.congr (h : Declares base capacity m)
    (same : ∀ i, base + 8 ≤ i → i < base + 16 → m'.byteAt i = m.byteAt i) : Declares base capacity m' := by
  refine ⟨?_, ?_⟩
  · rw [Memory.word_congr fun i _ _ => same i (by omega) (by omega)]
    exact h.setUp
  · rw [Memory.word_congr fun i _ _ => same i (by omega) (by omega)]
    exact h.capacity_eq

theorem Declares.isSetUp_eq (h : Declares r.base capacity m) : r.isSetUp m = true := decide_eq_true h.setUp

theorem Declares.readMoved (h : Declares r.base capacity m) (moved : r.ReadMoved m m') :
    Declares r.base capacity m' := by
  obtain ⟨offset, rfl⟩ := moved
  exact h.congr fun i _ _ => Memory.byteAt_setWord_of_outside _ _ _ _ (by omega)

theorem Declares.write (h : Declares r.base capacity m) (s : Submission) :
    Declares r.base capacity (r.write m s.kind s.timestamp s.payload).2 := by
  refine h.congr fun i _ _ => byteAt_write_of_not_owned ?_
  rw [ProducerOwns, dataAt_eq]
  omega

/-- Setting up what is set up changes nothing. -/
theorem Declares.setUp_eq (h : Declares r.base capacity m) (name : RingName) : (r.setUp m name).2 = m := by
  rw [Ring.setUp, if_pos h.isSetUp_eq]

/-- Whatever is done to a ring, its control block goes on to say that it is set up, and of which capacity. -/
theorem Declares.use (h : Declares r.base capacity m) (u : Use) : Declares r.base capacity (r.use m u) := by
  have hadvance : ∀ m consumed, Declares r.base capacity m → Declares r.base capacity (r.advance m consumed).2 :=
    fun m consumed hm => hm.readMoved ((ReadMoved.refl r m).advance consumed)
  cases u with
  | write s => exact h.write s
  | poll rd times max =>
    show Declares r.base capacity (rd.poll (.ofReadings times) r max ⟨m, 0, .zero⟩).2.memory
    exact Reader.poll_keeps rd max (fun _ _ hm => hm) hadvance h
  | drain rd times max =>
    show Declares r.base capacity (rd.drain (.ofReadings times) r max ⟨m, 0, .zero⟩).2.memory
    exact Reader.drain_keeps rd max (fun _ _ hm => hm) hadvance h
  | free => exact h.readMoved (readMoved_free r m)

theorem declares_setUp (name : RingName) (hfits : r.Fits m) (hunused : r.isSetUp m = false) :
    Declares r.base r.capacity (r.setUp m name).2 := by
  have hset := isSetUp_setUp name hfits hunused
  rw [Fits, memorySize_eq] at hfits
  refine ⟨of_decide_eq_true hset, ?_⟩
  have hword : (r.setUp m name).2.word (r.base + 8)
      = ((r.setReadOffset (r.setWriteOffset m 0) 0).setWord (r.base + 8) r.capacity).word (r.base + 8) := by
    apply Memory.word_congr
    intro i hlo hhi
    rw [setUp_unused name hunused, Memory.byteAt_setWord_of_outside _ _ _ _ (by omega),
      Memory.byteAt_blit_of_outside _ _ _ _ (by omega)]
  rw [hword, Memory.word_setWord _ _ _ (by simp [setReadOffset, setWriteOffset]; omega)]

theorem SetUpAt.declares (h : SetUpAt base capacity m) : Declares base capacity m := by
  induction h with
  | setUp g name fits unused => exact declares_setUp name fits unused
  | @again capacity m g name before ih =>
    have hsame : ((⟨base, g⟩ : Ring).setUp m name).2 = m := ih.setUp_eq name
    rw [hsame]
    exact ih
  | @use capacity m g u before ih => exact Declares.use (r := ⟨base, g⟩) ih u

/-! ### A handle that attaches later -/

/-- Attaching to a ring that is set up is decided by the size and the place of the memory and by the stored capacity. -/
theorem attach_eq_of_declares (h : Declares base capacity m) (size : Nat) (g : Geometry) :
    attach base size g m =
      if size < g.memorySize then .error (.regionTooSmall size g.capacity g.memorySize)
      else if base % 4 ≠ 0 then .error .misaligned
      else if g.capacity ≠ capacity then .error (.capacityMismatch g.capacity capacity)
      else .ok ⟨base, g⟩ := by
  have hset : (⟨base, g⟩ : Ring).isSetUp m = true := Declares.isSetUp_eq (r := ⟨base, g⟩) h
  have hstored : (⟨base, g⟩ : Ring).storedCapacity m = capacity := h.capacity_eq
  unfold attach
  dsimp only
  rw [hset, hstored]
  simp only [ne_comm, true_and]

/-- Only a handle of the stored capacity attaches to a ring that is set up.  In a place that is large enough and aligned
the two capacities are the reason. -/
theorem attach_of_declares (h : Declares base capacity m) (hne : g.capacity ≠ capacity) (size : Nat) :
    (∃ e, attach base size g m = .error e) ∧
      (g.memorySize ≤ size → base % 4 = 0 → attach base size g m = .error (.capacityMismatch g.capacity capacity)) := by
  rw [attach_eq_of_declares h, if_pos hne]
  constructor
  · repeat' split
    all_goals exact ⟨_, rfl⟩
  · intro hsize hbase
    rw [if_neg (by omega), if_neg (by omega)]

/-- The same of a mapped object.  The mapping is ended, and no object changes. -/
theorem attach_region_of_declares {s : Objects} {region : Region} (h : Declares 0 capacity (s.memory region.object))
    (hne : g.capacity ≠ capacity) : ∃ e, s.attach region g = (.error e, s.close region) := by
  obtain ⟨⟨e, he⟩, -⟩ := attach_of_declares h hne region.size
  refine ⟨e, ?_⟩
  rw [Objects.attach, he]

/-- The same of an object that is opened by its name. -/
theorem openRing_of_declares {s : Objects} {name : RingName} {object size : Nat}
    (hfind : s.find? name.text = some (object, size)) (h : Declares 0 capacity (s.memory object))
    (hne : g.capacity ≠ capacity) : ∃ e, s.openRing name g = (.error e, s) := by
  unfold Objects.openRing
  cases hopen : s.openRegion name.text with
  | error e => exact ⟨e, rfl⟩
  | ok region =>
    obtain ⟨object', size', hfind', rfl⟩ := Objects.openRegion_eq_ok hopen
    rw [hfind, Option.some.injEq, Prod.mk.injEq] at hfind'
    obtain ⟨rfl, rfl⟩ := hfind'
    exact attach_region_of_declares h hne

/-! ### A handle from before -/

/-- Where no ring is set up, a handle of any capacity attaches. -/
theorem attach_of_unused {size : Nat} (hsize : g.memorySize ≤ size) (hbase : base % 4 = 0)
    (hunused : (⟨base, g⟩ : Ring).isSetUp m = false) : attach base size g m = .ok ⟨base, g⟩ := by
  unfold attach
  dsimp only
  rw [if_neg (by omega), if_neg (by omega), if_neg (by simp [hunused])]

theorem read_setStoredCapacity (m : Memory) (v : UInt32) {start n : Nat}
    (h : start + n ≤ r.base + 8 ∨ r.base + 12 ≤ start) :
    (r.setStoredCapacity m v).read start n = m.read start n :=
  Memory.read_congr fun i _ _ => Memory.byteAt_setWord_of_outside _ _ _ _ (by omega)

theorem readOffset_setStoredCapacity (r : Ring) (m : Memory) (v : UInt32) :
    r.readOffset (r.setStoredCapacity m v) = r.readOffset m := by
  rw [readOffset, Memory.word, read_setStoredCapacity _ _ (by omega)]
  rfl

theorem writeOffset_setStoredCapacity (r : Ring) (m : Memory) (v : UInt32) :
    r.writeOffset (r.setStoredCapacity m v) = r.writeOffset m := by
  rw [writeOffset, Memory.word, read_setStoredCapacity _ _ (by omega)]
  rfl

theorem isSetUp_setStoredCapacity (r : Ring) (m : Memory) (v : UInt32) :
    r.isSetUp (r.setStoredCapacity m v) = r.isSetUp m := by
  rw [isSetUp, Memory.word, read_setStoredCapacity _ _ (by omega)]
  rfl

theorem name_setStoredCapacity (r : Ring) (m : Memory) (v : UInt32) :
    r.name (r.setStoredCapacity m v) = r.name m := by
  rw [name, isSetUp_setStoredCapacity, read_setStoredCapacity _ _ (by omega)]
  rfl

theorem copyOut_setStoredCapacity (r : Ring) (m : Memory) (v : UInt32) (offset n : Nat) :
    r.copyOut (r.setStoredCapacity m v) offset n = r.copyOut m offset n := by
  rw [copyOut, read_setStoredCapacity _ _ (by rw [dataAt_eq]; omega)]
  rfl

theorem offsets_setStoredCapacity (r : Ring) (m : Memory) (v : UInt32) :
    r.offsets (r.setStoredCapacity m v) = r.offsets m := by
  rw [offsets, readOffset_setStoredCapacity, writeOffset_setStoredCapacity]
  rfl

theorem place_setStoredCapacity (r : Ring) (m : Memory) (v : UInt32) (n : Nat) :
    r.place (r.setStoredCapacity m v) n = r.place m n := by
  simp only [place, writableBytes, isSetUp_setStoredCapacity, offsets_setStoredCapacity]

theorem next_setStoredCapacity (r : Ring) (m : Memory) (v : UInt32) :
    r.next (r.setStoredCapacity m v) = r.next m := by
  simp only [next, headerAt, checkedSpanOf, isSetUp_setStoredCapacity, offsets_setStoredCapacity,
    writeOffset_setStoredCapacity, copyOut_setStoredCapacity]

theorem payload_setStoredCapacity (r : Ring) (m : Memory) (v : UInt32) (found : Found) :
    r.payload (r.setStoredCapacity m v) found = r.payload m found := by
  simp only [payload, copyOut_setStoredCapacity]

theorem setReadOffset_setStoredCapacity (r : Ring) (m : Memory) (v offset : UInt32) :
    r.setReadOffset (r.setStoredCapacity m v) offset = r.setStoredCapacity (r.setReadOffset m offset) v :=
  Memory.setWord_comm m v offset (by omega)

theorem advance_setStoredCapacity (r : Ring) (m : Memory) (v : UInt32) (consumed : UInt64) :
    r.advance (r.setStoredCapacity m v) consumed
      = ((r.advance m consumed).1, r.setStoredCapacity (r.advance m consumed).2 v) := by
  have hoffset : r.advancedOffset (r.setStoredCapacity m v) consumed = r.advancedOffset m consumed := by
    rw [advancedOffset, readOffset_setStoredCapacity]
    rfl
  rw [advance, advance, hoffset]
  cases r.advancedOffset m consumed with
  | error e => rfl
  | ok offset =>
    dsimp only
    rw [setReadOffset_setStoredCapacity]

theorem setStoredCapacity_blit_data (m : Memory) (v : UInt32) (t : Nat) (bs : List UInt8) :
    (r.setStoredCapacity m v).blit (r.dataAt t) bs = r.setStoredCapacity (m.blit (r.dataAt t) bs) v :=
  Memory.setWord_blit_comm m v bs (by rw [dataAt_eq]; omega)

theorem setWriteOffset_setStoredCapacity (m : Memory) (v offset : UInt32) :
    r.setWriteOffset (r.setStoredCapacity m v) offset = r.setStoredCapacity (r.setWriteOffset m offset) v :=
  Memory.setWord_comm m v offset (by omega)

theorem commit_setStoredCapacity (r : Ring) (m : Memory) (v : UInt32) (p : Placement) (kind : Kind)
    (timestamp : UInt64) (payload : List UInt8) :
    r.commit (r.setStoredCapacity m v) p kind timestamp payload =
      r.setStoredCapacity (r.commit m p kind timestamp payload) v := by
  unfold commit putHeader
  cases p.pad <;> simp only [setStoredCapacity_blit_data, setWriteOffset_setStoredCapacity]

/-- A write does not depend on the stored capacity. -/
theorem write_setStoredCapacity (r : Ring) (m : Memory) (v : UInt32) (kind : Kind) (timestamp : UInt64)
    (payload : List UInt8) :
    r.write (r.setStoredCapacity m v) kind timestamp payload =
      ((r.write m kind timestamp payload).1, r.setStoredCapacity (r.write m kind timestamp payload).2 v) := by
  rw [write, write, place_setStoredCapacity]
  cases r.place m payload.length with
  | failed e => rfl
  | halted => rfl
  | done p =>
    dsimp only
    rw [commit_setStoredCapacity]

/-- Dropping a record does not depend on the stored capacity. -/
theorem free_setStoredCapacity (r : Ring) (m : Memory) (v : UInt32) :
    r.free (r.setStoredCapacity m v) = ((r.free m).1, r.setStoredCapacity (r.free m).2 v) := by
  unfold free
  rw [isSetUp_setStoredCapacity, next_setStoredCapacity, name_setStoredCapacity]
  split
  · rcases r.next m with (_ | found) | e | _
    · rfl
    · dsimp only
      rw [advance_setStoredCapacity]
      rcases r.advance m found.span.toUInt64 with ⟨result, after⟩
      cases result <;> rfl
    · rfl
    · rfl
  · rfl

/-- A poll does not depend on the stored capacity. -/
theorem poll_setStoredCapacity (r : Ring) (v : UInt32) (rd : Reader) (times : Nat → UInt64) (max : Nat)
    (s : ReaderState Nat) :
    rd.poll (.ofReadings times) r max (s.onMemory (r.setStoredCapacity · v)) =
      ((rd.poll (.ofReadings times) r max s).1,
        (rd.poll (.ofReadings times) r max s).2.onMemory (r.setStoredCapacity · v)) := by
  have hask : ∀ (asked : Nat) (m : Memory), (Clock.ofReadings times).ask asked (r.setStoredCapacity m v)
      = { (Clock.ofReadings times).ask asked m with
          memory := r.setStoredCapacity ((Clock.ofReadings times).ask asked m).memory v } := fun _ _ => rfl
  exact Reader.poll_onMemory (f := (r.setStoredCapacity · v)) rd max hask (fun m => next_setStoredCapacity r m v)
    (fun m => payload_setStoredCapacity r m v) (fun m => advance_setStoredCapacity r m v)
    (fun m => isSetUp_setStoredCapacity r m v) (fun m => offsets_setStoredCapacity r m v) s

/-- With its own capacity stored, any handle attaches. -/
theorem attach_setStoredCapacity (hfits : r.Fits m) (hbase : r.base % 4 = 0) {size : Nat}
    (hsize : r.geometry.memorySize ≤ size) :
    attach r.base size r.geometry (r.setStoredCapacity m r.capacity) = .ok r := by
  have hstored :
      (⟨r.base, r.geometry⟩ : Ring).storedCapacity (r.setStoredCapacity m r.capacity) = r.geometry.capacity := by
    rw [Fits, memorySize_eq] at hfits
    exact Memory.word_setWord _ _ _ (by omega)
  unfold attach
  dsimp only
  rw [if_neg (by omega), if_neg (by omega), if_neg (fun h => h.2 hstored)]

/-- **The capacity of a ring is compared when a handle attaches to it, and only then.** Once a ring has been set up, its
control block says so, and of which capacity, whatever is done to the ring since.  A handle of another capacity that
attaches later is refused, in plain memory and in a shared object, and nothing changes.  A handle from before does
exactly what it would do if its own capacity were the stored one, in memory to which it could attach: it answers the
same, and leaves the same memory. -/
theorem capacity_compared_on_attach (h : SetUpAt base capacity m) :
    (∀ g : Geometry, (⟨base, g⟩ : Ring).isSetUp m = true ∧ (⟨base, g⟩ : Ring).storedCapacity m = capacity) ∧
    (∀ (g : Geometry), g.capacity ≠ capacity →
      (∀ size, (∃ e, attach base size g m = .error e) ∧ (g.memorySize ≤ size → base % 4 = 0 →
        attach base size g m = .error (.capacityMismatch g.capacity capacity))) ∧
      (∀ (s : Objects) (region : Region), base = 0 → s.memory region.object = m →
        ∃ e, s.attach region g = (.error e, s.close region)) ∧
      ∀ (s : Objects) (name : RingName) (object size : Nat), base = 0 →
        s.find? name.text = some (object, size) → s.memory object = m → ∃ e, s.openRing name g = (.error e, s)) ∧
    ∀ r : Ring, r.base = base →
      let own : Memory → Memory := (r.setStoredCapacity · r.capacity)
      (r.Fits m → base % 4 = 0 → attach base r.geometry.memorySize r.geometry (own m) = .ok r) ∧
      (∀ (kind : Kind) (timestamp : UInt64) (payload : List UInt8),
        r.write (own m) kind timestamp payload
          = ((r.write m kind timestamp payload).1, own (r.write m kind timestamp payload).2)) ∧
      r.free (own m) = ((r.free m).1, own (r.free m).2) ∧
      ∀ (rd : Reader) (times : Nat → UInt64) (max c : Nat) (st : Stats),
        rd.poll (.ofReadings times) r max ⟨own m, c, st⟩
          = ((rd.poll (.ofReadings times) r max ⟨m, c, st⟩).1,
            (rd.poll (.ofReadings times) r max ⟨m, c, st⟩).2.onMemory own) := by
  have hdeclares := h.declares
  refine ⟨fun g => ⟨Declares.isSetUp_eq (r := ⟨base, g⟩) hdeclares, hdeclares.capacity_eq⟩, fun g hne => ?_, ?_⟩
  · refine ⟨attach_of_declares hdeclares hne, ?_, ?_⟩
    · rintro s region rfl rfl
      exact attach_region_of_declares hdeclares hne
    · rintro s name object size rfl hfind rfl
      exact openRing_of_declares hfind hdeclares hne
  · rintro r rfl
    exact ⟨fun hfits hbase => attach_setStoredCapacity hfits hbase (Nat.le_refl _),
      write_setStoredCapacity r m r.capacity, free_setStoredCapacity r m r.capacity,
      fun rd times max c st => poll_setStoredCapacity r r.capacity rd times max ⟨m, c, st⟩⟩

/-- A ring of 64 bytes that has been set up refuses a handle of 128 bytes, and a handle of 128 bytes from before does
what it does with its own capacity. -/
theorem capacity_compared_on_attach_sixty_four :
    let small : Geometry := ⟨64, .packed, by decide, by decide⟩
    let large : Geometry := ⟨128, .packed, by decide, by decide⟩
    let m := ((⟨0, small⟩ : Ring).setUp (Memory.zeros 160) ⟨"ring", by decide, by decide, by decide⟩).2
    let r : Ring := ⟨0, large⟩
    SetUpAt 0 small.capacity m ∧ attach 0 160 large m = .error (.capacityMismatch 128 64) ∧
      (r.write (r.setStoredCapacity m r.capacity) .hidInfo 5 []).1 = (r.write m .hidInfo 5 []).1 := by
  intro small large m r
  have hsetUp : SetUpAt 0 small.capacity m :=
    .setUp small _ (fits_zeros ⟨0, small⟩ (by decide)) (isSetUp_zeros ⟨0, small⟩ 160)
  obtain ⟨-, hlater, hearlier⟩ := capacity_compared_on_attach hsetUp
  obtain ⟨hattach, -, -⟩ := hlater large (by decide)
  obtain ⟨-, hwrite, -, -⟩ := hearlier r rfl
  exact ⟨hsetUp, (hattach 160).2 (by decide) rfl, by rw [hwrite .hidInfo 5 []]⟩

/-- Two handles attach to blank memory, one of 64 bytes and one of 128, and the ring is set up through the first.  A
write through the second succeeds, and moves the write offset. -/
theorem early_handle_writes :
    let small : Geometry := ⟨64, .packed, by decide, by decide⟩
    let large : Geometry := ⟨128, .packed, by decide, by decide⟩
    let m := ((⟨0, small⟩ : Ring).setUp (Memory.zeros 160) ⟨"ring", by decide, by decide, by decide⟩).2
    let r : Ring := ⟨0, large⟩
    attach 0 160 small (Memory.zeros 160) = .ok ⟨0, small⟩ ∧ attach 0 160 large (Memory.zeros 160) = .ok r ∧
      r.isSetUp m = true ∧ r.storedCapacity m = 64 ∧ (r.write m .hidInfo 0 []).1 = .done () ∧
      (r.write m .hidInfo 0 []).2.byteAt 0 ≠ m.byteAt 0 := by
  intro small large m r
  exact ⟨attach_of_unused (by decide) rfl (isSetUp_zeros ⟨0, small⟩ 160),
    attach_of_unused (by decide) rfl (isSetUp_zeros ⟨0, large⟩ 160),
    by decide +kernel, by decide +kernel, by decide +kernel, by decide +kernel⟩

end Ring

end EventRing
