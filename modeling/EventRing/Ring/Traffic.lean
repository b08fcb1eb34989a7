import EventRing.Reader
import EventRing.Ring.Produce
import EventRing.Ring.Queue

/-!
# Traffic on a ring

What producer and consumer do to a ring over time.  `Ring.Reachable` is the memory that honest traffic leads to: a ring
is set up once and then only written, read, drained and freed.  `Clock.producing` is a producer that runs while a
reader asks for the time; it keeps a record of the entries it adds.  Main statements: `reachable_zeros` (blank
memory can be set up) and `size_write` (writing does not change the extent of memory).
-/

namespace EventRing

/-- A record that a producer is about to write. -/
structure Submission where
  kind : Kind
  timestamp : UInt64
  payload : List UInt8
deriving DecidableEq

/-- The entry that a submission becomes. -/
def Submission.entry (s : Submission) : Entry := ⟨s.kind.tag, s.timestamp, s.payload⟩

/-- The header and payload that are written are the bytes of the entry. -/
theorem Submission.encode_entry (s : Submission) (f : HeaderFormat) :
    s.entry.encode f = (⟨s.kind, s.timestamp, UInt64.ofNat s.payload.length⟩ : Header).encode f ++ s.payload := by
  simp [Submission.entry, Entry.encode, Entry.header, Header.encode]

namespace Ring

/-- The entries that writing a submission adds to a ring: none if the write fails, and otherwise its own, behind a skip
marker over the bytes up to the end of the data area if the record is moved. -/
def additions (r : Ring) (m : Memory) (s : Submission) : List Entry :=
  match r.place m s.payload.length with
  | .failed _ => []
  | .halted => []
  | .done p =>
    match p.pad with
    | none => [s.entry]
    | some (offset, size) =>
      [⟨Kind.skipTag, s.timestamp, m.read (r.dataAt (offset + r.headerSize.toNat)) size⟩, s.entry]

theorem additions_of_failed {r : Ring} {m : Memory} {s : Submission} {e : SharedMemoryError}
    (h : r.place m s.payload.length = .failed e) : r.additions m s = [] := by
  rw [additions, h]

theorem additions_of_halted {r : Ring} {m : Memory} {s : Submission} (h : r.place m s.payload.length = .halted) :
    r.additions m s = [] := by
  rw [additions, h]

/-- Writes one submission after the other, also after one that fails.  Tells whether one halted, which ends the writing,
and which entries have been added. -/
def writeEach (r : Ring) (m : Memory) : List Submission → Bool × List Entry × Memory
  | [] => (false, [], m)
  | s :: more =>
    match r.write m s.kind s.timestamp s.payload with
    | (.halted, after) => (true, [], after)
    | (_, after) =>
      let (halted, added, last) := writeEach r after more
      (halted, r.additions m s ++ added, last)

/-- One use of a ring by its producer or its consumer.  A reader comes with the times that its clock shows. -/
inductive Use where
  | write (submission : Submission)
  | poll (reader : Reader) (times : Nat → UInt64) (max : Nat)
  | drain (reader : Reader) (times : Nat → UInt64) (max : Nat)
  | free

/-- Memory after a use of the ring. -/
def use (r : Ring) (m : Memory) : Use → Memory
  | .write s => (r.write m s.kind s.timestamp s.payload).2
  | .poll reader times max => (reader.poll (.ofReadings times) r max ⟨m, 0, .zero⟩).2.memory
  | .drain reader times max => (reader.drain (.ofReadings times) r max ⟨m, 0, .zero⟩).2.memory
  | .free => (r.free m).2

/-- The memory that honest traffic on a ring leads to. -/
inductive Reachable (r : Ring) : Memory → Prop where
  | setUp {m : Memory} (name : RingName) (fits : r.base + r.geometry.memorySize ≤ m.size)
      (unused : r.isSetUp m = false) : Reachable r (r.setUp m name).2
  | use {m : Memory} (u : Use) (before : Reachable r m) : Reachable r (r.use m u)

theorem isSetUp_zeros (r : Ring) (n : Nat) : r.isSetUp (Memory.zeros n) = false := by
  rw [isSetUp, Memory.word_zeros]
  rfl

/-- Blank memory is ready for a ring. -/
theorem reachable_zeros (r : Ring) (name : RingName) {n : Nat} (h : r.base + r.geometry.memorySize ≤ n) :
    r.Reachable (r.setUp (Memory.zeros n) name).2 :=
  .setUp name (by rw [Memory.size_zeros]; exact h) (r.isSetUp_zeros n)

theorem size_commit (r : Ring) (m : Memory) (p : Placement) (kind : Kind) (timestamp : UInt64) (payload : List UInt8) :
    (r.commit m p kind timestamp payload).size = m.size := by
  unfold commit
  cases p.pad <;> simp only [setWriteOffset, putHeader, Memory.size_setWord, Memory.size_blit]

theorem size_write (r : Ring) (m : Memory) (kind : Kind) (timestamp : UInt64) (payload : List UInt8) :
    (r.write m kind timestamp payload).2.size = m.size := by
  cases h : r.place m payload.length with
  | failed e => rw [write_of_place_failed h]
  | halted => rw [write_of_place_halted h]
  | done p =>
    rw [write_of_place_done h]
    dsimp only
    rw [size_commit]

end Ring

/-- A producer that runs while a reader polls: what it has still to write, batch by batch, and the entries it has added
to the ring. -/
structure Production where
  batches : List (List Submission)
  added : List Entry

namespace Clock

/-- The clock that always shows the same time, and before it does so lets a producer write the next batch of records.
It shows no time if the producer halts. -/
def producing (r : Ring) (time : UInt64) : Clock Production where
  ask p m :=
    match p.batches with
    | [] => ⟨some time, p, m⟩
    | batch :: more =>
      let (halted, added, m) := r.writeEach m batch
      ⟨if halted then none else some time, ⟨more, p.added ++ added⟩, m⟩
  pending p := p.batches.flatten.length

end Clock

end EventRing
