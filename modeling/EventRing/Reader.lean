import EventRing.Layout
import EventRing.Ring.Consume

/-!
# The reader

A reader takes records off a ring, drops skip markers and report responses that are too old, and decodes the first
record that remains.  One poll looks only at what was published when it began.  Main definitions: `Reader.poll`,
`Reader.drain` (polls until the ring is empty and stops at the first error) and `Reader.pump` (polls until the ring is
empty and stops only at an error after which the ring cannot be read on).
-/

namespace EventRing

/-- Counters of what a reader has done with the records of a ring.  They need no bound: one of them goes up by one when
a record is taken off a ring, and at a record each nanosecond it takes five centuries to fill a word of 64 bits. -/
structure Stats where
  delivered : Nat
  staleDiscarded : Nat
  skipMarkers : Nat
  decodeFailures : Nat
deriving DecidableEq

namespace Stats

/-- All counters at zero. -/
def zero : Stats := ⟨0, 0, 0, 0⟩

/-- One more event delivered. -/
def countDelivered (s : Stats) : Stats := { s with delivered := s.delivered + 1 }

/-- One more report response discarded for its age. -/
def countStale (s : Stats) : Stats := { s with staleDiscarded := s.staleDiscarded + 1 }

/-- One more skip marker passed over. -/
def countSkip (s : Stats) : Stats := { s with skipMarkers := s.skipMarkers + 1 }

/-- One more record that could not be decoded. -/
def countFailure (s : Stats) : Stats := { s with decodeFailures := s.decodeFailures + 1 }

/-- The records that the counters account for. -/
def records (s : Stats) : Nat := s.delivered + s.staleDiscarded + s.skipMarkers + s.decodeFailures

/-- The counters as a JSON object. -/
def toJson (s : Stats) : Json :=
  .object [("delivered", .number s.delivered), ("stale_discarded", .number s.staleDiscarded),
    ("skip_markers", .number s.skipMarkers), ("decode_failures", .number s.decodeFailures)]

end Stats

/-- How a reader treats records: the layout of report payloads, and the age past which a report is dropped. -/
structure Reader where
  layout : Layout
  window : Duration
deriving DecidableEq

/-- The outcome of one poll. -/
inductive Poll where
  | empty
  | event (event : Event)
  | failed (error : Error)
  | halted
deriving DecidableEq

/-- Everything a poll may change: memory, the state of the clock, and the counters. -/
structure ReaderState (σ : Type) where
  memory : Memory
  clock : σ
  stats : Stats

/-- The outcome of a drain: the events of all polls, or the error of the last one. -/
inductive Drained where
  | events (events : List Event)
  | failed (error : Error)
  | halted
deriving DecidableEq

namespace Reader

/-- The age past which a report is dropped unless a reader is told otherwise. -/
def standardWindow : Duration := .ofMilliseconds 100

/-- The largest payload a destination takes unless a reader is told otherwise. -/
def standardMaxPayload : Nat := 0x2C8

/-- A reader with the standard window. -/
def ofLayout (layout : Layout) : Reader := ⟨layout, standardWindow⟩

/-- Whether a record is too old at the time `now`.  Only report responses age. -/
def isStaleAt (rd : Reader) (now : UInt64) (header : Header) : Bool :=
  header.kind = .getReport && rd.window.nanoseconds < (Duration.ofTicks (ticksBetween header.timestamp now)).nanoseconds

variable {σ : Type}

/-- Whether a record is too old, by the clock; the clock is asked only for report responses. -/
def isStale (rd : Reader) (clock : Clock σ) (s : ReaderState σ) (header : Header) : Option Bool × ReaderState σ :=
  if header.kind = .getReport then
    let reading := clock.ask s.clock s.memory
    (reading.time.map fun now => rd.isStaleAt now header,
      { s with memory := reading.memory, clock := reading.state })
  else (some false, s)

/-- What becomes of a record that has been found: it is dropped, it is fresh, or the poll ends with it. -/
inductive Fate (σ : Type) where
  | dropped (s : ReaderState σ)
  | fresh (s : ReaderState σ)
  | ended (poll : Poll) (s : ReaderState σ)

/-- Moves past a record that is not to be delivered and counts it. -/
def drop (r : Ring) (s : ReaderState σ) (found : Ring.Found) (stats : Stats) : Fate σ :=
  match r.advance s.memory found.span.toUInt64 with
  | (.error e, memory) => .ended (.failed (.framing e)) { s with memory }
  | (.ok (), memory) => .dropped { s with memory, stats }

/-- Drops a record that is a skip marker or too old. -/
def sift (rd : Reader) (clock : Clock σ) (r : Ring) (s : ReaderState σ) (found : Ring.Found) : Fate σ :=
  if found.header.kind = .skip then drop r s found s.stats.countSkip
  else
    match rd.isStale clock s found.header with
    | (none, s) => .ended .halted s
    | (some false, s) => .fresh s
    | (some true, s) => drop r s found s.stats.countStale

/-- Decodes the payload of a record for a destination of `max` bytes and counts the outcome. -/
def settle (rd : Reader) (max : Nat) (kind : Kind) (payload : List UInt8) (stats : Stats) : Poll × Stats :=
  match rd.layout.decode kind payload max with
  | .ok event => (.event event, stats.countDelivered)
  | .error e => (.failed (.decode e), stats.countFailure)

theorem settle_cases (rd : Reader) (max : Nat) (kind : Kind) (payload : List UInt8) (stats : Stats) :
    (∃ event, rd.settle max kind payload stats = (.event event, stats.countDelivered)) ∨
      ∃ e, rd.settle max kind payload stats = (.failed (.decode e), stats.countFailure) := by
  unfold settle
  split
  · exact .inl ⟨_, rfl⟩
  · exact .inr ⟨_, rfl⟩

/-- Takes a fresh record off the ring and decodes it. -/
def deliver (rd : Reader) (r : Ring) (max : Nat) (s : ReaderState σ) (found : Ring.Found) : Poll × ReaderState σ :=
  match r.payload s.memory found with
  | none => (.halted, s)
  | some payload =>
    match r.advance s.memory found.span.toUInt64 with
    | (.error e, memory) => (.failed (.framing e), { s with memory })
    | (.ok (), memory) =>
      let (poll, stats) := rd.settle max found.header.kind payload s.stats
      (poll, { s with memory, stats })

/-- Goes through the records in the first `published` bytes, of which `consumed` have been dealt with, until one is
delivered. -/
def scan (rd : Reader) (clock : Clock σ) (r : Ring) (max : Nat) (published consumed : UInt64) (s : ReaderState σ) :
    Poll × ReaderState σ :=
  if _hleft : consumed < published then
    match _hnext : r.next s.memory with
    | .failed e => (.failed (.framing e), s)
    | .halted => (.halted, s)
    | .done none => (.empty, s)
    | .done (some found) =>
      match rd.sift clock r s found with
      | .ended poll s => (poll, s)
      | .fresh s => rd.deliver r max s found
      | .dropped s =>
        match _hsum : Word.addLong? consumed found.span.toUInt64 with
        | none => (.halted, s)
        | some sum => scan rd clock r max published sum s
  else (.empty, s)
termination_by published.toNat - consumed.toNat
decreasing_by
  have hspan := Ring.span_pos _hnext
  have hlt := UInt64.lt_iff_toNat_lt.1 _hleft
  have hadd := Word.addLong?_eq_some_iff.1 _hsum
  rw [UInt32.toNat_toUInt64] at hadd
  omega

theorem scan_of_le {published consumed : UInt64} (rd : Reader) (clock : Clock σ) (r : Ring) (max : Nat)
    (s : ReaderState σ) (h : ¬ consumed < published) : rd.scan clock r max published consumed s = (.empty, s) := by
  rw [scan, dif_neg h]

theorem scan_of_failed {published consumed : UInt64} {s : ReaderState σ} {r : Ring} {e : FramingError} (rd : Reader)
    (clock : Clock σ) (max : Nat) (h : consumed < published) (hnext : r.next s.memory = .failed e) :
    rd.scan clock r max published consumed s = (.failed (.framing e), s) := by
  rw [scan, dif_pos h]
  split
  · next hsame =>
    rw [hnext] at hsame
    rw [Outcome.failed.inj hsame]
  all_goals next hother => rw [hnext] at hother; simp at hother

theorem scan_of_none {published consumed : UInt64} {s : ReaderState σ} {r : Ring} (rd : Reader) (clock : Clock σ)
    (max : Nat) (hnext : r.next s.memory = .done none) :
    rd.scan clock r max published consumed s = (.empty, s) := by
  by_cases h : consumed < published
  · rw [scan, dif_pos h]
    split
    · next hother => rw [hnext] at hother; simp at hother
    · next hother => rw [hnext] at hother; simp at hother
    · rfl
    · next hother => rw [hnext] at hother; simp at hother
  · exact scan_of_le rd clock r max s h

/-- One round of a scan, once the next record has been found. -/
theorem scan_of_found {published consumed : UInt64} {s : ReaderState σ} {r : Ring} {found : Ring.Found} (rd : Reader)
    (clock : Clock σ) (max : Nat) (h : consumed < published) (hnext : r.next s.memory = .done (some found)) :
    rd.scan clock r max published consumed s =
      match rd.sift clock r s found with
      | .ended poll s => (poll, s)
      | .fresh s => rd.deliver r max s found
      | .dropped s =>
        match Word.addLong? consumed found.span.toUInt64 with
        | none => (.halted, s)
        | some sum => rd.scan clock r max published sum s := by
  rw [scan, dif_pos h]
  split
  · next hother => rw [hnext] at hother; simp at hother
  · next hother => rw [hnext] at hother; simp at hother
  · next hother => rw [hnext] at hother; simp at hother
  · next found' hsame =>
    rw [hnext] at hsame
    obtain rfl := Option.some.inj (Outcome.done.inj hsame)
    cases rd.sift clock r s found with
    | ended poll s' => rfl
    | fresh s' => rfl
    | dropped s' =>
      dsimp only
      split <;> simp_all

/-- Fetches the next event for a destination of `max` bytes.  Records published during the poll are left for the next
one. -/
def poll (rd : Reader) (clock : Clock σ) (r : Ring) (max : Nat) (s : ReaderState σ) : Poll × ReaderState σ :=
  if r.isSetUp s.memory then
    match r.offsets s.memory with
    | .error e => (.failed (.framing e), s)
    | .ok (read, write) =>
      match r.occupancy read write with
      | none => (.halted, s)
      | some published => rd.scan clock r max published.toUInt64 0 s
  else (.empty, s)

theorem poll_of_error {s : ReaderState σ} {r : Ring} {e : FramingError} (rd : Reader) (clock : Clock σ) (max : Nat)
    (hset : r.isSetUp s.memory = true) (hoffsets : r.offsets s.memory = .error e) :
    rd.poll clock r max s = (.failed (.framing e), s) := by
  rw [poll, if_pos hset, hoffsets]

/-- A poll goes through what lies between the offsets. -/
theorem poll_eq_scan {s : ReaderState σ} {r : Ring} {published : UInt32} (rd : Reader) (clock : Clock σ) (max : Nat)
    (hset : r.isSetUp s.memory = true) (hr : (r.readOffset s.memory).toNat < r.capacity.toNat)
    (hw : (r.writeOffset s.memory).toNat < r.capacity.toNat)
    (hcount : r.occupancy (r.readOffset s.memory) (r.writeOffset s.memory) = some published) :
    rd.poll clock r max s = rd.scan clock r max published.toUInt64 0 s := by
  rw [poll, if_pos hset, Ring.offsets_eq_ok_iff.2 ⟨rfl, rfl, hr, hw⟩]
  dsimp only
  rw [hcount]

/-- At most `fuel` polls, until one finds the ring empty or fails. -/
def drainUpTo (rd : Reader) (clock : Clock σ) (r : Ring) (max : Nat) :
    Nat → ReaderState σ → Drained × ReaderState σ
  | 0, s => (.events [], s)
  | fuel + 1, s =>
    match rd.poll clock r max s with
    | (.empty, s) => (.events [], s)
    | (.failed e, s) => (.failed e, s)
    | (.halted, s) => (.halted, s)
    | (.event event, s) =>
      match drainUpTo rd clock r max fuel s with
      | (.events events, s) => (.events (event :: events), s)
      | (.failed e, s) => (.failed e, s)
      | (.halted, s) => (.halted, s)

/-- More polls than a ring can answer with an event: each one consumes a published byte, and fewer than the capacity are
published now and after each record that the clock still adds. -/
def pollBound (clock : Clock σ) (r : Ring) (s : ReaderState σ) : Nat :=
  r.capacity.toNat * (clock.pending s.clock + 1) + 1

theorem capacity_lt_pollBound (clock : Clock σ) (r : Ring) (s : ReaderState σ) :
    r.capacity.toNat < pollBound clock r s := by
  have hmul := Nat.le_mul_of_pos_right r.capacity.toNat (show 0 < clock.pending s.clock + 1 by omega)
  unfold pollBound
  omega

/-- Polls until the ring is empty.  The first error ends the drain. -/
def drain (rd : Reader) (clock : Clock σ) (r : Ring) (max : Nat) (s : ReaderState σ) : Drained × ReaderState σ :=
  rd.drainUpTo clock r max (pollBound clock r s) s

/-- At most `fuel` polls, until one finds the ring empty or the ring cannot be read on. -/
def pumpUpTo (rd : Reader) (clock : Clock σ) (r : Ring) (max : Nat) :
    Nat → ReaderState σ → List Poll × ReaderState σ
  | 0, s => ([], s)
  | fuel + 1, s =>
    match rd.poll clock r max s with
    | (.empty, s) => ([], s)
    | (.halted, s) => ([.halted], s)
    | (.event event, s) =>
      let (polls, s) := pumpUpTo rd clock r max fuel s
      (.event event :: polls, s)
    | (.failed e, s) =>
      if e.leavesRingUsable then
        let (polls, s) := pumpUpTo rd clock r max fuel s
        (.failed e :: polls, s)
      else ([.failed e], s)

/-- Polls until the ring is empty, passing over records that cannot be decoded.  An error after which the ring cannot
be read on comes last in the list. -/
def pump (rd : Reader) (clock : Clock σ) (r : Ring) (max : Nat) (s : ReaderState σ) : List Poll × ReaderState σ :=
  rd.pumpUpTo clock r max (pollBound clock r s) s

end Reader

end EventRing
