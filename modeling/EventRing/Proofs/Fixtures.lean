import EventRing.Fixture
import EventRing.Proofs.Acceptance
import EventRing.Proofs.Commutation
import EventRing.Proofs.Fifo
import EventRing.Proofs.Staleness

/-!
# Rows of equal records

A ring that is filled with equal records from the start of the data area on, and then drained.  `Row` is the invariant
of both loops: of `n` such records, the first `k` have been taken off.  No record of a row is ever moved, so a ring has
room for `Ring.mostRecords` of them.

Main statements: `Row.write` and `Row.refused` (which record is the first that does not go in), `Row.fill` (the loop
that writes), `Row.poll` (what one poll does to a row), `Row.drain_events`, `Row.drain_stale` and `Row.drain_fails` (the
three ways in which a drain of a row ends), and `filled_and_drained`, on a fixture as a whole.
-/

namespace EventRing

/-- How many records with `n` payload bytes a ring takes that has just been set up. -/
def Ring.mostRecords (r : Ring) (n : Nat) : Nat :=
  (r.capacity.toNat - r.headerSize.toNat) / (r.headerSize.toNat + n)

namespace Fixture

/-- Of `n` equal records that have been written from the start of the data area on, the first `k` have been taken
off. -/
structure Row (r : Ring) (e : Entry) (k n : Nat) (m : Memory) : Prop where
  le : k ≤ n
  intact : r.Intact m (List.replicate (n - k) e)
  readOffset_eq : (r.readOffset m).toNat = k * r.span e
  writeOffset_eq : (r.writeOffset m).toNat = n * r.span e

variable {r : Ring} {e : Entry} {k k' n : Nat} {m : Memory}

/-- As many records as there is room for, with a header to spare. -/
theorem lt_mostRecords_iff : k < r.mostRecords n ↔
    (k + 1) * (r.headerSize.toNat + n) + r.headerSize.toNat ≤ r.capacity.toNat := by
  have hpos := r.headerSize_pos
  have hheader := r.headerSize_lt_capacity
  rw [Ring.mostRecords, Nat.lt_iff_add_one_le, Nat.le_div_iff_mul_le (by omega)]
  omega

theorem spans_replicate (r : Ring) (e : Entry) (n : Nat) : r.spans (List.replicate n e) = n * r.span e := by
  induction n with
  | zero => rw [Nat.zero_mul]; rfl
  | succ n ih => rw [List.replicate_succ, Ring.spans, ih, Nat.succ_mul, Nat.add_comm]

/-! ### Filling -/

theorem Row.of_start (h : r.Intact m (List.replicate n e)) (hstart : r.readOffset m = 0) : Row r e 0 n m := by
  refine ⟨Nat.zero_le n, h, ?_, ?_⟩
  · rw [hstart, Nat.zero_mul, UInt32.toNat_zero]
  · rw [h.writeOffset_of_start hstart, spans_replicate]

theorem Row.readOffset_zero (h : Row r e 0 n m) : r.readOffset m = 0 := by
  have hread := h.readOffset_eq
  rw [Nat.zero_mul] at hread
  exact UInt32.toNat_inj.1 hread

/-- A record for which there is room goes behind the row. -/
theorem Row.write {s : Submission} (h : Row r s.entry 0 n m) (hroom : n < r.mostRecords s.payload.length) :
    ∃ m', r.write m s.kind s.timestamp s.payload = (.done (), m') ∧ Row r s.entry 0 (n + 1) m' := by
  have hspan : r.span s.entry = r.headerSize.toNat + s.payload.length := rfl
  have hfits := lt_mostRecords_iff.1 hroom
  rw [Nat.succ_mul, ← hspan] at hfits
  have hspans : r.spans (List.replicate (n - 0) s.entry) = n * r.span s.entry := spans_replicate r s.entry n
  obtain ⟨hdone, hintact⟩ := h.intact.write_from_start h.readOffset_zero s (by omega)
  rw [Nat.sub_zero, ← List.replicate_succ'] at hintact
  exact ⟨_, Prod.ext hdone rfl, .of_start hintact ((r.readOffset_write m _ _ _).trans h.readOffset_zero)⟩

/-- A record for which there is no room behind the row is refused. -/
theorem Row.refused {s : Submission} (h : Row r s.entry 0 n m) (hcap : 2 * r.headerSize.toNat ≤ r.capacity.toNat)
    (hfull : ¬ n < r.mostRecords s.payload.length) :
    ∃ e, r.write m s.kind s.timestamp s.payload = (.failed e, m) := by
  have hspan : r.span s.entry = r.headerSize.toNat + s.payload.length := rfl
  have hover := mt lt_mostRecords_iff.2 hfull
  rw [Nat.succ_mul, ← hspan] at hover
  have hfailed : ∃ e, r.place m s.payload.length = .failed e := by
    by_cases hlong : r.capacity.toNat < s.payload.length + 2 * r.headerSize.toNat
    · have hanswer : (r.write m s.kind s.timestamp s.payload).1 = r.emptyAnswer 0 s.payload.length :=
        h.intact.write_too_large hlong 0
      rw [Ring.emptyAnswer_of_lt hlong, if_neg (Nat.not_lt.2 hcap)] at hanswer
      split at hanswer
      · exact ⟨_, Ring.write_eq_failed_iff.1 hanswer⟩
      · exact ⟨_, Ring.write_eq_failed_iff.1 hanswer⟩
    · have hplace := h.intact.place_from_start h.readOffset_zero (Nat.not_lt.1 hlong)
      rw [spans_replicate, Nat.sub_zero, if_neg (by omega)] at hplace
      exact ⟨_, hplace⟩
  obtain ⟨e, hplace⟩ := hfailed
  exact ⟨e, Ring.write_of_place_failed hplace s.kind s.timestamp⟩

section Rounds

variable {timestamp : UInt64} {payload : List UInt8} {count written : Nat} {after m' : Memory}
  {failure : SharedMemoryError}

theorem fill_of_done (hwrite : r.write m .getReport timestamp payload = (.done (), after))
    (hrest : fill r timestamp payload count after = (.done written, m')) :
    fill r timestamp payload (count + 1) m = (.done (written + 1), m') := by
  rw [fill, hwrite]
  dsimp only
  rw [hrest]

theorem fill_of_failed (hwrite : r.write m .getReport timestamp payload = (.failed failure, after)) :
    fill r timestamp payload (count + 1) m = (.done 0, after) := by
  rw [fill, hwrite]

/-- **Filling** goes on until all records are written or the next one does not go in. -/
theorem Row.fill (hcap : 2 * r.headerSize.toNat ≤ r.capacity.toNat)
    (h : Row r (Submission.entry ⟨.getReport, timestamp, payload⟩) 0 n m) (count : Nat) :
    ∃ m', Fixture.fill r timestamp payload count m = (.done (min count (r.mostRecords payload.length - n)), m') ∧
      Row r (Submission.entry ⟨.getReport, timestamp, payload⟩) 0
        (n + min count (r.mostRecords payload.length - n)) m' := by
  induction count generalizing n m with
  | zero =>
    rw [Nat.zero_min]
    exact ⟨m, rfl, h⟩
  | succ count ih =>
    by_cases hroom : n < r.mostRecords payload.length
    · obtain ⟨after, hwrite, hnext⟩ := h.write hroom
      obtain ⟨m', hfill, hrow⟩ := ih hnext
      have hmin : min (count + 1) (r.mostRecords payload.length - n)
          = min count (r.mostRecords payload.length - (n + 1)) + 1 := by omega
      rw [hmin]
      exact ⟨m', fill_of_done hwrite hfill, by rw [← Nat.add_assoc, Nat.add_right_comm]; exact hrow⟩
    · obtain ⟨e, hrefused⟩ := h.refused hcap hroom
      have hmin : min (count + 1) (r.mostRecords payload.length - n) = 0 := by omega
      rw [hmin]
      exact ⟨m, fill_of_failed hrefused, h⟩

end Rounds

/-! ### Draining -/

variable {rd : Reader} {max : Nat} {time : UInt64} {s : ReaderState Unit} {p : Poll} {st : Stats} {event : Event}

/-- What a poll does to a row is what it takes from the queue. -/
theorem Row.poll (h : Row r e k n s.memory) (hle : k ≤ k') (hle' : k' ≤ n)
    (htake : rd.takeAt max time (List.replicate (n - k) e) s.stats = (p, List.replicate (n - k') e, st)) :
    ∃ m', rd.poll (.fixed time) r max s = (p, ⟨m', (), st⟩) ∧ Row r e k' n m' := by
  obtain ⟨times, passed, rest, new, sweep⟩ :=
    Reader.poll_sweep rd max (Clock.addsTo_of_quiet (Clock.quiet_fixed r time)) h.intact
  have htaken := sweep.takes.takeAt_eq (sweep.shows.eq_of_same (Clock.time_fixed time))
  have hwrite := (Ring.readMoved_poll (r := r) rd max time s).onlyReadOffset.writeOffset_eq
  have hintact := sweep.intact
  have hoffset := sweep.offset
  have hspans := congrArg r.spans sweep.split
  have hnew : new = [] := by simpa using sweep.log_eq.symm
  rcases hpoll : rd.poll (.fixed time) r max s with ⟨p', m', c, st'⟩
  rw [hpoll] at htaken hwrite hintact hoffset
  rw [htake, Prod.mk.injEq, Prod.mk.injEq] at htaken
  obtain ⟨rfl, rfl, rfl⟩ := htaken
  rw [hnew, List.append_nil, List.append_nil] at hintact
  rw [Ring.spans_append, spans_replicate, spans_replicate, Nat.sub_mul, Nat.sub_mul] at hspans
  -- The offset never wraps, as no record of the row reaches the end of the data area.
  have hfirst : k * r.span e ≤ k' * r.span e := Nat.mul_le_mul_right _ hle
  have hlast : k' * r.span e ≤ n * r.span e := Nat.mul_le_mul_right _ hle'
  have hlt := h.intact.write_lt
  rw [h.writeOffset_eq] at hlt
  have hpassed : (r.readOffset s.memory).toNat + r.spans passed = k' * r.span e := by
    rw [h.readOffset_eq]
    omega
  rw [hpassed, Nat.mod_eq_of_lt (by omega)] at hoffset
  exact ⟨m', rfl, hle', hintact, hoffset, by rw [hwrite, h.writeOffset_eq]⟩

/-- A poll of a row that has been taken off finds nothing. -/
theorem Row.poll_end (h : Row r e n n s.memory) (rd : Reader) (max : Nat) (time : UInt64) :
    ∃ m', rd.poll (.fixed time) r max s = (.empty, ⟨m', (), s.stats⟩) ∧ Row r e n n m' :=
  h.poll (Nat.le_refl n) (Nat.le_refl n) (by rw [Nat.sub_self]; rfl)

/-- A drain of a row that has been taken off finds nothing. -/
theorem Row.drain_end (h : Row r e n n s.memory) (rd : Reader) (max : Nat) (time : UInt64) :
    (rd.drain (.fixed time) r max s).1 = .events [] ∧ (rd.drain (.fixed time) r max s).2.stats = s.stats := by
  obtain ⟨m', hpoll, -⟩ := h.poll_end rd max time
  rw [Reader.drain, Reader.pollBound, Reader.drainUpTo, hpoll]
  exact ⟨rfl, rfl⟩

/-- A poll of a row of fresh records takes the first. -/
theorem Row.poll_fresh (h : Row r e k n s.memory) (hlt : k < n) (marker : e.tag ≠ Kind.skipTag)
    (fresh : rd.isStaleAt time e.header = false) (max : Nat) :
    ∃ m', rd.poll (.fixed time) r max s = ((rd.settle max e.header.kind e.payload s.stats).1,
      ⟨m', (), (rd.settle max e.header.kind e.payload s.stats).2⟩) ∧ Row r e (k + 1) n m' := by
  refine h.poll (Nat.le_succ k) hlt ?_
  have hnext : n - k = n - (k + 1) + 1 := by omega
  rw [hnext, List.replicate_succ, Reader.takeAt, if_neg marker, if_neg (by simp [fresh])]

/-- What a poll at one time takes from stale records: nothing, and all of them are counted. -/
theorem takeAt_stale (marker : e.tag ≠ Kind.skipTag) (stale : rd.isStaleAt time e.header = true) (max n : Nat)
    (st : Stats) :
    rd.takeAt max time (List.replicate n e) st = (.empty, [], { st with staleDiscarded := st.staleDiscarded + n }) := by
  induction n generalizing st with
  | zero => rfl
  | succ n ih =>
    rw [List.replicate_succ, Reader.takeAt, if_neg marker, if_pos stale, ih, Stats.countStale]
    simp only [Nat.add_assoc, Nat.add_comm 1 n]

/-- **A drain of a row of stale records** hands nothing over and leaves nothing. -/
theorem Row.drain_stale (h : Row r e k n s.memory) (marker : e.tag ≠ Kind.skipTag)
    (stale : rd.isStaleAt time e.header = true) (max : Nat) :
    ∃ m', rd.drain (.fixed time) r max s =
      (.events [], ⟨m', (), { s.stats with staleDiscarded := s.stats.staleDiscarded + (n - k) }⟩) ∧ Row r e n n m' := by
  obtain ⟨m', hpoll, hrow⟩ := h.poll h.le (Nat.le_refl n)
    (by rw [takeAt_stale marker stale max, Nat.sub_self, List.replicate_zero])
  refine ⟨m', ?_, hrow⟩
  rw [Reader.drain, Reader.pollBound, Reader.drainUpTo, hpoll]

/-- A drain of a row of fresh records that can be decoded, with enough polls. -/
theorem Row.drainUpTo_events (h : Row r e k n s.memory) (marker : e.tag ≠ Kind.skipTag)
    (fresh : rd.isStaleAt time e.header = false) (hdecode : rd.layout.decode e.header.kind e.payload max = .ok event)
    {fuel : Nat} (hfuel : n - k < fuel) :
    ∃ m', rd.drainUpTo (.fixed time) r max fuel s =
      (.events (List.replicate (n - k) event), ⟨m', (), { s.stats with delivered := s.stats.delivered + (n - k) }⟩) ∧
        Row r e n n m' := by
  induction fuel generalizing k s with
  | zero => exact absurd hfuel (Nat.not_lt_zero _)
  | succ fuel ih =>
    rw [Reader.drainUpTo]
    rcases Nat.eq_or_lt_of_le h.le with rfl | hlt
    · obtain ⟨m', hpoll, hrow⟩ := h.poll_end rd max time
      rw [hpoll, Nat.sub_self]
      exact ⟨m', rfl, hrow⟩
    · obtain ⟨m', hpoll, hrow⟩ := h.poll_fresh hlt marker fresh max
      rw [Reader.settle, hdecode] at hpoll
      obtain ⟨m'', hdrain, hrow'⟩ := ih (s := ⟨m', (), s.stats.countDelivered⟩) hrow (by omega)
      refine ⟨m'', ?_, hrow'⟩
      rw [hpoll]
      dsimp only
      rw [hdrain, show n - k = n - (k + 1) + 1 by omega, List.replicate_succ]
      simp only [Stats.countDelivered, Nat.add_assoc, Nat.add_comm 1]

/-- **A drain of a row of fresh records** that can be decoded hands as many equal events over and leaves nothing. -/
theorem Row.drain_events (h : Row r e k n s.memory) (marker : e.tag ≠ Kind.skipTag)
    (fresh : rd.isStaleAt time e.header = false) (hdecode : rd.layout.decode e.header.kind e.payload max = .ok event) :
    ∃ m', rd.drain (.fixed time) r max s =
      (.events (List.replicate (n - k) event), ⟨m', (), { s.stats with delivered := s.stats.delivered + (n - k) }⟩) ∧
        Row r e n n m' := by
  have hlen := r.length_le_spans (List.replicate (n - k) e)
  have hlt := h.intact.spans_lt
  have hbound := Reader.capacity_lt_pollBound (.fixed time) r s
  rw [List.length_replicate] at hlen
  exact h.drainUpTo_events marker fresh hdecode (by omega)

/-- **A drain of a row of fresh records that cannot be decoded** takes the first off and fails. -/
theorem Row.drain_fails {failure : DecodeError} (h : Row r e k n s.memory) (hlt : k < n) (marker : e.tag ≠ Kind.skipTag)
    (fresh : rd.isStaleAt time e.header = false)
    (hdecode : rd.layout.decode e.header.kind e.payload max = .error failure) :
    ∃ m', rd.drain (.fixed time) r max s = (.failed (.decode failure), ⟨m', (), s.stats.countFailure⟩) ∧
      Row r e (k + 1) n m' := by
  obtain ⟨m', hpoll, hrow⟩ := h.poll_fresh hlt marker fresh max
  rw [Reader.settle, hdecode] at hpoll
  refine ⟨m', ?_, hrow⟩
  rw [Reader.drain, Reader.pollBound, Reader.drainUpTo, hpoll]

theorem Row.isEmpty (h : Row r e n n m) : r.isEmpty m = true := by
  have hintact := h.intact
  rw [Nat.sub_self] at hintact
  exact hintact.isEmpty_nil

/-! ### Fixtures -/

/-- A report response of a fixture, with `size` report bytes. -/
def aged (age : UInt64) (size : Nat) : Submission := ⟨.getReport, now - age, payload size⟩

variable {age : UInt64} {size : Nat}

theorem length_payload (size : Nat) : (payload size).length = 8 + size := by
  rw [payload, List.length_append, List.length_replicate]
  rfl

theorem span_aged (r : Ring) (age : UInt64) (size : Nat) :
    r.span (aged age size).entry = r.headerSize.toNat + 8 + size := by
  rw [Ring.span, aged, Submission.entry, length_payload, Nat.add_assoc]

/-- A reader with the standard window drops the reports that are more than 100 milliseconds old. -/
theorem isStaleAt_aged (layout : Layout) (size : Nat) (hage : age ≤ now) :
    (Reader.ofLayout layout).isStaleAt now (aged age size).entry.header = true ↔ 100000000 < age.toNat := by
  have hle := UInt64.le_iff_toNat_le.1 hage
  have hstamp : (aged age size).entry.header.timestamp.toNat = now.toNat - age.toNat := UInt64.toNat_sub_of_le _ _ hage
  have hwindow : (Reader.ofLayout layout).window.nanoseconds = 100000000 := rfl
  rw [Reader.isStaleAt_iff, hstamp, hwindow]
  exact ⟨fun h => by omega, fun h => ⟨rfl, by omega⟩⟩

/-- A fixture ring is always made, and it is empty. -/
theorem ring_eq (geometry : Geometry) (e : Entry) :
    ∃ m, ring geometry = .ok (⟨0, geometry⟩, m) ∧ Row ⟨0, geometry⟩ e 0 0 m := by
  have hunused := Ring.isSetUp_zeros ⟨0, geometry⟩ geometry.memorySize
  have hfits : Ring.Fits ⟨0, geometry⟩ (Memory.zeros geometry.memorySize) :=
    Ring.fits_zeros ⟨0, geometry⟩ (Nat.le_of_eq (Nat.zero_add _))
  refine ⟨(Ring.setUp ⟨0, geometry⟩ (Memory.zeros geometry.memorySize) ringName).2, ?_,
    .of_start (Ring.intact_setUp ringName hfits hunused) (Ring.readOffset_setUp ringName hfits hunused)⟩
  rw [ring, Ring.attach_unused (Nat.le_refl _) rfl hunused]
  dsimp only
  rw [Ring.setUp_unused ringName hunused]

/-- Filling a fixture ring with reports of one age. -/
theorem Row.fillAged (h : Row r (aged age size).entry 0 0 m) (hcap : 2 * r.headerSize.toNat ≤ r.capacity.toNat)
    (hage : age ≤ now) (count : Nat) :
    ∃ m', Fixture.fillAged r m count size age = (.done (min count (r.mostRecords (8 + size))), m') ∧
      Row r (aged age size).entry 0 (min count (r.mostRecords (8 + size))) m' := by
  obtain ⟨m', hfill, hrow⟩ := Row.fill hcap h count
  rw [length_payload, Nat.sub_zero] at hfill hrow
  rw [Nat.zero_add] at hrow
  by_cases hnone : count = 0
  · subst hnone
    rw [Nat.zero_min]
    exact ⟨m, rfl, h⟩
  · rw [Fixture.fillAged, if_neg hnone, if_neg (UInt64.not_lt.2 hage)]
    exact ⟨m', hfill, hrow⟩

/-- **A fixture that is filled and drained.** Take any accepted geometry with room for two headers, any number of
reports, any length and any age that has passed.  As many reports go in as leave room for a header behind them, and they
stand in a row from offset 0.  A drain at the time of the fixture, with the standard window, then drops all of them if
they are more than 100 milliseconds old.  Otherwise it hands as many equal events over and leaves nothing, if the
payload can be decoded; and if not, it takes one report off and fails, unless there is none. -/
theorem filled_and_drained {capacity : UInt32} {format : HeaderFormat} {geometry : Geometry}
    (haccepted : Geometry.ofCapacity capacity format = .ok geometry) (hcap : 2 * format.size.toNat ≤ capacity.toNat)
    (hage : age ≤ now) (count size : Nat) (layout : Layout) (max : Nat) (st : Stats) :
    ∃ r blank, ring geometry = .ok (r, blank) ∧
      let span := format.size.toNat + 8 + size
      let n := min count ((capacity.toNat - format.size.toNat) / span)
      let filled := fillAged r blank count size age
      let drained := (Reader.ofLayout layout).drain (.fixed now) r max ⟨filled.2, (), st⟩
      (filled.1 = .done n ∧ (r.readOffset filled.2).toNat = 0 ∧ (r.writeOffset filled.2).toNat = n * span) ∧
      (100000000 < age.toNat → drained.1 = .events [] ∧ r.isEmpty drained.2.memory = true ∧
        drained.2.stats = { st with staleDiscarded := st.staleDiscarded + n }) ∧
      (age.toNat ≤ 100000000 → ∀ event, layout.decodeReport (payload size) max = .ok event →
        drained.1 = .events (List.replicate n event) ∧ r.isEmpty drained.2.memory = true ∧
          drained.2.stats = { st with delivered := st.delivered + n }) ∧
      (age.toNat ≤ 100000000 → ∀ e, layout.decodeReport (payload size) max = .error e →
        (n = 0 → drained.1 = .events [] ∧ drained.2.stats = st) ∧
        (0 < n → drained.1 = .failed (.decode e) ∧ (r.readOffset drained.2.memory).toNat = span ∧
          (r.writeOffset drained.2.memory).toNat = n * span ∧
          drained.2.stats = { st with decodeFailures := st.decodeFailures + 1 })) := by
  obtain ⟨-, -, rfl, rfl⟩ := Geometry.ofCapacity_eq_ok_iff.1 haccepted
  obtain ⟨blank, hring, hblank⟩ := ring_eq geometry (aged age size).entry
  obtain ⟨m, hfill, hrow⟩ := hblank.fillAged hcap hage count
  refine ⟨⟨0, geometry⟩, blank, hring, ?_⟩
  intro span n filled drained
  have hspan : Ring.span ⟨0, geometry⟩ (aged age size).entry = span := span_aged _ age size
  have hmost : min count (Ring.mostRecords ⟨0, geometry⟩ (8 + size)) = n := by
    rw [Ring.mostRecords, ← Nat.add_assoc]
    rfl
  rw [hmost] at hfill hrow
  have hfilled : filled = (.done n, m) := hfill
  have hmarker : (aged age size).entry.tag ≠ Kind.skipTag := Reader.unmarked_of_report rfl
  have hstale := isStaleAt_aged layout size hage
  have hfresh : age.toNat ≤ 100000000 → (Reader.ofLayout layout).isStaleAt now (aged age size).entry.header = false :=
    fun hyoung => Bool.eq_false_iff.2 fun hold => Nat.not_lt.2 hyoung (hstale.1 hold)
  clear_value filled n span
  subst hfilled
  refine ⟨⟨rfl, ?_, ?_⟩, ?_, ?_, ?_⟩
  · rw [hrow.readOffset_eq, Nat.zero_mul]
  · rw [hrow.writeOffset_eq, hspan]
  · intro hold
    obtain ⟨m', hdrain, hdrained⟩ := Row.drain_stale (s := ⟨m, (), st⟩) hrow hmarker (hstale.2 hold) max
    have hresult : drained = _ := hdrain
    rw [hresult]
    exact ⟨rfl, hdrained.isEmpty, rfl⟩
  · intro hyoung event hdecode
    obtain ⟨m', hdrain, hdrained⟩ :=
      Row.drain_events (s := ⟨m, (), st⟩) hrow hmarker (hfresh hyoung) hdecode
    have hresult : drained = _ := hdrain
    rw [hresult]
    exact ⟨rfl, hdrained.isEmpty, rfl⟩
  · intro hyoung e hdecode
    refine ⟨?_, fun hsome => ?_⟩
    · rintro rfl
      exact hrow.drain_end (s := ⟨m, (), st⟩) (Reader.ofLayout layout) max now
    · obtain ⟨m', hdrain, hdrained⟩ :=
        Row.drain_fails (s := ⟨m, (), st⟩) hrow hsome hmarker (hfresh hyoung) hdecode
      have hresult : drained = _ := hdrain
      rw [hresult]
      refine ⟨rfl, ?_, ?_, rfl⟩
      · rw [hdrained.readOffset_eq, hspan, Nat.zero_add, Nat.one_mul]
      · rw [hdrained.writeOffset_eq, hspan]

/-- Into 120 bytes, reports with 26 bytes go twice, and a destination of 16 bytes refuses the first. -/
theorem filled_and_drained_twice :
    let geometry : Geometry := ⟨120, .packed, by decide, by decide⟩
    (Geometry.ofCapacity 120 .packed = .ok geometry ∧ 2 * HeaderFormat.packed.size.toNat ≤ (120 : UInt32).toNat ∧
      (5 : UInt64) ≤ now) ∧
    ∃ r blank, ring geometry = .ok (r, blank) ∧ (fillAged r blank 9 26 5).1 = .done 2 ∧
      ((Reader.ofLayout .compact).drain (.fixed now) r 16 ⟨(fillAged r blank 9 26 5).2, (), .zero⟩).1 =
        .failed (.decode (.bufferTooSmall 26 16)) := by
  intro geometry
  have haccepted : Geometry.ofCapacity 120 .packed = .ok geometry :=
    Geometry.ofCapacity_eq_ok_iff.2 ⟨by decide, by decide, rfl, rfl⟩
  have hcap : 2 * HeaderFormat.packed.size.toNat ≤ (120 : UInt32).toNat := by decide
  have hage : (5 : UInt64) ≤ now := by decide
  obtain ⟨r, blank, hring, ⟨hfilled, -, -⟩, -, -, hrefused⟩ :=
    filled_and_drained haccepted hcap hage 9 26 .compact 16 .zero
  exact ⟨⟨haccepted, hcap, hage⟩, r, blank, hring, hfilled, ((hrefused (by decide) _ rfl).2 (by decide)).1⟩

end Fixture

end EventRing
