import EventRing.Proofs.Placement
import EventRing.Proofs.Polling

/-!
# Honest traffic

A ring that is set up once and then only written, polled, drained and freed stays intact.  Each use is one lemma
(`Intact.write`, `Intact.poll`, `Intact.drain`, `Intact.free`), and `Reachable.intact` follows by induction.  Clocks
that leave a ring alone (`Clock.addsTo_of_quiet`) and clocks that let a producer run (`Clock.addsTo_producing`) both
keep it intact while they are asked.  A pump under a clock that leaves the ring alone empties it (`Intact.pump`).

Main statement: `Reachable.invariant` (where the offsets of such a ring stand, how its unread bytes are made up of
records, and that no use of it halts or finds it corrupt).
-/

namespace EventRing

/-! ### Clocks -/

theorem Ring.Intact.writeEach {r : Ring} {m : Memory} {q : List Entry} (h : r.Intact m q)
    (hcap : 2 * r.headerSize.toNat ≤ r.capacity.toNat) (batch : List Submission) :
    ∃ added m', r.writeEach m batch = (false, added, m') ∧ r.Intact m' (q ++ added) ∧
      r.readOffset m' = r.readOffset m := by
  induction batch generalizing m q with
  | nil => exact ⟨[], m, rfl, by rw [List.append_nil]; exact h, rfl⟩
  | cons s batch ih =>
    have hwritten := h.write s
    have hread := r.readOffset_write m s.kind s.timestamp s.payload
    have hhalt : (r.write m s.kind s.timestamp s.payload).1 ≠ .halted := h.write_ne_halted hcap s
    rcases hwrite : r.write m s.kind s.timestamp s.payload with ⟨outcome, after⟩
    rw [hwrite] at hwritten hread hhalt
    obtain ⟨added, m', hrest, hintact, hread'⟩ := ih hwritten
    refine ⟨r.additions m s ++ added, m', ?_, by rw [← List.append_assoc]; exact hintact, hread'.trans hread⟩
    rw [Ring.writeEach, hwrite]
    cases outcome with
    | halted => exact absurd rfl hhalt
    | done _ => dsimp only; rw [hrest]
    | failed _ => dsimp only; rw [hrest]

namespace Clock

/-- A quiet clock adds nothing. -/
theorem addsTo_of_quiet {σ : Type} {clock : Clock σ} {r : Ring} (quiet : clock.Quiet r) :
    clock.AddsTo r fun _ => [] := by
  intro c m q h _
  obtain ⟨⟨now, htime⟩, hsame⟩ := quiet c m
  exact ⟨now, [], htime, rfl, by rw [List.append_nil]; exact h.congr hsame, hsame.readOffset_eq⟩

/-- A producer adds the entries that it logs. -/
theorem addsTo_producing (r : Ring) (time : UInt64) : (producing r time).AddsTo r Production.added := by
  intro p m q h hq
  rcases hbatches : p.batches with _ | ⟨batch, batches⟩
  · have hask : (producing r time).ask p m = ⟨some time, p, m⟩ := by
      dsimp only [producing]
      rw [hbatches]
    rw [hask]
    exact ⟨time, [], rfl, by rw [List.append_nil], by rw [List.append_nil]; exact h, rfl⟩
  · obtain ⟨added, m', hwritten, hintact, hread⟩ := h.writeEach (h.usable hq) batch
    have hask : (producing r time).ask p m = ⟨some time, ⟨batches, p.added ++ added⟩, m'⟩ := by
      dsimp only [producing]
      rw [hbatches]
      dsimp only
      rw [hwritten]
      rfl
    rw [hask]
    exact ⟨time, added, rfl, rfl, hintact, hread⟩

theorem time_producing (r : Ring) (time : UInt64) (p : Production) (m : Memory) (now : UInt64)
    (h : ((producing r time).ask p m).time = some now) : now = time := by
  dsimp only [producing] at h
  split at h
  · exact (Option.some.inj h).symm
  · dsimp only at h
    split at h
    · simp at h
    · exact (Option.some.inj h).symm

end Clock

namespace Ring

variable {σ : Type} {r : Ring} {m : Memory} {q : List Entry} {clock : Clock σ} {log : σ → List Entry}

/-! ### Uses of an intact ring -/

theorem Intact.poll {s : ReaderState σ} (rd : Reader) (max : Nat) (hclock : clock.AddsTo r log)
    (h : r.Intact s.memory q) :
    (∃ q', r.Intact (rd.poll clock r max s).2.memory q') ∧ (rd.poll clock r max s).1 ≠ .halted ∧
      ∀ e, (rd.poll clock r max s).1 ≠ .failed (.framing e) := by
  obtain ⟨times, passed, rest, new, sweep⟩ := Reader.poll_sweep rd max hclock h
  refine ⟨⟨_, sweep.intact⟩, ?_⟩
  rcases sweep.takes.poll_cases with hpoll | ⟨event, hpoll⟩ | ⟨failure, hpoll⟩ <;> simp [hpoll]

/-- A poll under a clock that stands still. -/
theorem Intact.poll_fixed {s : ReaderState Unit} (rd : Reader) (max : Nat) (now : UInt64) (h : r.Intact s.memory q) :
    ∃ rest, r.Intact (rd.poll (.fixed now) r max s).2.memory rest ∧
      match q.dropWhile (rd.discards now) with
      | [] => (rd.poll (.fixed now) r max s).1 = .empty ∧ rest = []
      | e :: tail => (rd.poll (.fixed now) r max s).1 = rd.answer max e ∧ rest = tail := by
  obtain ⟨times, passed, rest, new, sweep⟩ :=
    Reader.poll_sweep rd max (Clock.addsTo_of_quiet (Clock.quiet_fixed r now)) h
  have htake := sweep.takes.takeAt_eq (sweep.shows.eq_of_same (Clock.time_fixed now))
  have hnew : new = [] := by simpa using sweep.log_eq.symm
  have hintact := sweep.intact
  rw [hnew, List.append_nil, List.append_nil] at hintact
  refine ⟨rest, hintact, ?_⟩
  have hfirst := Reader.takeAt_dropWhile rd max now q s.stats
  rw [htake] at hfirst
  exact hfirst

theorem Intact.drainUpTo {s : ReaderState σ} (rd : Reader) (max fuel : Nat) (hclock : clock.AddsTo r log)
    (h : r.Intact s.memory q) :
    (∃ q', r.Intact (rd.drainUpTo clock r max fuel s).2.memory q') ∧
      (rd.drainUpTo clock r max fuel s).1 ≠ .halted ∧
      ∀ e, (rd.drainUpTo clock r max fuel s).1 ≠ .failed (.framing e) := by
  induction fuel generalizing s q with
  | zero => exact ⟨⟨q, h⟩, by simp [Reader.drainUpTo], by simp [Reader.drainUpTo]⟩
  | succ fuel ih =>
    obtain ⟨⟨q', hintact⟩, hhalt, hframing⟩ := h.poll rd max hclock
    rw [Reader.drainUpTo]
    rcases hpoll : rd.poll clock r max s with ⟨poll, s'⟩
    rw [hpoll] at hintact hhalt hframing
    cases poll with
    | empty => exact ⟨⟨q', hintact⟩, by simp, by simp⟩
    | failed e => exact ⟨⟨q', hintact⟩, by simp, by simpa using hframing⟩
    | halted => exact absurd rfl hhalt
    | event event =>
      obtain ⟨hintact', hhalt', hframing'⟩ := ih hintact
      dsimp only
      rcases hrest : rd.drainUpTo clock r max fuel s' with ⟨drained, s''⟩
      rw [hrest] at hintact' hhalt' hframing'
      cases drained with
      | events events => exact ⟨hintact', by simp, by simp⟩
      | failed e => exact ⟨hintact', by simp, by simpa using hframing'⟩
      | halted => exact absurd rfl hhalt'

theorem Intact.drain {s : ReaderState σ} (rd : Reader) (max : Nat) (hclock : clock.AddsTo r log)
    (h : r.Intact s.memory q) :
    (∃ q', r.Intact (rd.drain clock r max s).2.memory q') ∧ (rd.drain clock r max s).1 ≠ .halted ∧
      ∀ e, (rd.drain clock r max s).1 ≠ .failed (.framing e) := h.drainUpTo rd max _ hclock

/-- Enough polls of a ring that nobody writes to leave nothing in it. -/
theorem Intact.pumpUpTo {s : ReaderState σ} (rd : Reader) (max fuel : Nat) (quiet : clock.Quiet r)
    (h : r.Intact s.memory q) (hfuel : q.length < fuel) :
    r.Intact (rd.pumpUpTo clock r max fuel s).2.memory [] := by
  induction fuel generalizing s q with
  | zero => exact absurd hfuel (Nat.not_lt_zero _)
  | succ fuel ih =>
    obtain ⟨times, passed, rest, new, sweep⟩ := Reader.poll_sweep rd max (Clock.addsTo_of_quiet quiet) h
    have hnew : new = [] := by simpa using sweep.log_eq.symm
    have hintact := sweep.intact
    have hrest := sweep.takes.rest_lt
    have hend := sweep.takes.poll_cases
    rw [hnew, List.append_nil, List.append_nil] at hintact
    rw [Reader.pumpUpTo]
    rcases hpoll : rd.poll clock r max s with ⟨poll, s'⟩
    rw [hpoll] at hintact hrest hend
    dsimp only at hintact hrest hend
    rcases hend with rfl | ⟨event, rfl⟩ | ⟨e, rfl⟩
    · have hnone : rest = [] := by simpa using hrest
      rw [hnone] at hintact
      exact hintact
    · have hlt : rest.length < q.length := by simpa using hrest
      exact ih hintact (by omega)
    · have hlt : rest.length < q.length := by simpa using hrest
      exact ih hintact (by omega)

theorem length_le_spans (r : Ring) (es : List Entry) : es.length ≤ r.spans es := by
  induction es with
  | nil => exact Nat.zero_le _
  | cons e es ih =>
    have hpos := r.span_entry_pos e
    rw [List.length_cons, spans]
    omega

/-- A pump leaves nothing in a ring that nobody writes to. -/
theorem Intact.pump {s : ReaderState σ} (rd : Reader) (max : Nat) (quiet : clock.Quiet r) (h : r.Intact s.memory q) :
    r.Intact (rd.pump clock r max s).2.memory [] := by
  have hlen := r.length_le_spans q
  have hlt := h.spans_lt
  have hbound := Reader.capacity_lt_pollBound clock r s
  rw [Reader.pump]
  exact h.pumpUpTo rd max _ quiet (by omega)

theorem Intact.free (h : r.Intact m q) : (r.free m).1 = .done () ∧ r.Intact (r.free m).2 q.tail := by
  cases q with
  | nil =>
    rw [h.free_nil]
    exact ⟨rfl, h⟩
  | cons e q => exact h.free_cons

/-- Whatever is done to an intact ring leaves it intact. -/
theorem Intact.use (h : r.Intact m q) (u : Use) : ∃ q', r.Intact (r.use m u) q' := by
  cases u with
  | write s => exact ⟨_, h.write s⟩
  | poll rd times max =>
    exact (h.poll (s := ⟨m, 0, .zero⟩) rd max (Clock.addsTo_of_quiet (Clock.quiet_ofReadings r times))).1
  | drain rd times max =>
    exact (h.drain (s := ⟨m, 0, .zero⟩) rd max (Clock.addsTo_of_quiet (Clock.quiet_ofReadings r times))).1
  | free => exact ⟨_, h.free.2⟩

/-- Honest traffic keeps a ring intact. -/
theorem Reachable.intact (h : r.Reachable m) : ∃ q, r.Intact m q := by
  induction h with
  | setUp name fits unused => exact ⟨[], intact_setUp name fits unused⟩
  | use u _ ih =>
    obtain ⟨q, hq⟩ := ih
    exact hq.use u

/-- **The invariant of honest traffic.** Both offsets lie in the data area, with room for a header at the write
offset, and for one in front of it unless it is 0.  The unread bytes are whole records, one behind the other, and
all bytes that are not unread can be written, but for one.  No use of the ring halts, and none finds it corrupt. -/
theorem Reachable.invariant (h : r.Reachable m) (hcap : 2 * r.headerSize.toNat ≤ r.capacity.toNat) :
    (r.readOffset m).toNat < r.capacity.toNat ∧ (r.writeOffset m).toNat < r.capacity.toNat ∧
    (r.writeOffset m).toNat + r.headerSize.toNat ≤ r.capacity.toNat ∧
    ((r.writeOffset m).toNat = 0 ∨ r.headerSize.toNat ≤ (r.writeOffset m).toNat) ∧
    (∃ q, r.Chain m (r.readOffset m).toNat q (r.writeOffset m).toNat ∧ r.spans q = r.unreadSize m) ∧
    (∃ n, r.writableBytes m = some n ∧ n.toNat + r.unreadSize m = r.capacity.toNat - 1) ∧
    (∀ s : Submission, (r.write m s.kind s.timestamp s.payload).1 ≠ .halted ∧
      ∀ e, (r.write m s.kind s.timestamp s.payload).1 ≠ .failed (.corruptControlBlock e)) ∧
    (∀ (σ : Type) (clock : Clock σ) (rd : Reader) (max : Nat) (c : σ) (st : Stats), clock.Quiet r →
      ((rd.poll clock r max ⟨m, c, st⟩).1 ≠ .halted ∧ ∀ e, (rd.poll clock r max ⟨m, c, st⟩).1 ≠ .failed (.framing e)) ∧
      (rd.drain clock r max ⟨m, c, st⟩).1 ≠ .halted ∧
      ∀ e, (rd.drain clock r max ⟨m, c, st⟩).1 ≠ .failed (.framing e)) ∧
    (r.free m).1 = .done () := by
  obtain ⟨q, hq⟩ := h.intact
  obtain ⟨n, hwritable, hsum⟩ := writableBytes_eq hq.setUp hq.read_lt hq.write_lt
  refine ⟨hq.read_lt, hq.write_lt, hq.write_room, hq.write_start, ⟨q, hq.chain, hq.unreadSize_eq.symm⟩,
    ⟨n, hwritable, ?_⟩, fun s => ⟨hq.write_ne_halted hcap s, hq.write_ne_corrupt s⟩, ?_, hq.free.1⟩
  · rw [hq.unreadSize_eq, ← hq.gap_eq]
    omega
  · intro σ clock rd max c st quiet
    have hadds := Clock.addsTo_of_quiet quiet
    exact ⟨(hq.poll (s := ⟨m, c, st⟩) rd max hadds).2, (hq.drain (s := ⟨m, c, st⟩) rd max hadds).2⟩

/-- A ring of 64 bytes that has been set up and written once. -/
theorem invariant_written :
    let r : Ring := ⟨0, ⟨64, .packed, by decide, by decide⟩⟩
    let m := r.use (r.setUp (Memory.zeros 96) ⟨"ring", by decide, by decide, by decide⟩).2 (.write ⟨.hidInfo, 5, [1]⟩)
    (r.Reachable m ∧ 2 * r.headerSize.toNat ≤ r.capacity.toNat) ∧
      (r.writeOffset m).toNat + r.headerSize.toNat ≤ r.capacity.toNat ∧ (r.free m).1 = .done () := by
  intro r m
  have hreachable : r.Reachable m := .use _ (r.reachable_zeros _ (by decide))
  have hcap : 2 * r.headerSize.toNat ≤ r.capacity.toNat := by decide
  obtain ⟨-, -, hroom, -, -, -, -, -, hfree⟩ := hreachable.invariant hcap
  exact ⟨⟨hreachable, hcap⟩, hroom, hfree⟩

end Ring

end EventRing
