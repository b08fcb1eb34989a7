import EventRing.Proofs.Honest

/-!
# A producer beside a poll

Two polls start from the same ring and the same counters, and their clocks show the same time.  The clock of one
leaves the ring alone, and that of the other lets a producer write whenever it is asked.

Main statement: `poll_producing` (both come to the same end; the second leaves what the first leaves, and behind it
what the producer has added).  It follows from `Reader.poll_sweep`, which says of either poll what it takes from the
queue that was there when it began, and from `Reader.Takes.takeAt_eq`, by which the time alone decides that.
-/

namespace EventRing

/-- Two polls that are shown the same time take the same from the same queue, whatever their clocks do to the ring. -/
theorem Reader.Sweep.agree {σ σ' : Type} {rd : Reader} {r : Ring} {clock : Clock σ} {clock' : Clock σ'}
    {log : σ → List Entry} {log' : σ' → List Entry} {max : Nat} {q more passed passed' rest rest' new new' : List Entry}
    {s : ReaderState σ} {s' : ReaderState σ'} {looked looked' : List Ring.Found} {result : Poll × ReaderState σ}
    {result' : Poll × ReaderState σ'} {times times' : List UInt64} {time : UInt64}
    (h : rd.Sweep clock r log max q more s looked result times passed rest new)
    (h' : rd.Sweep clock' r log' max q more s' looked' result' times' passed' rest' new')
    (hmemory : s'.memory = s.memory) (hstats : s'.stats = s.stats)
    (hsame : ∀ t ∈ times, t = time) (hsame' : ∀ t ∈ times', t = time) :
    result'.1 = result.1 ∧ result'.2.stats = result.2.stats ∧
      r.readOffset result'.2.memory = r.readOffset result.2.memory ∧ passed' = passed ∧ rest' = rest := by
  have htake := h.takes.takeAt_eq hsame
  have htake' := h'.takes.takeAt_eq hsame'
  rw [hstats, htake] at htake'
  simp only [Prod.mk.injEq] at htake'
  obtain ⟨hpoll, hrest, hcounted⟩ := htake'
  have hpassed : passed' = passed := by
    have hsplit := h'.split
    rw [h.split, hrest] at hsplit
    exact (List.append_cancel_right hsplit).symm
  refine ⟨hpoll.symm, hcounted.symm, ?_, hpassed, hrest.symm⟩
  rw [← UInt32.toNat_inj, h'.offset, h.offset, hpassed, hmemory]

variable {r : Ring} {m : Memory}

/-- **A producer does not disturb a poll.** Whatever it writes while the clock is asked, the poll has the same
outcome, counts the same records and ends at the same read offset.  It looks at the same records, all of them
published when it began, and what has been added stands behind the rest of the queue. -/
theorem poll_producing (h : r.Reachable m) (rd : Reader) (max : Nat) (time : UInt64) (batches : List (List Submission))
    (st : Stats) :
    let plain := rd.poll (.fixed time) r max ⟨m, (), st⟩
    let busy := rd.poll (.producing r time) r max ⟨m, ⟨batches, []⟩, st⟩
    (plain.1 = .empty ∨ (∃ event, plain.1 = .event event) ∨ ∃ e, plain.1 = .failed (.decode e)) ∧
    busy.1 = plain.1 ∧ busy.2.stats = plain.2.stats ∧
    r.readOffset busy.2.memory = r.readOffset plain.2.memory ∧
    ∃ passed rest, r.queue? m = some (passed ++ rest) ∧
      rd.examined (.fixed time) r ⟨m, (), st⟩ = r.foundFrom (r.readOffset m).toNat passed ∧
      rd.examined (.producing r time) r ⟨m, ⟨batches, []⟩, st⟩ = r.foundFrom (r.readOffset m).toNat passed ∧
      r.queue? plain.2.memory = some rest ∧ r.queue? busy.2.memory = some (rest ++ busy.2.clock.added) := by
  intro plain busy
  obtain ⟨q, hq⟩ := h.intact
  obtain ⟨times, passed, rest, new, hplain⟩ : ∃ times passed rest new, rd.Sweep (.fixed time) r (fun _ => []) max q []
      ⟨m, (), st⟩ (rd.examined (.fixed time) r ⟨m, (), st⟩) plain times passed rest new :=
    Reader.poll_sweep rd max (Clock.addsTo_of_quiet (Clock.quiet_fixed r time)) hq
  obtain ⟨times', passed', rest', new', hbusy⟩ : ∃ times passed rest new, rd.Sweep (.producing r time) r
      Production.added max q [] ⟨m, ⟨batches, []⟩, st⟩ (rd.examined (.producing r time) r ⟨m, ⟨batches, []⟩, st⟩) busy
      times passed rest new :=
    Reader.poll_sweep rd max (Clock.addsTo_producing r time) hq
  clear_value plain busy
  obtain ⟨hpoll, hstats, hoffset, rfl, rfl⟩ := hplain.agree hbusy rfl rfl
    (hplain.shows.eq_of_same (Clock.time_fixed time)) (hbusy.shows.eq_of_same (Clock.time_producing r time))
  have hnew : new = [] := by simpa using hplain.log_eq.symm
  have hadded : busy.2.clock.added = new' := by simpa using hbusy.log_eq
  have hleft := hplain.intact
  have hleft' := hbusy.intact
  rw [hnew, List.append_nil, List.append_nil] at hleft
  rw [List.append_nil, ← hadded] at hleft'
  refine ⟨hplain.takes.poll_cases, hpoll, hstats, hoffset, passed', rest', ?_, hplain.looked_eq, hbusy.looked_eq,
    hleft.queue?_eq, hleft'.queue?_eq⟩
  rw [hq.queue?_eq, hplain.split]

/-- A poll of a ring that holds a report response, while a producer writes one record. -/
theorem poll_producing_written :
    let r : Ring := ⟨0, ⟨96, .packed, by decide, by decide⟩⟩
    let m := r.use (r.setUp (Memory.zeros 128) ⟨"ring", by decide, by decide, by decide⟩).2
      (.write ⟨.getReport, 5, [1]⟩)
    let rd := Reader.ofLayout .compact
    r.Reachable m ∧
      (rd.poll (.producing r 9) r 64 ⟨m, ⟨[[⟨.hidInfo, 6, [2]⟩]], []⟩, .zero⟩).1
        = (rd.poll (.fixed 9) r 64 ⟨m, (), .zero⟩).1 := by
  intro r m rd
  have hreachable : r.Reachable m := .use _ (r.reachable_zeros _ (by decide))
  obtain ⟨-, hpoll, -⟩ := poll_producing hreachable rd 64 9 [[⟨.hidInfo, 6, [2]⟩]] .zero
  exact ⟨hreachable, hpoll⟩

end EventRing
