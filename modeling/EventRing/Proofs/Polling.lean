import EventRing.Proofs.Intact
import EventRing.Reader

/-!
# Polling an intact ring

What one poll does to the queue of an intact ring, under any clock that at most adds records while it is asked for
the time.  `Reader.Takes` is the account of a poll on the queue alone: it goes past skip markers and stale report
responses and takes the first entry that is neither.  `Clock.Shows` lists the times that a clock shows one after the
other, `Clock.AddsTo` says that a clock leaves an intact ring intact and keeps a log of what it adds.
`Reader.Sweep` puts together what has come of a scan.

Main statements: `scan_sweep` and `poll_sweep` (a poll is a `Takes` step on what was published when it began, and
what was added during it stays behind the rest), `Takes.takeAt_eq` (if all times shown are the same, that time
decides what is taken), and `takeAt_dropWhile` (it is the first entry that is not discarded at that time).
-/

namespace EventRing

/-- The times that a clock shows when it is asked again and again, whatever memory it finds. -/
inductive Clock.Shows {σ : Type} (clock : Clock σ) : σ → List UInt64 → σ → Prop
  | nil (c : σ) : Clock.Shows clock c [] c
  | cons {c c' : σ} {now : UInt64} {times : List UInt64} (m : Memory) (first : (clock.ask c m).time = some now)
      (more : Clock.Shows clock (clock.ask c m).state times c') : Clock.Shows clock c (now :: times) c'

/-- A clock that never shows another time shows the same one over and over. -/
theorem Clock.Shows.eq_of_same {σ : Type} {clock : Clock σ} {c c' : σ} {times : List UInt64} {time : UInt64}
    (h : clock.Shows c times c') (same : ∀ c m now, (clock.ask c m).time = some now → now = time) :
    ∀ t ∈ times, t = time := by
  induction h with
  | nil c => simp
  | cons m first more ih =>
    intro t ht
    rcases List.mem_cons.1 ht with rfl | hmore
    · exact same _ m _ first
    · exact ih t hmore

/-- A clock that shows a time whenever it is asked in front of an intact ring that holds a record, and at most adds
entries to the ring.  The log of its state says which. -/
def Clock.AddsTo {σ : Type} (clock : Clock σ) (r : Ring) (log : σ → List Entry) : Prop :=
  ∀ (c : σ) (m : Memory) (q : List Entry), r.Intact m q → q ≠ [] →
    ∃ now new, (clock.ask c m).time = some now ∧ log (clock.ask c m).state = log c ++ new ∧
      r.Intact (clock.ask c m).memory (q ++ new) ∧ r.readOffset (clock.ask c m).memory = r.readOffset m

namespace Reader

variable {σ : Type}

/-- The records that a scan looks at, in order. -/
def scanned (rd : Reader) (clock : Clock σ) (r : Ring) (published consumed : UInt64) (s : ReaderState σ) :
    List Ring.Found :=
  if _hleft : consumed < published then
    match _hnext : r.next s.memory with
    | .failed _ => []
    | .halted => []
    | .done none => []
    | .done (some found) =>
      match rd.sift clock r s found with
      | .ended _ _ => [found]
      | .fresh _ => [found]
      | .dropped s =>
        match _hsum : Word.addLong? consumed found.span.toUInt64 with
        | none => [found]
        | some sum => found :: scanned rd clock r published sum s
  else []
termination_by published.toNat - consumed.toNat
decreasing_by
  have hspan := Ring.span_pos _hnext
  have hlt := UInt64.lt_iff_toNat_lt.1 _hleft
  have hadd := Word.addLong?_eq_some_iff.1 _hsum
  rw [UInt32.toNat_toUInt64] at hadd
  omega

/-- The records that a poll looks at, in order. -/
def examined (rd : Reader) (clock : Clock σ) (r : Ring) (s : ReaderState σ) : List Ring.Found :=
  if r.isSetUp s.memory then
    match r.offsets s.memory with
    | .error _ => []
    | .ok (read, write) =>
      match r.occupancy read write with
      | none => []
      | some published => rd.scanned clock r published.toUInt64 0 s
  else []

/-- What one poll does to a queue: the times it is shown, the counters before, its outcome, what it leaves in the queue
and the counters after. -/
inductive Takes (rd : Reader) (max : Nat) :
    List Entry → List UInt64 → Stats → Poll → List Entry → Stats → Prop
  | empty (st : Stats) : Takes rd max [] [] st .empty [] st
  | skip {e : Entry} {q rest : List Entry} {times : List UInt64} {st st' : Stats} {p : Poll}
      (marker : e.tag = Kind.skipTag) (after : Takes rd max q times st.countSkip p rest st') :
      Takes rd max (e :: q) times st p rest st'
  | stale {e : Entry} {q rest : List Entry} {now : UInt64} {times : List UInt64} {st st' : Stats} {p : Poll}
      (report : e.header.kind = .getReport) (old : rd.isStaleAt now e.header = true)
      (after : Takes rd max q times st.countStale p rest st') : Takes rd max (e :: q) (now :: times) st p rest st'
  | report {e : Entry} {q : List Entry} {now : UInt64} {st : Stats} (report : e.header.kind = .getReport)
      (young : rd.isStaleAt now e.header = false) :
      Takes rd max (e :: q) [now] st (rd.settle max e.header.kind e.payload st).1 q
        (rd.settle max e.header.kind e.payload st).2
  | other {e : Entry} {q : List Entry} {st : Stats} (marker : e.tag ≠ Kind.skipTag)
      (report : e.header.kind ≠ .getReport) :
      Takes rd max (e :: q) [] st (rd.settle max e.header.kind e.payload st).1 q
        (rd.settle max e.header.kind e.payload st).2

end Reader

namespace Ring

/-- What a consumer finds if it goes through some entries from an offset on. -/
def foundFrom (r : Ring) : Nat → List Entry → List Found
  | _, [] => []
  | a, e :: es => r.foundAt a e :: r.foundFrom (r.offsetAfter (r.span e) a) es

end Ring

namespace Reader

variable {σ : Type} {rd : Reader} {clock : Clock σ} {r : Ring} {log : σ → List Entry} {max : Nat}
variable {s : ReaderState σ} {e : Entry} {q more : List Entry}

/-! ### One record -/

/-- Dropping the head of the queue. -/
theorem drop_head (h : r.Intact s.memory (e :: q)) (stats : Stats) :
    ∃ m', drop r s (r.foundAt (r.readOffset s.memory).toNat e) stats = .dropped { s with memory := m', stats } ∧
      r.Intact m' q ∧ (r.readOffset m').toNat = r.offsetAfter (r.span e) (r.readOffset s.memory).toNat := by
  obtain ⟨m', hadvance, hintact, hoffset⟩ := h.advance_head
  refine ⟨m', ?_, hintact, hoffset⟩
  rw [drop, hadvance]

/-- Delivering the head of the queue. -/
theorem deliver_head (rd : Reader) (max : Nat) (h : r.Intact s.memory (e :: q)) :
    ∃ m', rd.deliver r max s (r.foundAt (r.readOffset s.memory).toNat e) =
        ((rd.settle max e.header.kind e.payload s.stats).1,
          ⟨m', s.clock, (rd.settle max e.header.kind e.payload s.stats).2⟩) ∧
      r.Intact m' q ∧ (r.readOffset m').toNat = r.offsetAfter (r.span e) (r.readOffset s.memory).toNat := by
  obtain ⟨m', hadvance, hintact, hoffset⟩ := h.advance_head
  refine ⟨m', ?_, hintact, hoffset⟩
  cases h.chain with
  | cons record rest =>
    rw [deliver, record.payload_eq]
    dsimp only
    rw [hadvance]
    rfl

/-- A record other than a report response is judged without asking the clock. -/
theorem isStale_other (rd : Reader) (clock : Clock σ) (s : ReaderState σ) {header : Header}
    (h : header.kind ≠ .getReport) : rd.isStale clock s header = (some false, s) := if_neg h

/-- A report response is judged by the time that the clock shows. -/
theorem isStale_report (rd : Reader) (clock : Clock σ) (s : ReaderState σ) {header : Header}
    (h : header.kind = .getReport) :
    rd.isStale clock s header = (((clock.ask s.clock s.memory).time.map fun now => rd.isStaleAt now header),
      { s with memory := (clock.ask s.clock s.memory).memory, clock := (clock.ask s.clock s.memory).state }) :=
  if_pos h

theorem sift_marker (rd : Reader) (clock : Clock σ) (h : r.Intact s.memory (e :: q)) (marker : e.tag = Kind.skipTag) :
    ∃ m', rd.sift clock r s (r.foundAt (r.readOffset s.memory).toNat e) =
        .dropped { s with memory := m', stats := s.stats.countSkip } ∧
      r.Intact m' q ∧ (r.readOffset m').toNat = r.offsetAfter (r.span e) (r.readOffset s.memory).toNat := by
  obtain ⟨m', hdrop, hintact, hoffset⟩ := drop_head h s.stats.countSkip
  refine ⟨m', ?_, hintact, hoffset⟩
  have hkind : (r.foundAt (r.readOffset s.memory).toNat e).header.kind = .skip := Kind.ofTag_eq_skip_iff.2 marker
  rw [sift, if_pos hkind, hdrop]

theorem sift_other (rd : Reader) (clock : Clock σ) (r : Ring) (s : ReaderState σ) (a : Nat)
    (marker : e.tag ≠ Kind.skipTag) (report : e.header.kind ≠ .getReport) :
    rd.sift clock r s (r.foundAt a e) = .fresh s := by
  have hkind : (r.foundAt a e).header.kind ≠ .skip := fun h => marker (Kind.ofTag_eq_skip_iff.1 h)
  rw [sift, if_neg hkind, isStale_other rd clock s (show (r.foundAt a e).header.kind ≠ .getReport from report)]

/-- What becomes of a report response once the clock has shown a time. -/
theorem sift_of_time {now : UInt64} (rd : Reader) (clock : Clock σ) (r : Ring) (s : ReaderState σ)
    (found : Ring.Found) (report : found.header.kind = .getReport)
    (htime : (clock.ask s.clock s.memory).time = some now) :
    rd.sift clock r s found =
      if rd.isStaleAt now found.header = true then
        drop r { s with memory := (clock.ask s.clock s.memory).memory, clock := (clock.ask s.clock s.memory).state }
          found s.stats.countStale
      else .fresh { s with memory := (clock.ask s.clock s.memory).memory,
                           clock := (clock.ask s.clock s.memory).state } := by
  rw [sift, if_neg (by rw [report]; simp), isStale_report rd clock s report, htime, Option.map_some]
  cases rd.isStaleAt now found.header with
  | true => rfl
  | false => rfl

/-- A report response makes the reader ask the clock, which may add entries behind the queue.  The response is still
at its head, and the time shown decides whether it is dropped. -/
theorem sift_report (rd : Reader) (hclock : clock.AddsTo r log) (h : r.Intact s.memory (e :: q))
    (report : e.header.kind = .getReport) :
    ∃ now new m', (clock.ask s.clock s.memory).time = some now ∧
      log (clock.ask s.clock s.memory).state = log s.clock ++ new ∧
      (rd.isStaleAt now e.header = true ∧
          rd.sift clock r s (r.foundAt (r.readOffset s.memory).toNat e) =
            .dropped ⟨m', (clock.ask s.clock s.memory).state, s.stats.countStale⟩ ∧
          r.Intact m' (q ++ new) ∧
          (r.readOffset m').toNat = r.offsetAfter (r.span e) (r.readOffset s.memory).toNat ∨
        rd.isStaleAt now e.header = false ∧
          rd.sift clock r s (r.foundAt (r.readOffset s.memory).toNat e) =
            .fresh ⟨m', (clock.ask s.clock s.memory).state, s.stats⟩ ∧
          r.Intact m' (e :: (q ++ new)) ∧ r.readOffset m' = r.readOffset s.memory) := by
  obtain ⟨now, new, htime, hlog, hintact, hoffset⟩ := hclock s.clock s.memory (e :: q) h (by simp)
  have hsift := sift_of_time rd clock r s (r.foundAt (r.readOffset s.memory).toNat e) report htime
  have hheader : (r.foundAt (r.readOffset s.memory).toNat e).header = e.header := rfl
  rw [hheader] at hsift
  cases hstale : rd.isStaleAt now e.header with
  | true =>
    rw [if_pos hstale] at hsift
    obtain ⟨m', hdrop, hintact', hoffset'⟩ := drop_head
      (s := { s with memory := (clock.ask s.clock s.memory).memory, clock := (clock.ask s.clock s.memory).state })
      hintact s.stats.countStale
    dsimp only at hdrop hoffset'
    rw [hoffset] at hdrop hoffset'
    exact ⟨now, new, m', htime, hlog, .inl ⟨hstale, hsift.trans hdrop, hintact', hoffset'⟩⟩
  | false =>
    rw [if_neg (by simp [hstale])] at hsift
    exact ⟨now, new, _, htime, hlog, .inr ⟨hstale, hsift, hintact, hoffset⟩⟩

/-! ### All published records -/

theorem scanned_of_le {published consumed : UInt64} (rd : Reader) (clock : Clock σ) (r : Ring)
    (s : ReaderState σ) (h : ¬ consumed < published) : rd.scanned clock r published consumed s = [] := by
  rw [scanned, dif_neg h]

/-- One round of a scan looks at the next record. -/
theorem scanned_of_found {published consumed : UInt64} {found : Ring.Found} (rd : Reader) (clock : Clock σ)
    (h : consumed < published) (hnext : r.next s.memory = .done (some found)) :
    rd.scanned clock r published consumed s =
      found :: match rd.sift clock r s found with
        | .ended _ _ => []
        | .fresh _ => []
        | .dropped s =>
          match Word.addLong? consumed found.span.toUInt64 with
          | none => []
          | some sum => rd.scanned clock r published sum s := by
  rw [scanned, dif_pos h]
  split
  · next hother => rw [hnext] at hother; simp at hother
  · next hother => rw [hnext] at hother; simp at hother
  · next hother => rw [hnext] at hother; simp at hother
  · next found' hsame =>
    rw [hnext] at hsame
    obtain rfl := Option.some.inj (Outcome.done.inj hsame)
    cases rd.sift clock r s found with
    | ended poll s' => rfl
    | fresh s' => rfl
    | dropped s' =>
      dsimp only
      split <;> simp_all

/-- What has come of a scan of the published entries `q` with `more` behind them: the entries it went past and the
ones it left, the times it was shown, and the entries that were added meanwhile. -/
structure Sweep (rd : Reader) (clock : Clock σ) (r : Ring) (log : σ → List Entry) (max : Nat) (q more : List Entry)
    (s : ReaderState σ) (looked : List Ring.Found) (result : Poll × ReaderState σ) (times : List UInt64)
    (passed rest new : List Entry) : Prop where
  split : q = passed ++ rest
  takes : rd.Takes max q times s.stats result.1 rest result.2.stats
  shows : clock.Shows s.clock times result.2.clock
  log_eq : log result.2.clock = log s.clock ++ new
  intact : r.Intact result.2.memory (rest ++ more ++ new)
  offset : (r.readOffset result.2.memory).toNat
    = ((r.readOffset s.memory).toNat + r.spans passed) % r.capacity.toNat
  looked_eq : looked = r.foundFrom (r.readOffset s.memory).toNat passed

variable {s' : ReaderState σ} {looked : List Ring.Found} {result : Poll × ReaderState σ} {times times' : List UInt64}
variable {passed rest new new' : List Entry}

/-- A scan that drops the head of the queue goes on with the tail. -/
theorem Sweep.dropped (h : Sweep rd clock r log max q (more ++ new) s' looked result times passed rest new')
    (hle : (r.readOffset s.memory).toNat + r.span e ≤ r.capacity.toNat)
    (hoffset : (r.readOffset s'.memory).toNat = r.offsetAfter (r.span e) (r.readOffset s.memory).toNat)
    (hlog : log s'.clock = log s.clock ++ new)
    (takes : rd.Takes max (e :: q) times' s.stats result.1 rest result.2.stats)
    (shows : clock.Shows s.clock times' result.2.clock) :
    Sweep rd clock r log max (e :: q) more s (r.foundAt (r.readOffset s.memory).toNat e :: looked) result times'
      (e :: passed) rest (new ++ new') := by
  refine ⟨?_, takes, shows, ?_, ?_, ?_, ?_⟩
  · rw [h.split, List.cons_append]
  · rw [h.log_eq, hlog, List.append_assoc]
  · have hintact := h.intact
    rw [← List.append_assoc, List.append_assoc (rest ++ more)] at hintact
    exact hintact
  · rw [h.offset, hoffset, Ring.offsetAfter_eq_mod hle, Nat.mod_add_mod, Ring.spans, Nat.add_assoc]
  · rw [Ring.foundFrom, h.looked_eq, hoffset]

/-- A scan that delivers the head of the queue ends with it. -/
theorem deliver_sweep (rd : Reader) (clock : Clock σ) (max : Nat) (h : r.Intact s'.memory (e :: (q ++ more ++ new)))
    (hoffset : r.readOffset s'.memory = r.readOffset s.memory) (hlog : log s'.clock = log s.clock ++ new)
    (takes : rd.Takes max (e :: q) times s.stats (rd.settle max e.header.kind e.payload s'.stats).1 q
      (rd.settle max e.header.kind e.payload s'.stats).2)
    (shows : clock.Shows s.clock times s'.clock) :
    Sweep rd clock r log max (e :: q) more s [r.foundAt (r.readOffset s.memory).toNat e]
      (rd.deliver r max s' (r.foundAt (r.readOffset s.memory).toNat e)) times [e] q new := by
  obtain ⟨m', hdeliver, hintact, hread⟩ := deliver_head rd max h
  rw [hoffset] at hdeliver hread
  rw [hdeliver]
  have hle : (r.readOffset s.memory).toNat + r.span e ≤ r.capacity.toNat := by
    rw [← hoffset]
    cases h.chain with
    | cons record _ => exact record.le
  refine ⟨rfl, takes, shows, hlog, hintact, ?_, rfl⟩
  rw [hread, Ring.offsetAfter_eq_mod hle, Ring.spans, Ring.spans, Nat.add_zero]

/-- **A scan of an intact ring.** It takes what it takes from the published entries, whatever stands behind them and
whatever is added while it runs. -/
theorem scan_sweep (rd : Reader) (max : Nat) (hclock : clock.AddsTo r log) (published consumed : UInt64)
    (h : r.Intact s.memory (q ++ more)) (hcount : published.toNat = consumed.toNat + r.spans q) :
    ∃ times passed rest new, Sweep rd clock r log max q more s (rd.scanned clock r published consumed s)
      (rd.scan clock r max published consumed s) times passed rest new := by
  -- The published bytes not yet consumed are those of `q`, so the scan ends with its last entry and not earlier.
  induction q generalizing more s consumed with
  | nil =>
    rw [Ring.spans] at hcount
    have hdone : ¬ consumed < published := by
      rw [UInt64.lt_iff_toNat_lt]
      omega
    rw [scan_of_le rd clock r max s hdone, scanned_of_le rd clock r s hdone]
    refine ⟨[], [], [], [], rfl, .empty _, .nil _, by simp, by simpa using h, ?_, rfl⟩
    rw [Ring.spans, Nat.add_zero, Nat.mod_eq_of_lt h.read_lt]
  | cons e q ih =>
    rw [Ring.spans] at hcount
    rw [List.cons_append] at h
    have hpos := r.span_entry_pos e
    have hleft : consumed < published := by
      rw [UInt64.lt_iff_toNat_lt]
      omega
    have hle : (r.readOffset s.memory).toNat + r.span e ≤ r.capacity.toNat := by
      cases h.chain with
      | cons record _ => exact record.le
    have hspan : (r.foundAt (r.readOffset s.memory).toNat e).span.toUInt64.toNat = r.span e := by
      rw [UInt32.toNat_toUInt64, Ring.foundAt, Ring.toNat_ofNat_of_le_capacity (r := r) (by omega)]
    obtain ⟨sum, hsum, htotal⟩ := Word.addLong?_of_lt consumed
      (r.foundAt (r.readOffset s.memory).toNat e).span.toUInt64 (by have := published.toNat_lt_size; omega)
    rw [hspan] at htotal
    rw [scan_of_found rd clock max hleft h.next_cons, scanned_of_found rd clock hleft h.next_cons]
    by_cases marker : e.tag = Kind.skipTag
    · obtain ⟨m', hsift, hintact, hoffset⟩ := sift_marker rd clock h marker
      obtain ⟨times, passed, rest, new, sweep⟩ := ih sum
        (s := { s with memory := m', stats := s.stats.countSkip }) hintact (by omega)
      rw [hsift]
      dsimp only
      rw [hsum]
      rw [← List.append_nil more] at sweep
      exact ⟨times, e :: passed, rest, [] ++ new, sweep.dropped hle hoffset (List.append_nil _).symm
        (.skip marker sweep.takes) sweep.shows⟩
    · by_cases report : e.header.kind = .getReport
      · obtain ⟨now, new, m', htime, hlog, hfate⟩ := sift_report rd hclock h report
        rcases hfate with ⟨hold, hsift, hintact, hoffset⟩ | ⟨hyoung, hsift, hintact, hoffset⟩
        · rw [List.append_assoc] at hintact
          obtain ⟨times, passed, rest, new', sweep⟩ := ih sum
            (s := ⟨m', (clock.ask s.clock s.memory).state, s.stats.countStale⟩) hintact (by omega)
          rw [hsift]
          dsimp only
          rw [hsum]
          exact ⟨now :: times, e :: passed, rest, new ++ new',
            sweep.dropped hle hoffset hlog (.stale report hold sweep.takes) (.cons _ htime sweep.shows)⟩
        · rw [hsift]
          exact ⟨[now], [e], q, new,
            deliver_sweep rd clock max hintact hoffset hlog (.report report hyoung) (.cons _ htime (.nil _))⟩
      · rw [sift_other rd clock r s _ marker report]
        rw [← List.append_nil (q ++ more)] at h
        exact ⟨[], [e], q, [],
          deliver_sweep rd clock max h rfl (List.append_nil _).symm (.other marker report) (.nil _)⟩

/-- **A poll of an intact ring.** It takes what it takes from the queue that it finds, and what is added while it runs
stays behind what it leaves. -/
theorem poll_sweep (rd : Reader) (max : Nat) (hclock : clock.AddsTo r log) (h : r.Intact s.memory q) :
    ∃ times passed rest new,
      Sweep rd clock r log max q [] s (rd.examined clock r s) (rd.poll clock r max s) times passed rest new := by
  obtain ⟨published, hoccupancy, hcount⟩ := Ring.occupancy_eq (r.writeOffset s.memory) h.read_lt
  rw [h.gap_eq] at hcount
  have hoffsets := Ring.offsets_eq_ok_iff.2 ⟨rfl, rfl, h.read_lt, h.write_lt⟩
  rw [← List.append_nil q] at h
  have hscan := scan_sweep rd max hclock published.toUInt64 0 h
    (by rw [UInt32.toNat_toUInt64, UInt64.toNat_zero]; omega)
  rw [poll_eq_scan rd clock max h.setUp h.read_lt h.write_lt hoccupancy, examined, if_pos h.setUp, hoffsets]
  dsimp only
  rw [hoccupancy]
  exact hscan

/-- A poll comes to one of three ends. -/
theorem Takes.poll_cases {st st' : Stats} {p : Poll} (h : rd.Takes max q times st p rest st') :
    p = .empty ∨ (∃ event, p = .event event) ∨ ∃ e, p = .failed (.decode e) := by
  induction h with
  | empty st => exact .inl rfl
  | skip _ _ ih => exact ih
  | stale _ _ _ ih => exact ih
  | @report e q now st _ _ =>
    rcases settle_cases rd max e.header.kind e.payload st with ⟨event, hsettle⟩ | ⟨failure, hsettle⟩
    · exact .inr (.inl ⟨event, by rw [hsettle]⟩)
    · exact .inr (.inr ⟨failure, by rw [hsettle]⟩)
  | @other e q st _ _ =>
    rcases settle_cases rd max e.header.kind e.payload st with ⟨event, hsettle⟩ | ⟨failure, hsettle⟩
    · exact .inr (.inl ⟨event, by rw [hsettle]⟩)
    · exact .inr (.inr ⟨failure, by rw [hsettle]⟩)

/-- A poll that finds nothing leaves nothing in the queue, and any other poll takes an entry. -/
theorem Takes.rest_lt {st st' : Stats} {p : Poll} (h : rd.Takes max q times st p rest st') :
    p = .empty ∧ rest = [] ∨ p ≠ .empty ∧ rest.length < q.length := by
  induction h with
  | empty st => exact .inl ⟨rfl, rfl⟩
  | skip _ _ ih | stale _ _ _ ih =>
    rcases ih with hend | ⟨hpoll, hlt⟩
    · exact .inl hend
    · exact .inr ⟨hpoll, by rw [List.length_cons]; omega⟩
  | @report e q now st _ _ | @other e q st _ _ =>
    refine .inr ⟨?_, by simp⟩
    rcases settle_cases rd max e.header.kind e.payload st with ⟨event, hsettle⟩ | ⟨failure, hsettle⟩ <;> simp [hsettle]

/-! ### One time -/

/-- What a poll takes from a queue when every look at the clock shows the same time. -/
def takeAt (rd : Reader) (max : Nat) (now : UInt64) : List Entry → Stats → Poll × List Entry × Stats
  | [], st => (.empty, [], st)
  | e :: q, st =>
    if e.tag = Kind.skipTag then takeAt rd max now q st.countSkip
    else if rd.isStaleAt now e.header then takeAt rd max now q st.countStale
    else ((rd.settle max e.header.kind e.payload st).1, q, (rd.settle max e.header.kind e.payload st).2)

/-- Whether a poll at the time `now` passes over an entry. -/
def discards (rd : Reader) (now : UInt64) (e : Entry) : Bool := e.tag = Kind.skipTag || rd.isStaleAt now e.header

theorem unmarked_of_report {e : Entry} (report : e.header.kind = .getReport) : e.tag ≠ Kind.skipTag := by
  intro marker
  have hskip : e.header.kind = .skip := Kind.ofTag_eq_skip_iff.2 marker
  rw [report] at hskip
  simp at hskip

theorem isStaleAt_of_ne {rd : Reader} {now : UInt64} {header : Header} (h : header.kind ≠ .getReport) :
    rd.isStaleAt now header = false := by
  simp [isStaleAt, h]

theorem Takes.takeAt_eq {now : UInt64} {st st' : Stats} {p : Poll} {rest : List Entry}
    (h : rd.Takes max q times st p rest st') (same : ∀ t ∈ times, t = now) :
    rd.takeAt max now q st = (p, rest, st') := by
  induction h with
  | empty st => rfl
  | skip marker after ih => rw [takeAt, if_pos marker, ih same]
  | @stale e q rest t times st st' p report old after ih =>
    obtain rfl : t = now := same t (by simp)
    rw [takeAt, if_neg (unmarked_of_report report), if_pos old, ih fun t' ht' => same t' (by simp [ht'])]
  | @report e q t st report young =>
    obtain rfl : t = now := same t (by simp)
    rw [takeAt, if_neg (unmarked_of_report report), if_neg (by simp [young])]
  | other marker report => rw [takeAt, if_neg marker, if_neg (by simp [isStaleAt_of_ne report])]

/-- What a poll answers that takes an entry. -/
def answer (rd : Reader) (max : Nat) (e : Entry) : Poll :=
  match rd.layout.decode (.ofTag e.tag) e.payload max with
  | .ok event => .event event
  | .error failure => .failed (.decode failure)

theorem settle_fst (rd : Reader) (max : Nat) (e : Entry) (st : Stats) :
    (rd.settle max e.header.kind e.payload st).1 = rd.answer max e := by
  have hkind : e.header.kind = .ofTag e.tag := rfl
  rw [settle, answer, hkind]
  cases rd.layout.decode (.ofTag e.tag) e.payload max with
  | ok event => rfl
  | error failure => rfl

/-- At one time, a poll passes over the longest run of entries that it discards and takes the entry behind it. -/
theorem takeAt_dropWhile (rd : Reader) (max : Nat) (now : UInt64) (q : List Entry) (st : Stats) :
    match q.dropWhile (rd.discards now) with
    | [] => (rd.takeAt max now q st).1 = .empty ∧ (rd.takeAt max now q st).2.1 = []
    | e :: rest => (rd.takeAt max now q st).1 = rd.answer max e ∧ (rd.takeAt max now q st).2.1 = rest := by
  induction q generalizing st with
  | nil => exact ⟨rfl, rfl⟩
  | cons e q ih =>
    rw [takeAt, List.dropWhile_cons]
    by_cases marker : e.tag = Kind.skipTag
    · rw [if_pos marker, if_pos (by simp [discards, marker])]
      exact ih _
    · rw [if_neg marker]
      by_cases old : rd.isStaleAt now e.header = true
      · rw [if_pos old, if_pos (by simp [discards, old])]
        exact ih _
      · rw [if_neg old, if_neg (by simp [discards, marker, old])]
        exact ⟨settle_fst rd max e st, rfl⟩

end Reader

end EventRing
