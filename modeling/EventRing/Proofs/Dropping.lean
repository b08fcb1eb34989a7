import EventRing.Proofs.Framing
import Mathlib.Data.List.Forall2

/-!
# A poll drops records

A poll and `Ring.free` take records off a ring independently of each other.  Here the one is accounted for in terms of
the other, whatever stands in the control block and in the data area.  `Ring.Frees` is the walk of `Ring.Drops` with the
entries that the bytes of the records tell.  `Reader.Discards` says which entries a reader passes over, `Reader.Fresh`
which one it does not, and `Reader.Account` puts together what a poll comes to: the entries of the records that it takes
off the ring, its answer, and where the same number of calls of `free` leads.

Main statements: `frees_found` (a record that has been found is freed, and it is the one whose payload is read),
`sift_account` and `scan_account` (one round of a scan, and all of them), `poll_account`, and `poll_frees`, which sums up
how the two agree.
-/

namespace EventRing

/-- The bytes are those of one record, and the entry is the one that they tell. -/
def Entry.IsTold (f : HeaderFormat) (bs : List UInt8) (e : Entry) : Prop := first? f bs = some (e, bs.length)

/-- A header with as many bytes behind it as its size field says is a record. -/
theorem Entry.isTold_of_decode {f : HeaderFormat} {bs : List UInt8} {h : Header} (hdecode : Header.decode bs f = some h)
    (hlen : bs.length = f.size.toNat + h.size.toNat) :
    Entry.IsTold f bs ⟨h.kind.tag, h.timestamp, bs.drop f.size.toNat⟩ := by
  unfold IsTold first?
  rw [hdecode]
  dsimp only
  rw [← hlen, if_pos (Nat.le_refl _), List.take_length]

theorem Entry.IsTold.length_eq {f : HeaderFormat} {bs : List UInt8} {e : Entry} (h : Entry.IsTold f bs e) :
    bs.length = f.size.toNat + e.payload.length := by
  unfold IsTold first? at h
  split at h
  · simp at h
  · dsimp only at h
    split at h
    · next hle =>
      obtain ⟨rfl, hstop⟩ := Prod.mk.inj (Option.some.inj h)
      rw [List.length_drop, List.length_take_of_le hle]
      omega
    · simp at h

/-- Records are dropped one after the other by `Ring.free`, and these are their entries. -/
def Ring.Frees (r : Ring) (m : Memory) (es : List Entry) (m' : Memory) : Prop :=
  ∃ xs, r.Drops m xs m' ∧ List.Forall₂ (Entry.IsTold r.geometry.format) xs es

namespace Reader

/-- Entries that a reader passes over, the times that it is shown meanwhile, and the counters before and after.  Each
entry is a skip marker, or a report response that is too old at the time shown for it. -/
inductive Discards (rd : Reader) : List Entry → List UInt64 → Stats → Stats → Prop
  | nil (st : Stats) : Discards rd [] [] st st
  | skip {e : Entry} {es : List Entry} {times : List UInt64} {st st' : Stats} (marker : e.tag = Kind.skipTag)
      (more : Discards rd es times st.countSkip st') : Discards rd (e :: es) times st st'
  | stale {e : Entry} {es : List Entry} {now : UInt64} {times : List UInt64} {st st' : Stats}
      (report : e.header.kind = .getReport) (old : rd.isStaleAt now e.header = true)
      (more : Discards rd es times st.countStale st') : Discards rd (e :: es) (now :: times) st st'

/-- An entry that a reader does not pass over, and the times that it is shown for it: one if the entry is a report
response, which is not too old then, and none otherwise. -/
inductive Fresh (rd : Reader) : Entry → List UInt64 → Prop
  | report {e : Entry} {now : UInt64} (report : e.header.kind = .getReport)
      (young : rd.isStaleAt now e.header = false) : Fresh rd e [now]
  | other {e : Entry} (marker : e.tag ≠ Kind.skipTag) (report : e.header.kind ≠ .getReport) : Fresh rd e []

/-- What a poll comes to: the entries of the records that it takes off the ring, the times that it is shown, its answer,
where as many calls of `Ring.free` lead, and the counters after it.  It passes over entries until nothing is unread, or
until `Ring.free` fails, or until it has taken a fresh entry and decoded it. -/
inductive Account (rd : Reader) (r : Ring) (max : Nat) (m : Memory) (st : Stats) :
    List Entry → List UInt64 → Poll → Memory → Stats → Prop
  | empty {es : List Entry} {times : List UInt64} {last : Memory} {st' : Stats} (walk : r.Frees m es last)
      (discarded : rd.Discards es times st st') (nothing : r.isEmpty last = true) :
      Account rd r max m st es times .empty last st'
  | corrupt {es : List Entry} {times : List UInt64} {failure : FramingError} {last : Memory} {st' : Stats}
      (walk : r.Frees m es last) (discarded : rd.Discards es times st st')
      (stuck : r.free last = (.failed (.framing failure), last)) :
      Account rd r max m st es times (.failed (.framing failure)) last st'
  | taken {es : List Entry} {e : Entry} {times shown : List UInt64} {p : Poll} {before last : Memory}
      {st' st'' : Stats} (walk : r.Frees m es before) (discarded : rd.Discards es times st st')
      (head : r.Frees before [e] last) (fresh : rd.Fresh e shown)
      (decoded : rd.settle max e.header.kind e.payload st' = (p, st'')) :
      Account rd r max m st (es ++ [e]) (times ++ shown) p last st''

end Reader

variable {σ : Type} {rd : Reader} {clock : Clock σ} {r : Ring} {max : Nat} {m m' last : Memory} {e : Entry}
variable {es es' : List Entry} {times times' : List UInt64} {st st' st'' : Stats} {p : Poll}

/-! ### Rows of records and of discarded entries -/

theorem Clock.Shows.trans {c c' c'' : σ} (h : clock.Shows c times c') (h' : clock.Shows c' times' c'') :
    clock.Shows c (times ++ times') c'' := by
  induction h with
  | nil c => exact h'
  | cons m first more ih => exact .cons m first (ih h')

namespace Ring

theorem Frees.refl (r : Ring) (m : Memory) : r.Frees m [] m := ⟨[], .nil m, .nil⟩

theorem Frees.trans (h : r.Frees m es m') (h' : r.Frees m' es' last) : r.Frees m (es ++ es') last := by
  obtain ⟨xs, hdrops, htold⟩ := h
  obtain ⟨ys, hdrops', htold'⟩ := h'
  exact ⟨xs ++ ys, hdrops.trans hdrops', List.rel_append htold htold'⟩

/-- A record that has been found is freed.  Its entry has the header that was found and the payload that is read. -/
theorem frees_found {found : Found} (hfits : r.Fits m) (hnext : r.next m = .done (some found)) :
    ∃ e m', r.Frees m [e] m' ∧ r.advance m found.span.toUInt64 = (.ok (), m') ∧ e.header = found.header ∧
      r.payload m found = some e.payload ∧ r.span e = found.span.toNat := by
  obtain ⟨hset, hread, hwrite, hne, hoffset, hheader, hspan, -, -⟩ := next_eq_found_iff.1 hnext
  obtain ⟨hdecode, hlen, hbegins⟩ := record_of_next hnext
  have hready : r.Ready m := ⟨hfits, hset, hread, hwrite⟩
  obtain ⟨m', hadvance, -, -⟩ := advance_found hfits hnext
  have hfree : r.free m = (.done (), m') := by
    rw [free, if_pos hset, hnext]
    dsimp only
    rw [hadvance]
  have hpassed : r.passed m m' = m.read (r.dataAt (r.readOffset m).toNat) found.span.toNat := by
    obtain ⟨after, hfreed, -, -, hpassed, -, -⟩ := hready.free_record ⟨_, hdecode, hlen⟩ hbegins
    rw [hfree, Prod.mk.injEq] at hfreed
    rw [hfreed.2]
    exact hpassed
  have htold := Entry.isTold_of_decode hdecode hlen
  have hpayload := payload_found hnext m
  have hbehind := Memory.drop_read m (r.dataAt (r.readOffset m).toNat)
    (show r.headerSize.toNat ≤ found.span.toNat by omega)
  rw [hspan, Nat.add_sub_cancel_left, dataAt_add, ← hspan, ← hpassed] at hbehind
  rw [← hpassed] at htold
  rw [hoffset, ← hbehind] at hpayload
  refine ⟨_, m', ⟨[r.passed m m'], .cons (by simpa [isEmpty] using hne) hfree (.nil m'), .cons htold .nil⟩,
    hadvance, ?_, hpayload, ?_⟩
  · rw [Entry.header, List.length_drop, hpassed, hlen, Nat.add_sub_cancel_left, UInt64.ofNat_toNat,
      Header.ofTag_kind_of_decode hdecode]
  · rw [span, List.length_drop, hpassed, hlen, Nat.add_sub_cancel_left, hspan]

/-- Dropping a record moves the read offset over it, and its bytes are no longer unread. -/
theorem Ready.free_done (h : r.Ready m) (hunread : r.isEmpty m = false) (hfree : r.free m = (.done (), m')) :
    r.Passes m [r.passed m m'] m' ∧ r.unreadSize m' + (r.passed m m').length = r.unreadSize m := by
  rcases overruns_or_record r.geometry.format (r.unread m).1 with hover | ⟨x, hx, hbegins⟩
  · obtain ⟨e, hfailed⟩ := h.free_overruns hover hunread
    rw [hfree] at hfailed
    simp at hfailed
  · obtain ⟨after, hpasses, hleft⟩ := h.passes_record hx hbegins
    have hlen := hbegins.length_le
    have hdrops := hpasses.drops
    cases hdrops with
    | cons _ hfirst more =>
      cases more with
      | nil =>
        rw [hfree, Prod.mk.injEq] at hfirst
        obtain rfl : m' = after := hfirst.2
        refine ⟨hpasses, ?_⟩
        unfold unreadSize
        rcases hleft with ⟨hall, hleft⟩ | ⟨-, hleft⟩
        · rw [hleft, ← hall]
          dsimp only
          rw [List.length_nil]
          omega
        · rw [hleft]
          dsimp only
          rw [List.length_drop]
          omega

theorem Drops.passes {xs : List (List UInt8)} (h : r.Drops m xs last) (hready : r.Ready m) :
    r.Passes m xs last ∧ r.unreadSize last + xs.flatten.length = r.unreadSize m := by
  induction h with
  | nil m => exact ⟨.refl hready, by rw [List.flatten_nil, List.length_nil, Nat.add_zero]⟩
  | @cons m m' last xs hunread hfree more ih =>
    obtain ⟨hpasses, hsize⟩ := hready.free_done hunread hfree
    obtain ⟨hpasses', hsize'⟩ := ih hpasses.ready
    refine ⟨hpasses.trans hpasses', ?_⟩
    rw [List.flatten_cons, List.length_append]
    omega

theorem length_flatten_of_told {xs : List (List UInt8)} (h : List.Forall₂ (Entry.IsTold r.geometry.format) xs es) :
    xs.flatten.length = r.spans es := by
  induction h with
  | nil => rfl
  | @cons x e xs es told _ ih =>
    have hlen := told.length_eq
    rw [List.flatten_cons, List.length_append, ih, spans, hlen, span]
    rfl

/-- Where freeing records leads: the read offset has moved over them, and their bytes are no longer unread. -/
theorem Frees.moves (h : r.Frees m es last) (hready : r.Ready m) :
    r.Ready last ∧ r.ReadMoved m last ∧
      (r.readOffset last).toNat = ((r.readOffset m).toNat + r.spans es) % r.capacity.toNat ∧
      r.unreadSize last + r.spans es = r.unreadSize m := by
  obtain ⟨xs, hdrops, htold⟩ := h
  obtain ⟨hpasses, hsize⟩ := hdrops.passes hready
  have hoffset := hpasses.offset_eq
  rw [length_flatten_of_told htold] at hoffset hsize
  exact ⟨hpasses.ready, hpasses.moved, hoffset, hsize⟩

theorem Drops.moved {xs : List (List UInt8)} (h : r.Drops m xs last) : r.ReadMoved m last := by
  induction h with
  | nil m => exact .refl r m
  | @cons m m' last xs _ hfree _ ih =>
    have hmoved := readMoved_free r m
    rw [hfree] at hmoved
    exact hmoved.trans ih

theorem Frees.moved (h : r.Frees m es last) : r.ReadMoved m last := by
  obtain ⟨xs, hdrops, -⟩ := h
  exact hdrops.moved

/-- A ring from which a record can be dropped is ready for reading. -/
theorem ready_of_free (hfits : r.Fits m) (hunread : r.isEmpty m = false) (hfree : r.free m = (.done (), m')) :
    r.Ready m := by
  by_cases hset : r.isSetUp m = true
  · rw [free, if_pos hset] at hfree
    cases hnext : r.next m with
    | failed e => simp [hnext] at hfree
    | halted => exact absurd hnext next_ne_halted
    | done next =>
      cases next with
      | none =>
        obtain ⟨-, -, heq⟩ := next_eq_none_iff.1 hnext
        simp [isEmpty, heq hset] at hunread
      | some found =>
        obtain ⟨-, hread, hwrite, -⟩ := next_eq_found_iff.1 hnext
        exact ⟨hfits, hset, hread, hwrite⟩
  · simp [free, hset] at hfree

theorem Frees.ready (h : r.Frees m es last) (hfits : r.Fits m) (hes : es ≠ []) : r.Ready m := by
  obtain ⟨xs, hdrops, htold⟩ := h
  cases hdrops with
  | nil m => exact absurd (List.forall₂_nil_left_iff.1 htold) hes
  | cons hunread hfree _ => exact ready_of_free hfits hunread hfree

/-- A record that is freed is behind the read offset. -/
theorem Frees.readOffset_ne (h : r.Frees m [e] last) (hfits : r.Fits m) : r.readOffset last ≠ r.readOffset m := by
  intro heq
  obtain ⟨-, hmoved, -, hsize⟩ := h.moves (h.ready hfits (by simp))
  have hpos := r.span_entry_pos e
  rw [unreadSize_eq, unreadSize_eq, heq, hmoved.onlyReadOffset.writeOffset_eq, spans, spans] at hsize
  omega

end Ring

/-! ### What a reader passes over -/

namespace Reader

theorem Discards.trans (h : rd.Discards es times st st') (h' : rd.Discards es' times' st' st'') :
    rd.Discards (es ++ es') (times ++ times') st st'' := by
  induction h with
  | nil st => exact h'
  | skip marker more ih => exact .skip marker (ih h')
  | stale report old more ih => exact .stale report old (ih h')

/-- Every entry that is passed over is counted once, and none of them as delivered or as a failure. -/
theorem Discards.counts (h : rd.Discards es times st st') :
    st'.records = st.records + es.length ∧ st'.delivered = st.delivered ∧ st'.decodeFailures = st.decodeFailures := by
  induction h with
  | nil st => exact ⟨rfl, rfl, rfl⟩
  | skip _ _ ih | stale _ _ _ ih =>
    obtain ⟨hrecords, hdelivered, hfailures⟩ := ih
    refine ⟨?_, hdelivered, hfailures⟩
    rw [hrecords, List.length_cons]
    simp only [Stats.records, Stats.countSkip, Stats.countStale]
    omega

/-- A poll that first passes over some entries comes to what a poll comes to behind them. -/
theorem Account.after (walk : r.Frees m es m') (discarded : rd.Discards es times st st')
    (h : Account rd r max m' st' es' times' p last st'') :
    Account rd r max m st (es ++ es') (times ++ times') p last st'' := by
  cases h with
  | empty walk' discarded' nothing => exact .empty (walk.trans walk') (discarded.trans discarded') nothing
  | corrupt walk' discarded' stuck => exact .corrupt (walk.trans walk') (discarded.trans discarded') stuck
  | taken walk' discarded' head fresh decoded =>
    rw [← List.append_assoc, ← List.append_assoc]
    exact .taken (walk.trans walk') (discarded.trans discarded') head fresh decoded

theorem Account.frees (h : Account rd r max m st es times p last st') : r.Frees m es last := by
  cases h with
  | empty walk _ _ => exact walk
  | corrupt walk _ _ => exact walk
  | taken walk _ head _ _ => exact walk.trans head

/-- The counters account for every record that a poll takes off the ring. -/
theorem Account.records (h : Account rd r max m st es times p last st') : st'.records = st.records + es.length := by
  cases h with
  | empty _ discarded _ => exact discarded.counts.1
  | corrupt _ discarded _ => exact discarded.counts.1
  | @taken es e times shown p before last st' st'' _ discarded _ _ decoded =>
    have hrecords := discarded.counts.1
    rw [List.length_append, List.length_singleton]
    rcases settle_cases rd max e.header.kind e.payload st' with ⟨event, hsettle⟩ | ⟨failure, hsettle⟩ <;>
      rw [hsettle, Prod.mk.injEq] at decoded <;> rw [← decoded.2] <;>
      simp only [Stats.records, Stats.countDelivered, Stats.countFailure] at hrecords ⊢ <;> omega

/-! ### One record -/

variable {s : ReaderState σ} {found : Ring.Found}

theorem drop_same (same : r.SameRegion m s.memory) (hadvance : r.advance m found.span.toUInt64 = (.ok (), m'))
    (stats : Stats) :
    ∃ after, drop r s found stats = .dropped { s with memory := after, stats } ∧ r.SameRegion m' after := by
  obtain ⟨hresult, hregion⟩ := same.advance found.span.toUInt64
  rw [hadvance] at hresult hregion
  rcases hmoved : r.advance s.memory found.span.toUInt64 with ⟨result, after⟩
  rw [hmoved] at hresult hregion
  dsimp only at hresult
  subst hresult
  exact ⟨after, by rw [drop, hmoved], hregion⟩

/-- What becomes of a record that has been found.  It is dropped as `Ring.free` drops it if its entry is passed over, and
otherwise it is fresh and nothing has happened to the ring. -/
theorem sift_account (rd : Reader) (quiet : clock.Quiet r) (same : r.SameRegion m s.memory)
    (hadvance : r.advance m found.span.toUInt64 = (.ok (), m')) (hheader : e.header = found.header) :
    (∃ times s', rd.sift clock r s found = .dropped s' ∧ rd.Discards [e] times s.stats s'.stats ∧
        r.SameRegion m' s'.memory ∧ clock.Shows s.clock times s'.clock) ∨
      ∃ shown s', rd.sift clock r s found = .fresh s' ∧ rd.Fresh e shown ∧ s'.stats = s.stats ∧
        r.SameRegion m s'.memory ∧ clock.Shows s.clock shown s'.clock := by
  by_cases marker : found.header.kind = .skip
  · obtain ⟨after, hdrop, hregion⟩ := drop_same same hadvance s.stats.countSkip
    have htag : e.tag = Kind.skipTag := Kind.ofTag_eq_skip_iff.1 (show e.header.kind = .skip by rw [hheader, marker])
    rw [sift, if_pos marker, hdrop]
    exact .inl ⟨[], _, rfl, .skip htag (.nil _), hregion, .nil _⟩
  · by_cases report : found.header.kind = .getReport
    · obtain ⟨⟨now, htime⟩, hasked⟩ := quiet s.clock s.memory
      rw [sift_of_time rd clock r s found report htime]
      rw [← hheader] at report ⊢
      cases hstale : rd.isStaleAt now e.header with
      | true =>
        obtain ⟨after, hdrop, hregion⟩ := drop_same
          (s := { s with memory := (clock.ask s.clock s.memory).memory, clock := (clock.ask s.clock s.memory).state })
          (same.trans hasked) hadvance s.stats.countStale
        rw [if_pos rfl, hdrop]
        exact .inl ⟨[now], _, rfl, .stale report hstale (.nil _), hregion, .cons _ htime (.nil _)⟩
      | false =>
        rw [if_neg (by simp)]
        exact .inr ⟨[now], _, rfl, .report report hstale, rfl, same.trans hasked, .cons _ htime (.nil _)⟩
    · have htag : e.tag ≠ Kind.skipTag := by
        intro hskip
        rw [← hheader] at marker
        exact marker (Kind.ofTag_eq_skip_iff.2 hskip)
      rw [sift, if_neg marker, isStale_other rd clock s report]
      exact .inr ⟨[], s, rfl, .other htag (by rw [hheader]; exact report), rfl, same, .nil _⟩

/-- A fresh record is dropped as `Ring.free` drops it, and the answer is what its payload decodes to. -/
theorem deliver_account (rd : Reader) (max : Nat) (same : r.SameRegion m s.memory)
    (hadvance : r.advance m found.span.toUInt64 = (.ok (), m')) (hheader : e.header = found.header)
    (hpayload : r.payload m found = some e.payload) :
    rd.settle max e.header.kind e.payload s.stats
        = ((rd.deliver r max s found).1, (rd.deliver r max s found).2.stats) ∧
      r.SameRegion m' (rd.deliver r max s found).2.memory ∧ (rd.deliver r max s found).2.clock = s.clock := by
  obtain ⟨hresult, hregion⟩ := same.advance found.span.toUInt64
  rw [hadvance] at hresult hregion
  rcases hmoved : r.advance s.memory found.span.toUInt64 with ⟨result, after⟩
  rw [hmoved] at hresult hregion
  dsimp only at hresult
  subst hresult
  rw [deliver, same.onlyReadOffset.payload_eq, hpayload]
  dsimp only
  rw [hmoved, hheader]
  exact ⟨rfl, hregion, rfl⟩

/-! ### Scans and polls -/

/-- **A scan drops records.** -/
theorem scan_account (rd : Reader) (max : Nat) (quiet : clock.Quiet r) (published consumed : UInt64)
    (hready : r.Ready m) (same : r.SameRegion m s.memory)
    (hcount : published.toNat = consumed.toNat + r.unreadSize m) :
    ∃ passed times last,
      rd.Account r max m s.stats passed times (rd.scan clock r max published consumed s).1 last
        (rd.scan clock r max published consumed s).2.stats ∧
      r.SameRegion last (rd.scan clock r max published consumed s).2.memory ∧
      clock.Shows s.clock times (rd.scan clock r max published consumed s).2.clock := by
  -- The published bytes not yet consumed are those that are unread where `free` has led, so the scan stops there too.
  induction hn : r.unreadSize m using Nat.strongRecOn generalizing m s consumed with
  | _ n ih =>
    rw [hn] at hcount
    by_cases hleft : consumed < published
    · cases hnext : r.next m with
      | failed failure =>
        rw [scan_of_failed rd clock max hleft (same.next_eq.trans hnext)]
        have hstuck : r.free m = (.failed (.framing failure), m) := by rw [Ring.free, if_pos hready.setUp, hnext]
        exact ⟨[], [], m, .corrupt (.refl r m) (.nil _) hstuck, same, .nil _⟩
      | halted => exact absurd hnext Ring.next_ne_halted
      | done next =>
        cases next with
        | none =>
          rw [scan_of_none rd clock max (same.next_eq.trans hnext)]
          obtain ⟨-, -, heq⟩ := Ring.next_eq_none_iff.1 hnext
          have hnothing : r.isEmpty m = true := decide_eq_true (heq hready.setUp)
          exact ⟨[], [], m, .empty (.refl r m) (.nil _) hnothing, same, .nil _⟩
        | some found =>
          have hpos := Ring.span_pos hnext
          obtain ⟨e, m', hfrees, hadvance, hheader, hpayload, hspan⟩ :=
            Ring.frees_found hready.fits hnext
          rw [scan_of_found rd clock max hleft (same.next_eq.trans hnext)]
          rcases sift_account rd quiet same hadvance hheader with
            ⟨times, s', hsift, hdiscards, hregion, hshows⟩ | ⟨shown, s', hsift, hfresh, hstats, hregion, hshows⟩
          · obtain ⟨hready', -, -, hsize⟩ := hfrees.moves hready
            rw [Ring.spans, Ring.spans] at hsize
            obtain ⟨sum, hsum, htotal⟩ := Word.addLong?_of_lt consumed found.span.toUInt64
              (by rw [UInt32.toNat_toUInt64]; have := published.toNat_lt_size; omega)
            rw [UInt32.toNat_toUInt64] at htotal
            obtain ⟨passed, times', last, haccount, hlast, hshows'⟩ :=
              ih (r.unreadSize m') (by omega) sum hready' hregion (by omega) rfl
            rw [hsift]
            dsimp only
            rw [hsum]
            exact ⟨[e] ++ passed, times ++ times', last, haccount.after hfrees hdiscards, hlast, hshows.trans hshows'⟩
          · obtain ⟨hdecoded, hregion', hclock⟩ := deliver_account rd max hregion hadvance hheader hpayload
            rw [hsift]
            dsimp only
            rw [hstats] at hdecoded
            exact ⟨[] ++ [e], [] ++ shown, m', .taken (.refl r m) (.nil _) hfrees hfresh hdecoded, hregion', by
              rw [hclock]; exact hshows⟩
    · rw [scan_of_le rd clock r max s hleft]
      have hnothing : r.isEmpty m = true := by
        rw [UInt64.lt_iff_toNat_lt] at hleft
        rw [hready.isEmpty_iff]
        exact List.eq_nil_of_length_eq_zero (by unfold Ring.unreadSize at hn; omega)
      exact ⟨[], [], m, .empty (.refl r m) (.nil _) hnothing, same, .nil _⟩

/-- **A poll drops records**, whatever stands in the ring. -/
theorem poll_account (rd : Reader) (max : Nat) (quiet : clock.Quiet r) (hfits : r.Fits s.memory)
    (hset : r.isSetUp s.memory = true) :
    ∃ passed times last,
      rd.Account r max s.memory s.stats passed times (rd.poll clock r max s).1 last (rd.poll clock r max s).2.stats ∧
      r.SameRegion last (rd.poll clock r max s).2.memory ∧ clock.Shows s.clock times (rd.poll clock r max s).2.clock := by
  cases hoffsets : r.offsets s.memory with
  | error failure =>
    rw [poll_of_error rd clock max hset hoffsets]
    have hstuck : r.free s.memory = (.failed (.framing failure), s.memory) := by
      rw [Ring.free, if_pos hset, Ring.next, hoffsets]
    exact ⟨[], [], s.memory, .corrupt (.refl r _) (.nil _) hstuck, .refl r _, .nil _⟩
  | ok offsets =>
    obtain ⟨read, write⟩ := offsets
    obtain ⟨rfl, rfl, hread, hwrite⟩ := Ring.offsets_eq_ok_iff.1 hoffsets
    obtain ⟨published, hoccupancy, hcount⟩ := Ring.occupancy_eq (r.writeOffset s.memory) hread
    rw [poll_eq_scan rd clock max hset hread hwrite hoccupancy]
    refine scan_account rd max quiet published.toUInt64 0 ⟨hfits, hset, hread, hwrite⟩ (.refl r _) ?_
    rw [UInt32.toNat_toUInt64, UInt64.toNat_zero, Nat.zero_add, hcount, Ring.unreadSize_eq]
    rfl

end Reader

/-- **A poll and `Ring.free` agree on what a record is.** Take a ring that is set up, with any control block and any data
bytes, and a clock that leaves the ring alone.  The counters go up by as many records as a poll takes off the ring, and
as many calls of `Ring.free` succeed and leave the ring as the poll leaves it.  If the poll finds nothing, it has passed
over all of these records, each counted for what it is, and nothing is unread.  If it fails with a framing error, it has
passed over all of them too, and the next call of `Ring.free` fails with the same error.  Otherwise it has passed over
all but the last, which is fresh, and the answer is what its payload decodes to. -/
theorem poll_frees (hfits : r.Fits m) (hset : r.isSetUp m = true) (quiet : clock.Quiet r) (rd : Reader) (max : Nat)
    (c : σ) (st : Stats) :
    let result := rd.poll clock r max ⟨m, c, st⟩
    ∃ passed times last,
      result.2.stats.records = st.records + passed.length ∧ r.Frees m passed last ∧
      r.SameRegion last result.2.memory ∧ r.readOffset result.2.memory = r.readOffset last ∧
      clock.Shows c times result.2.clock ∧
      (result.1 = .empty ∧ rd.Discards passed times st result.2.stats ∧
          r.readOffset result.2.memory = r.writeOffset result.2.memory ∨
        (∃ failure, result.1 = .failed (.framing failure) ∧ rd.Discards passed times st result.2.stats ∧
          r.free last = (.failed (.framing failure), last)) ∨
        ∃ discarded e earlier shown st', passed = discarded ++ [e] ∧ times = earlier ++ shown ∧
          rd.Discards discarded earlier st st' ∧ rd.Fresh e shown ∧
          match rd.layout.decode e.header.kind e.payload max with
          | .ok event => result.1 = .event event ∧ result.2.stats = st'.countDelivered
          | .error failure => result.1 = .failed (.decode failure) ∧ result.2.stats = st'.countFailure) := by
  obtain ⟨passed, times, last, haccount, hregion, hshows⟩ :=
    Reader.poll_account (s := ⟨m, c, st⟩) rd max quiet hfits hset
  have hrecords := haccount.records
  have hfrees := haccount.frees
  generalize rd.poll clock r max ⟨m, c, st⟩ = result at *
  obtain ⟨p, s'⟩ := result
  refine ⟨passed, times, last, hrecords, hfrees, hregion, hregion.readOffset_eq, hshows, ?_⟩
  dsimp only at haccount ⊢
  generalize hstats : s'.stats = st'' at *
  cases haccount with
  | empty _ discarded nothing =>
    rw [← hregion.isEmpty_eq] at nothing
    exact .inl ⟨rfl, discarded, of_decide_eq_true nothing⟩
  | corrupt _ discarded stuck => exact .inr (.inl ⟨_, rfl, discarded, stuck⟩)
  | @taken _ e _ _ _ _ _ _ _ _ discarded _ fresh decoded =>
    refine .inr (.inr ⟨_, _, _, _, _, rfl, rfl, discarded, fresh, ?_⟩)
    unfold Reader.settle at decoded
    cases hdecode : rd.layout.decode e.header.kind e.payload max with
    | ok event =>
      simp only [hdecode, Prod.mk.injEq] at decoded
      exact ⟨decoded.1.symm, decoded.2.symm⟩
    | error failure =>
      simp only [hdecode, Prod.mk.injEq] at decoded
      exact ⟨decoded.1.symm, decoded.2.symm⟩

/-- A ring of 64 bytes that has two records, at the end of the data area and at its start. -/
theorem poll_frees_wrapped :
    let r : Ring := ⟨0, ⟨64, .packed, by decide, by decide⟩⟩
    let m := r.setOffsets ((Memory.zeros 96).setWord 12 1) 47 17
    let result := (Reader.ofLayout .v2).poll (.fixed 9) r 64 ⟨m, (), .zero⟩
    (r.Fits m ∧ r.isSetUp m = true ∧ (Clock.fixed 9).Quiet r) ∧
      ∃ passed last, result.2.stats.records = Stats.zero.records + passed.length ∧ r.Frees m passed last ∧
        r.readOffset result.2.memory = r.readOffset last := by
  intro r m
  have hfits : r.Fits m := by unfold Ring.Fits; decide +kernel
  have hset : r.isSetUp m = true := by decide +kernel
  have hquiet := Clock.quiet_fixed r 9
  have hagree := poll_frees hfits hset hquiet (Reader.ofLayout .v2) 64 () .zero
  generalize (Reader.ofLayout .v2).poll (.fixed 9) r 64 ⟨m, (), .zero⟩ = result at hagree ⊢
  obtain ⟨passed, -, last, hrecords, hfrees, -, hread, -⟩ := hagree
  exact ⟨⟨hfits, hset, hquiet⟩, passed, last, hrecords, hfrees, hread⟩

end EventRing
