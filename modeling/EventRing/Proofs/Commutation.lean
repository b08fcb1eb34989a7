import EventRing.Proofs.Honest
import EventRing.Proofs.Hostile
import EventRing.Proofs.Steps

/-!
# A write and a consumer's step commute

The producer's step reads the consumer's offset, and moves another one; the consumer's step reads the producer's offset.
In honest traffic neither sees in which order the two are made.  The reason is in `Onward.place_eq`: a record that has a
place keeps it while the read offset moves on, also past the end of the data area.  With it go `commit_setReadOffset`
(what a write puts down does not depend on the read offset) and `Reader.takeAt_append` (what a poll takes does not
depend on what stands behind it).

Main statements: `Onward.write_eq` (a write before and after a move of the read offset), `Intact.write_free` and
`Intact.write_poll` (the two steps that move it), and `write_consume_comm`, which states all of this of rings that
honest traffic leads to.
-/

namespace EventRing

namespace Ring

variable {r : Ring} {m m' : Memory} {q : List Entry} {e : Entry} {n : Nat} {p : Placement}
variable {kind : Kind} {timestamp : UInt64} {payload : List UInt8}

/-! ### A write and a move of the read offset -/

/-- Carrying a placement out does not touch the read offset, and does not look at it. -/
theorem commit_setReadOffset (r : Ring) (m : Memory) (offset : UInt32) (p : Placement) (kind : Kind)
    (timestamp : UInt64) (payload : List UInt8) :
    r.commit (r.setReadOffset m offset) p kind timestamp payload =
      r.setReadOffset (r.commit m p kind timestamp payload) offset := by
  unfold commit putHeader
  cases p.pad <;> simp only [setReadOffset_blit_data, setReadOffset_setWriteOffset]

/-- Once the read offset has come closer to the write offset, a record still goes where it would have gone before. -/
theorem Onward.place_eq (h : r.Onward m m') (hplace : r.place m n = .done p) : r.place m' n = .done p := by
  obtain ⟨hset, hr, hw⟩ := place_ready hplace
  obtain ⟨-, hwhere⟩ := place_done hplace
  have hway := h.way
  have hset' := h.frame.isSetUp_eq.trans hset
  have hr' : (r.readOffset m').toNat < r.capacity.toNat := by
    rcases h.stays with heq | hlt
    · rw [heq]; exact hr
    · exact hlt
  have hgap := gap_le_of_onTheWay hway hr'
  have hwrite := h.frame.writeOffset_eq
  rw [← hwrite] at hway hw hgap hwhere
  rcases hwhere with ⟨hroom, hfree, rfl⟩ | ⟨hnoroom, hroom, hahead, hfree, htail, rfl⟩
  · exact place_here hset' hr' hw hroom (by omega)
  · -- Unread bytes in one piece stay so, and their start only moves away from the record.
    rw [OnTheWay, if_pos hahead] at hway
    exact place_moved hset' htail hnoroom hroom hway.2 (by omega)

/-- **A write and a move of the read offset commute.** Let a step move the read offset on before a record is written,
and let it move the read offset to the same place afterwards.  Then the record goes to the same place, and both orders
leave the same memory. -/
theorem Onward.write_eq {after : Memory} (h : r.Onward m m') (hfits : r.Fits m) (hmoved : r.ReadMoved m m')
    (hwrite : (r.write m kind timestamp payload).1 = .done ())
    (hafter : r.ReadMoved (r.write m kind timestamp payload).2 after) (hsame : r.readOffset after = r.readOffset m') :
    r.place m' payload.length = r.place m payload.length ∧ r.write m' kind timestamp payload = (.done (), after) := by
  obtain ⟨p, hplace⟩ := write_eq_done_iff.1 hwrite
  have hplace' := h.place_eq hplace
  have hfits' : r.Fits (r.write m kind timestamp payload).2 := by
    rw [Fits, size_write]
    exact hfits
  refine ⟨hplace'.trans hplace.symm, ?_⟩
  rw [hafter.eq hfits', hsame, write_of_place_done hplace, write_of_place_done hplace']
  dsimp only
  rw [← commit_setReadOffset, ← hmoved.eq hfits]

end Ring

namespace Reader

variable {rd : Reader} {max : Nat} {now : UInt64} {q rest : List Entry} {st st' : Stats} {p : Poll} {r : Ring}
variable {s : ReaderState Unit}

/-! ### A poll and the end of the queue -/

/-- What a poll takes from a queue does not depend on what stands behind the entry it takes. -/
theorem takeAt_append (h : rd.takeAt max now q st = (p, rest, st')) (hp : p ≠ .empty) (more : List Entry) :
    rd.takeAt max now (q ++ more) st = (p, rest ++ more, st') := by
  induction q generalizing st with
  | nil =>
    rw [takeAt] at h
    exact absurd (Prod.mk.inj h).1.symm hp
  | cons e q ih =>
    rw [List.cons_append]
    rw [takeAt] at h ⊢
    by_cases marker : e.tag = Kind.skipTag
    · rw [if_pos marker] at h ⊢
      exact ih h
    · rw [if_neg marker] at h ⊢
      by_cases old : rd.isStaleAt now e.header = true
      · rw [if_pos old] at h ⊢
        exact ih h
      · rw [if_neg old] at h ⊢
        simp only [Prod.mk.injEq] at h ⊢
        obtain ⟨hpoll, rfl, hstats⟩ := h
        exact ⟨hpoll, rfl, hstats⟩

/-- A poll of an intact ring at one time: what it takes from the queue, and where it leaves the read offset. -/
theorem poll_takeAt (rd : Reader) (max : Nat) (now : UInt64) (h : r.Intact s.memory q) :
    ∃ passed rest, q = passed ++ rest ∧
      rd.takeAt max now q s.stats
        = ((rd.poll (.fixed now) r max s).1, rest, (rd.poll (.fixed now) r max s).2.stats) ∧
      (r.readOffset (rd.poll (.fixed now) r max s).2.memory).toNat
        = ((r.readOffset s.memory).toNat + r.spans passed) % r.capacity.toNat := by
  obtain ⟨times, passed, rest, new, sweep⟩ :=
    poll_sweep rd max (Clock.addsTo_of_quiet (Clock.quiet_fixed r now)) h
  exact ⟨passed, rest, sweep.split, sweep.takes.takeAt_eq (sweep.shows.eq_of_same (Clock.time_fixed now)), sweep.offset⟩

end Reader

namespace Ring

variable {r : Ring} {m : Memory} {q : List Entry} {e : Entry} {kind : Kind} {timestamp : UInt64} {payload : List UInt8}

/-! ### The consumer's steps -/

theorem readMoved_poll (rd : Reader) (max : Nat) (now : UInt64) (s : ReaderState Unit) :
    r.ReadMoved s.memory (rd.poll (.fixed now) r max s).2.memory :=
  Reader.poll_keeps rd max (fun _ _ h => h) (fun _ consumed h => h.advance consumed) (.refl r s.memory)

theorem Intact.readOffset_free (h : r.Intact m (e :: q)) :
    (r.readOffset (r.free m).2).toNat = r.offsetAfter (r.span e) (r.readOffset m).toNat := by
  obtain ⟨m', hadvance, -, hoffset⟩ := h.advance_head
  rw [Ring.free, if_pos h.setUp, h.next_cons]
  dsimp only
  rw [hadvance]
  exact hoffset

/-- Dropping the head of the queue before and after a write. -/
theorem Intact.write_free (h : r.Intact m q) (hne : q ≠ [])
    (hwrite : (r.write m kind timestamp payload).1 = .done ()) :
    r.place (r.free m).2 payload.length = r.place m payload.length ∧
      r.write (r.free m).2 kind timestamp payload
        = (.done (), (r.free (r.write m kind timestamp payload).2).2) := by
  obtain ⟨e, tail, rfl⟩ := List.exists_cons_of_ne_nil hne
  have hwritten := h.write ⟨kind, timestamp, payload⟩
  rw [List.cons_append] at hwritten
  refine (free_safe h.fits).2.write_eq h.fits (readMoved_free r m) hwrite (readMoved_free r _) ?_
  rw [← UInt32.toNat_inj, hwritten.readOffset_free, h.readOffset_free, readOffset_write]

/-- A poll that takes an entry, before and after a write. -/
theorem Intact.write_poll (h : r.Intact m q) (hwrite : (r.write m kind timestamp payload).1 = .done ())
    (rd : Reader) (max : Nat) (now : UInt64) (st : Stats)
    (hpoll : (rd.poll (.fixed now) r max ⟨m, (), st⟩).1 ≠ .empty) :
    r.place (rd.poll (.fixed now) r max ⟨m, (), st⟩).2.memory payload.length = r.place m payload.length ∧
      r.write (rd.poll (.fixed now) r max ⟨m, (), st⟩).2.memory kind timestamp payload =
        (.done (), (rd.poll (.fixed now) r max ⟨(r.write m kind timestamp payload).2, (), st⟩).2.memory) ∧
      (rd.poll (.fixed now) r max ⟨(r.write m kind timestamp payload).2, (), st⟩).1 =
        (rd.poll (.fixed now) r max ⟨m, (), st⟩).1 ∧
      (rd.poll (.fixed now) r max ⟨(r.write m kind timestamp payload).2, (), st⟩).2.stats =
        (rd.poll (.fixed now) r max ⟨m, (), st⟩).2.stats := by
  have hwritten := h.write ⟨kind, timestamp, payload⟩
  have hread := r.readOffset_write m kind timestamp payload
  have hmoved := readMoved_poll (r := r) rd max now ⟨m, (), st⟩
  have hmoved' := readMoved_poll (r := r) rd max now ⟨(r.write m kind timestamp payload).2, (), st⟩
  obtain ⟨-, honward, -⟩ := Reader.poll_safe (s := ⟨m, (), st⟩) rd max (Clock.quiet_fixed r now) h.fits
  obtain ⟨passed, rest, hsplit, htake, hoffset⟩ := Reader.poll_takeAt (s := ⟨m, (), st⟩) rd max now h
  obtain ⟨passed', rest', hsplit', htake', hoffset'⟩ :=
    Reader.poll_takeAt (s := ⟨(r.write m kind timestamp payload).2, (), st⟩) rd max now hwritten
  generalize rd.poll (.fixed now) r max ⟨m, (), st⟩ = polled at *
  generalize rd.poll (.fixed now) r max ⟨(r.write m kind timestamp payload).2, (), st⟩ = after at *
  dsimp only at htake htake' hoffset hoffset' hmoved hmoved' honward
  rw [Reader.takeAt_append htake hpoll] at htake'
  simp only [Prod.mk.injEq] at htake'
  obtain ⟨hsame, rfl, hstats⟩ := htake'
  have hpassed : passed' = passed := by
    rw [hsplit, List.append_assoc] at hsplit'
    exact (List.append_cancel_right hsplit').symm
  have hend : r.readOffset after.2.memory = r.readOffset polled.2.memory := by
    rw [← UInt32.toNat_inj, hoffset', hoffset, hpassed, hread]
  obtain ⟨hplace, hcomm⟩ := honward.write_eq h.fits hmoved hwrite hmoved' hend
  exact ⟨hplace, hcomm, hsame.symm, hstats.symm⟩

/-- **A write and a consumer's step commute.** A record that can be written to a ring of honest traffic can be written
as well, and to the same place, after the consumer has moved on.  Dropping a record, and a poll at a fixed time that
answers an event or a decode error, come to the same result behind the write; the poll leaves the same counters; and
both orders leave the same memory. -/
theorem write_consume_comm (h : r.Reachable m) (hwrite : (r.write m kind timestamp payload).1 = .done ()) :
    let written := (r.write m kind timestamp payload).2
    (r.isEmpty m = false →
      (r.free m).1 = .done () ∧ (r.free written).1 = .done () ∧
      r.place (r.free m).2 payload.length = r.place m payload.length ∧
      r.write (r.free m).2 kind timestamp payload = (.done (), (r.free written).2)) ∧
    (∀ (rd : Reader) (max : Nat) (now : UInt64) (st : Stats),
      let polled := rd.poll (.fixed now) r max ⟨m, (), st⟩
      let after := rd.poll (.fixed now) r max ⟨written, (), st⟩
      ((∃ event, polled.1 = .event event) ∨ ∃ e, polled.1 = .failed (.decode e)) →
        after.1 = polled.1 ∧ after.2.stats = polled.2.stats ∧
        r.place polled.2.memory payload.length = r.place m payload.length ∧
        r.write polled.2.memory kind timestamp payload = (.done (), after.2.memory)) ∧
    ∀ m', r.Onward m m' → (r.write m' kind timestamp payload).1 = .done () := by
  intro written
  obtain ⟨q, hq⟩ := h.intact
  refine ⟨fun hempty => ?_, fun rd max now st => ?_, fun m' honward => ?_⟩
  · have hne : q ≠ [] := by
      rintro rfl
      rw [hq.isEmpty_nil] at hempty
      simp at hempty
    obtain ⟨hplace, hcomm⟩ := hq.write_free hne hwrite
    exact ⟨hq.free.1, (hq.write ⟨kind, timestamp, payload⟩).free.1, hplace, hcomm⟩
  · have hcommutes := hq.write_poll hwrite rd max now st
    dsimp only
    generalize rd.poll (.fixed now) r max ⟨m, (), st⟩ = polled at *
    generalize rd.poll (.fixed now) r max ⟨written, (), st⟩ = after at *
    intro hpoll
    have hne : polled.1 ≠ .empty := by
      rcases hpoll with ⟨event, hevent⟩ | ⟨e, hfailed⟩
      · simp [hevent]
      · simp [hfailed]
    obtain ⟨hplace, hcomm, hsame, hstats⟩ := hcommutes hne
    exact ⟨hsame, hstats, hplace, hcomm⟩
  · obtain ⟨p, hplace⟩ := write_eq_done_iff.1 hwrite
    exact write_eq_done_iff.2 ⟨p, honward.place_eq hplace⟩

/-- In a ring of 64 bytes a record of 30 bytes has been dropped and one of 17 is left.  The next record is written to
offset 0, before or after that one is dropped. -/
theorem write_consume_comm_moved :
    let r : Ring := ⟨0, ⟨64, .packed, by decide, by decide⟩⟩
    let fresh := (r.setUp (Memory.zeros 96) ⟨"ring", by decide, by decide, by decide⟩).2
    let m := r.use (r.use (r.use fresh (.write ⟨.hidInfo, 5, List.replicate 13 0⟩)) (.write ⟨.hidInfo, 6, []⟩)) .free
    (r.Reachable m ∧ (r.write m .hidInfo 7 [1]).1 = .done () ∧ r.isEmpty m = false) ∧
      r.write (r.free m).2 .hidInfo 7 [1] = (.done (), (r.free (r.write m .hidInfo 7 [1]).2).2) := by
  intro r fresh m
  have hreachable : r.Reachable m := .use _ (.use _ (.use _ (r.reachable_zeros _ (by decide))))
  have hwrite : (r.write m .hidInfo 7 [1]).1 = .done () := by decide +kernel
  have hempty : r.isEmpty m = false := by decide +kernel
  obtain ⟨hfree, -⟩ := write_consume_comm hreachable hwrite
  obtain ⟨-, -, -, hcomm⟩ := hfree hempty
  exact ⟨⟨hreachable, hwrite, hempty⟩, hcomm⟩

end Ring

end EventRing
