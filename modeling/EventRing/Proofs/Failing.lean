import EventRing.Proofs.Dropping
import EventRing.Ring.Traffic

/-!
# What a failed poll leaves behind

A poll fails in two ways.  After a framing error the record that caused it is still there, so whatever a consumer tries
next fails with the same error: `Ring.Refuses` says so of memory.  After a decode error the record is gone, and reading
goes on behind it.  Which of the two has happened is what `Error.leavesRingUsable` tells.

Main statements: `refuses_of_next` (memory in which no record can be found for a framing error refuses every consumer),
`Refuses.uses` (nothing that a consumer does changes such memory), and `poll_fails`, which says where a failed poll
leaves the ring.
-/

namespace EventRing

namespace Ring

/-- Memory in which whatever a consumer tries fails with the same framing error, and changes nothing. -/
structure Refuses (r : Ring) (m : Memory) (failure : FramingError) : Prop where
  free : r.free m = (.failed (.framing failure), m)
  poll : ∀ {σ : Type} (rd : Reader) (clock : Clock σ) (max : Nat) (c : σ) (st : Stats),
    rd.poll clock r max ⟨m, c, st⟩ = (.failed (.framing failure), ⟨m, c, st⟩)
  drain : ∀ {σ : Type} (rd : Reader) (clock : Clock σ) (max : Nat) (c : σ) (st : Stats),
    rd.drain clock r max ⟨m, c, st⟩ = (.failed (.framing failure), ⟨m, c, st⟩)
  pump : ∀ {σ : Type} (rd : Reader) (clock : Clock σ) (max : Nat) (c : σ) (st : Stats),
    rd.pump clock r max ⟨m, c, st⟩ = ([.failed (.framing failure)], ⟨m, c, st⟩)

/-- Whether a use of a ring is its consumer's. -/
def Use.consumes : Use → Bool
  | .write _ => false
  | .poll .. | .drain .. | .free => true

variable {r : Ring} {m m' last : Memory} {failure : FramingError} {e : Entry} {es : List Entry}

/-! ### Memory that refuses -/

/-- `Ring.free` fails with a framing error just where looking for the next record does. -/
theorem free_eq_framing_iff (hfits : r.Fits m) :
    r.free m = (.failed (.framing failure), m) ↔ r.isSetUp m = true ∧ r.next m = .failed failure := by
  constructor
  · intro hfree
    by_cases hset : r.isSetUp m = true
    · rw [free, if_pos hset] at hfree
      refine ⟨hset, ?_⟩
      cases hnext : r.next m with
      | failed failure' =>
        rw [hnext] at hfree
        simp only [Prod.mk.injEq, Outcome.failed.injEq, Error.framing.injEq, and_true] at hfree
        rw [hfree]
      | halted => exact absurd hnext next_ne_halted
      | done next =>
        rw [hnext] at hfree
        cases next with
        | none => simp at hfree
        | some found =>
          obtain ⟨m', hadvance, -, -⟩ := advance_found hfits hnext
          simp [hadvance] at hfree
    · simp [free, hset] at hfree
  · rintro ⟨hset, hnext⟩
    rw [free, if_pos hset, hnext]

/-- Looking for the next record is the first thing that every consumer does, so all of them fail as it does. -/
theorem refuses_of_next (hset : r.isSetUp m = true) (hnext : r.next m = .failed failure) : r.Refuses m failure := by
  have hpoll : ∀ {σ : Type} (rd : Reader) (clock : Clock σ) (max : Nat) (c : σ) (st : Stats),
      rd.poll clock r max ⟨m, c, st⟩ = (.failed (.framing failure), ⟨m, c, st⟩) := by
    intro σ rd clock max c st
    cases hoffsets : r.offsets m with
    | error e =>
      rw [next, hoffsets] at hnext
      rw [← Outcome.failed.inj hnext]
      exact Reader.poll_of_error (s := ⟨m, c, st⟩) rd clock max hset hoffsets
    | ok offsets =>
      obtain ⟨read, write⟩ := offsets
      obtain ⟨rfl, rfl, hread, hwrite⟩ := offsets_eq_ok_iff.1 hoffsets
      obtain ⟨published, hoccupancy, hcount⟩ := occupancy_eq (r.writeOffset m) hread
      -- The poll has something to look at: with equal offsets no record would have been looked for.
      have hne : r.readOffset m ≠ r.writeOffset m := by
        intro heq
        rw [next_eq_none_iff.2 ⟨hread, hwrite, fun _ => heq⟩] at hnext
        simp at hnext
      have hgap : r.gap (r.readOffset m).toNat (r.writeOffset m).toNat ≠ 0 :=
        fun hzero => hne (UInt32.toNat_inj.1 ((gap_eq_zero_iff hread).1 hzero))
      have hleft : (0 : UInt64) < published.toUInt64 := by
        rw [UInt64.lt_iff_toNat_lt, UInt32.toNat_toUInt64, UInt64.toNat_zero]
        omega
      rw [Reader.poll_eq_scan (s := ⟨m, c, st⟩) rd clock max hset hread hwrite hoccupancy]
      exact Reader.scan_of_failed rd clock max hleft hnext
  refine ⟨by rw [free, if_pos hset, hnext], hpoll, fun rd clock max c st => ?_, fun rd clock max c st => ?_⟩
  · rw [Reader.drain, Reader.pollBound, Reader.drainUpTo, hpoll]
  · rw [Reader.pump, Reader.pollBound, Reader.pumpUpTo, hpoll]
    rfl

theorem Refuses.use (h : r.Refuses m failure) {u : Use} (hu : u.consumes = true) : r.use m u = m := by
  cases u with
  | write s => simp [Use.consumes] at hu
  | poll rd times max => rw [Ring.use, h.poll]
  | drain rd times max => rw [Ring.use, h.drain]
  | free => rw [Ring.use, h.free]

/-- Nothing that consumers do changes memory that refuses. -/
theorem Refuses.uses (h : r.Refuses m failure) (later : List Use) (consumers : ∀ u ∈ later, u.consumes = true) :
    later.foldl r.use m = m := by
  induction later with
  | nil => rfl
  | cons u later ih =>
    rw [List.foldl_cons, h.use (consumers u List.mem_cons_self)]
    exact ih fun u' hu' => consumers u' (List.mem_cons_of_mem u hu')

end Ring

variable {σ : Type} {clock : Clock σ} {r : Ring} {m : Memory}

/-- **Where a failed poll leaves a ring.** Take a ring that is set up, with any control block and any data bytes, and a
clock that leaves the ring alone.  A poll that fails has passed over some records, and fails at the next one, either
with a framing error or with a decode error.  After a framing error that record is still there, and as long as nobody
changes the ring, every consumer fails with the same error and changes nothing.  After a decode error that record has
been taken off and counted, and the read offset stands behind it.  `Error.leavesRingUsable` tells whether the record is
gone. -/
theorem poll_fails (hfits : r.Fits m) (hset : r.isSetUp m = true) (quiet : clock.Quiet r) (rd : Reader) (max : Nat)
    (c : σ) (st : Stats) {error : Error} (hfailed : (rd.poll clock r max ⟨m, c, st⟩).1 = .failed error) :
    let after := (rd.poll clock r max ⟨m, c, st⟩).2
    ∃ discarded earlier before st',
      r.Frees m discarded before ∧ rd.Discards discarded earlier st st' ∧
      (error.leavesRingUsable = true ↔ r.readOffset after.memory ≠ r.readOffset before) ∧
      ((∃ failure, error = .framing failure ∧ clock.Shows c earlier after.clock ∧
          r.SameRegion before after.memory ∧ after.stats = st' ∧
          ∀ m', r.SameRegion after.memory m' → ∀ later : List Ring.Use, (∀ u ∈ later, u.consumes = true) →
            later.foldl r.use m' = m' ∧ r.Refuses m' failure) ∨
        ∃ failure e shown last, error = .decode failure ∧ clock.Shows c (earlier ++ shown) after.clock ∧
          r.Frees before [e] last ∧ r.SameRegion last after.memory ∧
          (r.readOffset after.memory).toNat = ((r.readOffset before).toNat + r.span e) % r.capacity.toNat ∧
          rd.Fresh e shown ∧ rd.layout.decode e.header.kind e.payload max = .error failure ∧
          after.stats = st'.countFailure ∧ after.stats.decodeFailures = st.decodeFailures + 1) := by
  obtain ⟨passed, times, last, haccount, hregion, hshows⟩ :=
    Reader.poll_account (s := ⟨m, c, st⟩) rd max quiet hfits hset
  generalize rd.poll clock r max ⟨m, c, st⟩ = result at *
  obtain ⟨p, after⟩ := result
  dsimp only at haccount hregion hshows hfailed ⊢
  subst hfailed
  generalize hstats : after.stats = st'' at *
  cases haccount with
  | @corrupt _ _ failure _ _ walk discarded stuck =>
    have hlast := walk.moved.onlyReadOffset.fits hfits
    obtain ⟨hset', hnext⟩ := (Ring.free_eq_framing_iff hlast).1 stuck
    refine ⟨passed, times, last, st'', walk, discarded, ?_, .inl ⟨failure, rfl, hshows, hregion, rfl, ?_⟩⟩
    · simp [Error.leavesRingUsable, hregion.readOffset_eq]
    · intro m' same later consumers
      have hsame := hregion.trans same
      have hrefuses := Ring.refuses_of_next (hsame.onlyReadOffset.isSetUp_eq.trans hset') (hsame.next_eq.trans hnext)
      exact ⟨hrefuses.uses later consumers, hrefuses⟩
  | @taken discarded e earlier shown _ before _ st' _ walk hdiscards head fresh decoded =>
    have hbefore := walk.moved.onlyReadOffset.fits hfits
    have hne := head.readOffset_ne hbefore
    obtain ⟨-, -, hoffset, -⟩ := head.moves (head.ready hbefore (by simp))
    rw [Ring.spans, Ring.spans, Nat.add_zero] at hoffset
    rw [Reader.settle] at decoded
    split at decoded
    · simp at decoded
    · next failure hdecode =>
      simp only [Prod.mk.injEq, Poll.failed.injEq] at decoded
      obtain ⟨rfl, rfl⟩ := decoded
      refine ⟨discarded, earlier, before, st', walk, hdiscards, ?_, .inr ⟨failure, e, shown, last, rfl, hshows, head,
        hregion, by rw [hregion.readOffset_eq]; exact hoffset, fresh, hdecode, rfl, ?_⟩⟩
      · simp [Error.leavesRingUsable, hregion.readOffset_eq, hne]
      · rw [Stats.countFailure, hdiscards.counts.2.2]

/-- A ring of 64 bytes in which no header fits between the read offset and the end of the data area. -/
theorem poll_fails_straddling :
    let r : Ring := ⟨0, ⟨64, .packed, by decide, by decide⟩⟩
    let m := r.setOffsets ((Memory.zeros 96).setWord 12 1) 60 17
    let after := ((Reader.ofLayout .v2).poll (.fixed 9) r 64 ⟨m, (), .zero⟩).2
    (r.Fits m ∧ r.isSetUp m = true ∧ (Clock.fixed 9).Quiet r ∧
        ((Reader.ofLayout .v2).poll (.fixed 9) r 64 ⟨m, (), .zero⟩).1 = .failed (.framing (.headerOverrun 60 17 64))) ∧
      r.Refuses after.memory (.headerOverrun 60 17 64) := by
  intro r m
  have hfits : r.Fits m := by unfold Ring.Fits; decide +kernel
  have hset : r.isSetUp m = true := by decide +kernel
  have hquiet := Clock.quiet_fixed r 9
  have hnext : r.next m = .failed (.headerOverrun 60 17 64) := by decide +kernel
  have hpoll := (Ring.refuses_of_next hset hnext).poll (Reader.ofLayout .v2) (.fixed 9) 64 () .zero
  have hfails := poll_fails hfits hset hquiet (Reader.ofLayout .v2) 64 () .zero (congrArg Prod.fst hpoll)
  generalize (Reader.ofLayout .v2).poll (.fixed 9) r 64 ⟨m, (), .zero⟩ = result at hpoll hfails ⊢
  refine ⟨⟨hfits, hset, hquiet, by rw [hpoll]⟩, ?_⟩
  obtain ⟨_, _, _, _, -, -, -, hframing | hdecode⟩ := hfails
  · obtain ⟨failure, hfailure, -, -, -, hrefuses⟩ := hframing
    rw [Error.framing.inj hfailure]
    exact (hrefuses _ (.refl r _) [] (by simp)).2
  · obtain ⟨failure, -, -, -, hfailure, -⟩ := hdecode
    simp at hfailure

end EventRing
