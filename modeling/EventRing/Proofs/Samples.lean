import EventRing.Proofs.Decoding
import EventRing.Proofs.Simulation
import EventRing.Proofs.Staleness

/-!
# What samples are decoded to

A sample is made by one part of the program and decoded by another, which meet in the layout.  `Sample.event` is what a
sample has to be decoded to, by its number alone.

Main statements: `Sample.decode_report`, `Sample.decode_connection` and `Sample.decode_information` (the three kinds of
samples), `Sample.decode_ofNumber` (all of them), `Ring.Intact.poll_written` (a record that is written to a ring is read
after all that stood there before) and `Sample.read_back`, which takes a sample through a ring.
-/

namespace EventRing

namespace Command.Sample

variable {max : Nat}

/-- The device of a sample. -/
def device (number : UInt32) : Address := ⟨address number, rfl⟩

/-- What a sample is decoded to for a destination of `max` bytes. -/
def event (number : UInt32) (layout : Layout) (max : Nat) : Event :=
  if number.toNat % 3 = 0 then
    .getReport (device number) .ok (UInt32.ofNat (layout.reportOffset + 8))
      ((List.range 8).map fun i => UInt8.ofNat ((number.toNat + i) % 256))
  else if number.toNat % 3 = 1 then
    .connectionState (device number) (if number.toNat / 3 % 2 = 0 then .connected else .disconnected)
  else .passthrough .hidInfo ((List.replicate 4 (Bytes.ofUInt32 number)).flatten.take max)

/-! ### The three kinds -/

/-- The address of a report stands where the layout has it. -/
theorem take_drop_report (layout : Layout) (number : UInt32) :
    ((report layout number).drop layout.addressOffset).take 6 = address number := by
  cases layout <;> rfl

theorem drop_report (layout : Layout) (number : UInt32) :
    (report layout number).drop layout.reportOffset =
      (List.range 8).map fun i => UInt8.ofNat ((number.toNat + i) % 256) := by
  have hbytes : (report layout number).drop layout.reportOffset =
      (List.range 8).map fun i => UInt8.ofNat (number.toNat + i) := by cases layout <;> rfl
  rw [hbytes]
  exact List.map_congr_left fun i _ => UInt8.ofNat_mod_size.symm

/-- No sample tells of a failure. -/
theorem status_report (layout : Layout) (number : UInt32) : layout.status (report layout number) = .ok := by
  cases layout <;> rfl

theorem decode_report (layout : Layout) (number : UInt32) (hmax : 8 ≤ max) :
    layout.decode .getReport (report layout number) max =
      .ok (.getReport (device number) .ok (UInt32.ofNat (layout.reportOffset + 8))
        ((List.range 8).map fun i => UInt8.ofNat ((number.toNat + i) % 256))) := by
  have hlength : (report layout number).length = layout.reportOffset + 8 := length_report layout number
  have hbytes : (device number).bytes = ((report layout number).drop layout.addressOffset).take 6 :=
    (take_drop_report layout number).symm
  have hdecode : layout.decodeReport (report layout number) max = _ :=
    Layout.decodeReport_of_le (by omega) (by omega) hbytes
  rw [status_report, drop_report, hlength] at hdecode
  exact hdecode

theorem toNat_third (number : UInt32) : (number / 3 % 2).toNat = number.toNat / 3 % 2 := by
  rw [UInt32.toNat_mod, UInt32.toNat_div]
  rfl

/-- Connected and disconnected take turns. -/
theorem state_third (number : UInt32) : ConnectionState.ofNumber (number / 3 % 2 * 2) =
    if number.toNat / 3 % 2 = 0 then .connected else .disconnected := by
  have hthird := toNat_third number
  rcases Nat.mod_two_eq_zero_or_one (number.toNat / 3) with hcase | hcase
  · have heven : number / 3 % 2 = 0 := UInt32.toNat_inj.1 (hthird.trans hcase)
    rw [if_pos hcase, heven]
    rfl
  · have hodd : number / 3 % 2 = 1 := UInt32.toNat_inj.1 (hthird.trans hcase)
    rw [if_neg (by omega), hodd]
    rfl

theorem decode_connection (layout : Layout) (number : UInt32) (hmax : 12 ≤ max) :
    layout.decode .connectionState (address number ++ [0, 0] ++ Bytes.ofUInt32 (number / 3 % 2 * 2)) max =
      .ok (.connectionState (device number) (if number.toNat / 3 % 2 = 0 then .connected else .disconnected)) := by
  refine Event.decodeConnection_eq_ok_iff.2 ⟨by simp [address], hmax, device number, rfl, ?_⟩
  have hfront : (address number ++ [0, 0]).length = 8 := rfl
  have hword : ((address number ++ [0, 0] ++ Bytes.ofUInt32 (number / 3 % 2 * 2)).drop 8).take 4 =
      Bytes.ofUInt32 (number / 3 % 2 * 2) := by
    rw [List.drop_left' hfront, List.take_of_length_le (Nat.le_of_eq (Bytes.length_ofUInt32 _))]
  rw [hword, Bytes.toUInt32_ofUInt32, state_third]

/-- No layout limits a device information. -/
theorem decode_information (layout : Layout) (payload : List UInt8) (max : Nat) :
    layout.decode .hidInfo payload max = .ok (.passthrough .hidInfo (payload.take max)) := by
  cases layout <;> rfl

/-- **A sample is decoded to its event**, whatever its number and layout. -/
theorem decode_ofNumber (number : UInt32) (layout : Layout) (staleEvery : UInt32) (hmax : 12 ≤ max) :
    layout.decode (ofNumber number layout staleEvery).kind (ofNumber number layout staleEvery).payload max =
      .ok (event number layout max) := by
  unfold ofNumber event
  dsimp only
  by_cases hreport : number.toNat % 3 = 0
  · rw [if_pos (mod_three_eq_iff.2 hreport), if_pos hreport]
    exact decode_report layout number (by omega)
  · rw [if_neg fun h => hreport (mod_three_eq_iff.1 h), if_neg hreport]
    by_cases hconnection : number.toNat % 3 = 1
    · rw [if_pos (mod_three_eq_iff.2 hconnection), if_pos hconnection]
      exact decode_connection layout number hmax
    · rw [if_neg fun h => hconnection (mod_three_eq_iff.1 h), if_neg hconnection]
      dsimp only
      rw [decode_information]
      rfl

end Command.Sample

namespace Ring

variable {r : Ring} {m : Memory} {q : List Entry} {s : Submission}

/-- A record that is written to a ring is read after all that stood there before, and then the ring is empty. -/
theorem Intact.poll_written (h : r.Intact m q) (hdone : (r.write m s.kind s.timestamp s.payload).1 = .done ())
    {rd : Reader} {now : UInt64} (hread : rd.discards now s.entry = false) (max : Nat) (st : Stats) :
    let after := r.freeTimes (r.write m s.kind s.timestamp s.payload).2 q.length
    (rd.poll (.fixed now) r max ⟨after, (), st⟩).1 = rd.answer max s.entry ∧
      r.Intact (rd.poll (.fixed now) r max ⟨after, (), st⟩).2.memory [] := by
  intro after
  have hleft : r.Intact after (r.additions m s) := (h.write s).freeTimes_append
  -- The record stands alone, or behind a marker that a poll passes over.
  have hqueue : (r.additions m s).dropWhile (rd.discards now) = [s.entry] := by
    rcases additions_cases hdone with hadds | ⟨pad, hadds, hpad, -⟩
    · rw [hadds, List.dropWhile_cons_of_neg (by simp [hread])]
    · have hmarker : rd.discards now pad = true := by simp [Reader.discards, hpad]
      rw [hadds, List.dropWhile_cons_of_pos hmarker, List.dropWhile_cons_of_neg (by simp [hread])]
  obtain ⟨rest, hintact, hpoll⟩ := hleft.poll_fixed (s := ⟨after, (), st⟩) rd max now
  rw [hqueue] at hpoll
  obtain ⟨hanswer, rfl⟩ := hpoll
  exact ⟨hanswer, hintact⟩

end Ring

namespace Command.Sample

/-- **A sample is read back as what it says.**  For every number, layout and cadence, and a destination of at least
twelve bytes, the payload of a sample is decoded to its event.  It is the same if the sample is written, under any
timestamp, to a ring that has seen honest traffic, and read by a poll after what stood there before, by a reader of its
layout that does not find it too old; only reports can be.  Nothing is left then. -/
theorem read_back (number staleEvery : UInt32) (layout : Layout) (max : Nat) (hmax : 12 ≤ max) :
    let sample := ofNumber number layout staleEvery
    layout.decode sample.kind sample.payload max = .ok (event number layout max) ∧
    ∀ (r : Ring) (m : Memory) (timestamp : UInt64), r.Reachable m →
      (r.write m sample.kind timestamp sample.payload).1 = .done () →
      ∃ q, r.queue? m = some q ∧
        let after := r.freeTimes (r.write m sample.kind timestamp sample.payload).2 q.length
        ∀ (window : Duration) (now : UInt64) (st : Stats),
          (number.toNat % 3 = 0 → now.toNat ≤ window.nanoseconds + timestamp.toNat) →
          let result := Reader.poll ⟨layout, window⟩ (.fixed now) r max ⟨after, (), st⟩
          result.1 = .event (event number layout max) ∧ r.isEmpty result.2.memory = true := by
  intro sample
  have hdecode : layout.decode sample.kind sample.payload max = .ok (event number layout max) :=
    decode_ofNumber number layout staleEvery hmax
  refine ⟨hdecode, fun r m timestamp hreachable hdone => ?_⟩
  obtain ⟨q, hintact⟩ := hreachable.intact
  refine ⟨q, hintact.queue?_eq, ?_⟩
  intro after window now st hfresh
  let s : Submission := ⟨sample.kind, timestamp, sample.payload⟩
  have hkind : s.entry.header.kind = sample.kind := ofTag_tag number layout staleEvery
  have hread : Reader.discards ⟨layout, window⟩ now s.entry = false := by
    rw [Reader.discards, Bool.or_eq_false_iff, decide_eq_false_iff_not, ← Bool.not_eq_true, Reader.isStaleAt_iff, hkind]
    refine ⟨tag_ne_skipTag number layout staleEvery, ?_⟩
    rintro ⟨hreport, hold⟩
    have hwindow := hfresh (kind_eq_getReport_iff.1 hreport)
    exact absurd hold (Nat.not_lt.2 hwindow)
  obtain ⟨hanswer, hempty⟩ := hintact.poll_written (s := s) hdone hread max st
  refine ⟨hanswer.trans ?_, hempty.isEmpty_nil⟩
  have htag : Kind.ofTag s.entry.tag = sample.kind := hkind
  have hpayload : s.entry.payload = sample.payload := rfl
  rw [Reader.answer, htag, hpayload, hdecode]

/-- The fourth sample in a ring of 64 bytes that has just been set up. -/
theorem read_back_three :
    let r : Ring := ⟨0, ⟨64, .packed, by decide, by decide⟩⟩
    let m := (r.setUp (Memory.zeros 96) ⟨"ring", by decide, by decide, by decide⟩).2
    let after := (r.write m .getReport 5 (report .compact 3)).2
    (Reader.poll ⟨.compact, .ofMilliseconds 1⟩ (.fixed 6) r 12 ⟨after, (), .zero⟩).1 =
      .event (.getReport ⟨[0x98, 0xB6, 0xE9, 0, 0, 3], rfl⟩ .ok 16 [3, 4, 5, 6, 7, 8, 9, 10]) := by
  intro r m after
  have hreachable : r.Reachable m := Ring.reachable_zeros r _ (by decide)
  obtain ⟨q, hqueue, hread⟩ := (read_back 3 0 .compact 12 (Nat.le_refl 12)).2 r m 5 hreachable (by decide +kernel)
  rw [Ring.queue?_of_isEmpty (by decide +kernel), Option.some.injEq] at hqueue
  subst hqueue
  exact (hread (.ofMilliseconds 1) 6 .zero (by decide)).1

end Command.Sample

end EventRing
