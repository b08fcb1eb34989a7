import EventRing.Proofs.Simulation
import Mathlib.Order.Bounds.Basic

/-!
# What a simulation holds

A simulation that holds its ring writes samples until all are written or one finds the ring full.  Nothing is read
meanwhile, so the records stand one behind the other from the start of the data area, and `Scenario.bytes` is what the
first of them take up.  `Filling` is the invariant of the loop.

Main statements: `Filling.write` (a sample for which there is room is written), `Filling.full` (a sample that finds the
ring full ends the writing), `Filling.run` (the loop, by induction on the number of samples), `simulateRing_held` and
`runSimulation_held` (what is held and what is told of it), and `held_backdated`, on the number of records dated back.
-/

namespace EventRing.Command

/-! ### The first samples -/

namespace Scenario

/-- The entries that the first samples become when nothing but their writing asks the clock. -/
def entries (c : Scenario) (n : Nat) : List Entry := (List.range n).map fun i => c.entry ⟨i, i⟩

/-- The bytes that the records of the first samples take up in a ring. -/
def bytes (c : Scenario) (r : Ring) : Nat → Nat
  | 0 => 0
  | n + 1 => c.bytes r n + (r.headerSize.toNat + (c.sample n).payload.length)

/-- How many of the first samples are dated back. -/
def dated (c : Scenario) (n : Nat) : Nat := (List.range n).countP fun i => (c.sample i).backdated

variable {c : Scenario} {r : Ring} {n k : Nat}

theorem entries_succ (c : Scenario) (n : Nat) : c.entries (n + 1) = c.entries n ++ [c.entry ⟨n, n⟩] := by
  rw [entries, entries, List.range_succ, List.map_append, List.map_singleton]

theorem dated_succ (c : Scenario) (n : Nat) :
    c.dated (n + 1) = c.dated n + if (c.sample n).backdated then 1 else 0 := by
  rw [dated, dated, List.range_succ, List.countP_append, List.countP_singleton]

theorem bytes_le_bytes (c : Scenario) (r : Ring) (h : n ≤ k) : c.bytes r n ≤ c.bytes r k := by
  induction h with
  | refl => exact Nat.le_refl _
  | step _ ih =>
    rw [bytes]
    omega

theorem spans_entries (c : Scenario) (r : Ring) (n : Nat) : r.spans (c.entries n) = c.bytes r n := by
  induction n with
  | zero => rfl
  | succ n ih =>
    rw [entries_succ, Ring.spans_append, ih, bytes, Ring.spans, Ring.spans, Nat.add_zero]
    rfl

/-- Where the next sample does not fit, no longer row of samples does. -/
theorem isGreatest_bytes {records : Nat} (hle : n ≤ records)
    (hroom : c.bytes r n + r.headerSize.toNat ≤ r.capacity.toNat)
    (hend : n < records → r.capacity.toNat < c.bytes r (n + 1) + r.headerSize.toNat) :
    IsGreatest {k | k ≤ records ∧ c.bytes r k + r.headerSize.toNat ≤ r.capacity.toNat} n := by
  refine ⟨⟨hle, hroom⟩, ?_⟩
  rintro k ⟨hk, hfits⟩
  refine Nat.not_lt.1 fun hlt => ?_
  have hover := hend (Nat.lt_of_lt_of_le hlt hk)
  have hmono : c.bytes r (n + 1) ≤ c.bytes r k := c.bytes_le_bytes r hlt
  omega

/-! ### The loop -/

/-- The loop from sample `k` on, when the ring is to be held. -/
def holdFrom (c : Scenario) (r : Ring) (count k : Nat) (s : Simulation Nat) :
    Except Report WriteEnd × Simulation Nat :=
  Simulation.writeAll c.settings (.ofReadings c.times) r c.staleEvery true count (UInt32.ofNat k) s

/-- One round of the loop: a sample that is not written ends it. -/
theorem holdFrom_succ (c : Scenario) (r : Ring) (count k : Nat) (s : Simulation Nat) :
    c.holdFrom r (count + 1) k s =
      match c.attempt r k s.printout.state.clock (c.prepare k s) with
      | (.done (), s') => c.holdFrom r count (k + 1) s'
      | (.halted, s') => (.ok .halted, s')
      | (.failed (.ringFull _ _), s') => (.ok .full, s')
      | (.failed e, s') => (.ok (.failed (.sharedMemory e)), s') := by
  rw [holdFrom, writeAll_succ]
  rfl

end Scenario

/-- A simulation that has written the first `n` samples into an empty ring, from the start of its data area on, and has
read nothing. -/
structure Filling (c : Scenario) (r : Ring) (n : Nat) (s : Simulation Nat) : Prop where
  intact : r.Intact s.printout.state.memory (c.entries n)
  start : r.readOffset s.printout.state.memory = 0
  declares : Ring.Declares r.base r.capacity s.printout.state.memory
  asked : s.printout.state.clock = n
  output : s.printout.output = ""
  backdated : s.backdated = c.dated n

variable {c : Scenario} {r : Ring} {n k : Nat} {s : Simulation Nat}

theorem Filling.room (h : Filling c r n s) : c.bytes r n + r.headerSize.toNat ≤ r.capacity.toNat := by
  have hroom := h.intact.write_room
  rw [h.intact.writeOffset_of_start h.start, c.spans_entries] at hroom
  exact hroom

/-- A sample for which there is room goes behind those that are there. -/
theorem Filling.write (h : Filling c r n s)
    (hroom : c.bytes r (n + 1) + r.headerSize.toNat ≤ r.capacity.toNat) (count : Nat) :
    ∃ s', c.holdFrom r (count + 1) n s = c.holdFrom r count (n + 1) s' ∧ Filling c r (n + 1) s' := by
  rw [Scenario.bytes] at hroom
  have hwritten := h.intact.write_from_start h.start
    ⟨(c.sample n).kind, c.timestamp ⟨n, n⟩, (c.sample n).payload⟩ (by rw [c.spans_entries]; dsimp only; omega)
  have hdeclares := h.declares.write ⟨(c.sample n).kind, c.timestamp ⟨n, n⟩, (c.sample n).payload⟩
  have hstart := r.readOffset_write s.printout.state.memory (c.sample n).kind (c.timestamp ⟨n, n⟩) (c.sample n).payload
  rw [c.holdFrom_succ, c.attempt_eq_write, h.asked, c.memory_prepare]
  -- What else the write does is said by the three facts above.
  generalize r.write s.printout.state.memory (c.sample n).kind (c.timestamp ⟨n, n⟩) (c.sample n).payload = written at *
  obtain ⟨outcome, m'⟩ := written
  obtain ⟨rfl, hintact⟩ := hwritten
  refine ⟨_, rfl, ⟨?_, hstart.trans h.start, hdeclares, congrArg Nat.succ h.asked, h.output, ?_⟩⟩
  · rw [c.entries_succ]
    exact hintact
  · rw [c.dated_succ, ← h.backdated]
    rfl

/-- A sample that could be written into a new ring, but not behind those that are there, ends the writing.  It has been
counted all the same if it is dated back. -/
theorem Filling.full (h : Filling c r n s)
    (hfits : (c.sample n).payload.length + 2 * r.headerSize.toNat ≤ r.capacity.toNat)
    (hover : r.capacity.toNat < c.bytes r (n + 1) + r.headerSize.toNat) (count : Nat) :
    c.holdFrom r (count + 1) n s = (.ok .full, c.prepare n s) := by
  rw [Scenario.bytes] at hover
  have hplace := h.intact.place_from_start h.start hfits
  rw [c.spans_entries, if_neg (by omega)] at hplace
  have hattempt := c.attempt_fst r n n (c.prepare n s)
  rw [c.memory_prepare, Ring.write_eq_failed_iff.2 hplace] at hattempt
  rw [c.holdFrom_succ, h.asked, Scenario.attempt_eq hattempt (by simp)]

/-- A sample that not even a new ring has room for ends the writing with an error. -/
theorem Filling.refused (h : Filling c r n s)
    (hlong : r.capacity.toNat < (c.sample n).payload.length + 2 * r.headerSize.toNat) (count : Nat) :
    ∃ ending s', c.holdFrom r (count + 1) n s = (.ok ending, s') ∧ ending.isError = true := by
  have hattempt := c.attempt_fst r n n (c.prepare n s)
  rw [c.memory_prepare, h.intact.write_too_large hlong 0, Ring.emptyAnswer_of_lt hlong] at hattempt
  rw [c.holdFrom_succ, h.asked]
  generalize c.attempt r n n (c.prepare n s) = attempted at hattempt ⊢
  obtain ⟨outcome, s'⟩ := attempted
  dsimp only at hattempt
  subst hattempt
  by_cases hspan : r.capacity.toNat ≤ (c.sample n).payload.length + r.headerSize.toNat
  · rw [if_pos hspan]
    exact ⟨_, _, rfl, rfl⟩
  · rw [if_neg hspan]
    by_cases hsmall : r.capacity.toNat < 2 * r.headerSize.toNat
    · rw [if_pos hsmall]
      exact ⟨_, _, rfl, rfl⟩
    · rw [if_neg hsmall]
      exact ⟨_, _, rfl, rfl⟩

/-- **The loop writes all samples, or as many as there is room for, or ends with an error.**  There is no error unless a
new ring has no room for the longest payload. -/
theorem Filling.run (h : Filling c r k s) (count : Nat) :
    (∃ s', c.holdFrom r count k s = (.ok .complete, s') ∧ Filling c r (k + count) s') ∨
    (∃ n s', c.holdFrom r count k s = (.ok .full, c.prepare n s') ∧ Filling c r n s' ∧ n < k + count ∧
      r.capacity.toNat < c.bytes r (n + 1) + r.headerSize.toNat) ∨
    r.capacity.toNat < Sample.largest c.settings.layout + 2 * r.headerSize.toNat ∧
      ∃ ending s', c.holdFrom r count k s = (.ok ending, s') ∧ ending.isError = true := by
  induction count generalizing k s with
  | zero => exact .inl ⟨s, rfl, h⟩
  | succ count ih =>
    rcases Nat.lt_or_ge r.capacity.toNat (c.bytes r (k + 1) + r.headerSize.toNat) with hover | hroom
    · -- How a sample without room ends the writing depends on whether a new ring would take it.
      refine .inr ?_
      rcases Nat.lt_or_ge r.capacity.toNat ((c.sample k).payload.length + 2 * r.headerSize.toNat) with hlong | hfits
      · have hle : (c.sample k).payload.length ≤ Sample.largest c.settings.layout := Sample.length_payload_le _ _ _
        exact .inr ⟨by omega, h.refused hlong count⟩
      · exact .inl ⟨k, s, h.full hfits hover count, h, by omega, hover⟩
    · obtain ⟨s', hgo, hnext⟩ := h.write hroom count
      rw [hgo, ← Nat.add_assoc, Nat.add_right_comm]
      exact ih hnext

/-! ### The whole simulation -/

/-- A ring that holds the first `n` of some samples: as many as there is room for, with a header to spare. -/
structure Held (c : Scenario) (r : Ring) (records n : Nat) (m : Memory) : Prop where
  most : IsGreatest {k | k ≤ records ∧ c.bytes r k + r.headerSize.toNat ≤ r.capacity.toNat} n
  intact : r.Intact m (c.entries n)
  declares : Ring.Declares r.base r.capacity m

variable {m : Memory} {path : String} {records staleEvery : UInt32} {settings : Settings} {times : Nat → UInt64}

/-- When no error has ended the writing, the bytes that cannot be written are those of the records, but for one. -/
theorem simulateRing_of_written {ending : WriteEnd} {q : List Entry}
    (hwritten : Simulation.writeAll settings.reader (.ofReadings times) r staleEvery true records.toNat 0
      ⟨.start 0 m, 0⟩ = (.ok ending, s)) (hend : ending.isError = false)
    (hintact : r.Intact s.printout.state.memory q) :
    simulateRing path records staleEvery true settings (.ofReadings times) r 0 m =
      (.holding (s.printout.output ++ holdingLines path settings.ring.name (r.spans q) s.backdated),
        s.printout.state.clock, s.printout.state.memory) := by
  obtain ⟨writable, hwritable, hsum⟩ := Ring.writableBytes_eq hintact.setUp hintact.read_lt hintact.write_lt
  rw [hintact.gap_eq] at hsum
  have hused : r.capacity.toNat - 1 - writable.toNat = r.spans q := by omega
  rw [simulateRing, hwritten]
  cases ending with
  | failed e | halted => simp [WriteEnd.isError] at hend
  | complete | full =>
    dsimp only
    rw [if_pos rfl, hwritable]
    dsimp only
    rw [hused]

/-- A simulation in an empty ring goes on to hold as many samples as there is room for, or ends with an error.  It tells
how many bytes there are, and how many of the samples that it has tried to write are dated back. -/
theorem simulateRing_held (path : String) (records staleEvery : UInt32) (settings : Settings) (times : Nat → UInt64)
    (hintact : r.Intact m []) (hstart : r.readOffset m = 0) (hdeclares : Ring.Declares r.base r.capacity m) :
    let c : Scenario := ⟨settings.reader, staleEvery, times⟩
    let result := simulateRing path records staleEvery true settings (.ofReadings times) r 0 m
    (∃ n asked m', Held c r records.toNat n m' ∧ result = (.holding (holdingLines path settings.ring.name (c.bytes r n)
        (c.dated (min (n + 1) records.toNat))), asked, m')) ∨
      r.capacity.toNat < Sample.largest settings.reader.layout + 2 * r.headerSize.toNat ∧
        ∃ report asked m', result = (.finished report, asked, m') ∧ report.exitCode ≠ 0 := by
  intro c result
  have hempty : Filling c r 0 ⟨.start 0 m, 0⟩ := ⟨hintact, hstart, hdeclares, rfl, rfl, rfl⟩
  have hloop := hempty.run records.toNat
  rw [Nat.zero_add] at hloop
  rcases hloop with ⟨s, hrun, hall⟩ | ⟨n, s, hrun, hfilled, hlt, hover⟩ | ⟨hroom, ending, s, hrun, herror⟩
  · have hring : result = _ := simulateRing_of_written hrun rfl hall.intact
    rw [hall.output, String.empty_append, c.spans_entries, hall.backdated] at hring
    refine .inl ⟨records.toNat, s.printout.state.clock, _, ⟨?_, hall.intact, hall.declares⟩, ?_⟩
    · exact Scenario.isGreatest_bytes (Nat.le_refl _) hall.room fun h => absurd h (Nat.lt_irrefl _)
    · rw [hring, Nat.min_eq_right (Nat.le_succ _)]
  · have hring : result = _ := simulateRing_of_written hrun rfl hfilled.intact
    have houtput : (c.prepare n s).printout.output = "" := hfilled.output
    have hbackdated : (c.prepare n s).backdated = c.dated (n + 1) := by
      rw [c.dated_succ, ← hfilled.backdated]
      rfl
    rw [houtput, String.empty_append, c.spans_entries, hbackdated] at hring
    refine .inl ⟨n, (c.prepare n s).printout.state.clock, _, ⟨?_, hfilled.intact, hfilled.declares⟩, ?_⟩
    · exact Scenario.isGreatest_bytes (Nat.le_of_lt hlt) hfilled.room fun _ => hover
    · rw [hring, Nat.min_eq_left hlt]
      rfl
  · obtain ⟨report, hfinished, hcode⟩ := simulateRing_of_error path settings hrun herror
    exact .inr ⟨hroom, report, _, _, hfinished, hcode⟩

variable {objects after : Objects} {output : String} {held : Option SharedRing} {asked : Nat}

/-- A simulation that ends up holding a ring has made it under a name that nothing had, and the name denotes the ring's
object. -/
theorem runSimulation_held
    (hrun : runSimulation path records staleEvery true (.ok settings) (.ofReadings times) 0 objects =
      (.holding output, held, asked, after)) :
    let name := settings.ring.name
    let r : Ring := ⟨0, settings.ring.geometry⟩
    let c : Scenario := ⟨settings.reader, staleEvery, times⟩
    let object := objects.memories.size
    Objects.isReserved name.text = false ∧
      held = some ⟨⟨name.text, object, r.geometry.sharedSize, true⟩, r⟩ ∧
      after.Holds name.text object r.geometry ∧
      ∃ n, Held c r records.toNat n (after.memory object) ∧
        output = holdingLines path name (c.bytes r n) (c.dated (min (n + 1) records.toNat)) := by
  intro name r c object
  by_cases htaken : Objects.isReserved name.text = true ∨ (objects.find? name.text).isSome = true
  · rw [runSimulation] at hrun
    dsimp only at hrun
    rw [Objects.createRing_of_taken htaken] at hrun
    simp at hrun
  · rw [not_or, Bool.not_eq_true, Option.not_isSome_iff_eq_none] at htaken
    obtain ⟨-, hintact, hstart, -⟩ := objects.withRing_spec name r.geometry
    have hdeclares := (objects.holds_withRing name r.geometry).declares
    rw [runSimulation_of_unused htaken.1 htaken.2] at hrun
    rcases simulateRing_held path records staleEvery settings times hintact hstart hdeclares with
      ⟨n, asked', m', hheld, hring⟩ | ⟨-, report, asked', m', hring, -⟩
    · rw [hring] at hrun
      obtain ⟨houtput, rfl, -, rfl⟩ : _ ∧ _ ∧ _ ∧ _ := by simpa using hrun
      have hmemory := objects.memory_withObject name.text r.geometry.sharedSize m'
      refine ⟨htaken.1, rfl, ⟨objects.find?_withObject _ _ _, ?_⟩, n, ?_, houtput.symm⟩
      · rw [hmemory]
        exact hheld.declares
      · rw [hmemory]
        exact hheld
    · rw [hring] at hrun
      simp at hrun

/-- A simulation under a name that nothing has ends up holding a ring if that has room for the longest payload. -/
theorem exists_runSimulation_held (path : String) (records staleEvery : UInt32) (settings : Settings)
    (times : Nat → UInt64) (objects : Objects) (hname : Objects.isReserved settings.ring.name.text = false)
    (hfind : objects.find? settings.ring.name.text = none)
    (hroom : Sample.largest settings.reader.layout + 2 * settings.ring.geometry.format.size.toNat ≤
      settings.ring.geometry.capacity.toNat) :
    ∃ output held asked after, runSimulation path records staleEvery true (.ok settings) (.ofReadings times) 0 objects =
      (.holding output, held, asked, after) := by
  obtain ⟨-, hintact, hstart, -⟩ := objects.withRing_spec settings.ring.name settings.ring.geometry
  have hdeclares := (objects.holds_withRing settings.ring.name settings.ring.geometry).declares
  rw [runSimulation_of_unused hname hfind]
  rcases simulateRing_held path records staleEvery settings times hintact hstart hdeclares with
    ⟨n, asked', m', hheld, hring⟩ | ⟨hsmall, -⟩
  · rw [hring]
    exact ⟨_, _, _, _, rfl⟩
  · exact absurd hroom (Nat.not_le.2 hsmall)

/-- **How many records dated back are told of.** Let a simulation end up holding its ring.  There are the first `n`
samples in the ring then, in order and unread, and `n` is the largest number of them for which there is room, with a
header to spare.  What is told is how many samples were dated back that the simulation has tried to write: those in the
ring and, unless all have been written, the one that found the ring full.  So the number of records in the ring that
were written with a time before that of their writing is told exactly if all samples were written, or the one that found
the ring full is not dated back.  Otherwise one more is told. -/
theorem held_backdated
    (hrun : runSimulation path records staleEvery true (.ok settings) (.ofReadings times) 0 objects =
      (.holding output, held, asked, after)) :
    let c : Scenario := ⟨settings.reader, staleEvery, times⟩
    let r : Ring := ⟨0, settings.ring.geometry⟩
    ∃ region n told, held = some ⟨region, r⟩ ∧
      r.queue? (after.memory region.object) = some ((List.range n).map fun i => c.entry ⟨i, i⟩) ∧
      IsGreatest {k | k ≤ records.toNat ∧ c.bytes r k + r.headerSize.toNat ≤ r.capacity.toNat} n ∧
      output = "Ring '" ++ settings.ring.name.text ++ "' holds " ++ toString (c.bytes r n) ++ " bytes of records ("
        ++ toString told ++ " back-dated reports).\n" ++ "Attach with `hidring -c " ++ path
        ++ " dump`; Ctrl+C to release.\n" ∧
      told = (min (n + 1) records.toNat + 2) / 3 / staleEvery.toNat ∧
      (told = c.dated n ↔ n = records.toNat ∨ (c.sample n).backdated = false) ∧
      (told ≠ c.dated n → told = c.dated n + 1) := by
  intro c r
  obtain ⟨-, hshared, -, n, hheld, houtput⟩ := runSimulation_held hrun
  have hn : n ≤ records.toNat := hheld.most.1.1
  have htried := c.countP_backdated (n := min (n + 1) records.toNat)
    (Nat.le_trans (Nat.min_le_right _ _) (Nat.le_of_lt records.toNat_lt_size))
  refine ⟨_, n, _, hshared, hheld.intact.queue?_eq, hheld.most, houtput, htried, ?_⟩
  rcases Nat.eq_or_lt_of_le hn with rfl | hlt
  · rw [Nat.min_eq_right (Nat.le_succ _)]
    exact ⟨⟨fun _ => .inl rfl, fun _ => rfl⟩, fun hne => absurd rfl hne⟩
  · -- The sample that found the ring full has been counted, and is not in the ring.
    rw [Nat.min_eq_left hlt, c.dated_succ]
    cases (c.sample n).backdated <;> simp [Nat.ne_of_lt hlt]

/-- A ring of 400 bytes has room for all of twelve records, and two of these are dated back. -/
theorem held_backdated_twelve :
    let name : RingName := ⟨"ring", by decide, by decide, by decide⟩
    let settings : Settings :=
      ⟨⟨name, ⟨400, .packed, by decide, by decide⟩⟩, ⟨.ofMilliseconds 100, 712, .compact, .ofMilliseconds 10⟩⟩
    let times : Nat → UInt64 := fun asked => UInt64.ofNat (1000000 * asked)
    ∃ held asked after, runSimulation "hidring.yaml" 12 2 true (.ok settings) (.ofReadings times) 0 .empty =
      (.holding ("Ring 'ring' holds 380 bytes of records (2 back-dated reports).\n"
        ++ "Attach with `hidring -c hidring.yaml dump`; Ctrl+C to release.\n"), held, asked, after) := by
  intro name settings times
  let c : Scenario := ⟨settings.reader, 2, times⟩
  let r : Ring := ⟨0, settings.ring.geometry⟩
  obtain ⟨output, held, asked, after, hrun⟩ :=
    exists_runSimulation_held "hidring.yaml" 12 2 settings times .empty (by decide) rfl (by decide)
  obtain ⟨region, n, told, -, -, hmost, houtput, htold, -⟩ := held_backdated hrun
  have hall : IsGreatest {k | k ≤ 12 ∧ c.bytes r k + r.headerSize.toNat ≤ r.capacity.toNat} 12 :=
    Scenario.isGreatest_bytes (by decide) (by decide) (by decide)
  obtain rfl : n = 12 := hmost.unique hall
  have hbytes : c.bytes r 12 = 380 := by decide
  have htwo : told = 2 := htold
  rw [hbytes, htwo] at houtput
  have hlines : output = "Ring 'ring' holds 380 bytes of records (2 back-dated reports).\n"
    ++ "Attach with `hidring -c hidring.yaml dump`; Ctrl+C to release.\n" := houtput.trans (by decide)
  rw [hlines] at hrun
  exact ⟨held, asked, after, hrun⟩

/-- A ring of 120 bytes has room for three of ten records, and these carry the times of their writing.  One record dated
back is told of: it is the fourth, which is not in the ring. -/
theorem held_backdated_unwritten :
    let name : RingName := ⟨"ring", by decide, by decide, by decide⟩
    let settings : Settings :=
      ⟨⟨name, ⟨120, .packed, by decide, by decide⟩⟩, ⟨.ofMilliseconds 100, 712, .compact, .ofMilliseconds 10⟩⟩
    let times : Nat → UInt64 := fun asked => UInt64.ofNat (1000000 * asked)
    let r : Ring := ⟨0, settings.ring.geometry⟩
    ∃ region asked after, runSimulation "hidring.yaml" 10 2 true (.ok settings) (.ofReadings times) 0 .empty =
        (.holding ("Ring 'ring' holds 95 bytes of records (1 back-dated reports).\n"
          ++ "Attach with `hidring -c hidring.yaml dump`; Ctrl+C to release.\n"), some ⟨region, r⟩, asked, after) ∧
      (r.queue? (after.memory region.object)).map (List.map Entry.timestamp) = some [0, 1000000, 2000000] := by
  intro name settings times r
  let c : Scenario := ⟨settings.reader, 2, times⟩
  obtain ⟨output, held, asked, after, hrun⟩ :=
    exists_runSimulation_held "hidring.yaml" 10 2 settings times .empty (by decide) rfl (by decide)
  obtain ⟨-, rfl, -, n, hheld, houtput⟩ := runSimulation_held hrun
  have hthree : IsGreatest {k | k ≤ 10 ∧ c.bytes r k + r.headerSize.toNat ≤ r.capacity.toNat} 3 :=
    Scenario.isGreatest_bytes (by decide) (by decide) (by decide)
  obtain rfl : n = 3 := hheld.most.unique hthree
  have hbytes : c.bytes r 3 = 95 := by decide
  have htried : c.dated (min (3 + 1) 10) = 1 := by decide
  have htold : output = holdingLines "hidring.yaml" name (c.bytes r 3) (c.dated (min (3 + 1) 10)) := houtput
  rw [hbytes, htried] at htold
  have hlines : output = "Ring 'ring' holds 95 bytes of records (1 back-dated reports).\n"
    ++ "Attach with `hidring -c hidring.yaml dump`; Ctrl+C to release.\n" := htold.trans (by decide)
  rw [hlines] at hrun
  refine ⟨_, asked, after, hrun, ?_⟩
  rw [hheld.intact.queue?_eq]
  decide

end EventRing.Command
