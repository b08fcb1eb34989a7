import EventRing.Command.Dump
import EventRing.Proofs.Holding

/-!
# A dump hands over what a simulation holds

One process holds a ring that it has written, and another dumps it.  The clock is asked for each report that is looked
at, and reports are every third sample, so `Scenario.look_first` says at which reading each sample is judged.

Main statements: `dumpRing_waiting` (what a dump prints of samples that wait in a ring), `runDump_of_holds` (a dump is
one of the ring that the name denotes), `runDump_waiting` (after which the name denotes it still), `runDump_empty` (a
ring from which everything has been read) and `held_dumped`, which puts the two processes together.
-/

namespace EventRing

/-! ### The object between the processes -/

namespace Objects

/-- A name denotes the same object as before, and the memory of that is the same. -/
structure Untouched (name : String) (object : Nat) (s s' : Objects) : Prop where
  found : s'.find? name = s.find? name
  same : s'.memory object = s.memory object

variable {s s' : Objects} {name : String} {object : Nat} {g : Geometry} {m : Memory}

theorem Holds.untouched (h : s.Holds name object g) (later : Untouched name object s s') : s'.Holds name object g := by
  refine ⟨later.found.trans h.found, ?_⟩
  rw [later.same]
  exact h.declares

/-- A ring that has been set up is in memory that there is. -/
theorem Holds.object_lt (h : s.Holds name object g) : object < s.memories.size := by
  refine Nat.not_le.1 fun hge => ?_
  have hset := h.declares.setUp
  rw [memory, Array.getElem?_eq_none hge] at hset
  exact absurd hset (by decide)

/-- Where only the read offset has moved, a ring is still found. -/
theorem Holds.onlyReadOffset (h : s.Holds name object g) (moved : (⟨0, g⟩ : Ring).OnlyReadOffset (s.memory object) m) :
    (s.setMemory object m).Holds name object g := by
  refine ⟨h.found, ?_⟩
  rw [memory_setMemory h.object_lt]
  exact h.declares.congr fun i hlo hhi => moved.bytes i (Nat.zero_le _) (by rw [Ring.memorySize_eq]; omega) (.inr hlo)

end Objects

namespace Command

/-! ### When samples are looked at -/

/-- The first samples, when nothing but their writing asks the clock. -/
def Written.first (n : Nat) : List Written := (List.range n).map fun i => ⟨i, i⟩

theorem Written.first_succ (n : Nat) : first (n + 1) = first n ++ [⟨n, n⟩] := by
  rw [first, first, List.range_succ, List.map_append, List.map_singleton]

namespace Scenario

variable {c : Scenario} {n i : Nat}

theorem isReport_entry {w : Written} (hw : w.number < UInt32.size) :
    (c.entry w).isReport = decide (w.number % 3 = 0) := by
  rw [Entry.isReport, kind_entry]
  exact decide_eq_decide.2 (kind_eq_getReport_iff hw)

/-- The number of reports among the first samples. -/
theorem countP_isReport (c : Scenario) (hn : n ≤ UInt32.size) :
    (Written.first n).countP (fun w => (c.entry w).isReport) = (n + 2) / 3 := by
  induction n with
  | zero => rfl
  | succ n ih =>
    rw [Written.first_succ, List.countP_append, ih (by omega), List.countP_singleton,
      isReport_entry (show n < UInt32.size by omega)]
    by_cases hreport : n % 3 = 0 <;> simp [hreport] <;> omega

/-- Before a sample is looked at, the clock has been asked once for each report in front of it. -/
theorem look_first (c : Scenario) (asked : Nat) (hn : n ≤ UInt32.size) :
    c.look asked (Written.first n) = (List.range n).map fun i => ⟨⟨i, i⟩, asked + (i + 2) / 3⟩ := by
  induction n with
  | zero => rfl
  | succ n ih =>
    have hbefore := ih (by omega)
    rw [look] at hbefore ⊢
    rw [Written.first_succ, sightings_append, hbefore, c.countP_isReport (by omega), List.range_succ, List.map_append]
    rfl

theorem entries_eq_map (c : Scenario) (n : Nat) : c.entries n = (Written.first n).map c.entry := by
  rw [Written.first, List.map_map]
  rfl

theorem unmarked_map_entry (c : Scenario) (waiting : List Written) :
    unmarked (waiting.map c.entry) = waiting.map c.entry := by
  refine List.filter_eq_self.2 fun e he => ?_
  obtain ⟨w, -, rfl⟩ := List.mem_map.1 he
  exact decide_eq_true (c.entry_unmarked w)

theorem markers_map_entry (c : Scenario) (waiting : List Written) : markers (waiting.map c.entry) = 0 := by
  refine List.countP_eq_zero.2 fun e he => ?_
  obtain ⟨w, -, rfl⟩ := List.mem_map.1 he
  simpa using c.entry_unmarked w

/-- The numbers of the first samples that are not too old when they are looked at. -/
theorem fresh_look_first (c : Scenario) (asked : Nat) (hn : n ≤ UInt32.size) :
    (c.fresh (c.look asked (Written.first n))).map (fun x => x.what.number) =
      (List.range n).filter fun i => !c.isStale ⟨⟨i, i⟩, asked + (i + 2) / 3⟩ := by
  rw [c.look_first asked hn, fresh, List.filter_map, List.map_map]
  exact List.map_id _

/-! ### What samples are decoded to -/

theorem length_connectionState (h : (c.sample i).kind = .connectionState) : (c.sample i).payload.length = 12 := by
  rw [sample, Sample.ofNumber] at h ⊢
  split at h
  · simp at h
  · next hreport =>
    rw [if_neg hreport]
    split at h
    · next hstate =>
      rw [if_pos hstate]
      simp [Sample.address]
    · simp at h

/-- What is not a report can be decoded if the destination has twelve bytes. -/
theorem exists_event (hkind : (c.sample i).kind ≠ .getReport) (hmax : 12 ≤ c.settings.maxPayload) :
    ∃ event, c.event? i = some event := by
  rcases Sample.kind_cases (UInt32.ofNat i) c.settings.layout c.staleEvery with h | h | h
  · exact absurd h hkind
  · have hlength := length_connectionState (c := c) h
    have hsome : ∃ event, Event.decodeConnection (c.sample i).payload c.settings.maxPayload = .ok event := by
      have haddress := List.length_take_of_le (show 6 ≤ (c.sample i).payload.length by omega)
      exact ⟨_, Event.decodeConnection_eq_ok_iff.2 ⟨by omega, hmax, ⟨_, haddress⟩, rfl, rfl⟩⟩
    obtain ⟨event, hevent⟩ := hsome
    refine ⟨event, ?_⟩
    rw [event?, show (c.sample i).kind = .connectionState from h, Layout.decode, hevent]
    rfl
  · refine ⟨c.settings.layout.handOn .hidInfo (c.sample i).payload c.settings.maxPayload, ?_⟩
    rw [event?, show (c.sample i).kind = .hidInfo from h]
    rfl

/-- What is not a report is not too old at any time. -/
theorem isStale_of_ne_report (hkind : (c.sample i).kind ≠ .getReport) (written asked : Nat) :
    c.isStale ⟨⟨i, written⟩, asked⟩ = false := by
  refine Reader.isStaleAt_of_ne ?_
  rw [c.kind_entry]
  exact hkind

end Scenario

/-! ### Dumps -/

variable {c : Scenario} {r : Ring} {m : Memory} {q : List Entry} {waiting : List Written} {asked : Nat}

/-- A dump prints the events of all samples that wait in a ring, and leaves nothing there. -/
theorem dumpRing_waiting (json : Bool) (asked : Nat) (hintact : r.Intact m q)
    (hqueue : unmarked q = waiting.map c.entry) :
    let looked := c.look asked waiting
    ∃ stats asked' m', dumpRing json c.settings (.ofReadings c.times) r asked m =
        (⟨0, Wording.lines json 0 (c.events looked), Wording.counters json stats⟩, asked', m') ∧
      (r.Intact m' [] ∧ r.OnlyReadOffset m m') ∧
      c.settings.toReader.Tallies c.settings.maxPayload c.times (c.seen looked) .zero stats ∧
      stats.skipMarkers = markers q := by
  intro looked
  obtain ⟨s, hpump, hempty, -, htallies, hskips⟩ := pump_waiting (p := .start asked m) json hintact hqueue
  refine ⟨s.stats, s.clock, s.memory, ?_, hempty, htallies, hskips.trans (Nat.zero_add _)⟩
  rw [dumpRing, hpump, ← Report.statsLines_eq]
  show (Report.mk 0 ("" ++ _) _, _) = _
  rw [String.empty_append]
  rfl

variable {settings : Settings} {s : Objects} {object : Nat}

/-- A dump is one of the ring that the name denotes. -/
theorem runDump_of_holds {σ : Type} (json : Bool) (clock : Clock σ) (state : σ)
    (hname : Objects.isReserved settings.ring.name.text = false)
    (h : s.Holds settings.ring.name.text object settings.ring.geometry) :
    let result := dumpRing json settings.reader clock ⟨0, settings.ring.geometry⟩ state (s.memory object)
    runDump json (.ok settings) clock state s = (result.1, result.2.1, s.setMemory object result.2.2) := by
  intro result
  rw [runDump]
  dsimp only
  rw [Objects.openRing_of_holds hname h, if_neg (Nat.not_lt.2 settings.ring.geometry.memorySize_le_sharedSize),
    if_neg (by simp)]
  dsimp only
  rw [Objects.modify_eq, Objects.close, if_neg (by simp)]

/-- A dump prints what waits in the ring that a name denotes.  The name goes on to denote it, and it is empty. -/
theorem runDump_waiting (json : Bool) (times : Nat → UInt64) (staleEvery : UInt32) (asked : Nat)
    (waiting : List Written)
    (hname : Objects.isReserved settings.ring.name.text = false)
    (h : s.Holds settings.ring.name.text object settings.ring.geometry)
    (hintact : (⟨0, settings.ring.geometry⟩ : Ring).Intact (s.memory object) q)
    (hqueue : unmarked q = waiting.map (Scenario.entry ⟨settings.reader, staleEvery, times⟩)) :
    let c : Scenario := ⟨settings.reader, staleEvery, times⟩
    let looked := c.look asked waiting
    ∃ stats asked' left, runDump json (.ok settings) (.ofReadings times) asked s =
        (⟨0, Wording.lines json 0 (c.events looked), Wording.counters json stats⟩, asked', left) ∧
      left.Holds settings.ring.name.text object settings.ring.geometry ∧
      (⟨0, settings.ring.geometry⟩ : Ring).Intact (left.memory object) [] ∧
      c.settings.toReader.Tallies c.settings.maxPayload times (c.seen looked) .zero stats ∧
      stats.skipMarkers = markers q := by
  intro c looked
  obtain ⟨stats, asked', m', hdump, ⟨hempty, hmoved⟩, htallies, hskips⟩ :=
    dumpRing_waiting (c := c) json asked hintact hqueue
  have hrun := runDump_of_holds json (.ofReadings times) asked hname h
  dsimp only at hrun
  rw [show dumpRing json settings.reader (.ofReadings times) ⟨0, settings.ring.geometry⟩ asked (s.memory object) = _
    from hdump] at hrun
  refine ⟨stats, asked', _, hrun, h.onlyReadOffset hmoved, ?_, htallies, hskips⟩
  dsimp only
  rw [Objects.memory_setMemory h.object_lt]
  exact hempty

/-- A dump of an empty ring prints no event, and its counters are at zero. -/
theorem runDump_empty (json : Bool) (times : Nat → UInt64) (asked : Nat)
    (hname : Objects.isReserved settings.ring.name.text = false)
    (h : s.Holds settings.ring.name.text object settings.ring.geometry)
    (hintact : (⟨0, settings.ring.geometry⟩ : Ring).Intact (s.memory object) []) :
    (runDump json (.ok settings) (.ofReadings times) asked s).1 = ⟨0, "", Wording.counters json .zero⟩ := by
  obtain ⟨stats, asked', left, hdump, -, -, htallies, hskips⟩ :=
    runDump_waiting json times 0 asked [] hname h hintact rfl
  obtain ⟨hdelivered, hstale, hfailures⟩ := Scenario.counts (c := ⟨settings.reader, 0, times⟩) htallies
  have hzero : stats = .zero := by
    have hnone : stats.delivered = 0 := hdelivered
    have hfresh : stats.delivered + stats.decodeFailures = 0 := hfailures
    have hskips : stats.skipMarkers = 0 := hskips
    have hstale : stats.staleDiscarded = 0 := hstale
    cases stats
    rw [Stats.zero, Stats.mk.injEq]
    dsimp only at *
    omega
  rw [hdump, hzero]
  rfl

/-! ### The two processes -/

variable {path output : String} {records staleEvery : UInt32} {times : Nat → UInt64} {objects after : Objects}
variable {held : Option SharedRing}

/-- **A dump hands over what a simulation holds.** Let a simulation end up holding its ring.  It has then written the
first `n` samples, in order, where `n` is the largest number of them for which there is room, with a header to spare,
and it tells how many bytes their records take up.  As long as nothing touches the object that the name denotes, a dump
with the same settings, whatever the clock shows by then, ends without an error.  A sample is too old or not by what the
clock shows when it is looked at, and that is when it has been asked once for each report in front.  What is printed are
the events of the samples that are not too old and can be decoded, in order, the same ones as text and as JSON; the
counters tell how many these are, how many samples were too old and how many could not be decoded, add up to `n` and know
of no skip marker.  Whatever is not a report is among them, if twelve bytes can be decoded.  Nothing is left in the ring,
so that a second dump prints no event and counts nothing. -/
theorem held_dumped
    (hrun : runSimulation path records staleEvery true (.ok settings) (.ofReadings times) 0 objects =
      (.holding output, held, asked, after)) :
    let c : Scenario := ⟨settings.reader, staleEvery, times⟩
    let r : Ring := ⟨0, settings.ring.geometry⟩
    let name := settings.ring.name
    ∃ region n, held = some ⟨region, r⟩ ∧
      r.queue? (after.memory region.object) = some ((List.range n).map fun i => c.entry ⟨i, i⟩) ∧
      IsGreatest {k | k ≤ records.toNat ∧ c.bytes r k + r.headerSize.toNat ≤ r.capacity.toNat} n ∧
      (∃ told : Nat, output = "Ring '" ++ name.text ++ "' holds " ++ toString (c.bytes r n) ++ " bytes of records ("
        ++ toString told ++ " back-dated reports).\n" ++ "Attach with `hidring -c " ++ path
        ++ " dump`; Ctrl+C to release.\n") ∧
      ∀ later : Objects, after.Untouched name.text region.object later → ∀ (json : Bool) (reading : Nat),
        let stale := fun i => c.isStale ⟨⟨i, i⟩, reading + (i + 2) / 3⟩
        let fresh := (List.range n).filter fun i => !stale i
        let events := fresh.filterMap c.event?
        ∃ stats reading' left, runDump json (.ok settings) (.ofReadings times) reading later =
            (⟨0, Wording.lines json 0 events, Wording.counters json stats⟩, reading', left) ∧
          (stats.delivered = events.length ∧ stats.staleDiscarded + fresh.length = n ∧
            stats.delivered + stats.decodeFailures = fresh.length ∧
            stats.delivered + stats.staleDiscarded + stats.decodeFailures = n ∧ stats.skipMarkers = 0) ∧
          (12 ≤ settings.reader.maxPayload → ∀ i < n, (c.sample i).kind ≠ .getReport →
            stale i = false ∧ ∃ event ∈ events, c.event? i = some event) ∧
          (r.isEmpty (left.memory region.object) = true ∧ r.queue? (left.memory region.object) = some []) ∧
          ∀ last : Objects, left.Untouched name.text region.object last → ∀ (json : Bool) (reading : Nat),
            (runDump json (.ok settings) (.ofReadings times) reading last).1 =
              ⟨0, "", Wording.counters json .zero⟩ := by
  intro c r name
  obtain ⟨hname, hshared, hholds, n, hheld, houtput⟩ := runSimulation_held hrun
  have hn : n ≤ UInt32.size := Nat.le_trans hheld.most.1.1 (Nat.le_of_lt records.toNat_lt_size)
  refine ⟨_, n, hshared, hheld.intact.queue?_eq, hheld.most, ⟨_, houtput⟩, fun later huntouched json reading => ?_⟩
  intro stale fresh events
  have hlater := hholds.untouched huntouched
  have hintact : r.Intact (later.memory objects.memories.size) (c.entries n) := by
    rw [huntouched.same]
    exact hheld.intact
  -- None of the records is a skip marker, so all of them are looked at.
  have hqueue : unmarked (c.entries n) = (Written.first n).map c.entry := by
    rw [c.entries_eq_map, c.unmarked_map_entry]
  obtain ⟨stats, reading', left, hdump, hleft, hempty, htallies, hskips⟩ :=
    runDump_waiting json times staleEvery reading _ hname hlater hintact hqueue
  obtain ⟨hdelivered, hstale, hfailures⟩ := Scenario.counts (c := c) htallies
  have hfresh : (c.fresh (c.look reading (Written.first n))).map (fun x => x.what.number) = fresh :=
    c.fresh_look_first reading hn
  have hevents : c.events (c.look reading (Written.first n)) = events := by rw [c.events_eq, hfresh]
  have hcount := congrArg List.length hfresh
  rw [List.length_map] at hcount
  have hlength : (c.look reading (Written.first n)).length = n := by
    rw [c.look_first reading hn, List.length_map, List.length_range]
  rw [hevents] at hdelivered
  rw [hlength, hcount] at hstale
  rw [hcount] at hfailures
  rw [show Scenario.events _ _ = events from hevents] at hdump
  refine ⟨stats, reading', left, hdump, ⟨hdelivered, hstale, hfailures, by omega, ?_⟩, fun hmax i hi hkind => ?_,
    ⟨hempty.isEmpty_nil, hempty.queue?_eq⟩, fun last hlast json reading => ?_⟩
  · rw [hskips, c.entries_eq_map, c.markers_map_entry]
  · have hfresh : stale i = false := Scenario.isStale_of_ne_report hkind _ _
    obtain ⟨event, hevent⟩ := Scenario.exists_event hkind hmax
    refine ⟨hfresh, event, List.mem_filterMap.2 ⟨i, List.mem_filter.2 ⟨List.mem_range.2 hi, ?_⟩, hevent⟩, hevent⟩
    rw [hfresh]
    rfl
  · refine runDump_empty json times reading hname (hleft.untouched hlast) ?_
    rw [hlast.same]
    exact hempty

/-- In a ring of 112 bytes, three of ten records and a header fill the data area.  By the time of the dump the first of
them, a report, is too old; the other two are printed. -/
theorem held_dumped_three :
    let name : RingName := ⟨"ring", by decide, by decide, by decide⟩
    let settings : Settings :=
      ⟨⟨name, ⟨112, .packed, by decide, by decide⟩⟩, ⟨.ofMilliseconds 100, 712, .compact, .ofMilliseconds 10⟩⟩
    let times : Nat → UInt64 := fun asked => UInt64.ofNat (1000000 * asked)
    ∃ output held asked after told, runSimulation "hidring.yaml" 10 2 true (.ok settings) (.ofReadings times) 0
        .empty = (.holding output, held, asked, after) ∧
      output = "Ring 'ring' holds 95 bytes of records (" ++ told ++ " back-dated reports).\n"
        ++ "Attach with `hidring -c hidring.yaml dump`; Ctrl+C to release.\n" ∧
      (∃ asked' left, runDump false (.ok settings) (.ofReadings times) 1000 after =
          (⟨0, "[     0] ConnectionState 98:B6:E9:00:00:01 Connected\n" ++ "[     1] HidInfo payload=16B\n",
            ["", "Reader Statistics:", "  Delivered:        2", "  Stale Discarded:  1", "  Skip Markers:     0",
              "  Decode Failures:  0"]⟩, asked', left) ∧
        (runDump true (.ok settings) (.ofReadings times) 2000 left).1 = ⟨0, "",
          ["\x7b\"delivered\":0,\"stale_discarded\":0,\"skip_markers\":0,\"decode_failures\":0\x7d"]⟩) ∧
      (runDump true (.ok settings) (.ofReadings times) 1000 after).1 =
        ⟨0, "\x7b\"type\":\"connection_state\",\"address\":\"98:B6:E9:00:00:01\",\"state\":\"Connected\"\x7d\n"
            ++ "\x7b\"type\":\"passthrough\",\"kind\":\"HidInfo\",\"payload\":[2,0,0,0,2,0,0,0,2,0,0,0,2,0,0,0]\x7d\n",
          ["\x7b\"delivered\":2,\"stale_discarded\":1,\"skip_markers\":0,\"decode_failures\":0\x7d"]⟩ := by
  intro name settings times
  let c : Scenario := ⟨settings.reader, 2, times⟩
  let r : Ring := ⟨0, settings.ring.geometry⟩
  obtain ⟨output, held, asked, after, hrun⟩ :=
    exists_runSimulation_held "hidring.yaml" 10 2 settings times .empty (by decide) rfl (by decide)
  obtain ⟨region, n, -, -, hmost, ⟨told, houtput⟩, hdumps⟩ := held_dumped hrun
  have hthree : IsGreatest {k | k ≤ 10 ∧ c.bytes r k + r.headerSize.toNat ≤ r.capacity.toNat} 3 :=
    Scenario.isGreatest_bytes (by decide) (by decide) (by decide)
  obtain rfl : n = 3 := hmost.unique hthree
  have hfresh : (List.range 3).filter (fun i => !c.isStale ⟨⟨i, i⟩, 1000 + (i + 2) / 3⟩) = [1, 2] := by decide
  have htwo : ([1, 2].filterMap c.event?).length = 2 := by decide
  have hdumped : ∀ json, ∃ asked' left, runDump json (.ok settings) (.ofReadings times) 1000 after =
      (⟨0, Wording.lines json 0 ([1, 2].filterMap c.event?), Wording.counters json ⟨2, 1, 0, 0⟩⟩, asked', left) ∧
      (runDump true (.ok settings) (.ofReadings times) 2000 left).1 = ⟨0, "", Wording.counters true .zero⟩ := by
    intro json
    obtain ⟨stats, asked', left, hdump, ⟨hdelivered, hstale, hfailures, -, hskips⟩, -, -, hagain⟩ :=
      hdumps after ⟨rfl, rfl⟩ json 1000
    rw [hfresh] at hdelivered hstale hfailures hdump
    rw [htwo] at hdelivered
    obtain ⟨delivered, staleDiscarded, skipMarkers, decodeFailures⟩ := stats
    obtain rfl : delivered = 2 := hdelivered
    obtain rfl : staleDiscarded = 1 := Nat.add_right_cancel hstale
    obtain rfl : skipMarkers = 0 := hskips
    obtain rfl : decodeFailures = 0 := Nat.add_left_cancel hfailures
    exact ⟨asked', left, hdump, hagain left ⟨rfl, rfl⟩ true 2000⟩
  have htext : Wording.lines false 0 ([1, 2].filterMap c.event?) =
    "[     0] ConnectionState 98:B6:E9:00:00:01 Connected\n" ++ "[     1] HidInfo payload=16B\n" := by decide
  have hjson : Wording.lines true 0 ([1, 2].filterMap c.event?) =
    "\x7b\"type\":\"connection_state\",\"address\":\"98:B6:E9:00:00:01\",\"state\":\"Connected\"\x7d\n"
      ++ "\x7b\"type\":\"passthrough\",\"kind\":\"HidInfo\",\"payload\":[2,0,0,0,2,0,0,0,2,0,0,0,2,0,0,0]\x7d\n" := by
    decide +kernel
  have hcounters : Wording.counters false ⟨2, 1, 0, 0⟩ = ["", "Reader Statistics:", "  Delivered:        2",
    "  Stale Discarded:  1", "  Skip Markers:     0", "  Decode Failures:  0"] := by decide
  have hcounters' : Wording.counters true ⟨2, 1, 0, 0⟩ =
    ["\x7b\"delivered\":2,\"stale_discarded\":1,\"skip_markers\":0,\"decode_failures\":0\x7d"] := by decide
  have hzero : Wording.counters true .zero =
    ["\x7b\"delivered\":0,\"stale_discarded\":0,\"skip_markers\":0,\"decode_failures\":0\x7d"] := by decide
  obtain ⟨asked', left, hdump, hagain⟩ := hdumped false
  obtain ⟨asked'', left', hdump', -⟩ := hdumped true
  rw [htext, hcounters] at hdump
  rw [hjson, hcounters'] at hdump'
  rw [hzero] at hagain
  refine ⟨output, held, asked, after, toString told, hrun, ?_, ⟨asked', left, hdump, hagain⟩, by rw [hdump']⟩
  have hfront : "Ring '" ++ name.text ++ "' holds " ++ toString (c.bytes r 3) ++ " bytes of records (" =
    "Ring 'ring' holds 95 bytes of records (" := by decide
  have hback : "Attach with `hidring -c " ++ ("hidring.yaml" ++ " dump`; Ctrl+C to release.\n") =
    "Attach with `hidring -c hidring.yaml dump`; Ctrl+C to release.\n" := by decide
  rw [houtput, hfront]
  simp only [String.append_assoc, hback]

end Command
end EventRing
