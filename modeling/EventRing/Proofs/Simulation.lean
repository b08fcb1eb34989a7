import EventRing.Command.Simulate
import EventRing.Proofs.Acceptance
import EventRing.Proofs.Appending
import EventRing.Proofs.Emptying
import EventRing.Proofs.Sharing

/-!
# A simulation accounts for every record

A simulation that does not hold its ring writes a number of samples and reads all of them.  `Scenario` is what decides
how it goes, besides the ring.  `Progress` is the invariant of its loop: the samples written so far are those that have
been read, in `past`, followed by those that wait in the ring.  Each sample carries how often the clock had been asked
before it was written, and one that has been read also how often before it was looked at.

Main statements: `countP_backdated` (how many samples are dated back), `Progress.pump` (a pump reads what is waiting),
`Progress.write` (a record joins what is waiting), `Progress.round` (one round of the loop), `Progress.writeFrom` (the
loop, by induction on the number of samples) and `simulation_accounts`.
-/

namespace EventRing.Command

/-! ### Samples -/

namespace Sample

variable {layout : Layout} {number staleEvery : UInt32}

/-- The length of the longest payload of a sample. -/
def largest : Layout → Nat
  | .compact => 16
  | .legacy | .v2 => 20

example : (ofNumber 0 .compact 0).payload.length = largest .compact := by decide

example : (ofNumber 0 .v2 0).payload.length = largest .v2 := by decide

theorem length_report (layout : Layout) (number : UInt32) :
    (report layout number).length = layout.reportOffset + reportSize := by
  cases layout <;> simp [report, address, Layout.addressOffset, Layout.reportOffset, Address.size, reportSize]

theorem length_payload_le (number : UInt32) (layout : Layout) (staleEvery : UInt32) :
    (ofNumber number layout staleEvery).payload.length ≤ largest layout := by
  unfold ofNumber
  dsimp only
  split
  · rw [length_report]
    cases layout <;> decide
  · split <;> cases layout <;> simp [address, largest]

theorem kind_cases (number : UInt32) (layout : Layout) (staleEvery : UInt32) :
    (ofNumber number layout staleEvery).kind = .getReport ∨
      (ofNumber number layout staleEvery).kind = .connectionState ∨
      (ofNumber number layout staleEvery).kind = .hidInfo := by
  unfold ofNumber
  dsimp only
  split
  · exact .inl rfl
  · split
    · exact .inr (.inl rfl)
    · exact .inr (.inr rfl)

/-- The kind of a sample is told by its tag. -/
theorem ofTag_tag (number : UInt32) (layout : Layout) (staleEvery : UInt32) :
    Kind.ofTag (ofNumber number layout staleEvery).kind.tag = (ofNumber number layout staleEvery).kind := by
  rcases kind_cases number layout staleEvery with h | h | h <;> rw [h] <;> rfl

theorem mod_three_eq_iff {k : UInt32} : number % 3 = k ↔ number.toNat % 3 = k.toNat := by
  rw [← UInt32.toNat_inj, UInt32.toNat_mod]
  rfl

/-- Every third sample is a report. -/
theorem kind_eq_getReport_iff : (ofNumber number layout staleEvery).kind = .getReport ↔ number.toNat % 3 = 0 := by
  have hzero : number % 3 = 0 ↔ number.toNat % 3 = 0 := mod_three_eq_iff
  rw [ofNumber, ← hzero]
  split
  · next hreport => simp [hreport]
  · next hreport => split <;> simp [hreport]

theorem tag_ne_skipTag (number : UInt32) (layout : Layout) (staleEvery : UInt32) :
    (ofNumber number layout staleEvery).kind.tag ≠ Kind.skipTag := by
  rcases kind_cases number layout staleEvery with h | h | h <;> rw [h] <;> decide

end Sample

/-- What decides how a simulation goes, besides the ring: the reader's settings, how many reports make one that is dated
back, and what the clock shows each time it is asked. -/
structure Scenario where
  settings : ReaderSettings
  staleEvery : UInt32
  times : Nat → UInt64

/-- A sample that has been written: its number, and how often the clock had been asked before. -/
structure Written where
  number : Nat
  reading : Nat

namespace Scenario

/-- The sample with a number. -/
def sample (c : Scenario) (number : Nat) : Sample :=
  .ofNumber (UInt32.ofNat number) c.settings.layout c.staleEvery

/-- The timestamp of a sample: the time of its writing, or a time before that. -/
def timestamp (c : Scenario) (w : Written) : UInt64 :=
  if (c.sample w.number).backdated then ticksBetween (Simulation.staleAge c.settings) (c.times w.reading)
  else c.times w.reading

/-- The entry that a sample becomes. -/
def entry (c : Scenario) (w : Written) : Entry :=
  ⟨(c.sample w.number).kind.tag, c.timestamp w, (c.sample w.number).payload⟩

/-- Whether a sample that has been read was too old then. -/
def isStale (c : Scenario) (x : Sighting Written) : Bool :=
  c.settings.toReader.isStaleAt (c.times x.asked) (c.entry x.what).header

/-- What a sample can be decoded to. -/
def event? (c : Scenario) (number : Nat) : Option Event :=
  (c.settings.layout.decode (c.sample number).kind (c.sample number).payload c.settings.maxPayload).toOption

/-- The samples that were not too old when they were read. -/
def fresh (c : Scenario) (past : List (Sighting Written)) : List (Sighting Written) :=
  past.filter fun x => !c.isStale x

/-- The events of samples that have been read. -/
def events (c : Scenario) (past : List (Sighting Written)) : List Event :=
  (c.fresh past).filterMap fun x => c.event? x.what.number

/-- What a reader has seen of samples that have been read. -/
def seen (c : Scenario) (past : List (Sighting Written)) : List (Sighting Entry) := past.map (Sighting.map c.entry)

/-- How samples are looked at that wait in a ring, when the clock has been asked `asked` times before. -/
def look (c : Scenario) (asked : Nat) (waiting : List Written) : List (Sighting Written) :=
  sightings (fun w => (c.entry w).isReport) asked waiting

variable {c : Scenario} {k : Nat}

theorem kind_entry (c : Scenario) (w : Written) : (c.entry w).header.kind = (c.sample w.number).kind :=
  Sample.ofTag_tag _ _ _

theorem entry_unmarked (c : Scenario) (w : Written) : (c.entry w).tag ≠ Kind.skipTag := Sample.tag_ne_skipTag _ _ _

theorem kept_seen (c : Scenario) (past : List (Sighting Written)) :
    c.settings.toReader.kept c.times (c.seen past) = c.seen (c.fresh past) := List.filter_map

theorem events_seen (c : Scenario) (past : List (Sighting Written)) :
    (c.settings.toReader.answers c.settings.maxPayload c.times (c.seen past)).flatMap Poll.events = c.events past := by
  rw [Reader.answers, kept_seen, Reader.events_answers, seen, List.map_map, List.filterMap_map, events]
  congr 1
  funext x
  show (c.settings.layout.decode (c.entry x.what).header.kind (c.sample x.what.number).payload _).toOption = _
  rw [kind_entry]
  rfl

/-- The events of samples that have been read are told by the numbers of those that were not too old. -/
theorem events_eq (c : Scenario) (past : List (Sighting Written)) :
    c.events past = ((c.fresh past).map fun x => x.what.number).filterMap c.event? := by
  rw [List.filterMap_map]
  rfl

theorem events_append (c : Scenario) (past new : List (Sighting Written)) :
    c.events (past ++ new) = c.events past ++ c.events new := by
  rw [events, fresh, List.filter_append, List.filterMap_append]
  rfl

theorem seen_append (c : Scenario) (past new : List (Sighting Written)) :
    c.seen (past ++ new) = c.seen past ++ c.seen new := List.map_append

theorem seen_look (c : Scenario) (asked : Nat) (waiting : List Written) :
    c.seen (c.look asked waiting) = sightings Entry.isReport asked (waiting.map c.entry) := by
  rw [sightings_map]
  rfl

theorem what_look (c : Scenario) (asked : Nat) (waiting : List Written) :
    (c.look asked waiting).map Sighting.what = waiting := map_what_sightings _ _ _

theorem pairwise_look (c : Scenario) (asked : Nat) (waiting : List Written) :
    (c.look asked waiting).Pairwise fun x y => x.asked ≤ y.asked := pairwise_sightings _ _ _

/-- What is looked at was waiting, and is looked at between the first look and the last. -/
theorem mem_look {x : Sighting Written} {asked : Nat} {waiting : List Written} (h : x ∈ c.look asked waiting) :
    x.what ∈ waiting ∧ asked ≤ x.asked ∧ x.asked ≤ asked + (waiting.map c.entry).countP Entry.isReport := by
  refine ⟨?_, ?_⟩
  · rw [← c.what_look asked waiting]
    exact List.mem_map_of_mem h
  · rw [List.countP_map]
    exact asked_of_mem_sightings h

/-! ### Reports, and which of them are dated back -/

theorem dvd_add_one_iff {a b : Nat} (hb : 0 < b) : b ∣ a + 1 ↔ a % b = b - 1 := by
  have hlt := Nat.mod_lt a hb
  have hsum : a + 1 = b * (a / b) + (a % b + 1) := by
    rw [← Nat.add_assoc, Nat.div_add_mod]
  rw [hsum, Nat.dvd_add_right (Nat.dvd_mul_right b _)]
  constructor
  · intro hdvd
    have hle := Nat.le_of_dvd (Nat.succ_pos _) hdvd
    omega
  · intro hmod
    exact ⟨1, by omega⟩

theorem ofNat_mod_three_iff (hk : k < UInt32.size) : UInt32.ofNat k % 3 = 0 ↔ k % 3 = 0 := by
  rw [Sample.mod_three_eq_iff, UInt32.toNat_ofNat_of_lt' hk]
  rfl

theorem kind_eq_getReport_iff (hk : k < UInt32.size) : (c.sample k).kind = .getReport ↔ k % 3 = 0 := by
  rw [sample, Sample.kind_eq_getReport_iff, UInt32.toNat_ofNat_of_lt' hk]

/-- Every `staleEvery`-th report sample is dated back. -/
theorem backdated_iff (hk : k < UInt32.size) :
    (c.sample k).backdated = true ↔ k % 3 = 0 ∧ c.staleEvery.toNat ∣ k / 3 + 1 := by
  have hnumber : (UInt32.ofNat k).toNat = k := UInt32.toNat_ofNat_of_lt' hk
  have hthird := ofNat_mod_three_iff hk
  have hindex : (UInt32.ofNat k / 3).toNat = k / 3 := by
    rw [UInt32.toNat_div, hnumber]
    rfl
  rw [sample, Sample.ofNumber]
  by_cases hreport : k % 3 = 0
  · rw [if_pos (hthird.2 hreport)]
    dsimp only
    rw [Bool.and_eq_true, decide_eq_true_iff, decide_eq_true_iff, UInt32.lt_iff_toNat_lt, UInt32.toNat_zero]
    rcases Nat.eq_zero_or_pos c.staleEvery.toNat with hzero | hpos
    · simp [hzero]
    · have hone : (c.staleEvery - 1).toNat = c.staleEvery.toNat - 1 :=
        UInt32.toNat_sub_of_le _ _ (UInt32.le_iff_toNat_le.2 hpos)
      rw [← UInt32.toNat_inj, UInt32.toNat_mod, hindex, hone, dvd_add_one_iff hpos]
      simp [hpos, hreport]
  · rw [if_neg fun h => hreport (hthird.1 h)]
    split <;> simp [hreport]

/-- The number of samples that are dated back among the first `n`. -/
theorem countP_backdated (c : Scenario) {n : Nat} (hn : n ≤ UInt32.size) :
    (List.range n).countP (fun k => (c.sample k).backdated) = (n + 2) / 3 / c.staleEvery.toNat := by
  induction n with
  | zero => simp
  | succ n ih =>
    have hback := c.backdated_iff (k := n) (by omega)
    rw [List.range_succ, List.countP_append, ih (by omega), List.countP_singleton]
    by_cases hreport : n % 3 = 0
    · have hnext : (n + 1 + 2) / 3 = n / 3 + 1 := by omega
      have hthis : (n + 2) / 3 = n / 3 := by omega
      rw [hnext, hthis, Nat.succ_div]
      simp [hback, hreport]
    · have hsame : (n + 1 + 2) / 3 = (n + 2) / 3 := by omega
      rw [hsame]
      simp [hback, hreport]

end Scenario

/-! ### The invariant -/

/-- A simulation that has written `count` samples, with what its reader has printed.  Samples are written in the order
of their numbers and read in the same order, and each one is read after it was written. -/
structure Progress (c : Scenario) (r : Ring) (count : Nat) (past : List (Sighting Written)) (waiting : List Written)
    (p : Printout Nat) : Prop where
  queue : ∃ q, r.Intact p.state.memory q ∧ unmarked q = waiting.map c.entry
  numbers : (past.map Sighting.what ++ waiting).map Written.number = List.range count
  written : (past.map Sighting.what ++ waiting).Pairwise fun w w' => w.reading < w'.reading
  written_lt : ∀ w ∈ past.map Sighting.what ++ waiting, w.reading < p.state.clock
  read : past.Pairwise fun x y => x.asked ≤ y.asked
  read_between : ∀ x ∈ past, x.what.reading < x.asked ∧ x.asked ≤ p.state.clock
  tallies : c.settings.toReader.Tallies c.settings.maxPayload c.times (c.seen past) .zero p.state.stats
  output : p.output = Wording.lines false 0 (c.events past)
  printed : p.printed = (c.events past).length

variable {c : Scenario} {r : Ring} {k : Nat} {past : List (Sighting Written)} {waiting : List Written}
variable {p : Printout Nat} {m : Memory}

/-- A simulation begins with an empty ring. -/
theorem progress_start (c : Scenario) (h : r.Intact m []) (clock : Nat) :
    Progress c r 0 [] [] (.start clock m) where
  queue := ⟨[], h, rfl⟩
  numbers := rfl
  written := .nil
  written_lt := by simp
  read := .nil
  read_between := by simp
  tallies := .refl _ _ _ _
  output := rfl
  printed := rfl

/-- The clock may be asked without more coming of it. -/
theorem Progress.later (h : Progress c r k past waiting p) {clock : Nat} (hle : p.state.clock ≤ clock) :
    Progress c r k past waiting { p with state := { p.state with clock } } where
  queue := h.queue
  numbers := h.numbers
  written := h.written
  written_lt := fun w hw => Nat.lt_of_lt_of_le (h.written_lt w hw) hle
  read := h.read
  read_between := fun x hx => ⟨(h.read_between x hx).1, Nat.le_trans (h.read_between x hx).2 hle⟩
  tallies := h.tallies
  output := h.output
  printed := h.printed

/-- A pump looks at all samples that are waiting in the ring, and prints their events.  It moves the read offset only,
and counts the skip markers that it passes. -/
theorem pump_waiting (json : Bool) {q : List Entry} (hintact : r.Intact p.state.memory q)
    (hqueue : unmarked q = waiting.map c.entry) :
    let looked := c.look p.state.clock waiting
    ∃ s, p.pump json c.settings (.ofReadings c.times) r =
        (none, ⟨s, p.output ++ Wording.lines json p.printed (c.events looked), p.printed + (c.events looked).length⟩) ∧
      (r.Intact s.memory [] ∧ r.OnlyReadOffset p.state.memory s.memory) ∧
      s.clock = p.state.clock + (waiting.map c.entry).countP Entry.isReport ∧
      c.settings.toReader.Tallies c.settings.maxPayload c.times (c.seen looked) p.state.stats s.stats ∧
      s.stats.skipMarkers = p.state.stats.skipMarkers + markers q := by
  intro looked
  have hquiet := Clock.quiet_ofReadings r c.times
  have hempty := hintact.pump c.settings.toReader c.settings.maxPayload hquiet
  have hmoved := (Reader.pump_safe c.settings.toReader c.settings.maxPayload hquiet hintact.fits).2.frame
  have hclears := hintact.pump_clears c.settings.toReader c.settings.maxPayload c.times
  rw [Printout.pump]
  generalize c.settings.toReader.pump (.ofReadings c.times) r c.settings.maxPayload p.state = pumped
    at hempty hmoved hclears ⊢
  obtain ⟨polls, s⟩ := pumped
  obtain ⟨hpolls, hclock, htallies⟩ := hclears.empties
  rw [hqueue, ← c.seen_look] at hpolls htallies
  rw [hqueue] at hclock
  dsimp only at hpolls
  have hevents : polls.flatMap Poll.events = c.events looked := by
    rw [hpolls, c.events_seen]
  have hend : ∀ output, Report.earlyEnd output polls = none := by
    intro output
    rw [hpolls, Reader.answers]
    exact Report.earlyEnd_answers _ _ _ _
  dsimp only
  rw [Report.eventLines_eq, hevents]
  dsimp only
  rw [hend]
  exact ⟨s, rfl, ⟨hempty, hmoved⟩, hclock, htallies, hclears.skips⟩

/-- A pump reads everything that is waiting, and prints its events.  Nothing is left in the ring. -/
theorem Progress.pump (h : Progress c r k past waiting p) :
    ∃ past' p', p.pump false c.settings (.ofReadings c.times) r = (none, p') ∧
      past'.map Sighting.what = past.map Sighting.what ++ waiting ∧ Progress c r k past' [] p' ∧
      r.Intact p'.state.memory [] ∧ p.state.clock ≤ p'.state.clock := by
  obtain ⟨q, hintact, hqueue⟩ := h.queue
  obtain ⟨s, hpump, ⟨hempty, -⟩, hclock, htallies, -⟩ := pump_waiting false hintact hqueue
  have hall : (past ++ c.look p.state.clock waiting).map Sighting.what = past.map Sighting.what ++ waiting := by
    rw [List.map_append, c.what_look]
  have hle : p.state.clock ≤ s.clock := by omega
  refine ⟨past ++ c.look p.state.clock waiting, _, hpump, hall, ⟨⟨[], hempty, rfl⟩, ?_, ?_, ?_, ?_, ?_, ?_, ?_, ?_⟩,
    hempty, hle⟩
  · rw [List.append_nil, hall]
    exact h.numbers
  · rw [List.append_nil, hall]
    exact h.written
  · rw [List.append_nil, hall]
    exact fun w hw => Nat.lt_of_lt_of_le (h.written_lt w hw) hle
  · refine List.pairwise_append.2 ⟨h.read, c.pairwise_look _ _, fun x hx y hy => ?_⟩
    exact Nat.le_trans (h.read_between x hx).2 (Scenario.mem_look hy).2.1
  · intro x hx
    rcases List.mem_append.1 hx with hpast | hnew
    · exact ⟨(h.read_between x hpast).1, Nat.le_trans (h.read_between x hpast).2 hle⟩
    · obtain ⟨hwaiting, hfrom, hto⟩ := Scenario.mem_look hnew
      have hwritten := h.written_lt x.what (List.mem_append_right _ hwaiting)
      exact ⟨Nat.lt_of_lt_of_le hwritten hfrom, by rw [hclock]; exact hto⟩
  · rw [c.seen_append]
    exact h.tallies.trans htallies
  · rw [c.events_append, Wording.lines_append, ← h.output, Nat.zero_add, ← h.printed]
  · rw [c.events_append, List.length_append, h.printed]

/-! ### One record -/

/-- A write that succeeds adds its entry, and nothing else but skip markers. -/
theorem unmarked_additions {s : Submission} (hdone : (r.write m s.kind s.timestamp s.payload).1 = .done ())
    (hentry : s.entry.tag ≠ Kind.skipTag) : unmarked (r.additions m s) = [s.entry] := by
  rcases Ring.additions_cases hdone with hadds | ⟨pad, hadds, hpad, -⟩
  · rw [hadds, unmarked_cons hentry]
    rfl
  · rw [hadds, unmarked_cons_of_marker hpad, unmarked_cons hentry]
    rfl

/-- A sample that is written joins those that are waiting. -/
theorem Progress.write (h : Progress c r k past waiting p) {reading : Nat}
    (hlater : ∀ w ∈ past.map Sighting.what ++ waiting, w.reading < reading) (hlt : reading < p.state.clock)
    (hdone : (r.write p.state.memory (c.sample k).kind (c.timestamp ⟨k, reading⟩) (c.sample k).payload).1 = .done ()) :
    Progress c r (k + 1) past (waiting ++ [⟨k, reading⟩]) { p with
      state := { p.state with
        memory := (r.write p.state.memory (c.sample k).kind (c.timestamp ⟨k, reading⟩) (c.sample k).payload).2 } } := by
  obtain ⟨q, hintact, hqueue⟩ := h.queue
  have hwritten := hintact.write ⟨(c.sample k).kind, c.timestamp ⟨k, reading⟩, (c.sample k).payload⟩
  have hadded := unmarked_additions
    (s := ⟨(c.sample k).kind, c.timestamp ⟨k, reading⟩, (c.sample k).payload⟩) hdone (c.entry_unmarked ⟨k, reading⟩)
  refine ⟨⟨_, hwritten, ?_⟩, ?_, ?_, ?_, h.read, h.read_between, h.tallies, h.output, h.printed⟩
  · rw [unmarked_append, hqueue, hadded, List.map_append]
    rfl
  · rw [← List.append_assoc, List.map_append, h.numbers, List.range_succ]
    rfl
  · rw [← List.append_assoc]
    refine List.pairwise_append.2 ⟨h.written, List.pairwise_singleton _ _, fun w hw w' hw' => ?_⟩
    obtain rfl := List.mem_singleton.1 hw'
    exact hlater w hw
  · intro w hw
    rw [← List.append_assoc, List.mem_append, List.mem_singleton] at hw
    rcases hw with hbefore | rfl
    · exact h.written_lt w hbefore
    · exact hlt

/-! ### The loop -/

/-- Whether the writing ended because of an error. -/
def WriteEnd.isError : WriteEnd → Bool
  | .complete | .full => false
  | .failed _ | .halted => true

namespace Scenario

/-- The loop from sample `k` on. -/
def writeFrom (c : Scenario) (r : Ring) (count k : Nat) (s : Simulation Nat) :
    Except Report WriteEnd × Simulation Nat :=
  Simulation.writeAll c.settings (.ofReadings c.times) r c.staleEvery false count (UInt32.ofNat k) s

/-- The clock has been asked for the time of sample `k`, and the sample has been counted if it is dated back. -/
def prepare (c : Scenario) (k : Nat) (s : Simulation Nat) : Simulation Nat where
  printout := { s.printout with state := { s.printout.state with clock := s.printout.state.clock + 1 } }
  backdated := s.backdated + if (c.sample k).backdated then 1 else 0

/-- The attempt to write sample `k`, for which the clock was asked after `reading` other times. -/
def attempt (c : Scenario) (r : Ring) (k reading : Nat) (s : Simulation Nat) :
    Outcome SharedMemoryError Unit × Simulation Nat := s.write r (c.sample k) (c.timestamp ⟨k, reading⟩)

/-- How the loop goes on after an attempt that is not made again. -/
def proceed (c : Scenario) (r : Ring) (count k : Nat) :
    Outcome SharedMemoryError Unit × Simulation Nat → Except Report WriteEnd × Simulation Nat
  | (.done (), s) => c.writeFrom r count (k + 1) s
  | (.halted, s) => (.ok .halted, s)
  | (.failed e, s) => (.ok (.failed (.sharedMemory e)), s)

variable {s : Simulation Nat}

theorem memory_prepare (c : Scenario) (k : Nat) (s : Simulation Nat) :
    (c.prepare k s).printout.state.memory = s.printout.state.memory := rfl

theorem prepare_eq (c : Scenario) (k : Nat) (s : Simulation Nat) :
    c.prepare k s =
      if (c.sample k).backdated then
        { (s.askTime (.ofReadings c.times)).2 with
          backdated := (s.askTime (.ofReadings c.times)).2.backdated + 1 }
      else (s.askTime (.ofReadings c.times)).2 := by
  rw [prepare]
  split <;> rfl

/-- One round of writing.  The clock is asked, and the sample is written; where the ring is full, the writing ends if
the ring is to be held, and otherwise the ring is emptied for a second attempt. -/
theorem writeAll_succ (c : Scenario) (r : Ring) (hold : Bool) (count k : Nat) (s : Simulation Nat) :
    Simulation.writeAll c.settings (.ofReadings c.times) r c.staleEvery hold (count + 1) (UInt32.ofNat k) s =
      let go := Simulation.writeAll c.settings (.ofReadings c.times) r c.staleEvery hold count (UInt32.ofNat (k + 1))
      match c.attempt r k s.printout.state.clock (c.prepare k s) with
      | (.done (), s') => go s'
      | (.halted, s') => (.ok .halted, s')
      | (.failed (.ringFull _ _), s') =>
        if hold then (.ok .full, s')
        else
          match s'.pump c.settings (.ofReadings c.times) r with
          | (some report, s'') => (.error report, s'')
          | (none, s'') =>
            match c.attempt r k s.printout.state.clock s'' with
            | (.done (), s') => go s'
            | (.halted, s') => (.ok .halted, s')
            | (.failed e, s') => (.ok (.failed (.sharedMemory e)), s')
      | (.failed e, s') => (.ok (.failed (.sharedMemory e)), s') := by
  have hnext : UInt32.ofNat k + 1 = UInt32.ofNat (k + 1) := (UInt32.ofNat_add k 1).symm
  have hsample : Sample.ofNumber (UInt32.ofNat k) c.settings.layout c.staleEvery = c.sample k := rfl
  have hask : s.askTime (.ofReadings c.times) =
      (some (c.times s.printout.state.clock), (s.askTime (.ofReadings c.times)).2) := rfl
  have hattempt : ∀ s' : Simulation Nat, s'.write r (c.sample k)
      (if (c.sample k).backdated = true then
        ticksBetween (Simulation.staleAge c.settings) (c.times s.printout.state.clock)
      else c.times s.printout.state.clock) = c.attempt r k s.printout.state.clock s' := fun _ => rfl
  rw [prepare_eq]
  unfold Simulation.writeAll
  generalize (s.askTime (.ofReadings c.times)).2 = after at hask ⊢
  rw [hask, hnext, hsample]
  dsimp only
  simp only [hattempt]
  generalize c.attempt r k s.printout.state.clock _ = attempted
  obtain ⟨outcome, s'⟩ := attempted
  cases outcome with
  | done _ | halted => rfl
  | failed e =>
    cases e with
    | ringFull size writable =>
      dsimp only
      rcases s'.pump c.settings (.ofReadings c.times) r with ⟨_ | report, s''⟩
      · dsimp only
        rcases c.attempt r k s.printout.state.clock s'' with ⟨_ | _ | _, _⟩ <;> rfl
      · rfl
    | _ => rfl

/-- An attempt answers what the write of the sample answers, and takes over its memory. -/
theorem attempt_eq_write (c : Scenario) (r : Ring) (k reading : Nat) (s : Simulation Nat) :
    c.attempt r k reading s =
      let written :=
        r.write s.printout.state.memory (c.sample k).kind (c.timestamp ⟨k, reading⟩) (c.sample k).payload
      (written.1, s.withState { s.printout.state with memory := written.2 }) := by
  rw [attempt, Simulation.write]

theorem attempt_fst (c : Scenario) (r : Ring) (k reading : Nat) (s : Simulation Nat) :
    (c.attempt r k reading s).1 =
      (r.write s.printout.state.memory (c.sample k).kind (c.timestamp ⟨k, reading⟩) (c.sample k).payload).1 := by
  rw [attempt_eq_write]

/-- An attempt that does not succeed changes nothing. -/
theorem attempt_eq {reading : Nat} {outcome : Outcome SharedMemoryError Unit}
    (h : (c.attempt r k reading s).1 = outcome) (hne : outcome ≠ .done ()) :
    c.attempt r k reading s = (outcome, s) := by
  subst h
  rw [attempt_eq_write] at hne ⊢
  dsimp only at hne ⊢
  rw [Ring.write_of_ne_done hne]
  rfl

/-- Where the ring is full, it is emptied first. -/
theorem writeFrom_of_full {n : Nat} {writable : UInt32} {p : Printout Nat}
    (hfull : (c.attempt r k s.printout.state.clock (c.prepare k s)).1 = .failed (.ringFull n writable))
    (hpump : (c.prepare k s).printout.pump false c.settings (.ofReadings c.times) r = (none, p)) (count : Nat) :
    c.writeFrom r (count + 1) k s =
      c.proceed r count k (c.attempt r k s.printout.state.clock ⟨p, (c.prepare k s).backdated⟩) := by
  have hemptied : (c.prepare k s).pump c.settings (.ofReadings c.times) r = (none, ⟨p, (c.prepare k s).backdated⟩) := by
    rw [Simulation.pump, hpump]
  rw [writeFrom, writeAll_succ, attempt_eq hfull (by simp)]
  dsimp only
  rw [if_neg (by simp), hemptied]
  dsimp only
  rcases c.attempt r k s.printout.state.clock ⟨p, (c.prepare k s).backdated⟩ with ⟨_ | _ | _, _⟩ <;> rfl

/-- Otherwise the first attempt is the only one. -/
theorem writeFrom_of_not_full
    (h : ∀ n writable, (c.attempt r k s.printout.state.clock (c.prepare k s)).1 ≠ .failed (.ringFull n writable))
    (count : Nat) :
    c.writeFrom r (count + 1) k s = c.proceed r count k (c.attempt r k s.printout.state.clock (c.prepare k s)) := by
  rw [writeFrom, writeAll_succ]
  generalize c.attempt r k s.printout.state.clock (c.prepare k s) = attempted at h ⊢
  obtain ⟨outcome, s'⟩ := attempted
  cases outcome with
  | done _ | halted => rfl
  | failed e =>
    cases e with
    | ringFull size writable => exact absurd rfl (h size writable)
    | _ => rfl

/-- With enough room an attempt fails only if the ring is full. -/
theorem attempt_cases {q : List Entry} (hintact : r.Intact s.printout.state.memory q)
    (hroom : 3 * r.headerSize.toNat + 2 * Sample.largest c.settings.layout ≤ r.capacity.toNat) (k reading : Nat) :
    (c.attempt r k reading s).1 = .done () ∨
      ∃ n writable, (c.attempt r k reading s).1 = .failed (.ringFull n writable) := by
  have hlength : (c.sample k).payload.length ≤ Sample.largest c.settings.layout := Sample.length_payload_le _ _ _
  have hfits : (c.sample k).payload.length + 2 * r.headerSize.toNat ≤ r.capacity.toNat := by omega
  rw [attempt_eq_write]
  dsimp only
  rcases hintact.write_fitting (c.sample k).kind (c.timestamp ⟨k, reading⟩) hfits with hdone | ⟨writable, hfull⟩
  · exact .inl hdone
  · exact .inr ⟨_, writable, hfull⟩

theorem attempt_of_empty (hintact : r.Intact s.printout.state.memory [])
    (hroom : 3 * r.headerSize.toNat + 2 * Sample.largest c.settings.layout ≤ r.capacity.toNat) (k reading : Nat) :
    (c.attempt r k reading s).1 = .done () := by
  have hlength : (c.sample k).payload.length ≤ Sample.largest c.settings.layout := Sample.length_payload_le _ _ _
  rw [attempt_eq_write]
  dsimp only
  exact hintact.write_short_empty (show 2 * ((c.sample k).payload.length + _) + _ ≤ _ by omega)

end Scenario

/-- What comes of an attempt that is not made again: the loop goes on with the next sample, or ends with an error. -/
theorem Progress.proceed {s : Simulation Nat} (h : Progress c r k past waiting s.printout) {reading : Nat}
    (hlater : ∀ w ∈ past.map Sighting.what ++ waiting, w.reading < reading) (hlt : reading < s.printout.state.clock)
    (count : Nat) :
    (∃ waiting' s', c.proceed r count k (c.attempt r k reading s) = c.writeFrom r count (k + 1) s' ∧
        Progress c r (k + 1) past waiting' s'.printout ∧ s'.backdated = s.backdated) ∨
      (c.attempt r k reading s).1 ≠ .done () ∧ ∃ ending s',
        c.proceed r count k (c.attempt r k reading s) = (.ok ending, s') ∧ ending.isError = true := by
  have hwrite := h.write hlater hlt
  rw [Scenario.attempt_eq_write]
  generalize r.write s.printout.state.memory (c.sample k).kind (c.timestamp ⟨k, reading⟩) (c.sample k).payload = written
    at hwrite ⊢
  obtain ⟨outcome, memory⟩ := written
  cases outcome with
  | done _ => exact .inl ⟨_, _, rfl, hwrite rfl, rfl⟩
  | halted => exact .inr ⟨by simp, _, _, rfl, rfl⟩
  | failed e => exact .inr ⟨by simp, _, _, rfl, rfl⟩

/-- One round of the loop writes a sample, or ends with an error.  Samples that are short enough are always written. -/
theorem Progress.round {s : Simulation Nat} (h : Progress c r k past waiting s.printout) (count : Nat) :
    (∃ past' waiting' s', c.writeFrom r (count + 1) k s = c.writeFrom r count (k + 1) s' ∧
        Progress c r (k + 1) past' waiting' s'.printout ∧
        s'.backdated = s.backdated + if (c.sample k).backdated then 1 else 0) ∨
      r.capacity.toNat < 3 * r.headerSize.toNat + 2 * Sample.largest c.settings.layout ∧ ∃ ending s',
        c.writeFrom r (count + 1) k s = (.ok ending, s') ∧ ending.isError = true := by
  -- The clock is asked before the sample is written, and not again before the second attempt.
  have hprepared : Progress c r k past waiting (c.prepare k s).printout := h.later (Nat.le_succ _)
  have hlt : s.printout.state.clock < (c.prepare k s).printout.state.clock := Nat.lt_succ_self _
  by_cases hfull : ∃ n writable,
      (c.attempt r k s.printout.state.clock (c.prepare k s)).1 = .failed (.ringFull n writable)
  · obtain ⟨n, writable, hfull⟩ := hfull
    obtain ⟨past', p', hpump, hall, hpumped, hempty, hle⟩ := hprepared.pump
    have hlater : ∀ w : Written, w ∈ past'.map Sighting.what ++ [] → w.reading < s.printout.state.clock := by
      rw [List.append_nil, hall]
      exact h.written_lt
    rw [Scenario.writeFrom_of_full hfull hpump]
    rcases Progress.proceed (s := ⟨p', (c.prepare k s).backdated⟩) hpumped hlater (Nat.lt_of_lt_of_le hlt hle) count
      with ⟨waiting', s', hgo, hprogress, hback⟩ | ⟨hne, hends⟩
    · exact .inl ⟨past', waiting', s', hgo, hprogress, hback⟩
    · exact .inr ⟨Nat.lt_of_not_le fun hroom => hne (Scenario.attempt_of_empty (s := ⟨p', _⟩) hempty hroom k _), hends⟩
  · rw [Scenario.writeFrom_of_not_full (fun n writable h => hfull ⟨n, writable, h⟩)]
    rcases hprepared.proceed h.written_lt hlt count with ⟨waiting', s', hgo, hprogress, hback⟩ | ⟨hne, hends⟩
    · exact .inl ⟨past, waiting', s', hgo, hprogress, hback⟩
    · obtain ⟨q, hintact, -⟩ := hprepared.queue
      refine .inr ⟨Nat.lt_of_not_le fun hroom => ?_, hends⟩
      exact (Scenario.attempt_cases hintact hroom k _).elim hne hfull

/-- **The loop writes all samples, or ends with an error.** -/
theorem Progress.writeFrom {s : Simulation Nat} (h : Progress c r k past waiting s.printout)
    (hback : s.backdated = (List.range k).countP fun i => (c.sample i).backdated) (count : Nat) :
    (∃ past' waiting' s', c.writeFrom r count k s = (.ok .complete, s') ∧
        Progress c r (k + count) past' waiting' s'.printout ∧
        s'.backdated = (List.range (k + count)).countP fun i => (c.sample i).backdated) ∨
      r.capacity.toNat < 3 * r.headerSize.toNat + 2 * Sample.largest c.settings.layout ∧ ∃ ending s',
        c.writeFrom r count k s = (.ok ending, s') ∧ ending.isError = true := by
  induction count generalizing k past waiting s with
  | zero => exact .inl ⟨past, waiting, s, rfl, h, hback⟩
  | succ count ih =>
    rcases h.round count with ⟨past', waiting', s', hgo, hprogress, hback'⟩ | hends
    · have hcount : s'.backdated = (List.range (k + 1)).countP fun i => (c.sample i).backdated := by
        rw [hback', hback, List.range_succ, List.countP_append, List.countP_singleton]
      rw [hgo, ← Nat.add_assoc, Nat.add_right_comm]
      exact ih hprogress hcount
    · exact .inr hends

/-! ### The whole simulation -/

/-- An error that ends the writing ends the simulation, whether or not the ring is to be held. -/
theorem simulateRing_of_error {σ : Type} {clock : Clock σ} {state : σ} {records staleEvery : UInt32} {hold : Bool}
    {ending : WriteEnd} {s : Simulation σ} (path : String) (settings : Settings)
    (hwritten : Simulation.writeAll settings.reader clock r staleEvery hold records.toNat 0 ⟨.start state m, 0⟩ =
      (.ok ending, s)) (herror : ending.isError = true) :
    ∃ report, simulateRing path records staleEvery hold settings clock r state m =
        (.finished report, s.printout.state.clock, s.printout.state.memory) ∧ report.exitCode ≠ 0 := by
  rw [simulateRing, hwritten]
  cases ending with
  | complete | full => simp [WriteEnd.isError] at herror
  | halted => exact ⟨_, rfl, by simp [Report.halt]⟩
  | failed e => exact ⟨_, rfl, by simp [Report.failure]⟩

/-- A simulation in an empty ring writes all samples, reads all of them and leaves the ring empty, or ends with an
error. -/
theorem simulateRing_progress (path : String) (records staleEvery : UInt32) (settings : Settings) (times : Nat → UInt64)
    (h : r.Intact m []) :
    let c : Scenario := ⟨settings.reader, staleEvery, times⟩
    let result := simulateRing path records staleEvery false settings (.ofReadings times) r 0 m
    (∃ past s, Progress c r records.toNat past [] s.printout ∧ r.Intact s.printout.state.memory [] ∧
        s.backdated = (records.toNat + 2) / 3 / staleEvery.toNat ∧
        result = (.finished ⟨0, s.printout.output ++ summaryLines records s,
          Report.statsLines false s.printout.state.stats⟩, s.printout.state.clock, s.printout.state.memory)) ∨
      r.capacity.toNat < 3 * r.headerSize.toNat + 2 * Sample.largest settings.reader.layout ∧
        ∃ report clock m', result = (.finished report, clock, m') ∧ report.exitCode ≠ 0 := by
  intro c result
  have hstart : Progress c r 0 [] [] (Simulation.printout ⟨.start 0 m, 0⟩) := progress_start c h 0
  have hcount := c.countP_backdated (Nat.le_of_lt records.toNat_lt_size)
  have hloop := hstart.writeFrom (s := ⟨.start 0 m, 0⟩) rfl records.toNat
  rw [Nat.zero_add] at hloop
  have hresult : result = simulateRing path records staleEvery false settings (.ofReadings times) r 0 m := rfl
  rw [simulateRing] at hresult
  rcases hloop with ⟨past, waiting, s, hrun, hprogress, hback⟩ | ⟨hroom, ending, s, hrun, herror⟩
  · obtain ⟨past', p', hpump, hall, hpumped, hempty, -⟩ := hprogress.pump
    have hemptied : s.pump settings.reader (.ofReadings times) r = (none, ⟨p', s.backdated⟩) := by
      rw [Simulation.pump, hpump]
    refine .inl ⟨past', ⟨p', s.backdated⟩, hpumped, hempty, hback.trans hcount, ?_⟩
    have hwritten : Simulation.writeAll settings.reader (.ofReadings times) r staleEvery false records.toNat 0
      ⟨.start 0 m, 0⟩ = (.ok .complete, s) := hrun
    rw [hresult, hwritten]
    dsimp only
    rw [if_neg (by simp), hemptied]
  · obtain ⟨report, hfinished, hcode⟩ := simulateRing_of_error path settings hrun herror
    exact .inr ⟨hroom, report, _, _, hfinished, hcode⟩

/-- Counters that account for some samples, from zero on, tell how many of them were delivered, how many were too old,
and how many could not be decoded. -/
theorem Scenario.counts {stats : Stats}
    (h : c.settings.toReader.Tallies c.settings.maxPayload c.times (c.seen past) .zero stats) :
    stats.delivered = (c.events past).length ∧ stats.staleDiscarded + (c.fresh past).length = past.length ∧
      stats.delivered + stats.decodeFailures = (c.fresh past).length := by
  obtain ⟨hstale, hdelivered, hfailures⟩ := h
  rw [c.events_seen, Stats.zero, Nat.zero_add] at hdelivered
  rw [c.kept_seen, Scenario.seen, Scenario.seen, List.length_map, List.length_map, Stats.zero, Nat.zero_add] at hstale
  rw [c.kept_seen, Scenario.seen, List.length_map, Stats.zero, Nat.zero_add, Nat.zero_add] at hfailures
  exact ⟨hdelivered, hstale, hfailures⟩

/-- When nothing is waiting, everything has been read, and the counters account for all samples. -/
theorem Progress.counts (h : Progress c r k past [] p) :
    (past.map fun x => x.what.number) = List.range k ∧ p.state.stats.delivered = (c.events past).length ∧
      p.state.stats.staleDiscarded + (c.fresh past).length = k ∧
      p.state.stats.delivered + p.state.stats.decodeFailures = (c.fresh past).length := by
  obtain ⟨hdelivered, hstale, hfailures⟩ := Scenario.counts h.tallies
  have hnumbers := h.numbers
  rw [List.append_nil, List.map_map] at hnumbers
  have hlength := congrArg List.length hnumbers
  rw [List.length_map, List.length_range] at hlength
  rw [hlength] at hstale
  exact ⟨hnumbers, hdelivered, hstale, hfailures⟩

/-- A simulation under a name that nothing has makes an object for its ring.  Where it ends with a report, the ring is
given up; otherwise it is held. -/
theorem runSimulation_of_unused {σ : Type} {clock : Clock σ} {state : σ} {path : String} {records staleEvery : UInt32}
    {hold : Bool} {settings : Settings} {objects : Objects}
    (hname : Objects.isReserved settings.ring.name.text = false)
    (hfind : objects.find? settings.ring.name.text = none) :
    let name := settings.ring.name
    let g := settings.ring.geometry
    let shared : SharedRing := ⟨⟨name.text, objects.memories.size, g.sharedSize, true⟩, ⟨0, g⟩⟩
    let result := simulateRing path records staleEvery hold settings clock shared.ring state
      ((objects.withRing name g).memory objects.memories.size)
    let after := objects.withObject name.text g.sharedSize result.2.2
    runSimulation path records staleEvery hold (.ok settings) clock state objects =
      match result.1 with
      | .finished report => (.finished report, none, result.2.1, after.close shared.region)
      | .holding output => (.holding output, some shared, result.2.1, after) := by
  intro name g shared result after
  have hafter : (objects.withRing name g).setMemory objects.memories.size result.2.2 = after :=
    objects.setMemory_withObject _ _ _ _
  rw [runSimulation]
  dsimp only
  rw [Objects.createRing_of_unused hname hfind]
  dsimp only
  rw [Objects.modify_eq]
  dsimp only
  rewrite [hafter]
  rfl

/-- **A simulation accounts for every record.** Take any settings, any number of records and any cadence, a clock that
shows anything, and a name that nothing has and that the directory does not use itself.  The simulation finishes with a
report, and holds nothing.  If the report tells of no error, the records have been written and read in the order of
their numbers, each one read after it was written, and nothing is left in the ring.  A record is too old or not by what
the clock shows when it is looked at.  What is printed are the events of the records that are not too old and can be
decoded; the counters tell how many these are, how many were too old and how many could not be decoded, and add up to
the number of records.  The number of records dated back is also told.  If the ring has room for three headers and two
of the longest payloads, there is no error. -/
theorem simulation_accounts (path : String) (records staleEvery : UInt32) (settings : Settings) (times : Nat → UInt64)
    {objects : Objects} (hname : Objects.isReserved settings.ring.name.text = false)
    (hfind : objects.find? settings.ring.name.text = none) :
    let r : Ring := ⟨0, settings.ring.geometry⟩
    let c : Scenario := ⟨settings.reader, staleEvery, times⟩
    let run := runSimulation path records staleEvery false (.ok settings) (.ofReadings times) 0 objects
    let m := run.2.2.2.memory objects.memories.size
    ∃ report, run.1 = .finished report ∧ run.2.1 = none ∧
      (report.exitCode = 0 → ∃ (past : List (Sighting Written)) (stats : Stats),
        let fresh := past.filter fun x => !c.isStale x
        let events := fresh.filterMap fun x => c.event? x.what.number
        (past.map fun x => x.what.number) = List.range records.toNat ∧
        (past.Pairwise fun x y => x.what.reading < y.what.reading ∧ x.asked ≤ y.asked) ∧
        (∀ x ∈ past, x.what.reading < x.asked) ∧
        (r.isEmpty m = true ∧ r.queue? m = some []) ∧
        (stats.delivered = events.length ∧ stats.staleDiscarded + fresh.length = records.toNat ∧
          stats.delivered + stats.decodeFailures = fresh.length ∧
          stats.delivered + stats.staleDiscarded + stats.decodeFailures = records.toNat) ∧
        report.output = Wording.lines false 0 events
          ++ ("\nWrote " ++ toString records.toNat ++ " records, printed " ++ toString stats.delivered
            ++ ", back-dated " ++ toString ((records.toNat + 2) / 3 / staleEvery.toNat) ++ ".\n") ∧
        report.errors = Wording.counters false stats) ∧
      (3 * r.headerSize.toNat + 2 * Sample.largest settings.reader.layout ≤ r.capacity.toNat →
        report.exitCode = 0) := by
  intro r c run m
  obtain ⟨-, hintact, -, -⟩ := objects.withRing_spec settings.ring.name settings.ring.geometry
  rcases simulateRing_progress path records staleEvery settings times hintact with
    ⟨past, s, hprogress, hempty, hback, hring⟩ | ⟨hsmall, report, clock, m', hring, hcode⟩
  · have hrun : run = _ := runSimulation_of_unused hname hfind
    rw [hring] at hrun
    have hm : m = s.printout.state.memory := by
      show run.2.2.2.memory objects.memories.size = _
      rw [hrun, Objects.memory, Objects.memories_close]
      exact objects.memory_withObject _ _ _
    obtain ⟨hnumbers, hdelivered, hstale, hfailures⟩ := hprogress.counts
    have hwritten := hprogress.written
    rw [List.append_nil, List.pairwise_map] at hwritten
    refine ⟨_, by rw [hrun], by rw [hrun], fun _ => ⟨past, s.printout.state.stats, hnumbers,
      hwritten.and hprogress.read, fun x hx => (hprogress.read_between x hx).1, ?_,
      ⟨hdelivered, hstale, hfailures, by omega⟩, ?_, rfl⟩, fun _ => rfl⟩
    · rw [hm]
      exact ⟨hempty.isEmpty_nil, hempty.queue?_eq⟩
    · dsimp only
      rw [hprogress.output, summaryLines, hprogress.printed, hback, hdelivered]
      simp only [String.append_assoc]
      rfl
  · have hrun : run = _ := runSimulation_of_unused hname hfind
    rw [hring] at hrun
    refine ⟨report, by rw [hrun], by rw [hrun], fun hzero => absurd hzero hcode, fun hroom => ?_⟩
    exact absurd hroom (Nat.not_le.2 hsmall)

/-- Six records in a ring of 100 bytes, while the clock stands still.  Of the two reports one is dated back, and that one
is too old; the other records are printed. -/
theorem simulation_accounts_six :
    let name : RingName := ⟨"ring", by decide, by decide, by decide⟩
    let settings : Settings :=
      ⟨⟨name, ⟨100, .packed, by decide, by decide⟩⟩, ⟨.ofMilliseconds 100, 712, .compact, .ofMilliseconds 10⟩⟩
    let times : Nat → UInt64 := fun _ => 1000000000
    let run := runSimulation "hidring.yaml" 6 2 false (.ok settings) (.ofReadings times) 0 .empty
    (Objects.isReserved name.text = false ∧ Objects.empty.find? name.text = none) ∧
      ∃ report skipped, run.1 = .finished report ∧ report.exitCode = 0 ∧
        report.output = "[     0] GetReport 98:B6:E9:00:00:00 Ok length=16 report=8B\n"
          ++ "[     1] ConnectionState 98:B6:E9:00:00:01 Connected\n" ++ "[     2] HidInfo payload=16B\n"
          ++ "[     3] ConnectionState 98:B6:E9:00:00:04 Disconnected\n" ++ "[     4] HidInfo payload=16B\n"
          ++ "\nWrote 6 records, printed 5, back-dated 1.\n" ∧
        report.errors = ["", "Reader Statistics:", "  Delivered:        5", "  Stale Discarded:  1",
          "  Skip Markers:     " ++ skipped, "  Decode Failures:  0"] := by
  intro name settings times
  let c : Scenario := ⟨settings.reader, 2, times⟩
  have hname : Objects.isReserved settings.ring.name.text = false := by decide
  have hfind : Objects.empty.find? settings.ring.name.text = none := rfl
  have haccounts := simulation_accounts "hidring.yaml" 6 2 settings times hname hfind
  generalize runSimulation "hidring.yaml" 6 2 false (.ok settings) (.ofReadings times) 0 .empty = run at haccounts ⊢
  obtain ⟨report, hrun, -, hends, hroom⟩ := haccounts
  have hcode := hroom (by decide)
  obtain ⟨past, stats, hnumbers, -, -, -, ⟨hdelivered, hstale, hfailures, -⟩, houtput, herrors⟩ := hends hcode
  -- As the clock always shows the same time, the number of a sample tells whether it is too old.
  have hfresh : (past.filter fun x => !c.isStale x).map (fun x => x.what.number) = [0, 1, 2, 4, 5] := by
    have hsame : (past.filter fun x => !c.isStale x).map (fun x => x.what.number) =
        (past.map fun x => x.what.number).filter fun i => !c.isStale ⟨⟨i, 0⟩, 0⟩ := by
      rw [List.filter_map]
      rfl
    rw [hsame, hnumbers]
    decide +kernel
  have hevents : (past.filter fun x => !c.isStale x).filterMap (fun x => c.event? x.what.number) =
      [0, 1, 2, 4, 5].filterMap c.event? := by
    rw [← hfresh]
    exact c.events_eq past
  have hlength := congrArg List.length hfresh
  rw [List.length_map] at hlength
  have hfive : ([0, 1, 2, 4, 5].filterMap c.event?).length = 5 := by decide +kernel
  have hlines : Wording.lines false 0 ([0, 1, 2, 4, 5].filterMap c.event?) =
    "[     0] GetReport 98:B6:E9:00:00:00 Ok length=16 report=8B\n"
      ++ "[     1] ConnectionState 98:B6:E9:00:00:01 Connected\n" ++ "[     2] HidInfo payload=16B\n"
      ++ "[     3] ConnectionState 98:B6:E9:00:00:04 Disconnected\n" ++ "[     4] HidInfo payload=16B\n" := by
    decide +kernel
  rw [hevents, hfive] at hdelivered
  rw [hlength] at hstale hfailures
  rw [hevents, hlines, hdelivered] at houtput
  obtain ⟨delivered, staleDiscarded, skipMarkers, decodeFailures⟩ := stats
  obtain rfl : delivered = 5 := hdelivered
  obtain rfl : staleDiscarded = 1 := Nat.add_right_cancel hstale
  obtain rfl : decodeFailures = 0 := Nat.add_left_cancel hfailures
  refine ⟨⟨hname, hfind⟩, report, toString skipMarkers, hrun, hcode, houtput.trans ?_, herrors.trans ?_⟩
  · decide +kernel
  · have hdelivered : "  Delivered:        " ++ toString 5 = "  Delivered:        5" := by decide
    have hstale : "  Stale Discarded:  " ++ toString 1 = "  Stale Discarded:  1" := by decide
    have hfailures : "  Decode Failures:  " ++ toString 0 = "  Decode Failures:  0" := by decide
    rw [Wording.counters, if_neg (by simp), hdelivered, hstale, hfailures]

end EventRing.Command
