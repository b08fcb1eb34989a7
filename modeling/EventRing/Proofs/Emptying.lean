import EventRing.Proofs.Honest
import EventRing.Proofs.Pumping

/-!
# Emptying a ring while time goes by

A pump takes off an intact ring all that is in it, and the clock may show another time whenever it is asked, once for
each report response.  `sightings` says how often the clock has been asked before each entry is looked at, so that the
list of its readings tells at what time the entry is judged.  `Reader.Clears` is a pump as a row of polls, each of which
takes what it takes from a queue.  `Reader.Empties` puts together what has come of a queue: the answers, how often the
clock was asked, and what the counters have gained.

Main statements: `Intact.pump_clears` (a pump clears the queue of an intact ring, by induction on the number of polls),
`Clears.empties` (what comes of it) and `Clears.skips` (every skip marker is counted).
-/

namespace EventRing

/-! ### Sightings -/

/-- Something that has been looked at, and how often the clock had been asked before. -/
structure Sighting (α : Type) where
  what : α
  asked : Nat

namespace Sighting

variable {α β : Type}

/-- The sighting of something else at the same moment. -/
def map (f : α → β) (x : Sighting α) : Sighting β := ⟨f x.what, x.asked⟩

end Sighting

section Sightings

variable {α β : Type} {asks : α → Bool} {asked : Nat} {xs : List α} {x : Sighting α}

/-- What is looked at one after the other, when the clock has been asked `asked` times before and is asked once for
everything that passes a test. -/
def sightings (asks : α → Bool) : (asked : Nat) → List α → List (Sighting α)
  | _, [] => []
  | asked, x :: xs => ⟨x, asked⟩ :: sightings asks (if asks x = true then asked + 1 else asked) xs

theorem map_what_sightings (asks : α → Bool) (asked : Nat) (xs : List α) :
    (sightings asks asked xs).map Sighting.what = xs := by
  induction xs generalizing asked with
  | nil => rfl
  | cons x xs ih => rw [sightings, List.map_cons, ih]

theorem sightings_map (asks : β → Bool) (f : α → β) (asked : Nat) (xs : List α) :
    sightings asks asked (xs.map f) = (sightings (fun x => asks (f x)) asked xs).map (Sighting.map f) := by
  induction xs generalizing asked with
  | nil => rfl
  | cons x xs ih =>
    rw [List.map_cons, sightings, sightings, List.map_cons, ih]
    rfl

theorem sightings_append (asks : α → Bool) (asked : Nat) (xs ys : List α) :
    sightings asks asked (xs ++ ys) = sightings asks asked xs ++ sightings asks (asked + xs.countP asks) ys := by
  induction xs generalizing asked with
  | nil => rfl
  | cons x xs ih =>
    have hnext : (if asks x = true then asked + 1 else asked) + xs.countP asks = asked + (x :: xs).countP asks := by
      rw [List.countP_cons]
      split <;> omega
    rw [List.cons_append, sightings, ih, hnext, sightings, List.cons_append]

/-- Everything is looked at after the clock was asked the first times, and before it was asked the last time. -/
theorem asked_of_mem_sightings (h : x ∈ sightings asks asked xs) :
    asked ≤ x.asked ∧ x.asked ≤ asked + xs.countP asks := by
  induction xs generalizing asked with
  | nil => simp [sightings] at h
  | cons y xs ih =>
    rw [sightings, List.mem_cons] at h
    rw [List.countP_cons]
    rcases h with rfl | hmore
    · exact ⟨Nat.le_refl _, Nat.le_add_right _ _⟩
    · have hbetween := ih hmore
      cases hy : asks y with
      | true =>
        rw [hy, if_pos rfl] at hbetween
        rw [if_pos rfl]
        omega
      | false =>
        rw [hy, if_neg (by simp)] at hbetween
        omega

theorem pairwise_sightings (asks : α → Bool) (asked : Nat) (xs : List α) :
    (sightings asks asked xs).Pairwise fun x y => x.asked ≤ y.asked := by
  induction xs generalizing asked with
  | nil => exact .nil
  | cons x xs ih =>
    refine .cons (fun y hy => ?_) (ih _)
    have hlater := (asked_of_mem_sightings hy).1
    dsimp only
    split at hlater <;> omega

end Sightings

/-! ### Readings -/

namespace Clock

variable {times : Nat → UInt64} {asked later : Nat} {now : UInt64} {shown : List UInt64}

theorem Shows.ofReadings_nil (h : (ofReadings times).Shows asked [] later) : later = asked := by
  cases h
  rfl

/-- A list of readings shows the one whose turn it is, and then the ones behind it. -/
theorem Shows.ofReadings_cons (h : (ofReadings times).Shows asked (now :: shown) later) :
    times asked = now ∧ (ofReadings times).Shows (asked + 1) shown later := by
  cases h with
  | cons m first more => exact ⟨Option.some.inj first, more⟩

end Clock

/-- Whether a reader asks the clock about an entry. -/
def Entry.isReport (e : Entry) : Bool := e.header.kind = .getReport

theorem Entry.isReport_iff {e : Entry} : e.isReport = true ↔ e.header.kind = .getReport := decide_eq_true_iff

/-- The entries of a queue that are not skip markers. -/
def unmarked (q : List Entry) : List Entry := q.filter fun e => e.tag ≠ Kind.skipTag

theorem unmarked_append (q q' : List Entry) : unmarked (q ++ q') = unmarked q ++ unmarked q' := List.filter_append q q'

/-- The number of skip markers in a queue. -/
def markers (q : List Entry) : Nat := q.countP fun e => e.tag = Kind.skipTag

variable {e : Entry} {q : List Entry} {asked : Nat}

theorem markers_cons_of_marker (marker : e.tag = Kind.skipTag) : markers (e :: q) = markers q + 1 :=
  List.countP_cons_of_pos (by simp [marker])

theorem markers_cons (marker : e.tag ≠ Kind.skipTag) : markers (e :: q) = markers q :=
  List.countP_cons_of_neg (by simp [marker])

theorem unmarked_cons_of_marker (marker : e.tag = Kind.skipTag) : unmarked (e :: q) = unmarked q :=
  List.filter_cons_of_neg (by simp [marker])

theorem unmarked_cons (marker : e.tag ≠ Kind.skipTag) : unmarked (e :: q) = e :: unmarked q :=
  List.filter_cons_of_pos (by simp [marker])

/-- What a pump says of the answer to one poll. -/
def Poll.passedOn : Poll → List Poll
  | .empty => []
  | p => [p]

namespace Reader

/-- The sightings of entries that are not too old at the time that the clock shows then. -/
def kept (rd : Reader) (times : Nat → UInt64) (xs : List (Sighting Entry)) : List (Sighting Entry) :=
  xs.filter fun x => !rd.isStaleAt (times x.asked) x.what.header

/-- The answers to some sightings. -/
def answers (rd : Reader) (max : Nat) (times : Nat → UInt64) (xs : List (Sighting Entry)) : List Poll :=
  ((rd.kept times xs).map Sighting.what).map (rd.answer max)

/-- The counters from `st` to `st'` account for some sightings.  Each is one of a stale response or has an answer, which
is an event or an error. -/
structure Tallies (rd : Reader) (max : Nat) (times : Nat → UInt64) (xs : List (Sighting Entry)) (st st' : Stats) :
    Prop where
  stale : st'.staleDiscarded + (rd.kept times xs).length = st.staleDiscarded + xs.length
  delivered : st'.delivered = st.delivered + ((rd.answers max times xs).flatMap Poll.events).length
  failures : st'.delivered + st'.decodeFailures = st.delivered + st.decodeFailures + (rd.kept times xs).length

/-- What has come of a queue: the answers, how often the clock has been asked, and the counters.  Skip markers are gone
through without an answer. -/
structure Empties (rd : Reader) (max : Nat) (times : Nat → UInt64) (asked : Nat) (q : List Entry) (st : Stats)
    (polls : List Poll) (asked' : Nat) (st' : Stats) : Prop where
  polls_eq : polls = rd.answers max times (sightings Entry.isReport asked (unmarked q))
  asked_eq : asked' = asked + (unmarked q).countP Entry.isReport
  tallies : rd.Tallies max times (sightings Entry.isReport asked (unmarked q)) st st'

/-- Polls of a queue, one after the other, until one finds nothing: the number of readings and the counters before, the
answers, and the number of readings and the counters behind them. -/
inductive Clears (rd : Reader) (max : Nat) (times : Nat → UInt64) :
    Nat → List Entry → Stats → List Poll → Nat → Stats → Prop
  | last {asked asked' : Nat} {q : List Entry} {shown : List UInt64} {st st' : Stats}
      (takes : rd.Takes max q shown st .empty [] st') (shows : (Clock.ofReadings times).Shows asked shown asked') :
      Clears rd max times asked q st [] asked' st'
  | next {asked between asked' : Nat} {q rest : List Entry} {shown : List UInt64} {p : Poll} {polls : List Poll}
      {st st' st'' : Stats} (takes : rd.Takes max q shown st p rest st')
      (shows : (Clock.ofReadings times).Shows asked shown between)
      (after : Clears rd max times between rest st' polls asked' st'') :
      Clears rd max times asked q st (p.passedOn ++ polls) asked' st''

variable {rd : Reader} {max : Nat} {times : Nat → UInt64} {xs ys : List (Sighting Entry)} {x : Sighting Entry}
variable {st st' st'' : Stats} {polls : List Poll} {asked' : Nat}

/-! ### Counters -/

theorem kept_append (rd : Reader) (times : Nat → UInt64) (xs ys : List (Sighting Entry)) :
    rd.kept times (xs ++ ys) = rd.kept times xs ++ rd.kept times ys := List.filter_append xs ys

theorem answers_append (rd : Reader) (max : Nat) (times : Nat → UInt64) (xs ys : List (Sighting Entry)) :
    rd.answers max times (xs ++ ys) = rd.answers max times xs ++ rd.answers max times ys := by
  rw [answers, kept_append, List.map_append, List.map_append]
  rfl

theorem Tallies.refl (rd : Reader) (max : Nat) (times : Nat → UInt64) (st : Stats) : rd.Tallies max times [] st st :=
  ⟨rfl, rfl, rfl⟩

theorem Tallies.trans (h : rd.Tallies max times xs st st') (h' : rd.Tallies max times ys st' st'') :
    rd.Tallies max times (xs ++ ys) st st'' := by
  have hstale := h.stale
  have hstale' := h'.stale
  have hfailures := h.failures
  have hfailures' := h'.failures
  refine ⟨?_, ?_, ?_⟩
  · rw [kept_append, List.length_append, List.length_append]
    omega
  · rw [answers_append, List.flatMap_append, List.length_append, h'.delivered, h.delivered, Nat.add_assoc]
  · rw [kept_append, List.length_append]
    omega

theorem kept_stale (old : rd.isStaleAt (times x.asked) x.what.header = true) : rd.kept times [x] = [] :=
  List.filter_cons_of_neg (by simp [old])

theorem kept_fresh (fresh : rd.isStaleAt (times x.asked) x.what.header = false) : rd.kept times [x] = [x] :=
  List.filter_cons_of_pos (by simp [fresh])

theorem answers_fresh (fresh : rd.isStaleAt (times x.asked) x.what.header = false) :
    rd.answers max times [x] = [rd.answer max x.what] := by
  rw [answers, kept_fresh fresh]
  rfl

theorem answers_stale (old : rd.isStaleAt (times x.asked) x.what.header = true) : rd.answers max times [x] = [] := by
  rw [answers, kept_stale old]
  rfl

theorem tallies_stale (max : Nat) (st : Stats) (old : rd.isStaleAt (times x.asked) x.what.header = true) :
    rd.Tallies max times [x] st st.countStale := by
  refine ⟨?_, ?_, ?_⟩
  · rw [kept_stale old]
    rfl
  · rw [answers_stale old]
    rfl
  · rw [kept_stale old]
    rfl

/-- A fresh entry is counted as what it is answered with. -/
theorem tallies_fresh (max : Nat) (st : Stats) (fresh : rd.isStaleAt (times x.asked) x.what.header = false) :
    rd.Tallies max times [x] st (rd.settle max x.what.header.kind x.what.payload st).2 := by
  have hanswer := settle_fst rd max x.what st
  rcases settle_cases rd max x.what.header.kind x.what.payload st with ⟨event, hsettle⟩ | ⟨failure, hsettle⟩
  · rw [hsettle] at hanswer ⊢
    refine ⟨by rw [kept_fresh fresh]; rfl, ?_, ?_⟩
    · rw [answers_fresh fresh, ← hanswer]
      rfl
    · rw [kept_fresh fresh]
      exact Nat.add_right_comm _ _ _
  · rw [hsettle] at hanswer ⊢
    refine ⟨by rw [kept_fresh fresh]; rfl, ?_, by rw [kept_fresh fresh]; rfl⟩
    rw [answers_fresh fresh, ← hanswer]
    rfl

/-! ### Queues -/

theorem Empties.nil (rd : Reader) (max : Nat) (times : Nat → UInt64) (asked : Nat) (st : Stats) :
    rd.Empties max times asked [] st [] asked st := ⟨rfl, rfl, .refl rd max times st⟩

/-- A skip marker at the head of a queue is counted, but not where it would show. -/
theorem Empties.skip (marker : e.tag = Kind.skipTag) (h : rd.Empties max times asked q st.countSkip polls asked' st') :
    rd.Empties max times asked (e :: q) st polls asked' st' := by
  have htallies := h.tallies
  refine ⟨?_, ?_, ?_⟩ <;> rw [unmarked_cons_of_marker marker]
  · exact h.polls_eq
  · exact h.asked_eq
  · exact ⟨htallies.stale, htallies.delivered, htallies.failures⟩

/-- One entry at the head of a queue that is not a skip marker, and then the rest. -/
theorem Empties.cons {said : List Poll} {next : Nat} (marker : e.tag ≠ Kind.skipTag)
    (hnext : next = if e.isReport = true then asked + 1 else asked) (hsaid : said = rd.answers max times [⟨e, asked⟩])
    (head : rd.Tallies max times [⟨e, asked⟩] st st') (h : rd.Empties max times next q st' polls asked' st'') :
    rd.Empties max times asked (e :: q) st (said ++ polls) asked' st'' := by
  have hseen : sightings Entry.isReport asked (unmarked (e :: q))
      = [⟨e, asked⟩] ++ sightings Entry.isReport next (unmarked q) := by
    rw [unmarked_cons marker, sightings, hnext]
    rfl
  refine ⟨?_, ?_, ?_⟩
  · rw [hseen, answers_append, ← h.polls_eq, hsaid]
  · rw [h.asked_eq, hnext, unmarked_cons marker, List.countP_cons]
    split <;> omega
  · rw [hseen]
    exact head.trans h.tallies

/-- A stale response at the head of a queue is counted and not answered. -/
theorem Empties.stale (report : e.header.kind = .getReport) (old : rd.isStaleAt (times asked) e.header = true)
    (h : rd.Empties max times (asked + 1) q st.countStale polls asked' st') :
    rd.Empties max times asked (e :: q) st polls asked' st' := by
  rw [← List.nil_append polls]
  exact .cons (unmarked_of_report report) (if_pos (Entry.isReport_iff.2 report)).symm
    (answers_stale (x := ⟨e, asked⟩) old).symm (tallies_stale (x := ⟨e, asked⟩) max st old) h

/-- A fresh entry at the head of a queue is answered by what it can be decoded to. -/
theorem Empties.fresh {next : Nat} (marker : e.tag ≠ Kind.skipTag)
    (hnext : next = if e.isReport = true then asked + 1 else asked)
    (fresh : rd.isStaleAt (times asked) e.header = false)
    (h : rd.Empties max times next q (rd.settle max e.header.kind e.payload st).2 polls asked' st') :
    rd.Empties max times asked (e :: q) st ((rd.settle max e.header.kind e.payload st).1.passedOn ++ polls) asked'
      st' := by
  have hsaid : (rd.settle max e.header.kind e.payload st).1.passedOn = [rd.answer max e] := by
    rw [settle_fst]
    rcases rd.answer_cases max e with ⟨event, hanswer⟩ | ⟨failure, hanswer⟩ <;> rw [hanswer] <;> rfl
  refine .cons marker hnext ?_ (tallies_fresh (x := ⟨e, asked⟩) max st fresh) h
  rw [hsaid, answers_fresh (x := ⟨e, asked⟩) fresh]

/-- What a poll takes from a queue, and what then comes of the rest. -/
theorem Takes.empties {shown : List UInt64} {rest : List Entry} {p : Poll} {between : Nat}
    (h : rd.Takes max q shown st p rest st') (shows : (Clock.ofReadings times).Shows asked shown between)
    (more : rd.Empties max times between rest st' polls asked' st'') :
    rd.Empties max times asked q st (p.passedOn ++ polls) asked' st'' := by
  induction h generalizing asked with
  | empty st =>
    obtain rfl := shows.ofReadings_nil
    exact more
  | skip marker after ih => exact .skip marker (ih shows more)
  | stale report old after ih =>
    obtain ⟨rfl, later⟩ := shows.ofReadings_cons
    exact .stale report old (ih later more)
  | report report young =>
    obtain ⟨rfl, later⟩ := shows.ofReadings_cons
    obtain rfl := later.ofReadings_nil
    exact .fresh (unmarked_of_report report) (if_pos (Entry.isReport_iff.2 report)).symm young more
  | other marker report =>
    obtain rfl := shows.ofReadings_nil
    exact .fresh marker (if_neg (mt Entry.isReport_iff.1 report)).symm (isStaleAt_of_ne report) more

/-- What comes of a queue that is cleared. -/
theorem Clears.empties (h : rd.Clears max times asked q st polls asked' st') :
    rd.Empties max times asked q st polls asked' st' := by
  induction h with
  | last takes shows => exact takes.empties shows (.nil ..)
  | next takes shows after ih => exact takes.empties shows ih

/-- A poll counts the skip markers that it takes off the queue. -/
theorem Takes.skips {shown : List UInt64} {rest : List Entry} {p : Poll} (h : rd.Takes max q shown st p rest st') :
    st'.skipMarkers + markers rest = st.skipMarkers + markers q := by
  have hsettle : ∀ (e : Entry) (st : Stats),
      (rd.settle max e.header.kind e.payload st).2.skipMarkers = st.skipMarkers := by
    intro e st
    rcases settle_cases rd max e.header.kind e.payload st with ⟨event, h⟩ | ⟨failure, h⟩ <;> rw [h] <;> rfl
  induction h with
  | empty st => rfl
  | skip marker after ih =>
    rw [ih, markers_cons_of_marker marker]
    exact Nat.add_right_comm _ _ _
  | stale report old after ih =>
    rw [ih, markers_cons (unmarked_of_report report)]
    rfl
  | report report young => rw [hsettle, markers_cons (unmarked_of_report report)]
  | other marker report => rw [hsettle, markers_cons marker]

/-- Every skip marker in a queue that is cleared has been counted. -/
theorem Clears.skips (h : rd.Clears max times asked q st polls asked' st') :
    st'.skipMarkers = st.skipMarkers + markers q := by
  induction h with
  | last takes shows => exact takes.skips
  | next takes shows after ih => rw [ih, takes.skips]

end Reader

/-! ### Pumps -/

namespace Ring

variable {r : Ring} {s : ReaderState Nat}

/-- A poll that is answered takes an entry off, so more polls than there are entries come to the end of the queue. -/
theorem Intact.pumpUpTo_clears {fuel : Nat} (rd : Reader) (max : Nat) (times : Nat → UInt64)
    (h : r.Intact s.memory q) (hfuel : q.length < fuel) :
    rd.Clears max times s.clock q s.stats (rd.pumpUpTo (.ofReadings times) r max fuel s).1
      (rd.pumpUpTo (.ofReadings times) r max fuel s).2.clock
      (rd.pumpUpTo (.ofReadings times) r max fuel s).2.stats := by
  induction fuel generalizing s q with
  | zero => exact absurd hfuel (Nat.not_lt_zero _)
  | succ fuel ih =>
    obtain ⟨shown, passed, rest, new, sweep⟩ :=
      Reader.poll_sweep rd max (Clock.addsTo_of_quiet (Clock.quiet_ofReadings r times)) h
    have hnew : new = [] := by simpa using sweep.log_eq.symm
    have hintact := sweep.intact
    have htakes := sweep.takes
    have hshows := sweep.shows
    have hrest := htakes.rest_lt
    have hend := htakes.poll_cases
    rw [hnew, List.append_nil, List.append_nil] at hintact
    rw [Reader.pumpUpTo]
    rcases hpoll : rd.poll (.ofReadings times) r max s with ⟨poll, s'⟩
    rw [hpoll] at hintact htakes hshows hrest hend
    dsimp only at hintact htakes hshows hrest hend
    rcases hend with rfl | ⟨event, rfl⟩ | ⟨e, rfl⟩
    · obtain rfl : rest = [] := by simpa using hrest
      exact .last htakes hshows
    · have hlt : rest.length < q.length := by simpa using hrest
      exact .next htakes hshows (ih hintact (by omega))
    · have hlt : rest.length < q.length := by simpa using hrest
      exact .next htakes hshows (ih hintact (by omega))

/-- **A pump goes through the queue of an intact ring to its end.** -/
theorem Intact.pump_clears (rd : Reader) (max : Nat) (times : Nat → UInt64) (h : r.Intact s.memory q) :
    rd.Clears max times s.clock q s.stats (rd.pump (.ofReadings times) r max s).1
      (rd.pump (.ofReadings times) r max s).2.clock (rd.pump (.ofReadings times) r max s).2.stats := by
  have hlen := r.length_le_spans q
  have hlt := h.spans_lt
  have hbound := Reader.capacity_lt_pollBound (.ofReadings times) r s
  rw [Reader.pump]
  exact h.pumpUpTo_clears rd max times (by omega)

end Ring

end EventRing
