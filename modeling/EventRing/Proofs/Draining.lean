import EventRing.Proofs.Honest
import EventRing.Proofs.Hostile
import EventRing.Proofs.Steps

/-!
# What a drain hands over

A drain collects the events of its polls, and the first error takes their place.  `Reader.Hands` are the polls that have
been answered with an event, `Reader.gathered` is what they bring from a queue, and `Drained.ofGathered` what is handed
to the caller.  Every event of a poll is counted as delivered, so the counter also counts those that an error has
replaced.

Main statements: `Hands.delivered` (as many events as counts), `Drains.hands` (a drain is a row of such polls, and one
more that ends it), `Intact.drain_fixed` (what a drain brings from a queue at one time).  `drain_accounts` puts them
together, and beside it stands a ring from which a drain takes an event without handing it over.
-/

namespace EventRing

namespace Reader

variable {σ : Type}

/-- Polls one after the other that are each answered with an event. -/
inductive Hands (rd : Reader) (clock : Clock σ) (r : Ring) (max : Nat) :
    ReaderState σ → List Event → ReaderState σ → Prop
  | nil (s : ReaderState σ) : Hands rd clock r max s [] s
  | cons {s s' s'' : ReaderState σ} {event : Event} {events : List Event}
      (first : rd.poll clock r max s = (.event event, s')) (more : Hands rd clock r max s' events s'') :
      Hands rd clock r max s (event :: events) s''

/-- The events of some entries up to the first that cannot be decoded, and its error. -/
def gathered (rd : Reader) (max : Nat) : List Entry → List Event × Option DecodeError
  | [] => ([], none)
  | e :: es =>
    match rd.layout.decode (.ofTag e.tag) e.payload max with
    | .error failure => ([], some failure)
    | .ok event =>
      let (events, error) := gathered rd max es
      (event :: events, error)

end Reader

/-- What a drain hands to its caller: the events, or the error in their place. -/
def Drained.ofGathered : List Event × Option DecodeError → Drained
  | (gathered, none) => .events gathered
  | (_, some e) => .failed (.decode e)

namespace Reader

variable {σ : Type} {rd : Reader} {clock : Clock σ} {r : Ring} {max : Nat} {s s' : ReaderState σ}
variable {events : List Event} {drained : Drained} {q : List Entry}

/-! ### Polls that are answered with an event -/

theorem Hands.delivered (h : rd.Hands clock r max s events s') :
    s'.stats.delivered = s.stats.delivered + events.length := by
  induction h with
  | nil s => rfl
  | @cons s s' s'' event events first more ih =>
    have hcount := poll_delivered rd clock r max s
    rw [first] at hcount
    rw [ih, hcount, List.length_cons, Nat.add_assoc, Nat.add_comm events.length]
    rfl

theorem Hands.intact (h : rd.Hands clock r max s events s') (quiet : clock.Quiet r) (hq : r.Intact s.memory q) :
    ∃ q', r.Intact s'.memory q' := by
  induction h generalizing q with
  | nil s => exact ⟨q, hq⟩
  | cons first more ih =>
    obtain ⟨⟨q', hpolled⟩, -⟩ := hq.poll rd max (Clock.addsTo_of_quiet quiet)
    rw [first] at hpolled
    exact ih hpolled

/-- A drain is a row of polls that are answered with an event, and one more. -/
theorem Drains.hands (h : Drains rd clock r max s drained s') :
    ∃ events last, rd.Hands clock r max s events last ∧
      (drained = .events events ∧ rd.poll clock r max last = (.empty, s') ∨
        (∃ e, drained = .failed e ∧ rd.poll clock r max last = (.failed e, s')) ∨
        drained = .halted ∧ rd.poll clock r max last = (.halted, s')) := by
  induction h with
  | @empty s s' last => exact ⟨[], s, .nil s, .inl ⟨rfl, last⟩⟩
  | @failed s s' e last => exact ⟨[], s, .nil s, .inr (.inl ⟨e, rfl, last⟩)⟩
  | @halted s s' last => exact ⟨[], s, .nil s, .inr (.inr ⟨rfl, last⟩)⟩
  | event first more ih =>
    obtain ⟨events', last, hands, ⟨hevents, hlast⟩ | ⟨e, hfailed, -⟩ | ⟨hhalted, -⟩⟩ := ih
    · rw [Drained.events.inj hevents]
      exact ⟨_, last, .cons first hands, .inl ⟨rfl, hlast⟩⟩
    · simp at hfailed
    · simp at hhalted
  | event_failed first more ih =>
    obtain ⟨events', last, hands, ⟨hevents, -⟩ | hfailed | ⟨hhalted, -⟩⟩ := ih
    · simp at hevents
    · exact ⟨_, last, .cons first hands, .inr (.inl hfailed)⟩
    · simp at hhalted
  | event_halted first more ih =>
    obtain ⟨events', last, hands, ⟨hevents, -⟩ | ⟨e, hfailed, -⟩ | hhalted⟩ := ih
    · simp at hevents
    · simp at hfailed
    · exact ⟨_, last, .cons first hands, .inr (.inr hhalted)⟩

/-- The last poll of an intact ring under a quiet clock leaves nothing if it finds nothing, and otherwise it is answered
with an event or a decode error. -/
theorem poll_ends (rd : Reader) (max : Nat) (quiet : clock.Quiet r) (hq : r.Intact s.memory q) :
    (rd.poll clock r max s).1 = .empty ∧ r.Intact (rd.poll clock r max s).2.memory [] ∨
      (∃ event, (rd.poll clock r max s).1 = .event event) ∨
      ∃ e, (rd.poll clock r max s).1 = .failed (.decode e) := by
  obtain ⟨times, passed, rest, new, sweep⟩ := poll_sweep rd max (Clock.addsTo_of_quiet quiet) hq
  rcases sweep.takes.poll_cases with hempty | hother
  · have hnew : new = [] := by simpa using sweep.log_eq.symm
    have hrest : rest = [] := by simpa [hempty] using sweep.takes.rest_lt
    have hintact := sweep.intact
    rw [hnew, hrest] at hintact
    exact .inl ⟨hempty, hintact⟩
  · exact .inr hother

/-! ### A drain at one time -/

/-- What is kept of a queue begins where what is dropped from its head ends. -/
theorem filter_eq_of_dropWhile (p : Entry → Bool) (q : List Entry) :
    q.filter (!p ·) = match q.dropWhile p with
      | [] => []
      | e :: tail => e :: tail.filter (!p ·) := by
  induction q with
  | nil => rfl
  | cons e q ih =>
    rw [List.dropWhile_cons, List.filter_cons]
    cases hp : p e with
    | true => exact ih
    | false => rfl

/-- A drain at one time, with enough polls for the queue. -/
theorem drainUpTo_fixed {s : ReaderState Unit} (rd : Reader) (max : Nat) (now : UInt64) {fuel : Nat}
    (h : r.Intact s.memory q) (hfuel : q.length < fuel) :
    (rd.drainUpTo (.fixed now) r max fuel s).1 = .ofGathered (rd.gathered max (q.filter (!rd.discards now ·))) ∧
      (rd.drainUpTo (.fixed now) r max fuel s).2.stats.delivered
        = s.stats.delivered + (rd.gathered max (q.filter (!rd.discards now ·))).1.length := by
  induction fuel generalizing s q with
  | zero => exact absurd hfuel (Nat.not_lt_zero _)
  | succ fuel ih =>
    obtain ⟨rest, hintact, hpolled⟩ := h.poll_fixed rd max now
    have hcount := poll_delivered rd (.fixed now) r max s
    have hshort := (List.dropWhile_suffix (rd.discards now) (l := q)).length_le
    rw [filter_eq_of_dropWhile, drainUpTo]
    rcases hpoll : rd.poll (.fixed now) r max s with ⟨poll, s'⟩
    rw [hpoll] at hintact hpolled hcount
    dsimp only at hintact hpolled hcount
    cases hkept : q.dropWhile (rd.discards now) with
    | nil =>
      rw [hkept] at hpolled
      obtain ⟨rfl, -⟩ := hpolled
      exact ⟨rfl, hcount⟩
    | cons e tail =>
      rw [hkept] at hpolled hshort
      rw [List.length_cons] at hshort
      obtain ⟨rfl, rfl⟩ := hpolled
      obtain ⟨hresult, hdelivered⟩ := ih hintact (by omega)
      dsimp only
      rw [answer] at hcount ⊢
      rw [gathered]
      cases hdecode : rd.layout.decode (.ofTag e.tag) e.payload max with
      | error failure =>
        rw [hdecode] at hcount
        exact ⟨rfl, hcount⟩
      | ok event =>
        rw [hdecode] at hcount
        have hone : s'.stats.delivered = s.stats.delivered + 1 := hcount
        dsimp only
        rcases hrest : rd.drainUpTo (.fixed now) r max fuel s' with ⟨drained, s''⟩
        rw [hrest] at hresult hdelivered
        dsimp only at hresult hdelivered
        generalize rd.gathered max (rest.filter (!rd.discards now ·)) = gathered at *
        have htotal : s''.stats.delivered = s.stats.delivered + (gathered.1.length + 1) := by omega
        obtain ⟨events, _ | failure⟩ := gathered
        · subst hresult
          exact ⟨rfl, htotal⟩
        · subst hresult
          exact ⟨rfl, htotal⟩

/-- A drain at one time. -/
theorem drain_fixed {s : ReaderState Unit} (rd : Reader) (max : Nat) (now : UInt64) (h : r.Intact s.memory q) :
    (rd.drain (.fixed now) r max s).1 = .ofGathered (rd.gathered max (q.filter (!rd.discards now ·))) ∧
      (rd.drain (.fixed now) r max s).2.stats.delivered
        = s.stats.delivered + (rd.gathered max (q.filter (!rd.discards now ·))).1.length := by
  have hlen := r.length_le_spans q
  have hlt := h.spans_lt
  have hbound := capacity_lt_pollBound (.fixed now) r s
  rw [drain]
  exact drainUpTo_fixed rd max now h (by omega)

end Reader

namespace Ring

variable {r : Ring} {m : Memory}

/-- **What a drain hands over.** In honest traffic a drain is a row of polls that are answered with an event, all of
them counted as delivered, and one more.  If that finds nothing, the events are handed over and the ring is empty.  If
its record cannot be decoded, the error is handed over alone, and the events before it are lost.  At one time, the
events and the error are those of the queue without the entries that are discarded, up to the first that cannot be
decoded. -/
theorem Reachable.drain_accounts (h : r.Reachable m) (rd : Reader) (max : Nat) :
    (∀ (σ : Type) (clock : Clock σ) (c : σ) (st : Stats), clock.Quiet r →
      let result := rd.drain clock r max ⟨m, c, st⟩
      ∃ events last, rd.Hands clock r max ⟨m, c, st⟩ events last ∧
        result.2.stats.delivered = st.delivered + events.length ∧
        (result.1 = .events events ∧ r.isEmpty result.2.memory = true ∨
          ∃ e, result.1 = .failed (.decode e) ∧ rd.poll clock r max last = (.failed (.decode e), result.2))) ∧
    ∃ q, r.queue? m = some q ∧ ∀ (now : UInt64) (st : Stats),
      let result := rd.drain (.fixed now) r max ⟨m, (), st⟩
      let gathered := rd.gathered max (q.filter (!rd.discards now ·))
      result.1 = .ofGathered gathered ∧ result.2.stats.delivered = st.delivered + gathered.1.length := by
  obtain ⟨q, hq⟩ := h.intact
  refine ⟨?_, q, hq.queue?_eq, fun now st => Reader.drain_fixed (s := ⟨m, (), st⟩) rd max now hq⟩
  intro σ clock c st quiet
  obtain ⟨hdrains, -⟩ := Reader.drain_safe (s := ⟨m, c, st⟩) rd max quiet hq.fits
  obtain ⟨events, last, hands, hlast⟩ := hdrains.hands
  obtain ⟨q', hintact⟩ := hands.intact quiet hq
  have hends := Reader.poll_ends rd max quiet hintact
  have hcount := Reader.poll_delivered rd clock r max last
  have hdelivered := hands.delivered
  generalize rd.drain clock r max ⟨m, c, st⟩ = result at *
  refine ⟨events, last, hands, ?_⟩
  rcases hlast with ⟨hevents, hpoll⟩ | ⟨e, hfailed, hpoll⟩ | ⟨-, hpoll⟩ <;> rw [hpoll] at hcount hends
  · have hnone : r.Intact result.2.memory [] := by simpa using hends
    exact ⟨hcount.trans hdelivered, .inl ⟨hevents, hnone.isEmpty_nil⟩⟩
  · obtain ⟨failure, rfl⟩ : ∃ failure, e = .decode failure := by simpa using hends
    exact ⟨hcount.trans hdelivered, .inr ⟨failure, hfailed, hpoll⟩⟩
  · simp at hends

/-- A drain of a ring that holds one record hands its event over. -/
theorem drain_accounts_one :
    let r : Ring := ⟨0, ⟨64, .packed, by decide, by decide⟩⟩
    let m := r.use (r.setUp (Memory.zeros 96) ⟨"ring", by decide, by decide, by decide⟩).2 (.write ⟨.hidInfo, 5, [1]⟩)
    r.Reachable m ∧ ∃ events last, (Reader.ofLayout .v2).Hands (.fixed 9) r 64 ⟨m, (), .zero⟩ events last ∧
      ((Reader.ofLayout .v2).drain (.fixed 9) r 64 ⟨m, (), .zero⟩).2.stats.delivered = events.length := by
  intro r m
  have hreachable : r.Reachable m := .use _ (r.reachable_zeros _ (by decide))
  obtain ⟨hhands, -⟩ := hreachable.drain_accounts (Reader.ofLayout .v2) 64
  obtain ⟨events, last, hands, hdelivered, -⟩ := hhands Unit (.fixed 9) () .zero (Clock.quiet_fixed r 9)
  exact ⟨hreachable, events, last, hands, by rw [hdelivered, Stats.zero, Nat.zero_add]⟩

/-- A ring of 256 bytes holds a record that can be decoded and one that cannot.  A drain fails with the second, and has
counted the first as delivered. -/
theorem drain_loses_event :
    let r : Ring := ⟨0, ⟨256, .packed, by decide, by decide⟩⟩
    let fresh := (r.setUp (Memory.zeros 288) ⟨"ring", by decide, by decide, by decide⟩).2
    let m := r.use (r.use fresh (.write ⟨.hidInfo, 0, [1]⟩)) (.write ⟨.connectionState, 0, []⟩)
    let result := (Reader.ofLayout .v2).drain (.fixed 0) r Reader.standardMaxPayload ⟨m, (), .zero⟩
    r.Reachable m ∧ result.1 = .failed (.decode (.payloadTooShort .connectionState 12 0)) ∧
      result.2.stats.delivered = 1 := by
  intro r fresh m result
  have hfresh : r.Intact fresh [] :=
    intact_setUp _ (fits_zeros r (show r.base + r.geometry.memorySize ≤ 288 by decide)) (isSetUp_zeros r 288)
  have hfirst : r.Intact (r.use fresh (.write ⟨.hidInfo, 0, [1]⟩)) ([] ++ r.additions fresh ⟨.hidInfo, 0, [1]⟩) :=
    hfresh.write _
  have hadded : r.additions fresh ⟨.hidInfo, 0, [1]⟩ = [⟨1, 0, [1]⟩] := by decide +kernel
  rw [hadded] at hfirst
  have hsecond : r.Intact m ([] ++ [⟨1, 0, [1]⟩] ++
      r.additions (r.use fresh (.write ⟨.hidInfo, 0, [1]⟩)) ⟨.connectionState, 0, []⟩) := hfirst.write _
  have hadded' : r.additions (r.use fresh (.write ⟨.hidInfo, 0, [1]⟩)) ⟨.connectionState, 0, []⟩ = [⟨0, 0, []⟩] := by
    decide +kernel
  rw [hadded'] at hsecond
  have hreachable : r.Reachable m := .use _ (.use _ (r.reachable_zeros _ (by decide)))
  clear_value m
  obtain ⟨hresult, hdelivered⟩ := Reader.drain_fixed (s := ⟨m, (), .zero⟩) (Reader.ofLayout .v2)
    Reader.standardMaxPayload 0 hsecond
  exact ⟨hreachable, hresult, hdelivered⟩

end Ring

end EventRing
