import EventRing.Reader

/-!
# Step by step through a poll

A poll does two things to memory: it asks the clock, and it moves the read offset.  What both of them keep is kept by a
whole poll and by a drain, whatever stands in memory and whatever the clock does: `scan_keeps`, `poll_keeps`,
`drain_keeps`.  What none of its steps looks at makes no difference to a poll: `scan_onMemory`, `poll_onMemory`.  The
counters go up one at a time, and that of delivered events only with an event: `scan_delivered`, `poll_delivered`.
-/

namespace EventRing

/-- The events in the answer of a poll: one, or none. -/
def Poll.events : Poll → List Event
  | .empty => []
  | .event e => [e]
  | .failed _ => []
  | .halted => []

/-- The state of a reader, with memory changed by a function. -/
def ReaderState.onMemory {σ : Type} (s : ReaderState σ) (f : Memory → Memory) : ReaderState σ :=
  { s with memory := f s.memory }

namespace Reader

variable {σ : Type}

/-- The state in which a record that has been found leaves a poll. -/
def Fate.state : Fate σ → ReaderState σ
  | dropped s => s
  | fresh s => s
  | ended _ s => s

variable {clock : Clock σ} {r : Ring} {P : Memory → Prop} {s : ReaderState σ}

/-! ### What a poll keeps of memory -/

section Keeps

variable (rd : Reader) (max : Nat) (hask : ∀ c m, P m → P (clock.ask c m).memory)
variable (hadvance : ∀ m consumed, P m → P (r.advance m consumed).2)

include hadvance in
theorem drop_keeps (h : P s.memory) (found : Ring.Found) (stats : Stats) : P (drop r s found stats).state.memory := by
  have hkept := hadvance s.memory found.span.toUInt64 h
  unfold drop
  split <;> next hmoved => rw [hmoved] at hkept; exact hkept

include hask in
theorem isStale_keeps (h : P s.memory) (header : Header) : P (rd.isStale clock s header).2.memory := by
  unfold isStale
  split
  · exact hask _ _ h
  · exact h

include hask hadvance in
theorem sift_keeps (h : P s.memory) {found : Ring.Found} {fate : Fate σ} (hsift : rd.sift clock r s found = fate) :
    P fate.state.memory := by
  have hasked := isStale_keeps rd hask h found.header
  rw [← hsift]
  unfold sift
  split
  · exact drop_keeps hadvance h found _
  · split
    · next hstale => rw [hstale] at hasked; exact hasked
    · next hstale => rw [hstale] at hasked; exact hasked
    · next hstale => rw [hstale] at hasked; exact drop_keeps hadvance hasked found _

include hadvance in
theorem deliver_keeps (h : P s.memory) (found : Ring.Found) : P (rd.deliver r max s found).2.memory := by
  have hkept := hadvance s.memory found.span.toUInt64 h
  unfold deliver
  split
  · exact h
  · split <;> next hmoved => rw [hmoved] at hkept; exact hkept

include hask hadvance in
theorem scan_keeps (published consumed : UInt64) (h : P s.memory) :
    P (rd.scan clock r max published consumed s).2.memory := by
  fun_induction scan rd clock r max published consumed s with
  | case1 | case2 | case3 | case8 => exact h
  | case4 _ _ _ _ _ _ _ hsift | case6 _ _ _ _ _ _ hsift => exact sift_keeps rd hask hadvance h hsift
  | case5 _ _ _ found _ _ hsift => exact deliver_keeps rd max hadvance (sift_keeps rd hask hadvance h hsift) found
  | case7 _ _ _ _ _ _ hsift _ _ ih => exact ih (sift_keeps rd hask hadvance h hsift)

include hask hadvance in
/-- What holds of memory holds after a poll, if asking the clock and moving the read offset keep it. -/
theorem poll_keeps (h : P s.memory) : P (rd.poll clock r max s).2.memory := by
  unfold poll
  split
  · split
    · exact h
    · split
      · exact h
      · exact scan_keeps rd max hask hadvance _ _ h
  · exact h

include hask hadvance in
theorem drainUpTo_keeps (fuel : Nat) (h : P s.memory) : P (rd.drainUpTo clock r max fuel s).2.memory := by
  induction fuel generalizing s with
  | zero => exact h
  | succ fuel ih =>
    have hpolled := poll_keeps rd max hask hadvance h
    rw [drainUpTo]
    rcases hpoll : rd.poll clock r max s with ⟨poll, s'⟩
    rw [hpoll] at hpolled
    cases poll with
    | empty | failed _ | halted => exact hpolled
    | event event =>
      have hrest := ih hpolled
      dsimp only
      rcases hdrained : rd.drainUpTo clock r max fuel s' with ⟨drained, s''⟩
      rw [hdrained] at hrest
      cases drained <;> exact hrest

include hask hadvance in
theorem drain_keeps (h : P s.memory) : P (rd.drain clock r max s).2.memory :=
  drainUpTo_keeps rd max hask hadvance _ h

end Keeps

/-! ### What a poll does not see -/

/-- The fate of a record, with memory changed by a function. -/
def Fate.onMemory (f : Memory → Memory) : Fate σ → Fate σ
  | dropped s => .dropped (s.onMemory f)
  | fresh s => .fresh (s.onMemory f)
  | ended p s => .ended p (s.onMemory f)

section Blind

variable (rd : Reader) (max : Nat) {f : Memory → Memory}
variable (hask : ∀ c m, clock.ask c (f m) = { clock.ask c m with memory := f (clock.ask c m).memory })
variable (hnext : ∀ m, r.next (f m) = r.next m)
variable (hpayload : ∀ m found, r.payload (f m) found = r.payload m found)
variable (hadvance : ∀ m consumed, r.advance (f m) consumed = ((r.advance m consumed).1, f (r.advance m consumed).2))

include hadvance in
theorem drop_onMemory (s : ReaderState σ) (found : Ring.Found) (stats : Stats) :
    drop r (s.onMemory f) found stats = (drop r s found stats).onMemory f := by
  have hmoved := hadvance s.memory found.span.toUInt64
  unfold drop
  rw [show (s.onMemory f).memory = f s.memory from rfl, hmoved]
  rcases r.advance s.memory found.span.toUInt64 with ⟨result, m⟩
  cases result <;> rfl

include hask in
theorem isStale_onMemory (s : ReaderState σ) (header : Header) :
    rd.isStale clock (s.onMemory f) header
      = ((rd.isStale clock s header).1, (rd.isStale clock s header).2.onMemory f) := by
  unfold isStale
  split
  · dsimp only [ReaderState.onMemory]
    rw [hask]
  · rfl

include hask hadvance in
theorem sift_onMemory (s : ReaderState σ) (found : Ring.Found) :
    rd.sift clock r (s.onMemory f) found = (rd.sift clock r s found).onMemory f := by
  unfold sift
  split
  · exact drop_onMemory hadvance s found _
  · rw [isStale_onMemory rd hask]
    rcases rd.isStale clock s found.header with ⟨_ | _ | _, s'⟩
    · rfl
    · rfl
    · exact drop_onMemory hadvance s' found _

include hpayload hadvance in
theorem deliver_onMemory (s : ReaderState σ) (found : Ring.Found) :
    rd.deliver r max (s.onMemory f) found
      = ((rd.deliver r max s found).1, (rd.deliver r max s found).2.onMemory f) := by
  have hmoved := hadvance s.memory found.span.toUInt64
  unfold deliver
  rw [show (s.onMemory f).memory = f s.memory from rfl, hpayload, hmoved]
  cases r.payload s.memory found with
  | none => rfl
  | some payload =>
    rcases r.advance s.memory found.span.toUInt64 with ⟨result, m⟩
    cases result <;> rfl

include hask hnext hpayload hadvance in
theorem scan_onMemory (published consumed : UInt64) (s : ReaderState σ) :
    rd.scan clock r max published consumed (s.onMemory f)
      = ((rd.scan clock r max published consumed s).1,
        (rd.scan clock r max published consumed s).2.onMemory f) := by
  have hsees : ∀ s : ReaderState σ, r.next (s.onMemory f).memory = r.next s.memory := fun s => hnext s.memory
  fun_induction scan rd clock r max published consumed s with
  | case1 consumed s hleft e hfound =>
    rw [scan_of_failed rd clock max hleft ((hsees s).trans hfound)]
  | case2 consumed s _ hfound => exact absurd hfound Ring.next_ne_halted
  | case3 consumed s _ hfound => rw [scan_of_none rd clock max ((hsees s).trans hfound)]
  | case4 consumed s hleft found hfound p s' hsift =>
    rw [scan_of_found rd clock max hleft ((hsees s).trans hfound), sift_onMemory rd hask hadvance, hsift]
    rfl
  | case5 consumed s hleft found hfound s' hsift =>
    rw [scan_of_found rd clock max hleft ((hsees s).trans hfound), sift_onMemory rd hask hadvance, hsift]
    exact deliver_onMemory rd max hpayload hadvance s' found
  | case6 consumed s hleft found hfound s' hsift hsum =>
    rw [scan_of_found rd clock max hleft ((hsees s).trans hfound), sift_onMemory rd hask hadvance, hsift]
    simp only [Fate.onMemory, hsum]
  | case7 consumed s hleft found hfound s' hsift sum hsum ih =>
    rw [scan_of_found rd clock max hleft ((hsees s).trans hfound), sift_onMemory rd hask hadvance, hsift]
    simp only [Fate.onMemory, hsum]
    exact ih
  | case8 consumed s hleft => rw [scan_of_le rd clock r max _ hleft]

variable (hset : ∀ m, r.isSetUp (f m) = r.isSetUp m) (hoffsets : ∀ m, r.offsets (f m) = r.offsets m)

include hask hnext hpayload hadvance hset hoffsets in
/-- **A poll does not see what its steps do not see.** If a change of memory alters neither what is found and read nor
where the read offset goes, a poll answers the same with it, and then leaves the same memory with the same change. -/
theorem poll_onMemory (s : ReaderState σ) :
    rd.poll clock r max (s.onMemory f) = ((rd.poll clock r max s).1, (rd.poll clock r max s).2.onMemory f) := by
  unfold poll
  rw [show (s.onMemory f).memory = f s.memory from rfl, hset, hoffsets]
  split
  · split
    · rfl
    · split
      · rfl
      · exact scan_onMemory rd max hask hnext hpayload hadvance _ _ s
  · rfl

end Blind

/-! ### What a poll counts -/

theorem drop_delivered (r : Ring) (s : ReaderState σ) (found : Ring.Found) (stats : Stats)
    (h : stats.delivered = s.stats.delivered) : (drop r s found stats).state.stats.delivered = s.stats.delivered := by
  unfold drop
  split
  · rfl
  · exact h

theorem isStale_stats (rd : Reader) (clock : Clock σ) (s : ReaderState σ) (header : Header) :
    (rd.isStale clock s header).2.stats = s.stats := by
  unfold isStale
  split <;> rfl

theorem sift_delivered {rd : Reader} {found : Ring.Found} {fate : Fate σ} (hsift : rd.sift clock r s found = fate) :
    fate.state.stats.delivered = s.stats.delivered := by
  have hstats := rd.isStale_stats clock s found.header
  rw [← hsift]
  unfold sift
  split
  · exact drop_delivered r s found _ rfl
  · split
    · next hstale => rw [hstale] at hstats; exact congrArg Stats.delivered hstats
    · next hstale => rw [hstale] at hstats; exact congrArg Stats.delivered hstats
    · next s' hstale =>
      rw [hstale] at hstats
      have hdropped := drop_delivered r s' found s'.stats.countStale rfl
      exact hdropped.trans (congrArg Stats.delivered hstats)

theorem drop_ended {found : Ring.Found} {stats : Stats} {p : Poll} {s' : ReaderState σ}
    (h : drop r s found stats = .ended p s') : p.events = [] := by
  unfold drop at h
  split at h
  · obtain ⟨rfl, -⟩ := Fate.ended.inj h
    rfl
  · simp at h

/-- A record with which a poll ends before it is delivered gives no event. -/
theorem sift_ended {rd : Reader} {found : Ring.Found} {p : Poll} {s' : ReaderState σ}
    (h : rd.sift clock r s found = .ended p s') : p.events = [] := by
  unfold sift at h
  split at h
  · exact drop_ended h
  · split at h
    · obtain ⟨rfl, -⟩ := Fate.ended.inj h
      rfl
    · simp at h
    · exact drop_ended h

theorem deliver_delivered (rd : Reader) (r : Ring) (max : Nat) (s : ReaderState σ) (found : Ring.Found) :
    (rd.deliver r max s found).2.stats.delivered
      = s.stats.delivered + (rd.deliver r max s found).1.events.length := by
  unfold deliver
  split
  · rfl
  · next bytes _ =>
    split
    · rfl
    · rcases settle_cases rd max found.header.kind bytes s.stats with ⟨event, hsettle⟩ | ⟨e, hsettle⟩
      · rw [hsettle]
        rfl
      · rw [hsettle]
        rfl

theorem scan_delivered (rd : Reader) (clock : Clock σ) (r : Ring) (max : Nat) (published consumed : UInt64)
    (s : ReaderState σ) :
    (rd.scan clock r max published consumed s).2.stats.delivered
      = s.stats.delivered + (rd.scan clock r max published consumed s).1.events.length := by
  fun_induction scan rd clock r max published consumed s with
  | case1 | case2 | case3 | case8 => rfl
  | case4 _ _ _ _ _ _ _ hsift =>
    rw [sift_ended hsift]
    exact sift_delivered hsift
  | case5 _ _ _ _ _ _ hsift =>
    rw [deliver_delivered]
    exact congrArg (· + _) (sift_delivered hsift)
  | case6 _ _ _ _ _ _ hsift => exact sift_delivered hsift
  | case7 _ _ _ _ _ _ hsift _ _ ih =>
    rw [ih]
    exact congrArg (· + _) (sift_delivered hsift)

/-- **Delivered events are counted one by one.** Whatever a poll finds, it counts as delivered exactly the event that it
answers. -/
theorem poll_delivered (rd : Reader) (clock : Clock σ) (r : Ring) (max : Nat) (s : ReaderState σ) :
    (rd.poll clock r max s).2.stats.delivered = s.stats.delivered + (rd.poll clock r max s).1.events.length := by
  unfold poll
  split
  · split
    · rfl
    · split
      · rfl
      · exact scan_delivered rd clock r max _ _ s
  · rfl

end Reader

end EventRing
