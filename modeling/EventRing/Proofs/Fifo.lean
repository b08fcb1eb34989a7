import EventRing.Proofs.Honest

/-!
# A ring is a queue

A session is a run of writes, polls, drops and changes of the clock on one ring, through any number of handles.
`Ring.Effect` says what a step does to the queue of entries that the bytes tell: a write appends, a drop takes the
head off, a poll goes past the entries that it discards and takes the next one.  `Ring.Follows` says that every step
of a run does so.

Main statements: `additions_of_done` (a write that succeeds adds its entry, behind a skip marker exactly if the
record is moved), `Intact.effect` (one step), `Intact.follows` (a run, by induction), and `attached_follows`, which
starts from unused memory.
-/

namespace EventRing

/-- One step of a session. -/
inductive Act where
  | write (handle : Ring) (submission : Submission)
  | poll (handle : Ring) (reader : Reader) (counted : Stats) (max : Nat)
  | free (handle : Ring)
  | setClock (now : UInt64)

/-- The handle that a step goes through. -/
def Act.handle? : Act → Option Ring
  | write handle _ => some handle
  | poll handle .. => some handle
  | free handle => some handle
  | setClock _ => none

/-- What a step answers. -/
inductive Answer where
  | wrote (outcome : Outcome SharedMemoryError Unit)
  | polled (poll : Poll)
  | freed (outcome : Outcome Error Unit)
  | clockSet

/-- The memory that a ring lies in, and the time on the clock. -/
structure Session where
  memory : Memory
  now : UInt64

/-- Takes one step. -/
def Session.step (s : Session) : Act → Answer × Session
  | .write handle submission =>
    let (outcome, memory) := handle.write s.memory submission.kind submission.timestamp submission.payload
    (.wrote outcome, { s with memory })
  | .poll handle reader counted max =>
    let (poll, after) := reader.poll (.fixed s.now) handle max ⟨s.memory, (), counted⟩
    (.polled poll, { s with memory := after.memory })
  | .free handle =>
    let (outcome, memory) := handle.free s.memory
    (.freed outcome, { s with memory })
  | .setClock now => (.clockSet, { s with now })

namespace Ring

/-- Whether a payload of `n` bytes is placed at offset 0 instead of the write offset. -/
def Moves (r : Ring) (m : Memory) (n : Nat) : Prop :=
  ∃ p, r.place m n = .done p ∧ p.target = 0 ∧ (r.writeOffset m).toNat ≠ 0

/-- What a step does to the queue `q`: its answer, the session after it, and the queue after it. -/
def Effect (r : Ring) (s : Session) (q : List Entry) : Act → Answer → Session → List Entry → Prop
  | .write _ submission, .wrote (.done ()), _, q' =>
    (r.Moves s.memory submission.payload.length ∧
        ∃ pad : Entry, pad.tag = Kind.skipTag ∧ q' = q ++ [pad, submission.entry]) ∨
      (¬ r.Moves s.memory submission.payload.length ∧ q' = q ++ [submission.entry])
  | .write _ _, .wrote _, s', q' => s' = s ∧ q' = q
  | .poll _ reader _ max, .polled poll, _, q' =>
    match q.dropWhile (reader.discards s.now) with
    | [] => poll = .empty ∧ q' = []
    | e :: rest => poll = reader.answer max e ∧ q' = rest
  | .free _, .freed outcome, s', q' => outcome = .done () ∧ q' = q.tail ∧ (q = [] → s' = s)
  | .setClock now, .clockSet, s', q' => s' = { s with now } ∧ q' = q
  | _, _, _, _ => False

/-- Every step of a run has its effect on the queue that the bytes tell. -/
def Follows (r : Ring) (s : Session) (q : List Entry) : List Act → Prop
  | [] => r.queue? s.memory = some q
  | act :: acts =>
    r.queue? s.memory = some q ∧
      ∃ q', r.Effect s q act (s.step act).1 (s.step act).2 q' ∧ Follows r (s.step act).2 q' acts

variable {r : Ring} {m : Memory} {s : Session} {q : List Entry} {act : Act}

/-! ### One step -/

/-- A write that succeeds adds its own entry, behind a skip marker exactly if the record is moved. -/
theorem additions_of_done {submission : Submission} {p : Placement}
    (h : r.place m submission.payload.length = .done p) :
    (r.Moves m submission.payload.length ∧
        ∃ pad : Entry, pad.tag = Kind.skipTag ∧ r.additions m submission = [pad, submission.entry]) ∨
      (¬ r.Moves m submission.payload.length ∧ r.additions m submission = [submission.entry]) := by
  obtain ⟨-, hwhere⟩ := place_done h
  rcases hwhere with ⟨-, -, hp⟩ | ⟨hnoroom, hroom, -, -, -, hp⟩
  · refine .inr ⟨?_, by rw [additions, h, hp]⟩
    rintro ⟨p', hp', htarget, hne⟩
    rw [h, hp] at hp'
    rw [← Outcome.done.inj hp'] at htarget
    exact hne htarget
  · refine .inl ⟨⟨p, h, by rw [hp], ?_⟩, _, ?_, by rw [additions, h, hp]⟩
    · intro hzero
      rw [hzero, hroom] at hnoroom
      simp at hnoroom
    · rfl

/-- Each step of a session on an intact ring has its effect and leaves the ring intact. -/
theorem Intact.effect (h : r.Intact s.memory q) (hhandle : ∀ handle, act.handle? = some handle → handle = r) :
    ∃ q', r.Effect s q act (s.step act).1 (s.step act).2 q' ∧ r.Intact (s.step act).2.memory q' := by
  cases act with
  | write handle submission =>
    obtain rfl := hhandle handle rfl
    have hwritten := h.write submission
    dsimp only [Session.step]
    cases hplace : handle.place s.memory submission.payload.length with
    | failed e =>
      rw [additions_of_failed hplace, List.append_nil, write_of_place_failed hplace] at hwritten
      rw [write_of_place_failed hplace]
      exact ⟨q, ⟨rfl, rfl⟩, hwritten⟩
    | halted =>
      rw [additions_of_halted hplace, List.append_nil, write_of_place_halted hplace] at hwritten
      rw [write_of_place_halted hplace]
      exact ⟨q, ⟨rfl, rfl⟩, hwritten⟩
    | done p =>
      rw [write_of_place_done hplace] at hwritten ⊢
      refine ⟨_, ?_, hwritten⟩
      dsimp only [Effect]
      rcases additions_of_done hplace with ⟨hmoves, pad, hpad, hadds⟩ | ⟨hstays, hadds⟩
      · exact .inl ⟨hmoves, pad, hpad, by rw [hadds]⟩
      · exact .inr ⟨hstays, by rw [hadds]⟩
  | poll handle reader counted max =>
    obtain rfl := hhandle handle rfl
    obtain ⟨rest, hintact, htakes⟩ := h.poll_fixed (s := ⟨s.memory, (), counted⟩) reader max s.now
    dsimp only [Session.step]
    generalize reader.poll (.fixed s.now) handle max ⟨s.memory, (), counted⟩ = result at *
    exact ⟨rest, htakes, hintact⟩
  | free handle =>
    obtain rfl := hhandle handle rfl
    obtain ⟨hdone, hintact⟩ := h.free
    have hnothing : q = [] → (handle.free s.memory).2 = s.memory := by
      rintro rfl
      rw [h.free_nil]
    dsimp only [Session.step]
    generalize handle.free s.memory = result at *
    exact ⟨q.tail, ⟨hdone, rfl, fun hempty => by rw [hnothing hempty]⟩, hintact⟩
  | setClock now => exact ⟨q, ⟨rfl, rfl⟩, h⟩

/-- A run on an intact ring. -/
theorem Intact.follows (h : r.Intact s.memory q) (acts : List Act)
    (hhandles : ∀ act ∈ acts, ∀ handle, act.handle? = some handle → handle = r) : r.Follows s q acts := by
  induction acts generalizing s q with
  | nil => exact h.queue?_eq
  | cons act acts ih =>
    obtain ⟨q', heffect, hintact⟩ := h.effect (hhandles act (by simp))
    exact ⟨h.queue?_eq, q', heffect, ih hintact fun act' hact => hhandles act' (by simp [hact])⟩

theorem attach_eq_ok {base size : Nat} {geometry : Geometry} (h : attach base size geometry m = .ok r) :
    r = ⟨base, geometry⟩ ∧ geometry.memorySize ≤ size := by
  rw [attach] at h
  by_cases hsize : size < geometry.memorySize
  · simp [if_pos hsize] at h
  rw [if_neg hsize] at h
  by_cases haligned : base % 4 ≠ 0
  · simp [if_pos haligned] at h
  rw [if_neg haligned] at h
  by_cases hother : isSetUp ⟨base, geometry⟩ m = true ∧ storedCapacity ⟨base, geometry⟩ m ≠ geometry.capacity
  · simp [if_pos hother] at h
  rw [if_neg hother] at h
  exact ⟨(Except.ok.inj h).symm, Nat.not_lt.1 hsize⟩

theorem attach_unused {base size : Nat} {geometry : Geometry} (hsize : geometry.memorySize ≤ size)
    (haligned : base % 4 = 0) (hunused : Ring.isSetUp ⟨base, geometry⟩ m = false) :
    attach base size geometry m = .ok ⟨base, geometry⟩ := by
  rw [attach, if_neg (by omega), if_neg (by omega), if_neg (by simp [hunused])]

/-- **A ring is a queue.** A ring that is attached to unused memory can be set up, and from then on every step of
every run, through any handles that are attached to it with the same geometry, has its effect on a queue that is
empty at first. -/
theorem attached_follows {base size : Nat} {geometry : Geometry} (hattach : attach base size geometry m = .ok r)
    (hregion : base + size ≤ m.size) (hunused : r.isSetUp m = false) (name : RingName) (now : UInt64) (acts : List Act)
    (hhandles : ∀ act ∈ acts, ∀ handle, act.handle? = some handle →
      ∃ size' m', attach base size' geometry m' = .ok handle) :
    (r.setUp m name).1 = .ok () ∧ r.Follows ⟨(r.setUp m name).2, now⟩ [] acts := by
  obtain ⟨hr, hsize⟩ := attach_eq_ok hattach
  have hfits : r.Fits m := by
    rw [hr, Fits]
    dsimp only
    omega
  refine ⟨by rw [setUp_unused name hunused], (intact_setUp name hfits hunused).follows acts ?_⟩
  intro act hact handle hhandle
  obtain ⟨size', m', hattached⟩ := hhandles act hact handle hhandle
  rw [hr]
  exact (attach_eq_ok hattached).1

/-- A run on a ring of 64 bytes. -/
theorem attached_follows_run :
    let r : Ring := ⟨0, ⟨64, .packed, by decide, by decide⟩⟩
    attach 0 96 r.geometry (Memory.zeros 96) = .ok r ∧
      r.Follows ⟨(r.setUp (Memory.zeros 96) ⟨"ring", by decide, by decide, by decide⟩).2, 9⟩ []
        [.write r ⟨.hidInfo, 5, [1]⟩, .setClock 10, .poll r (.ofLayout .compact) .zero 64, .free r] := by
  intro r
  have hattach : attach 0 96 r.geometry (Memory.zeros 96) = .ok r :=
    attach_unused (by decide) rfl (r.isSetUp_zeros 96)
  refine ⟨hattach, (attached_follows hattach (by simp) (r.isSetUp_zeros 96) _ 9 _ ?_).2⟩
  intro act hact handle hhandle
  refine ⟨96, Memory.zeros 96, ?_⟩
  simp only [List.mem_cons, List.not_mem_nil, or_false] at hact
  rcases hact with rfl | rfl | rfl | rfl <;> simp only [Act.handle?, Option.some.injEq, reduceCtorEq] at hhandle <;>
    exact hhandle ▸ hattach

end Ring

end EventRing
