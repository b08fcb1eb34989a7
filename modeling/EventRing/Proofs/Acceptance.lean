import EventRing.Proofs.Honest
import EventRing.Proofs.Hostile
import EventRing.Settings

/-!
# What an empty ring accepts

When nothing is unread, both offsets of a ring stand at one place, and that place decides what can be written next:
`Ring.emptyAnswer` is what a producer then answers.  The offsets stay where the traffic so far has left them, so an
empty ring may refuse a record that a new ring takes; `Ring.isStuckAt` says when.

Main statements: `Intact.write_empty` (the answer in every empty ring), `isStuckAt_of_le` (a record that leaves as many
bytes as itself and a header is never stuck), `exists_write_full` (any longer record is stuck in some empty ring that
honest traffic leads to).  From them follow `setUp_usable_iff`, on rings that have just been set up,
`retried_when_empty`, on writing again after everything has been read, and `accepted_when_empty_iff`, the length up to
which a record can always be written.
-/

namespace EventRing.Ring

/-- A record of `span` bytes has no place in an empty ring whose offsets stand at `offset`: there is no room for it
there, and there are too few bytes in front. -/
def isStuckAt (r : Ring) (span offset : Nat) : Bool := !r.hasRoomAt span offset && offset ≤ span

/-- What a producer answers about a payload of `n` bytes if nothing is unread and both offsets stand at `offset`. -/
def emptyAnswer (r : Ring) (offset n : Nat) : Outcome SharedMemoryError Unit :=
  let capacity := r.capacity.toNat
  let header := r.headerSize.toNat
  let span := n + header
  if capacity ≤ span then .failed (.payloadTooLarge n (capacity - header - 1))
  else if capacity < 2 * header then .halted
  else if capacity < span + header then .failed (.payloadTooLarge n (capacity - 2 * header))
  else if r.isStuckAt span offset then .failed (.ringFull n (UInt32.ofNat (capacity - 1)))
  else .done ()

/-- Memory after `k` records have been dropped. -/
def freeTimes (r : Ring) (m : Memory) : Nat → Memory
  | 0 => m
  | k + 1 => r.freeTimes (r.free m).2 k

variable {r : Ring} {m m' : Memory} {q : List Entry} {n span offset : Nat}
variable {kind : Kind} {timestamp : UInt64} {payload : List UInt8}

/-! ### Empty rings -/

/-- Equal offsets in honest traffic mean that nothing is unread. -/
theorem Reachable.intact_nil (h : r.Reachable m) (hempty : r.isEmpty m = true) : r.Intact m [] := by
  obtain ⟨q, hq⟩ := h.intact
  have hqueue := hq.queue?_eq
  rw [queue?_of_isEmpty hempty, Option.some.injEq] at hqueue
  rw [hqueue]
  exact hq

/-- Once as many records have been dropped as stood in front, the rest is left. -/
theorem Intact.freeTimes_append {more : List Entry} (h : r.Intact m (q ++ more)) :
    r.Intact (r.freeTimes m q.length) more := by
  induction q generalizing m with
  | nil => exact h
  | cons e q ih => exact ih h.free_cons.2

theorem Intact.freeTimes (h : r.Intact m q) : r.Intact (r.freeTimes m q.length) [] := by
  rw [← List.append_nil q] at h
  exact h.freeTimes_append

theorem Reachable.freeTimes (h : r.Reachable m) (k : Nat) : r.Reachable (r.freeTimes m k) := by
  induction k generalizing m with
  | zero => exact h
  | succ k ih => exact ih (.use .free h)

/-! ### The answer in an empty ring -/

theorem isStuckAt_eq_true_iff : r.isStuckAt span offset = true ↔
    offset + span ≠ r.capacity.toNat ∧ r.capacity.toNat < offset + span + r.headerSize.toNat ∧ offset ≤ span := by
  rw [isStuckAt, Bool.and_eq_true, Bool.not_eq_true', hasRoomAt_eq_false_iff, decide_eq_true_iff, and_assoc]

/-- At the start of the data area a record is not stuck unless it is too long for the ring. -/
theorem isStuckAt_zero (h : span + r.headerSize.toNat ≤ r.capacity.toNat) : r.isStuckAt span 0 = false := by
  rw [← Bool.not_eq_true, isStuckAt_eq_true_iff]
  omega

/-- A record that leaves as many bytes as itself and a header is stuck nowhere. -/
theorem isStuckAt_of_le (h : 2 * span + r.headerSize.toNat ≤ r.capacity.toNat) (offset : Nat) :
    r.isStuckAt span offset = false := by
  rw [← Bool.not_eq_true, isStuckAt_eq_true_iff]
  omega

/-- Any longer record is stuck behind a record of its own length or, if two of these fill the data area, behind one
that is a byte shorter. -/
theorem exists_isStuckAt (hcap : 2 * r.headerSize.toNat < r.capacity.toNat)
    (hfits : n + 2 * r.headerSize.toNat ≤ r.capacity.toNat)
    (hlong : r.capacity.toNat < 2 * (n + r.headerSize.toNat) + r.headerSize.toNat) :
    ∃ k, k + 2 * r.headerSize.toNat ≤ r.capacity.toNat ∧
      r.isStuckAt (n + r.headerSize.toNat) (k + r.headerSize.toNat) = true := by
  have hheader : r.headerSize.toNat = 1 + r.geometry.format.padding + 16 := r.geometry.format.size_eq
  by_cases hhalf : 2 * (n + r.headerSize.toNat) = r.capacity.toNat
  · refine ⟨n - 1, by omega, ?_⟩
    rw [isStuckAt_eq_true_iff]
    omega
  · refine ⟨n, hfits, ?_⟩
    rw [isStuckAt_eq_true_iff]
    omega

/-- A record that a ring can hold is written, unless it is stuck. -/
theorem emptyAnswer_of_le (h : n + 2 * r.headerSize.toNat ≤ r.capacity.toNat) (offset : Nat) :
    r.emptyAnswer offset n =
      if r.isStuckAt (n + r.headerSize.toNat) offset then .failed (.ringFull n (UInt32.ofNat (r.capacity.toNat - 1)))
      else .done () := by
  have hpos := r.headerSize_pos
  unfold emptyAnswer
  dsimp only
  rw [if_neg (by omega), if_neg (by omega), if_neg (by omega)]

/-- A longer record is too large wherever the offsets stand.  Without room for two headers, telling so halts. -/
theorem emptyAnswer_of_lt (h : r.capacity.toNat < n + 2 * r.headerSize.toNat) (offset : Nat) :
    r.emptyAnswer offset n =
      if r.capacity.toNat ≤ n + r.headerSize.toNat then
        .failed (.payloadTooLarge n (r.capacity.toNat - r.headerSize.toNat - 1))
      else if r.capacity.toNat < 2 * r.headerSize.toNat then .halted
      else .failed (.payloadTooLarge n (r.capacity.toNat - 2 * r.headerSize.toNat)) := by
  unfold emptyAnswer
  dsimp only
  rw [if_pos (show r.capacity.toNat < n + r.headerSize.toNat + r.headerSize.toNat by omega)]

/-- A record that leaves no room for a header in a new ring is refused by every intact ring alike. -/
theorem Intact.write_too_large (h : r.Intact m q)
    (hlong : r.capacity.toNat < payload.length + 2 * r.headerSize.toNat) (offset : Nat) :
    (r.write m kind timestamp payload).1 = r.emptyAnswer offset payload.length := by
  have hstart := h.write_start
  have hplace := place_eq payload.length h.setUp h.read_lt h.write_lt
  dsimp only at hplace
  rw [emptyAnswer_of_lt hlong]
  by_cases hspan : r.capacity.toNat ≤ payload.length + r.headerSize.toNat
  · rw [if_pos hspan] at hplace ⊢
    exact write_eq_failed_iff.2 hplace
  · -- A record that ends the data area has a header in front of it, so it would fit at offset 0 as well.
    have hhere : r.hasRoomAt (payload.length + r.headerSize.toNat) (r.writeOffset m).toNat = false :=
      hasRoomAt_eq_false_iff.2 (by omega)
    have hzero : r.hasRoomAt (payload.length + r.headerSize.toNat) 0 = false :=
      hasRoomAt_eq_false_iff.2 (by omega)
    rw [if_neg hspan, if_neg (by simp [hhere]), if_pos hzero] at hplace
    rw [if_neg hspan]
    by_cases hsmall : r.capacity.toNat < 2 * r.headerSize.toNat
    · rw [if_pos hsmall] at hplace ⊢
      exact write_eq_halted_iff.2 hplace
    · rw [if_neg hsmall] at hplace ⊢
      exact write_eq_failed_iff.2 hplace

/-- **The answer in an empty ring.** -/
theorem Intact.write_empty (h : r.Intact m []) (kind : Kind) (timestamp : UInt64) (payload : List UInt8) :
    (r.write m kind timestamp payload).1 = r.emptyAnswer (r.writeOffset m).toNat payload.length := by
  by_cases hfits : payload.length + 2 * r.headerSize.toNat ≤ r.capacity.toNat
  · have hgap := h.gap_eq
    have hread := (gap_eq_zero_iff h.read_lt).1 hgap
    have hplace := place_eq payload.length h.setUp h.read_lt h.write_lt
    dsimp only at hplace
    rw [hgap, spans, hread, Nat.sub_zero, Nat.add_zero] at hplace
    have hroom := h.write_room
    generalize (r.writeOffset m).toNat = offset at *
    have hspan : ¬ r.capacity.toNat ≤ payload.length + r.headerSize.toNat := by
      have hpos := r.headerSize_pos
      omega
    have hzero : r.hasRoomAt (payload.length + r.headerSize.toNat) 0 = true := hasRoomAt_iff.2 (.inr (by omega))
    rw [if_neg hspan] at hplace
    rw [emptyAnswer_of_le hfits, isStuckAt]
    cases hhere : r.hasRoomAt (payload.length + r.headerSize.toNat) offset with
    | true =>
      rw [if_pos hhere, if_neg hspan] at hplace
      exact write_eq_done_iff.2 ⟨_, hplace⟩
    | false =>
      rw [if_neg (by simp [hhere]), if_neg (by simp [hzero])] at hplace
      by_cases hfront : offset ≤ payload.length + r.headerSize.toNat
      · rw [if_pos (.inr hfront)] at hplace
        rw [if_pos (by simp [hfront])]
        exact write_eq_failed_iff.2 hplace
      · rw [if_neg (by omega), if_neg (by omega)] at hplace
        rw [if_neg (by simp [hfront])]
        exact write_eq_done_iff.2 ⟨_, hplace⟩
  · exact h.write_too_large (Nat.not_le.1 hfits) _

theorem emptyAnswer_eq_halted_iff : r.emptyAnswer offset n = .halted ↔
    n + r.headerSize.toNat < r.capacity.toNat ∧ r.capacity.toNat < 2 * r.headerSize.toNat := by
  rcases Nat.lt_or_ge r.capacity.toNat (n + 2 * r.headerSize.toNat) with hlarge | hfits
  · rw [emptyAnswer_of_lt hlarge]
    split
    · simp only [reduceCtorEq, false_iff]
      omega
    · split <;> simp <;> omega
  · rw [emptyAnswer_of_le hfits]
    split <;> simp <;> omega

theorem emptyAnswer_eq_done_iff : r.emptyAnswer offset n = .done () ↔
    n + 2 * r.headerSize.toNat ≤ r.capacity.toNat ∧ r.isStuckAt (n + r.headerSize.toNat) offset = false := by
  rcases Nat.lt_or_ge r.capacity.toNat (n + 2 * r.headerSize.toNat) with hlarge | hfits
  · rw [emptyAnswer_of_lt hlarge]
    repeat' split
    all_goals simp [Nat.not_le.2 hlarge]
  · rw [emptyAnswer_of_le hfits]
    cases r.isStuckAt (n + r.headerSize.toNat) offset <;> simp [hfits]

/-! ### Records that a ring can hold -/

/-- A record that leaves room for a header in a new ring is refused by an intact ring only if the ring is full. -/
theorem Intact.write_fitting (h : r.Intact m q) (kind : Kind) (timestamp : UInt64)
    (hfits : payload.length + 2 * r.headerSize.toNat ≤ r.capacity.toNat) :
    (r.write m kind timestamp payload).1 = .done () ∨
      ∃ writable, (r.write m kind timestamp payload).1 = .failed (.ringFull payload.length writable) := by
  have hpos := r.headerSize_pos
  have hroom := h.write_room
  have hfront : r.hasRoomAt (payload.length + r.headerSize.toNat) 0 = true := by
    rw [hasRoomAt_iff]
    omega
  have hplace := place_eq payload.length h.setUp h.read_lt h.write_lt
  dsimp only at hplace
  rw [if_neg (by omega), hfront, if_neg (show ¬ true = false by simp),
    if_neg (show ¬ r.capacity.toNat - (r.writeOffset m).toNat < r.headerSize.toNat by omega)] at hplace
  rw [write_eq_done_iff]
  simp only [write_eq_failed_iff, hplace]
  repeat' split
  all_goals simp

/-- An empty ring takes a record that leaves as many bytes as itself and a header. -/
theorem Intact.write_short_empty (h : r.Intact m [])
    (hshort : 2 * (payload.length + r.headerSize.toNat) + r.headerSize.toNat ≤ r.capacity.toNat) :
    (r.write m kind timestamp payload).1 = .done () := by
  rw [h.write_empty, emptyAnswer_eq_done_iff]
  exact ⟨by omega, isStuckAt_of_le hshort _⟩

/-! ### Rings from which nothing has been read -/

/-- While the read offset stands at the start of the data area, the write offset stands behind all records. -/
theorem Intact.writeOffset_of_start (h : r.Intact m q) (hstart : r.readOffset m = 0) :
    (r.writeOffset m).toNat = r.spans q := by
  have hgap := h.gap_eq
  rw [gap, hstart, UInt32.toNat_zero, if_pos (Nat.zero_le _), Nat.sub_zero] at hgap
  exact hgap

/-- No record is moved in front of a read offset at the start of the data area.  A record goes behind those that are
there if it leaves room for a header, and otherwise the ring is full. -/
theorem Intact.place_from_start (h : r.Intact m q) (hstart : r.readOffset m = 0)
    (hfits : n + 2 * r.headerSize.toNat ≤ r.capacity.toNat) :
    r.place m n =
      if r.spans q + n + 2 * r.headerSize.toNat ≤ r.capacity.toNat then
        .done ⟨none, r.spans q, r.spans q + (n + r.headerSize.toNat)⟩
      else .failed (.ringFull n (UInt32.ofNat (r.capacity.toNat - 1 - r.spans q))) := by
  have hpos := r.headerSize_pos
  have hread : (r.readOffset m).toNat = 0 := by rw [hstart, UInt32.toNat_zero]
  have hplace := place_eq n h.setUp h.read_lt h.write_lt
  dsimp only at hplace
  rw [h.gap_eq, hread, h.writeOffset_of_start hstart, if_neg (by omega)] at hplace
  by_cases hroom : r.spans q + n + 2 * r.headerSize.toNat ≤ r.capacity.toNat
  · have hhere : r.hasRoomAt (n + r.headerSize.toNat) (r.spans q) = true := hasRoomAt_iff.2 (.inr (by omega))
    rw [if_pos hhere, if_neg (by omega), offsetAfter, if_neg (by omega)] at hplace
    rw [if_pos hroom, hplace]
  · rw [if_neg hroom, hplace]
    cases hhere : r.hasRoomAt (n + r.headerSize.toNat) (r.spans q) with
    | true =>
      -- The record would end the data area and leave no byte free.
      have hcases := hasRoomAt_iff.1 hhere
      rw [if_pos rfl, if_pos (by omega)]
    | false =>
      have hzero : r.hasRoomAt (n + r.headerSize.toNat) 0 = true := hasRoomAt_iff.2 (.inr (by omega))
      rw [if_neg (by simp), if_neg (by simp [hzero]), if_pos (.inr (Nat.zero_le _))]

/-- A record that leaves room for a header goes behind those that are there. -/
theorem Intact.write_from_start (h : r.Intact m q) (hstart : r.readOffset m = 0) (s : Submission)
    (hfits : r.spans q + s.payload.length + 2 * r.headerSize.toNat ≤ r.capacity.toNat) :
    (r.write m s.kind s.timestamp s.payload).1 = .done () ∧
      r.Intact (r.write m s.kind s.timestamp s.payload).2 (q ++ [s.entry]) := by
  have hplace := h.place_from_start (n := s.payload.length) hstart (by omega)
  rw [if_pos hfits] at hplace
  have hwritten := h.write s
  rw [additions, hplace] at hwritten
  exact ⟨write_eq_done_iff.2 ⟨_, hplace⟩, hwritten⟩

/-- The first record of a ring is the only one. -/
theorem Intact.write_first (h : r.Intact m []) (hread : r.readOffset m = 0) (s : Submission)
    (hfits : s.payload.length + 2 * r.headerSize.toNat ≤ r.capacity.toNat) :
    r.Intact (r.write m s.kind s.timestamp s.payload).2 [s.entry] :=
  (h.write_from_start hread s (by rw [spans]; omega)).2

/-! ### Rings that have just been set up -/

theorem write_setUp (name : RingName) (hfits : r.Fits m) (hunused : r.isSetUp m = false) (kind : Kind)
    (timestamp : UInt64) (payload : List UInt8) :
    (r.write (r.setUp m name).2 kind timestamp payload).1 = r.emptyAnswer 0 payload.length := by
  have h := (intact_setUp name hfits hunused).write_empty kind timestamp payload
  rw [writeOffset_setUp name hfits hunused] at h
  exact h

/-- A ring that has just been set up takes a record if behind it there is room for a header. -/
theorem write_setUp_eq_done_iff (name : RingName) (hfits : r.Fits m) (hunused : r.isSetUp m = false) :
    (r.write (r.setUp m name).2 kind timestamp payload).1 = .done () ↔
      payload.length + 2 * r.headerSize.toNat ≤ r.capacity.toNat := by
  rw [write_setUp name hfits hunused, emptyAnswer_eq_done_iff]
  refine and_iff_left_of_imp fun hle => isStuckAt_zero ?_
  omega

/-- **Which rings can be used.** A geometry is accepted if the data area is larger than a header, but a ring that has
just been set up can be written only if there is room for two.  In a smaller one every write of a record that is
shorter than the data area halts, also that of an empty payload. -/
theorem setUp_usable_iff {capacity : UInt32} {format : HeaderFormat}
    (haccepted : Geometry.ofCapacity capacity format = .ok r.geometry) (hfits : r.Fits m)
    (hunused : r.isSetUp m = false) (name : RingName) :
    let fresh := (r.setUp m name).2
    ((∀ kind timestamp payload, (r.write fresh kind timestamp payload).1 ≠ .halted) ↔
      2 * format.size.toNat ≤ capacity.toNat) ∧
    ((∀ kind timestamp, (r.write fresh kind timestamp []).1 = .done ()) ↔ 2 * format.size.toNat ≤ capacity.toNat) ∧
    ∀ kind timestamp payload, (r.write fresh kind timestamp payload).1 =
      let span := payload.length + format.size.toNat
      if capacity.toNat ≤ span then
        .failed (.payloadTooLarge payload.length (capacity.toNat - format.size.toNat - 1))
      else if capacity.toNat < 2 * format.size.toNat then .halted
      else if capacity.toNat < span + format.size.toNat then
        .failed (.payloadTooLarge payload.length (capacity.toNat - 2 * format.size.toNat))
      else .done () := by
  intro fresh
  obtain ⟨-, -, rfl, rfl⟩ := Geometry.ofCapacity_eq_ok_iff.1 haccepted
  have hcapacity : r.geometry.capacity = r.capacity := rfl
  have hformat : r.geometry.format.size = r.headerSize := rfl
  have hheader := r.headerSize_lt_capacity
  have hanswer := write_setUp name hfits hunused
  rw [hcapacity, hformat]
  refine ⟨⟨?_, ?_⟩, ⟨?_, ?_⟩, ?_⟩
  · intro h
    have hempty := h .hidInfo 0 []
    rw [hanswer, Ne, emptyAnswer_eq_halted_iff, List.length_nil] at hempty
    omega
  · intro hcap kind timestamp payload
    rw [hanswer, Ne, emptyAnswer_eq_halted_iff]
    omega
  · intro h
    have hempty := (write_setUp_eq_done_iff name hfits hunused).1 (h .hidInfo 0)
    rw [List.length_nil] at hempty
    omega
  · intro hcap kind timestamp
    refine (write_setUp_eq_done_iff name hfits hunused).2 ?_
    rw [List.length_nil]
    omega
  · intro kind timestamp payload
    rw [hanswer, emptyAnswer]
    dsimp only
    split
    · rfl
    · split
      · rfl
      · split
        · rfl
        · next hle => rw [isStuckAt_zero (Nat.not_lt.1 hle), if_neg (by simp)]

/-- A ring of 34 bytes takes an empty record. -/
theorem setUp_usable_two_headers :
    let r : Ring := ⟨0, ⟨34, .packed, by decide, by decide⟩⟩
    let fresh := (r.setUp (Memory.zeros 66) ⟨"ring", by decide, by decide, by decide⟩).2
    (Geometry.ofCapacity 34 .packed = .ok r.geometry ∧ r.Fits (Memory.zeros 66) ∧
        r.isSetUp (Memory.zeros 66) = false) ∧
      (r.write fresh .hidInfo 5 []).1 = .done () ∧
      (r.write fresh .hidInfo 5 [1]).1 = .failed (.payloadTooLarge 1 0) := by
  intro r fresh
  have haccepted : Geometry.ofCapacity 34 .packed = .ok r.geometry := rfl
  have hfits : r.Fits (Memory.zeros 66) := r.fits_zeros (by decide)
  have hunused := r.isSetUp_zeros 66
  obtain ⟨-, hempty, hanswer⟩ := setUp_usable_iff haccepted hfits hunused ⟨"ring", by decide, by decide, by decide⟩
  exact ⟨⟨haccepted, hfits, hunused⟩, hempty.2 (by decide) .hidInfo 5, hanswer .hidInfo 5 [1]⟩

/-- A ring of 18 bytes is accepted, also in a configuration, but writing an empty record to it halts. -/
theorem smallest_ring_halts :
    let r : Ring := ⟨0, ⟨18, .packed, by decide, by decide⟩⟩
    let fresh := (r.setUp (Memory.zeros 50) ⟨"ring", by decide, by decide, by decide⟩).2
    Geometry.ofCapacity 18 .packed = .ok r.geometry ∧
      (∃ settings, Draft.validate ⟨⟨"ring", 18, .packed⟩, .standard⟩ = .ok settings ∧
        settings.ring.geometry = r.geometry) ∧
      (r.write fresh .hidInfo 0 []).1 = .halted := by
  intro r fresh
  refine ⟨rfl, ⟨_, rfl, rfl⟩, ?_⟩
  rw [write_setUp _ (r.fits_zeros (by decide)) (r.isSetUp_zeros 50), emptyAnswer_eq_halted_iff]
  decide

/-! ### Rings that have been read -/

/-- A pump leaves an empty ring whose offsets stand where the write offset stood. -/
theorem Reachable.write_pumped {σ : Type} {clock : Clock σ} (h : r.Reachable m) (rd : Reader) (max : Nat) (c : σ)
    (st : Stats) (quiet : clock.Quiet r) :
    r.isEmpty (rd.pump clock r max ⟨m, c, st⟩).2.memory = true ∧
      (r.write (rd.pump clock r max ⟨m, c, st⟩).2.memory kind timestamp payload).1 =
        r.emptyAnswer (r.writeOffset m).toNat payload.length := by
  obtain ⟨q, hq⟩ := h.intact
  have hpumped := hq.pump (s := ⟨m, c, st⟩) rd max quiet
  obtain ⟨-, honward⟩ := Reader.pump_safe (s := ⟨m, c, st⟩) rd max quiet hq.fits
  refine ⟨hpumped.isEmpty_nil, ?_⟩
  rw [hpumped.write_empty, honward.frame.writeOffset_eq]

/-- **Writing again after everything has been read.** Take a record that a ring would take if it had just been set
up.  Whenever honest traffic has left the ring empty, and also after a pump, the record is written unless it is
stuck where the write offset stands, and then the ring is called full with all but one byte writable.  A record
that leaves as many bytes as itself and a header is always written. -/
theorem retried_when_empty {unused : Memory} (h : r.Reachable m) (hfits : r.Fits unused)
    (hunused : r.isSetUp unused = false) (name : RingName)
    (hfresh : (r.write (r.setUp unused name).2 kind timestamp payload).1 = .done ()) :
    let span := payload.length + r.headerSize.toNat
    let answer : Outcome SharedMemoryError Unit :=
      if r.isStuckAt span (r.writeOffset m).toNat then
        .failed (.ringFull payload.length (UInt32.ofNat (r.capacity.toNat - 1)))
      else .done ()
    (r.isEmpty m = true → (r.write m kind timestamp payload).1 = answer) ∧
    (∀ (σ : Type) (clock : Clock σ) (rd : Reader) (max : Nat) (c : σ) (st : Stats), clock.Quiet r →
      r.isEmpty (rd.pump clock r max ⟨m, c, st⟩).2.memory = true ∧
      (r.write (rd.pump clock r max ⟨m, c, st⟩).2.memory kind timestamp payload).1 = answer) ∧
    (2 * span + r.headerSize.toNat ≤ r.capacity.toNat → answer = .done ()) := by
  intro span answer
  have hle := (write_setUp_eq_done_iff name hfits hunused).1 hfresh
  have hanswer : r.emptyAnswer (r.writeOffset m).toNat payload.length = answer := emptyAnswer_of_le hle _
  refine ⟨?_, ?_, ?_⟩
  · intro hempty
    rw [(h.intact_nil hempty).write_empty, hanswer]
  · intro σ clock rd max c st quiet
    obtain ⟨hempty, hpumped⟩ := h.write_pumped rd max c st quiet
    exact ⟨hempty, hpumped.trans hanswer⟩
  · intro hshort
    exact if_neg (by simp [isStuckAt_of_le hshort])

/-- A ring of 64 bytes that has been written once and pumped. -/
theorem retried_when_empty_pumped :
    let r : Ring := ⟨0, ⟨64, .packed, by decide, by decide⟩⟩
    let blank := Memory.zeros 96
    let name : RingName := ⟨"ring", by decide, by decide, by decide⟩
    let m := r.use (r.setUp blank name).2 (.write ⟨.hidInfo, 5, [1]⟩)
    (r.Reachable m ∧ r.Fits blank ∧ r.isSetUp blank = false ∧
        (r.write (r.setUp blank name).2 .hidInfo 6 [2]).1 = .done ()) ∧
      (r.write ((Reader.ofLayout .compact).pump (.fixed 9) r 64 ⟨m, (), .zero⟩).2.memory .hidInfo 6 [2]).1 =
        .done () := by
  intro r blank name m
  have hfits : r.Fits blank := r.fits_zeros (by decide)
  have hunused : r.isSetUp blank = false := r.isSetUp_zeros 96
  have hreachable : r.Reachable m := .use _ (.setUp name hfits hunused)
  have hfresh : (r.write (r.setUp blank name).2 .hidInfo 6 [2]).1 = .done () :=
    (write_setUp_eq_done_iff name hfits hunused).2 (by decide)
  obtain ⟨-, hpumped, hshort⟩ := retried_when_empty hreachable hfits hunused name hfresh
  refine ⟨⟨hreachable, hfits, hunused, hfresh⟩, ?_⟩
  rw [(hpumped Unit (.fixed 9) (.ofLayout .compact) 64 () .zero (Clock.quiet_fixed r 9)).2]
  exact hshort (by decide)

/-- In a ring of 64 bytes, 20 payload bytes fit at first.  Behind an empty record the ring is full for them, and it
still is when that record has been dropped or read. -/
theorem full_again_when_empty :
    let r : Ring := ⟨0, ⟨64, .packed, by decide, by decide⟩⟩
    let fresh := (r.setUp (Memory.zeros 96) ⟨"ring", by decide, by decide, by decide⟩).2
    let written := r.use fresh (.write ⟨.hidInfo, 0, []⟩)
    let freed := r.use written .free
    let pumped := ((Reader.ofLayout .compact).pump (.fixed 0) r 64 ⟨written, (), .zero⟩).2.memory
    let payload := List.replicate 20 0
    2 * r.headerSize.toNat ≤ r.capacity.toNat ∧ (r.write fresh .hidInfo 0 payload).1 = .done () ∧
      (r.write written .hidInfo 0 payload).1 = .failed (.ringFull 20 46) ∧
      (r.Reachable freed ∧ r.isEmpty freed = true ∧
        (r.write freed .hidInfo 0 payload).1 = .failed (.ringFull 20 63)) ∧
      r.isEmpty pumped = true ∧ (r.write pumped .hidInfo 0 payload).1 = .failed (.ringFull 20 63) := by
  intro r fresh written freed pumped payload
  have hfits : r.Fits (Memory.zeros 96) := r.fits_zeros (by decide)
  have hunused : r.isSetUp (Memory.zeros 96) = false := r.isSetUp_zeros 96
  have hlen : payload.length = 20 := List.length_replicate ..
  have hreachable : r.Reachable written := .use _ (.setUp _ hfits hunused)
  have hread : r.readOffset written = 0 := by decide +kernel
  have hwrite : r.writeOffset written = 17 := by decide +kernel
  have hempty : r.isEmpty freed = true := by decide +kernel
  have hfreed : r.writeOffset freed = 17 := by decide +kernel
  refine ⟨by decide, ?_, ?_, ⟨hreachable.use .free, hempty, ?_⟩, ?_⟩
  · rw [write_setUp_eq_done_iff _ hfits hunused, hlen]
    decide
  · obtain ⟨q, hq⟩ := hreachable.intact
    rw [write_eq_failed_iff, hlen, place_eq _ hq.setUp hq.read_lt hq.write_lt, hread, hwrite]
    rfl
  · rw [((hreachable.use .free).intact_nil hempty).write_empty, hfreed, hlen]
    rfl
  · obtain ⟨hnone, hpumped⟩ := hreachable.write_pumped (.ofLayout .compact) 64 () .zero (Clock.quiet_fixed r 0)
    rw [hwrite, hlen] at hpumped
    exact ⟨hnone, hpumped⟩

/-! ### The longest record that can always be written -/

/-- Honest traffic can leave the offsets of an empty ring behind any record that the ring can hold. -/
theorem exists_reachable_offset (r : Ring) {k : Nat} (hk : k + 2 * r.headerSize.toNat ≤ r.capacity.toNat) :
    ∃ m, r.Reachable m ∧ r.isEmpty m = true ∧ (r.writeOffset m).toNat = k + r.headerSize.toNat := by
  have hpos := r.headerSize_pos
  have name : RingName := ⟨"ring", by decide, by decide, by decide⟩
  have hfits : r.Fits (Memory.zeros (r.base + r.geometry.memorySize)) :=
    r.fits_zeros (Nat.le_refl _)
  have hunused := r.isSetUp_zeros (r.base + r.geometry.memorySize)
  have hintact := intact_setUp name hfits hunused
  have hread := readOffset_setUp name hfits hunused
  have hreachable := Reachable.setUp name hfits hunused
  generalize (r.setUp (Memory.zeros (r.base + r.geometry.memorySize)) name).2 = fresh at *
  -- One record of `k` payload bytes, and then it is dropped.
  have hlen : (List.replicate k (0 : UInt8)).length = k := List.length_replicate ..
  have hwritten := hintact.write_first hread ⟨.hidInfo, 0, List.replicate k 0⟩ (by rw [hlen]; exact hk)
  have hstart := r.readOffset_write fresh .hidInfo 0 (List.replicate k 0)
  have hafter := hreachable.use (.write ⟨.hidInfo, 0, List.replicate k 0⟩)
  dsimp only [Ring.use] at hwritten hafter
  generalize (r.write fresh .hidInfo 0 (List.replicate k 0)).2 = written at *
  obtain ⟨-, hfreed⟩ := hwritten.free_cons
  refine ⟨(r.free written).2, hafter.use .free, hfreed.isEmpty_nil, ?_⟩
  have hstop := hwritten.chain.stop_eq hwritten.read_lt
  rw [hstart, hread, UInt32.toNat_zero, Nat.zero_add, spans, spans, Nat.add_zero, span_entry, hlen,
    Nat.mod_eq_of_lt (by omega)] at hstop
  rw [(free_safe hwritten.fits).2.frame.writeOffset_eq, hstop]

/-- A record that is longer than a ring can always take finds it full somewhere with nothing unread. -/
theorem exists_write_full (hcap : 2 * r.headerSize.toNat < r.capacity.toNat)
    (hfits : n + 2 * r.headerSize.toNat ≤ r.capacity.toNat)
    (hlong : r.capacity.toNat < 2 * (n + r.headerSize.toNat) + r.headerSize.toNat) :
    ∃ m, r.Reachable m ∧ r.isEmpty m = true ∧ ∀ kind timestamp payload, payload.length = n →
      (r.write m kind timestamp payload).1 = .failed (.ringFull n (UInt32.ofNat (r.capacity.toNat - 1))) := by
  obtain ⟨k, hk, hstuck⟩ := exists_isStuckAt hcap hfits hlong
  obtain ⟨m, hreachable, hempty, hoffset⟩ := r.exists_reachable_offset hk
  refine ⟨m, hreachable, hempty, fun kind timestamp payload hlen => ?_⟩
  rw [(hreachable.intact_nil hempty).write_empty, hlen, hoffset, emptyAnswer_of_le hfits, if_pos hstuck]

/-- A record that no ring of this geometry can hold is too large for every empty one. -/
theorem Reachable.write_too_large (h : r.Reachable m) (hempty : r.isEmpty m = true)
    (hcap : 2 * r.headerSize.toNat ≤ r.capacity.toNat) (kind : Kind) (timestamp : UInt64) (payload : List UInt8)
    (hover : r.capacity.toNat < payload.length + 2 * r.headerSize.toNat) :
    ∃ max, (r.write m kind timestamp payload).1 = .failed (.payloadTooLarge payload.length max) := by
  rw [(h.intact_nil hempty).write_empty, emptyAnswer_of_lt hover, if_neg (Nat.not_lt.2 hcap)]
  split <;> exact ⟨_, rfl⟩

/-- **The longest record that can always be written.** In every ring that honest traffic has left empty, a record of
`n` payload bytes is written whatever else it says, if twice its length and a header fit the data area, and only
then.  Dropping all that is queued leaves such a ring.  A longer record finds some such ring full, although a ring that
has just been set up would take it, and one that not even that ring would take is too large in all of them. -/
theorem accepted_when_empty_iff (hcap : 2 * r.headerSize.toNat < r.capacity.toNat) (n : Nat) :
    let span := r.headerSize.toNat + n
    ((∀ m, r.Reachable m → r.isEmpty m = true → ∀ kind timestamp payload, payload.length = n →
        (r.write m kind timestamp payload).1 = .done ()) ↔ 2 * span + r.headerSize.toNat ≤ r.capacity.toNat) ∧
    (∀ m, r.Reachable m → ∃ q, r.queue? m = some q ∧ r.Reachable (r.freeTimes m q.length) ∧
      r.isEmpty (r.freeTimes m q.length) = true) ∧
    (span + r.headerSize.toNat ≤ r.capacity.toNat → r.capacity.toNat < 2 * span + r.headerSize.toNat →
      ∃ m, r.Reachable m ∧ r.isEmpty m = true ∧ ∀ kind timestamp payload, payload.length = n →
        (r.write m kind timestamp payload).1 = .failed (.ringFull n (UInt32.ofNat (r.capacity.toNat - 1)))) ∧
    (r.capacity.toNat < span + r.headerSize.toNat →
      ∀ m, r.Reachable m → r.isEmpty m = true → ∀ kind timestamp payload, payload.length = n →
        ∃ max, (r.write m kind timestamp payload).1 = .failed (.payloadTooLarge n max)) := by
  intro span
  have hspan : span = n + r.headerSize.toNat := Nat.add_comm _ _
  have hlen : (List.replicate n (0 : UInt8)).length = n := List.length_replicate ..
  refine ⟨⟨?_, ?_⟩, ?_, ?_, ?_⟩
  · intro hall
    refine Nat.not_lt.1 fun hlong => ?_
    rcases Nat.lt_or_ge r.capacity.toNat (n + 2 * r.headerSize.toNat) with hover | hfits
    · obtain ⟨m, hreachable, hempty, -⟩ := r.exists_reachable_offset (k := 0) (by omega)
      obtain ⟨max, hrefused⟩ := hreachable.write_too_large hempty (Nat.le_of_lt hcap) .hidInfo 0 (List.replicate n 0)
        (by rw [hlen]; exact hover)
      rw [hall m hreachable hempty .hidInfo 0 _ hlen] at hrefused
      simp at hrefused
    · obtain ⟨m, hreachable, hempty, hrefused⟩ := exists_write_full hcap hfits (by omega)
      have hfilled := hrefused .hidInfo 0 _ hlen
      rw [hall m hreachable hempty .hidInfo 0 _ hlen] at hfilled
      simp at hfilled
  · intro hshort m hreachable hempty kind timestamp payload hlen
    rw [(hreachable.intact_nil hempty).write_empty, hlen, emptyAnswer_eq_done_iff]
    exact ⟨by omega, isStuckAt_of_le (by omega) _⟩
  · intro m hreachable
    obtain ⟨q, hq⟩ := hreachable.intact
    exact ⟨q, hq.queue?_eq, hreachable.freeTimes _, hq.freeTimes.isEmpty_nil⟩
  · exact fun hfits hlong => exists_write_full hcap (by omega) (by omega)
  · intro hover m hreachable hempty kind timestamp payload hlen
    subst hlen
    exact hreachable.write_too_large hempty (Nat.le_of_lt hcap) kind timestamp payload (by omega)

/-- In a ring of 64 bytes a record of 6 payload bytes can always be written, and one of 7 cannot. -/
theorem accepted_when_empty_six :
    let r : Ring := ⟨0, ⟨64, .packed, by decide, by decide⟩⟩
    2 * r.headerSize.toNat < r.capacity.toNat ∧
      (∀ m, r.Reachable m → r.isEmpty m = true → (r.write m .hidInfo 0 [1, 2, 3, 4, 5, 6]).1 = .done ()) ∧
      ∃ m, r.Reachable m ∧ r.isEmpty m = true ∧
        (r.write m .hidInfo 0 [1, 2, 3, 4, 5, 6, 7]).1 = .failed (.ringFull 7 63) := by
  intro r
  have hcap : 2 * r.headerSize.toNat < r.capacity.toNat := by decide
  obtain ⟨haccepted, -⟩ := accepted_when_empty_iff hcap 6
  obtain ⟨-, -, hfull, -⟩ := accepted_when_empty_iff hcap 7
  obtain ⟨m, hreachable, hempty, hrefused⟩ := hfull (by decide) (by decide)
  exact ⟨hcap, fun m h he => haccepted.2 (by decide) m h he .hidInfo 0 _ rfl,
    m, hreachable, hempty, hrefused .hidInfo 0 _ rfl⟩

end EventRing.Ring
