import EventRing.Proofs.HostileProducer
import EventRing.Proofs.Sharing

/-!
# Operations that fail

An operation that fails, or halts, leaves memory as it was.  A write is the one that could stop half way, since it makes
several copies and each of them must lie in the data area.  `Ring.writeStepwise` is a write that looks at every copy as
it makes it and stops at one that does not, with what has been copied by then.

Main statements: `Ring.writeStepwise_eq` (it never stops there, so that it is a write) and `fails_unchanged`, which goes
through the operations.
-/

namespace EventRing

namespace Ring

/-- A copy into the data area. -/
structure Copy where
  offset : Nat
  bytes : List UInt8

/-- Memory with a copy made. -/
def copied (r : Ring) (m : Memory) (c : Copy) : Memory := m.blit (r.dataAt c.offset) c.bytes

/-- The copies that carry a placement out: the skip marker if there is one, then header and payload. -/
def copies (r : Ring) (p : Placement) (kind : Kind) (timestamp : UInt64) (payload : List UInt8) : List Copy :=
  let marker :=
    match p.pad with
    | none => []
    | some (offset, size) => [⟨offset, (⟨.skip, timestamp, UInt64.ofNat size⟩ : Header).encode r.geometry.format⟩]
  marker ++ [⟨p.target, (⟨kind, timestamp, UInt64.ofNat payload.length⟩ : Header).encode r.geometry.format⟩,
    ⟨p.target + r.headerSize.toNat, payload⟩]

/-- Makes one copy after the other.  Stops at the first that is not all inside the data area, and tells whether there
was none. -/
def copyIn (r : Ring) (m : Memory) : List Copy → Bool × Memory
  | [] => (true, m)
  | c :: more =>
    if c.offset + c.bytes.length ≤ r.capacity.toNat then r.copyIn (r.copied m c) more else (false, m)

/-- A write that looks at every copy as it makes it.  One that is not all inside the data area halts the write, with
what has been copied by then. -/
def writeStepwise (r : Ring) (m : Memory) (kind : Kind) (timestamp : UInt64) (payload : List UInt8) :
    Outcome SharedMemoryError Unit × Memory :=
  match r.place m payload.length with
  | .failed e => (.failed e, m)
  | .halted => (.halted, m)
  | .done p =>
    match r.copyIn m (r.copies p kind timestamp payload) with
    | (false, m) => (.halted, m)
    | (true, m) => (.done (), r.setWriteOffset m (UInt32.ofNat p.next))

variable {r : Ring} {m : Memory} {p : Placement} {kind : Kind} {timestamp : UInt64} {payload : List UInt8}

/-! ### A write does not stop half way -/

/-- If all copies lie in the data area, all of them are made. -/
theorem copyIn_of_inside {cs : List Copy} (h : ∀ c ∈ cs, c.offset + c.bytes.length ≤ r.capacity.toNat) :
    r.copyIn m cs = (true, cs.foldl r.copied m) := by
  induction cs generalizing m with
  | nil => rfl
  | cons c cs ih =>
    rw [copyIn, if_pos (h c List.mem_cons_self), List.foldl_cons]
    exact ih fun c' hc' => h c' (List.mem_cons_of_mem c hc')

/-- What a placement in the data area takes to be carried out lies there. -/
theorem copies_inside (hp : p.Inside r (payload.length + r.headerSize.toNat)) :
    ∀ c ∈ r.copies p kind timestamp payload, c.offset + c.bytes.length ≤ r.capacity.toNat := by
  have hrecord := hp.record
  have hheader : ∀ header : Header, (header.encode r.geometry.format).length = r.headerSize.toNat := fun header =>
    Header.length_encode header r.geometry.format
  intro c hc
  rw [copies, List.mem_append, List.mem_cons, List.mem_singleton] at hc
  rcases hc with hmarker | rfl | rfl
  · rcases hpad : p.pad with _ | ⟨offset, size⟩
    · rw [hpad] at hmarker
      simp at hmarker
    · have hle := hp.marker offset size hpad
      rw [hpad, List.mem_singleton] at hmarker
      rw [hmarker, hheader]
      dsimp only
      omega
  · rw [hheader]
    dsimp only
    omega
  · dsimp only
    omega

/-- Carrying a placement out is making its copies and then moving the write offset. -/
theorem commit_eq_copies (r : Ring) (m : Memory) (p : Placement) (kind : Kind) (timestamp : UInt64)
    (payload : List UInt8) :
    r.commit m p kind timestamp payload =
      r.setWriteOffset ((r.copies p kind timestamp payload).foldl r.copied m) (UInt32.ofNat p.next) := by
  unfold commit copies
  cases p.pad <;> rfl

/-- A write that is looked at copy by copy is a write: once a record has been placed, nothing stops it. -/
theorem writeStepwise_eq (r : Ring) (m : Memory) (kind : Kind) (timestamp : UInt64) (payload : List UInt8) :
    r.writeStepwise m kind timestamp payload = r.write m kind timestamp payload := by
  rw [writeStepwise, write]
  cases hplace : r.place m payload.length with
  | failed e => rfl
  | halted => rfl
  | done p =>
    dsimp only
    rw [copyIn_of_inside (copies_inside (place_inside hplace)), commit_eq_copies]

/-! ### What fails changes nothing -/

theorem setUp_of_ne_ok {name : RingName} (h : (r.setUp m name).1 ≠ .ok ()) : (r.setUp m name).2 = m := by
  by_cases hset : r.isSetUp m = true
  · rw [setUp, if_pos hset]
  · rw [setUp_unused name (by simpa using hset)] at h
    exact absurd rfl h

theorem advance_of_ne_ok {consumed : UInt64} (h : (r.advance m consumed).1 ≠ .ok ()) :
    (r.advance m consumed).2 = m := by
  unfold advance at h ⊢
  cases hoffset : r.advancedOffset m consumed with
  | error e => rfl
  | ok offset =>
    rw [hoffset] at h
    exact absurd rfl h

theorem free_of_ne_done (h : (r.free m).1 ≠ .done ()) : (r.free m).2 = m := by
  unfold free at h ⊢
  by_cases hset : r.isSetUp m = true
  · rw [if_pos hset] at h ⊢
    revert h
    rcases r.next m with (_ | found) | e | _
    · exact fun _ => rfl
    · have hkept : (r.advance m found.span.toUInt64).1 ≠ .ok () → (r.advance m found.span.toUInt64).2 = m :=
        advance_of_ne_ok
      revert hkept
      dsimp only
      rcases r.advance m found.span.toUInt64 with ⟨e | _, m'⟩
      · exact fun hkept _ => hkept (by simp)
      · exact fun _ h => absurd rfl h
    · exact fun _ => rfl
    · exact fun _ => rfl
  · rw [if_neg hset]

end Ring

namespace Objects

variable {s : Objects} {name : RingName} {g : Geometry}

/-- Attaching to a mapped object changes no memory. -/
theorem memories_attach (s : Objects) (region : Region) (g : Geometry) :
    (s.attach region g).2.memories = s.memories := by
  unfold attach
  split
  · exact s.memories_close region
  · rfl

/-- Opening a ring changes nothing at all. -/
theorem openRing_objects (s : Objects) (name : RingName) (g : Geometry) : (s.openRing name g).2 = s := by
  unfold openRing
  cases hopen : s.openRegion name.text with
  | error e => rfl
  | ok region =>
    obtain ⟨object, size, -, rfl⟩ := openRegion_eq_ok hopen
    dsimp only
    unfold attach
    split <;> rfl

theorem createRing_of_ne_ok (h : ∀ shared, (s.createRing name g).1 ≠ .ok shared) : (s.createRing name g).2 = s := by
  by_cases htaken : isReserved name.text = true ∨ (s.find? name.text).isSome = true
  · rw [createRing_of_taken htaken]
  · rw [not_or, Bool.not_eq_true, Option.not_isSome_iff_eq_none] at htaken
    rw [createRing_of_unused htaken.1 htaken.2] at h
    exact absurd rfl (h _)

end Objects

/-- **What fails changes nothing.** Take a ring of any geometry and any bytes in its control block and data area.  If
setting it up, writing a record, dropping one or moving the read offset does not succeed, because of an error or because
it halts, memory is as it was; and a write never halts between its copies, so that it can be looked at copy by copy.
Attaching to a mapped object changes no memory, whether it succeeds or not, and opening a ring by its name changes
nothing.  If a ring cannot be made, all objects and names are as they were, the one that has the name among them. -/
theorem fails_unchanged :
    (∀ (r : Ring) (m : Memory),
      (∀ name, (r.setUp m name).1 ≠ .ok () → (r.setUp m name).2 = m) ∧
      (∀ kind timestamp payload,
        r.writeStepwise m kind timestamp payload = r.write m kind timestamp payload ∧
          ((r.write m kind timestamp payload).1 ≠ .done () → (r.write m kind timestamp payload).2 = m)) ∧
      ((r.free m).1 ≠ .done () → (r.free m).2 = m) ∧
      ∀ consumed, (r.advance m consumed).1 ≠ .ok () → (r.advance m consumed).2 = m) ∧
    ∀ (s : Objects) (g : Geometry),
      (∀ region, (s.attach region g).2.memories = s.memories) ∧
      ∀ name, (s.openRing name g).2 = s ∧
        ((∀ shared, (s.createRing name g).1 ≠ .ok shared) → (s.createRing name g).2 = s) := by
  refine ⟨fun r m => ⟨fun name => Ring.setUp_of_ne_ok, fun kind timestamp payload => ⟨?_, Ring.write_of_ne_done⟩,
    Ring.free_of_ne_done, fun consumed => Ring.advance_of_ne_ok⟩, fun s g => ⟨fun region => s.memories_attach region g,
    fun name => ⟨s.openRing_objects name g, Objects.createRing_of_ne_ok⟩⟩⟩
  exact r.writeStepwise_eq m kind timestamp payload

/-- A write that halts in a ring whose write offset is too close to the end changes nothing. -/
theorem fails_unchanged_halted :
    let r : Ring := ⟨0, ⟨64, .packed, by decide, by decide⟩⟩
    let m := r.setOffsets ((Memory.zeros 96).setWord 12 1) 40 50
    (r.write m .hidInfo 0 []).1 ≠ .done () ∧ (r.write m .hidInfo 0 []).2 = m := by
  intro r m
  have hhalted : (r.write m .hidInfo 0 []).1 ≠ .done () := by decide +kernel
  obtain ⟨-, hwrite, -, -⟩ := fails_unchanged.1 r m
  exact ⟨hhalted, (hwrite .hidInfo 0 []).2 hhalted⟩

end EventRing
