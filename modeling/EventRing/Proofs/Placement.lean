import EventRing.Proofs.Intact
import EventRing.Ring.Traffic

/-!
# Writing to a ring

`Ring.place_eq` tells in natural numbers where a producer puts a record of a ring whose offsets are in range.
`Ring.IsFree` are the data offsets at which nothing unread stands, and `Ring.Appends` says of memory that records have
been put behind the unread bytes, and nothing else has changed than free bytes and the write offset.

Main statements: `write_appends` (a write that succeeds does so, whatever stands in the ring), `Intact.write` (it keeps
a ring intact, and its queue is the one before with `Ring.additions` behind it), and `Intact.place_ne_halted` (on an
intact ring with room for two headers a write never halts).
-/

namespace EventRing.Ring

variable {r : Ring} {m : Memory} {q : List Entry} {s : Submission} {n : Nat}

/-! ### Where a record goes -/

/-- The placement of a record with `n` payload bytes, for offsets in range. -/
theorem place_eq (n : Nat) (hset : r.isSetUp m = true) (hr : (r.readOffset m).toNat < r.capacity.toNat)
    (hw : (r.writeOffset m).toNat < r.capacity.toNat) :
    r.place m n =
      let read := (r.readOffset m).toNat
      let write := (r.writeOffset m).toNat
      let writable := UInt32.ofNat (r.capacity.toNat - 1 - r.gap read write)
      let span := n + r.headerSize.toNat
      if r.capacity.toNat ≤ span then .failed (.payloadTooLarge n (r.capacity.toNat - r.headerSize.toNat - 1))
      else if r.hasRoomAt span write = true then
        if r.capacity.toNat ≤ span + r.gap read write then .failed (.ringFull n writable)
        else .done ⟨none, write, r.offsetAfter span write⟩
      else if r.hasRoomAt span 0 = false then
        if r.capacity.toNat < 2 * r.headerSize.toNat then .halted
        else .failed (.payloadTooLarge n (r.capacity.toNat - 2 * r.headerSize.toNat))
      else if write < read ∨ read ≤ span then .failed (.ringFull n writable)
      else if r.capacity.toNat - write < r.headerSize.toNat then .halted
      else .done ⟨some (write, r.capacity.toNat - write - r.headerSize.toNat), 0, r.offsetAfter span 0⟩ := by
  obtain ⟨writable, hwritable, hsum⟩ := writableBytes_eq hset hr hw
  have hword : UInt32.ofNat (r.capacity.toNat - 1 - r.gap (r.readOffset m).toNat (r.writeOffset m).toNat)
      = writable := by
    have hnat : r.capacity.toNat - 1 - r.gap (r.readOffset m).toNat (r.writeOffset m).toNat = writable.toNat := by
      omega
    rw [hnat, UInt32.ofNat_toNat]
  have hfull : writable.toNat < n + r.headerSize.toNat ↔
      r.capacity.toNat ≤ n + r.headerSize.toNat + r.gap (r.readOffset m).toNat (r.writeOffset m).toNat := by
    omega
  dsimp only
  rw [hword]
  unfold place
  dsimp only
  rw [if_neg (by simp [hset])]
  split
  · rfl
  · rw [offsets_eq_ok_iff.2 ⟨rfl, rfl, hr, hw⟩]
    dsimp only
    rw [hwritable]
    simp only [hfull, Bool.not_eq_true', UInt32.lt_iff_toNat_lt]

/-- Only a ring that is set up and whose offsets are in range gets a record. -/
theorem place_ready {p : Placement} (h : r.place m n = .done p) :
    r.isSetUp m = true ∧ (r.readOffset m).toNat < r.capacity.toNat ∧ (r.writeOffset m).toNat < r.capacity.toNat := by
  rw [place] at h
  by_cases hset : r.isSetUp m = true
  · rw [if_neg (by simp [hset])] at h
    split at h
    · simp at h
    · split at h
      · simp at h
      · next hoffsets =>
        obtain ⟨-, -, hr, hw⟩ := offsets_eq_ok_iff.1 hoffsets
        exact ⟨hset, hr, hw⟩
  · rw [if_pos (by simp [hset])] at h
    simp at h

/-- What it takes for a record to be placed: it stands at the write offset, clear of the unread bytes, or at the
start of the data area in front of them, with a skip marker behind them. -/
theorem place_done {p : Placement} (h : r.place m n = .done p) :
    n + r.headerSize.toNat < r.capacity.toNat ∧
      (r.hasRoomAt (n + r.headerSize.toNat) (r.writeOffset m).toNat = true ∧
          n + r.headerSize.toNat + r.gap (r.readOffset m).toNat (r.writeOffset m).toNat < r.capacity.toNat ∧
          p = ⟨none, (r.writeOffset m).toNat, r.offsetAfter (n + r.headerSize.toNat) (r.writeOffset m).toNat⟩ ∨
        r.hasRoomAt (n + r.headerSize.toNat) (r.writeOffset m).toNat = false ∧
          r.hasRoomAt (n + r.headerSize.toNat) 0 = true ∧ (r.readOffset m).toNat ≤ (r.writeOffset m).toNat ∧
          n + r.headerSize.toNat < (r.readOffset m).toNat ∧
          (r.writeOffset m).toNat + r.headerSize.toNat ≤ r.capacity.toNat ∧
          p = ⟨some ((r.writeOffset m).toNat, r.capacity.toNat - (r.writeOffset m).toNat - r.headerSize.toNat), 0,
            r.offsetAfter (n + r.headerSize.toNat) 0⟩) := by
  obtain ⟨hset, hr, hw⟩ := place_ready h
  rw [place_eq n hset hr hw] at h
  dsimp only at h
  by_cases hspan : r.capacity.toNat ≤ n + r.headerSize.toNat
  · simp [if_pos hspan] at h
  rw [if_neg hspan] at h
  refine ⟨by omega, ?_⟩
  by_cases hroom : r.hasRoomAt (n + r.headerSize.toNat) (r.writeOffset m).toNat = true
  · rw [if_pos hroom] at h
    by_cases hfull : r.capacity.toNat
        ≤ n + r.headerSize.toNat + r.gap (r.readOffset m).toNat (r.writeOffset m).toNat
    · simp [if_pos hfull] at h
    rw [if_neg hfull] at h
    exact .inl ⟨hroom, by omega, (Outcome.done.inj h).symm⟩
  · rw [if_neg hroom] at h
    by_cases hstart : r.hasRoomAt (n + r.headerSize.toNat) 0 = false
    · rw [if_pos hstart] at h
      split at h <;> simp at h
    rw [if_neg hstart] at h
    by_cases hfull : (r.writeOffset m).toNat < (r.readOffset m).toNat ∨
        (r.readOffset m).toNat ≤ n + r.headerSize.toNat
    · simp [if_pos hfull] at h
    rw [if_neg hfull] at h
    by_cases htail : r.capacity.toNat - (r.writeOffset m).toNat < r.headerSize.toNat
    · simp [if_pos htail] at h
    rw [if_neg htail] at h
    exact .inr ⟨by simpa using hroom, by simpa using hstart, by omega, by omega, by omega,
      (Outcome.done.inj h).symm⟩

/-- A record that has room at the write offset, clear of the unread bytes, is placed there. -/
theorem place_here (hset : r.isSetUp m = true) (hr : (r.readOffset m).toNat < r.capacity.toNat)
    (hw : (r.writeOffset m).toNat < r.capacity.toNat)
    (hroom : r.hasRoomAt (n + r.headerSize.toNat) (r.writeOffset m).toNat = true)
    (hfree : n + r.headerSize.toNat + r.gap (r.readOffset m).toNat (r.writeOffset m).toNat < r.capacity.toNat) :
    r.place m n =
      .done ⟨none, (r.writeOffset m).toNat, r.offsetAfter (n + r.headerSize.toNat) (r.writeOffset m).toNat⟩ := by
  rw [place_eq n hset hr hw]
  dsimp only
  rw [if_neg (by omega), if_pos hroom, if_neg (by omega)]

/-- A record without room at the write offset is placed in front of the unread bytes, if these are not in two pieces. -/
theorem place_moved (hset : r.isSetUp m = true) (hw : (r.writeOffset m).toNat + r.headerSize.toNat ≤ r.capacity.toNat)
    (hnoroom : r.hasRoomAt (n + r.headerSize.toNat) (r.writeOffset m).toNat = false)
    (hroom : r.hasRoomAt (n + r.headerSize.toNat) 0 = true)
    (hahead : (r.readOffset m).toNat ≤ (r.writeOffset m).toNat)
    (hfree : n + r.headerSize.toNat < (r.readOffset m).toNat) :
    r.place m n =
      .done ⟨some ((r.writeOffset m).toNat, r.capacity.toNat - (r.writeOffset m).toNat - r.headerSize.toNat), 0,
        r.offsetAfter (n + r.headerSize.toNat) 0⟩ := by
  have hpos := r.headerSize_pos
  rw [place_eq n hset (by omega) (by omega)]
  dsimp only
  rw [if_neg (by omega), if_neg (by simp [hnoroom]), if_neg (by simp [hroom]), if_neg (by omega), if_neg (by omega)]

/-! ### What a write does to memory -/

theorem readOffset_blit_data (m : Memory) (t : Nat) (bs : List UInt8) :
    r.readOffset (m.blit (r.dataAt t) bs) = r.readOffset m := by
  have hat := r.dataAt_eq t
  exact Memory.word_congr fun i _ _ => Memory.byteAt_blit_of_outside _ _ _ _ (by omega)

theorem readOffset_setWriteOffset (m : Memory) (w : UInt32) : r.readOffset (r.setWriteOffset m w) = r.readOffset m :=
  Memory.word_congr fun i _ _ => Memory.byteAt_setWord_of_outside _ _ _ _ (by omega)

theorem writeOffset_setWriteOffset (hfits : r.Fits m) (w : UInt32) : r.writeOffset (r.setWriteOffset m w) = w := by
  rw [Fits, memorySize_eq] at hfits
  apply Memory.word_setWord
  omega

theorem byteAt_setWriteOffset_data (m : Memory) (w : UInt32) (x : Nat) :
    (r.setWriteOffset m w).byteAt (r.dataAt x) = m.byteAt (r.dataAt x) := by
  have hat := r.dataAt_eq x
  exact Memory.byteAt_setWord_of_outside _ _ _ _ (by omega)

theorem byteAt_blit_data (m : Memory) (t x : Nat) (bs : List UInt8) (h : x < t ∨ t + bs.length ≤ x) :
    (m.blit (r.dataAt t) bs).byteAt (r.dataAt x) = m.byteAt (r.dataAt x) := by
  have hat := r.dataAt_eq x
  have hat' := r.dataAt_eq t
  exact Memory.byteAt_blit_of_outside _ _ _ _ (by omega)

/-- A record that is written into the data area holds there. -/
theorem holdsAt_blit {a : Nat} {e : Entry} (hfits : r.Fits m) (hroom : r.hasRoomAt (r.span e) a = true) :
    r.HoldsAt (m.blit (r.dataAt a) (e.encode r.geometry.format)) a e := by
  refine ⟨?_, hroom⟩
  have hlen := r.length_encode e
  have hle := hasRoomAt_iff.1 hroom
  have hat := r.dataAt_eq a
  have hsize := r.memorySize_eq
  unfold Fits at hfits
  rw [← hlen]
  exact Memory.read_blit _ _ _ (by omega)

/-- A record is one piece of bytes behind the skip marker, and then the write offset moves. -/
theorem commit_eq (r : Ring) (m : Memory) (p : Placement) (s : Submission) :
    r.commit m p s.kind s.timestamp s.payload =
      r.setWriteOffset
        ((match p.pad with
          | none => m
          | some (offset, size) => r.putHeader m offset ⟨.skip, s.timestamp, UInt64.ofNat size⟩).blit
            (r.dataAt p.target) (s.entry.encode r.geometry.format))
        (UInt32.ofNat p.next) := by
  have hat : r.dataAt (p.target + r.headerSize.toNat) = r.dataAt p.target + r.geometry.format.size.toNat :=
    (r.dataAt_add _ _).symm
  rw [Submission.encode_entry, Memory.blit_append, Header.length_encode, ← hat]
  unfold commit putHeader
  cases p.pad <;> rfl

/-! ### Records behind the unread bytes -/

/-- A data offset at which nothing unread stands. -/
def IsFree (r : Ring) (m : Memory) (x : Nat) : Prop :=
  x < r.capacity.toNat ∧ ¬ r.Covers (r.readOffset m).toNat (r.unreadSize m) x

/-- What putting records behind the unread bytes makes of memory.  They stand in a row from the old write offset to the
new one, and no byte has changed but those of the write offset and free ones in the data area. -/
structure Appends (r : Ring) (m : Memory) (es : List Entry) (m' : Memory) : Prop where
  size : m'.size = m.size
  same : ∀ i, i < r.base ∨ r.base + 4 ≤ i → (∀ x, r.IsFree m x → i ≠ r.dataAt x) → m'.byteAt i = m.byteAt i
  chain : r.Chain m' (r.writeOffset m).toNat es (r.writeOffset m').toNat
  room : r.unreadSize m + r.spans es < r.capacity.toNat

/-- Bytes that go to free offsets leave everything else as it was. -/
theorem byteAt_blit_of_free {m₀ : Memory} {i a : Nat} {bs : List UInt8} (h : ∀ x, r.IsFree m x → i ≠ r.dataAt x)
    (hfree : ∀ x, a ≤ x → x < a + bs.length → r.IsFree m x) : (m₀.blit (r.dataAt a) bs).byteAt i = m₀.byteAt i := by
  refine Memory.byteAt_blit_of_outside _ _ _ _ ?_
  rw [dataAt_eq]
  refine Decidable.byContradiction fun hin => ?_
  have hat := r.dataAt_eq (i - (r.base + 32))
  exact h (i - (r.base + 32)) (hfree _ (by omega) (by omega)) (by omega)

/-- A record at the write offset is put behind the unread bytes. -/
theorem appends_here (hfits : r.Fits m) (hread : (r.readOffset m).toNat < r.capacity.toNat)
    (hroom : r.hasRoomAt (r.span s.entry) (r.writeOffset m).toNat = true)
    (hfree : r.span s.entry + r.gap (r.readOffset m).toNat (r.writeOffset m).toNat < r.capacity.toNat) :
    r.Appends m [s.entry] (r.commit m
      ⟨none, (r.writeOffset m).toNat, r.offsetAfter (r.span s.entry) (r.writeOffset m).toNat⟩
      s.kind s.timestamp s.payload) := by
  have hcases := hasRoomAt_iff.1 hroom
  have hle : (r.writeOffset m).toNat + r.span s.entry ≤ r.capacity.toNat := by omega
  have hlen := r.length_encode s.entry
  have hgap := r.unreadSize_eq_gap m
  rw [commit_eq]
  dsimp only
  refine ⟨by simp [setWriteOffset], fun i hi hnot => ?_, ?_, ?_⟩
  · rw [setWriteOffset, Memory.byteAt_setWord_of_outside _ _ _ _ (by omega)]
    refine byteAt_blit_of_free hnot fun x hlo hhi => ⟨by omega, ?_⟩
    unfold gap at hfree hgap
    unfold Covers
    by_cases hahead : (r.readOffset m).toNat ≤ (r.writeOffset m).toNat
    · rw [if_pos hahead] at hfree hgap
      omega
    · rw [if_neg hahead] at hfree hgap
      omega
  · rw [writeOffset_setWriteOffset (by rw [Fits, Memory.size_blit]; exact hfits),
      toNat_ofNat_of_le_capacity (Nat.le_of_lt (offsetAfter_lt hle))]
    exact .single ((holdsAt_blit hfits hroom).congr fun x _ _ => byteAt_setWriteOffset_data _ _ _)
  · rw [hgap, spans, spans]
    omega

/-- The skip marker over the rest of the data area holds at the write offset, with the bytes that were there for its
payload. -/
theorem holdsAt_putHeader_skip {a : Nat} (timestamp : UInt64) (hfits : r.Fits m)
    (hle : a + r.headerSize.toNat ≤ r.capacity.toNat) :
    r.HoldsAt (r.putHeader m a ⟨.skip, timestamp, UInt64.ofNat (r.capacity.toNat - a - r.headerSize.toNat)⟩) a
      ⟨Kind.skipTag, timestamp,
        m.read (r.dataAt (a + r.headerSize.toNat)) (r.capacity.toNat - a - r.headerSize.toNat)⟩ := by
  have hat := r.dataAt_eq a
  have hat' := r.dataAt_eq (a + r.headerSize.toNat)
  have hsize := r.memorySize_eq
  have hlen : ((⟨.skip, timestamp, UInt64.ofNat (r.capacity.toNat - a - r.headerSize.toNat)⟩ : Header).encode
      r.geometry.format).length = r.headerSize.toNat := Header.length_encode _ _
  unfold Fits at hfits
  refine ⟨?_, ?_⟩
  · rw [span, Memory.length_read, Memory.read_add, Entry.encode]
    congr 1
    · rw [Entry.header, Memory.length_read]
      have hread := Memory.read_blit m (r.dataAt a) ((⟨.skip, timestamp,
        UInt64.ofNat (r.capacity.toNat - a - r.headerSize.toNat)⟩ : Header).encode r.geometry.format) (by omega)
      rw [hlen] at hread
      exact hread
    · have hnext : r.dataAt a + r.headerSize.toNat = r.dataAt (a + r.headerSize.toNat) := by omega
      rw [hnext]
      exact Memory.read_congr fun i hlo _ => Memory.byteAt_blit_of_outside _ _ _ _ (by omega)
  · rw [hasRoomAt_iff, span, Memory.length_read]
    omega

/-- A record at the start of the data area is put there behind a skip marker. -/
theorem appends_moved (hfits : r.Fits m) (hwrite : (r.writeOffset m).toNat + r.headerSize.toNat ≤ r.capacity.toNat)
    (hroom : r.hasRoomAt (r.span s.entry) 0 = true) (hahead : (r.readOffset m).toNat ≤ (r.writeOffset m).toNat)
    (hfree : r.span s.entry < (r.readOffset m).toNat) :
    r.Appends m [⟨Kind.skipTag, s.timestamp, m.read (r.dataAt ((r.writeOffset m).toNat + r.headerSize.toNat))
        (r.capacity.toNat - (r.writeOffset m).toNat - r.headerSize.toNat)⟩, s.entry]
      (r.commit m
        ⟨some ((r.writeOffset m).toNat, r.capacity.toNat - (r.writeOffset m).toNat - r.headerSize.toNat), 0,
          r.offsetAfter (r.span s.entry) 0⟩ s.kind s.timestamp s.payload) := by
  have hcases := hasRoomAt_iff.1 hroom
  have hlen := r.length_encode s.entry
  have hgap := r.unreadSize_eq_gap m
  have hskip := holdsAt_putHeader_skip s.timestamp hfits hwrite
  generalize hpad : (⟨Kind.skipTag, s.timestamp, m.read (r.dataAt ((r.writeOffset m).toNat + r.headerSize.toNat))
    (r.capacity.toNat - (r.writeOffset m).toNat - r.headerSize.toNat)⟩ : Entry) = pad at *
  have hpadspan : r.span pad = r.capacity.toNat - (r.writeOffset m).toNat := by
    rw [← hpad, span, Memory.length_read]
    omega
  rw [gap, if_pos hahead] at hgap
  rw [commit_eq]
  dsimp only
  generalize hheader : (⟨.skip, s.timestamp, _⟩ : Header) = marker at *
  have hmarker : (marker.encode r.geometry.format).length = r.headerSize.toNat := Header.length_encode _ _
  have hfits' : r.Fits (r.putHeader m (r.writeOffset m).toNat marker) := by
    rw [Fits, putHeader, Memory.size_blit]
    exact hfits
  -- Behind the write offset stands the marker, in front of the read offset the record; neither touches the other.
  have hfar : ∀ x, r.span s.entry ≤ x →
      (r.setWriteOffset ((r.putHeader m (r.writeOffset m).toNat marker).blit (r.dataAt 0)
        (s.entry.encode r.geometry.format)) (UInt32.ofNat (r.offsetAfter (r.span s.entry) 0))).byteAt (r.dataAt x)
        = (r.putHeader m (r.writeOffset m).toNat marker).byteAt (r.dataAt x) := by
    intro x hx
    rw [byteAt_setWriteOffset_data, byteAt_blit_data _ _ _ _ (by omega)]
  refine ⟨by simp [setWriteOffset, putHeader], fun i hi hnot => ?_, ?_, ?_⟩
  · rw [setWriteOffset, Memory.byteAt_setWord_of_outside _ _ _ _ (by omega)]
    rw [byteAt_blit_of_free hnot fun x _ hhi => ⟨by omega, by unfold Covers; omega⟩, putHeader]
    exact byteAt_blit_of_free hnot fun x hlo hhi => ⟨by omega, by unfold Covers; omega⟩
  · rw [writeOffset_setWriteOffset (by rw [Fits, Memory.size_blit]; exact hfits'),
      toNat_ofNat_of_le_capacity (Nat.le_of_lt (offsetAfter_lt (by omega)))]
    have hwrap : r.offsetAfter (r.span pad) (r.writeOffset m).toNat = 0 := by
      rw [offsetAfter, if_pos (by omega)]
    refine .cons (hskip.congr fun x hlo _ => hfar x (by omega)) ?_
    rw [hwrap]
    exact .single ((holdsAt_blit hfits' hroom).congr fun x _ _ => byteAt_setWriteOffset_data _ _ _)
  · rw [spans, spans, spans]
    omega

theorem span_entry (r : Ring) (s : Submission) : r.span s.entry = s.payload.length + r.headerSize.toNat :=
  Nat.add_comm _ _

/-- **A write puts its record behind the unread bytes**, whatever stands in the ring. -/
theorem write_appends (hfits : r.Fits m) (hdone : (r.write m s.kind s.timestamp s.payload).1 = .done ()) :
    r.additions m s ≠ [] ∧ r.Appends m (r.additions m s) (r.write m s.kind s.timestamp s.payload).2 := by
  obtain ⟨p, hplace⟩ := write_eq_done_iff.1 hdone
  obtain ⟨-, hr, -⟩ := place_ready hplace
  obtain ⟨-, hwhere⟩ := place_done hplace
  rw [write_of_place_done hplace, additions, hplace]
  rw [← span_entry] at hwhere
  rcases hwhere with ⟨hroom, hfree, rfl⟩ | ⟨-, hroom, hahead, hfree, hwrite, rfl⟩
  · dsimp only
    exact ⟨by simp, appends_here hfits hr hroom hfree⟩
  · dsimp only
    exact ⟨by simp, appends_moved hfits hwrite hroom hahead hfree⟩

/-! ### What stays -/

section Appended

variable {m' : Memory} {es : List Entry} (h : r.Appends m es m')

include h

/-- The control block behind the write offset is as it was. -/
theorem Appends.byteAt_control {i : Nat} (hlo : r.base + 4 ≤ i) (hhi : i < r.base + 32) :
    m'.byteAt i = m.byteAt i := by
  refine h.same i (.inr hlo) fun x _ hx => ?_
  rw [dataAt_eq] at hx
  omega

theorem Appends.readOffset_eq : r.readOffset m' = r.readOffset m :=
  Memory.word_congr fun _ hlo hhi => h.byteAt_control (by omega) (by omega)

theorem Appends.isSetUp_eq : r.isSetUp m' = r.isSetUp m := by
  have hword : m'.word (r.base + 12) = m.word (r.base + 12) :=
    Memory.word_congr fun _ hlo hhi => h.byteAt_control (by omega) (by omega)
  rw [isSetUp, isSetUp, hword]

/-- Unread bytes are as they were. -/
theorem Appends.byteAt_unread {x : Nat} (hx : r.Covers (r.readOffset m).toNat (r.unreadSize m) x) :
    m'.byteAt (r.dataAt x) = m.byteAt (r.dataAt x) := by
  have hat := r.dataAt_eq x
  refine h.same _ (.inr (by omega)) fun y hy heq => ?_
  have hat' := r.dataAt_eq y
  obtain rfl : x = y := by omega
  exact hy.2 hx

end Appended

/-- Records that are put behind the unread bytes of an intact ring join its queue. -/
theorem Intact.append {m' : Memory} {es : List Entry} (h : r.Intact m q) (hes : es ≠ []) (h' : r.Appends m es m') :
    r.Intact m' (q ++ es) := by
  obtain ⟨hroom, hstart⟩ := h'.chain.stop_room hes
  have hread := h'.readOffset_eq
  have hsize := h.unreadSize_eq
  have htotal := h'.room
  -- A record that ends the data area begins behind a header, since it is shorter than the data area.
  have husable : 2 * r.headerSize.toNat ≤ r.capacity.toNat := by
    have hwrite := h.write_start
    have hchain := h'.chain
    obtain ⟨e, es, rfl⟩ := List.exists_cons_of_ne_nil hes
    cases hchain with
    | cons record _ =>
      have hcases := hasRoomAt_iff.1 record.room
      rw [spans, span] at htotal
      rw [span] at hcases
      omega
  refine ⟨by rw [Fits, h'.size]; exact h.fits, h'.isSetUp_eq.trans h.setUp, by rw [hread]; exact h.read_lt, hroom,
    hstart, ?_, by rw [spans_append, ← hsize]; exact htotal, fun _ => husable⟩
  rw [hread]
  refine (h.chain.congr (Nat.le_of_lt h.spans_lt) fun x _ hcovers => h'.byteAt_unread ?_).append h'.chain
  rw [hsize]
  exact hcovers

/-- A write keeps a ring intact.  What it adds goes to the end of the queue. -/
theorem Intact.write (h : r.Intact m q) (s : Submission) :
    r.Intact (r.write m s.kind s.timestamp s.payload).2 (q ++ r.additions m s) := by
  cases hplace : r.place m s.payload.length with
  | failed e =>
    rw [write_of_place_failed hplace, additions_of_failed hplace, List.append_nil]
    exact h
  | halted =>
    rw [write_of_place_halted hplace, additions_of_halted hplace, List.append_nil]
    exact h
  | done p =>
    obtain ⟨hsome, happends⟩ := write_appends h.fits (write_eq_done_iff.2 ⟨p, hplace⟩)
    exact h.append hsome happends

/-- A write leaves the consumer's offset alone. -/
theorem readOffset_write (r : Ring) (m : Memory) (kind : Kind) (timestamp : UInt64) (payload : List UInt8) :
    r.readOffset (r.write m kind timestamp payload).2 = r.readOffset m := by
  cases hplace : r.place m payload.length with
  | failed e => rw [write_of_place_failed hplace]
  | halted => rw [write_of_place_halted hplace]
  | done p =>
    rw [write_of_place_done hplace]
    dsimp only
    rw [commit_eq r m p ⟨kind, timestamp, payload⟩, readOffset_setWriteOffset, readOffset_blit_data]
    rcases p.pad with _ | ⟨offset, size⟩
    · rfl
    · dsimp only
      rw [putHeader, readOffset_blit_data]

/-- On an intact ring that has room for two headers no write halts. -/
theorem Intact.place_ne_halted (h : r.Intact m q) (hcap : 2 * r.headerSize.toNat ≤ r.capacity.toNat) (n : Nat) :
    r.place m n ≠ .halted := by
  have hroom := h.write_room
  rw [place_eq n h.setUp h.read_lt h.write_lt]
  dsimp only
  rw [if_neg (show ¬ r.capacity.toNat < 2 * r.headerSize.toNat by omega),
    if_neg (show ¬ r.capacity.toNat - (r.writeOffset m).toNat < r.headerSize.toNat by omega)]
  repeat' split
  all_goals simp

/-- On an intact ring no write finds the control block corrupt. -/
theorem Intact.place_ne_corrupt (h : r.Intact m q) (n : Nat) (e : FramingError) :
    r.place m n ≠ .failed (.corruptControlBlock e) := by
  rw [place_eq n h.setUp h.read_lt h.write_lt]
  dsimp only
  repeat' split
  all_goals simp

theorem Intact.write_ne_halted (h : r.Intact m q) (hcap : 2 * r.headerSize.toNat ≤ r.capacity.toNat)
    (s : Submission) : (r.write m s.kind s.timestamp s.payload).1 ≠ .halted := by
  cases hplace : r.place m s.payload.length with
  | failed e =>
    rw [write_of_place_failed hplace]
    simp
  | halted => exact absurd hplace (h.place_ne_halted hcap _)
  | done p =>
    rw [write_of_place_done hplace]
    simp

theorem Intact.write_ne_corrupt (h : r.Intact m q) (s : Submission) (e : FramingError) :
    (r.write m s.kind s.timestamp s.payload).1 ≠ .failed (.corruptControlBlock e) := by
  cases hplace : r.place m s.payload.length with
  | failed e' =>
    rw [write_of_place_failed hplace]
    intro hfailed
    rw [Outcome.failed.inj hfailed] at hplace
    exact h.place_ne_corrupt _ _ hplace
  | halted =>
    rw [write_of_place_halted hplace]
    simp
  | done p =>
    rw [write_of_place_done hplace]
    simp

end EventRing.Ring
