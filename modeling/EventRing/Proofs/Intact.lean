import EventRing.Proofs.Records

/-!
# Intact rings

`Ring.Intact r m q` is the representation invariant of a ring with honest ends: the unread bytes are the records of
the queue `q`, one behind the other, and the write offset leaves room for a header.  This module says what the
invariant gives to someone who looks (`Intact.gap_eq`, `Intact.queue?_eq`), that a ring which has been set up has it
(`intact_setUp`), and what the consumer's steps do under it: `Intact.next_cons` (the next record is the head of the
queue), `HoldsAt.payload_eq` (its payload reads back), `Intact.advance_head` and `Intact.free_cons` (moving past it
leaves the tail).
-/

namespace EventRing.Ring

/-- The unread bytes of a ring are the records of a queue, and there is room for a header at the write offset. -/
structure Intact (r : Ring) (m : Memory) (q : List Entry) : Prop where
  fits : r.Fits m
  setUp : r.isSetUp m = true
  read_lt : (r.readOffset m).toNat < r.capacity.toNat
  write_room : (r.writeOffset m).toNat + r.headerSize.toNat ≤ r.capacity.toNat
  write_start : (r.writeOffset m).toNat = 0 ∨ r.headerSize.toNat ≤ (r.writeOffset m).toNat
  chain : r.Chain m (r.readOffset m).toNat q (r.writeOffset m).toNat
  spans_lt : r.spans q < r.capacity.toNat
  usable : q ≠ [] → 2 * r.headerSize.toNat ≤ r.capacity.toNat

variable {r : Ring} {m m' : Memory} {q : List Entry} {e : Entry}

theorem Intact.write_lt (h : r.Intact m q) : (r.writeOffset m).toNat < r.capacity.toNat := by
  have hroom := h.write_room
  have hpos := r.headerSize_pos
  omega

/-- The unread bytes are those of the queue. -/
theorem Intact.gap_eq (h : r.Intact m q) :
    r.gap (r.readOffset m).toNat (r.writeOffset m).toNat = r.spans q := h.chain.gap_eq h.read_lt h.spans_lt

theorem Intact.unreadSize_eq (h : r.Intact m q) : r.unreadSize m = r.spans q := by
  rw [Ring.unreadSize_eq, ← h.gap_eq]
  rfl

theorem Intact.isEmpty_nil (h : r.Intact m []) : r.isEmpty m = true := by
  have hgap := h.gap_eq
  rw [spans, gap_eq_zero_iff h.read_lt] at hgap
  rw [isEmpty, UInt32.toNat_inj.1 hgap, decide_eq_true rfl]

/-- The queue is what the unread bytes are cut into. -/
theorem Intact.queue?_eq (h : r.Intact m q) : r.queue? m = some q := by
  have hgap := h.gap_eq
  have hread := h.read_lt
  have hstop := h.chain.stop_eq h.read_lt
  unfold queue? unread
  dsimp only
  unfold gap at hgap
  split at hgap
  · next hle =>
    rw [if_pos hle, hgap, h.chain.split_eq (by have := h.write_lt; omega)]
    simp
  · next hlt =>
    obtain ⟨before, after, rfl, hsum, hbefore, hafter⟩ := h.chain.cut h.read_lt (by omega)
    rw [spans_append] at hgap
    have htail : r.capacity.toNat - (r.readOffset m).toNat = r.spans before := by omega
    have hhead : (r.writeOffset m).toNat = r.spans after := by omega
    have hsecond := hafter.split_eq (by have := h.write_lt; omega)
    rw [if_neg hlt, htail, hhead, hbefore.split_eq (by omega), hsecond]
    simp

/-- Only the bytes of the region matter. -/
theorem Intact.congr (h : r.Intact m q) (same : r.SameRegion m m') : r.Intact m' q := by
  have hread := same.readOffset_eq
  have hwrite := same.onlyReadOffset.writeOffset_eq
  refine ⟨same.onlyReadOffset.fits h.fits, ?_, ?_, ?_, ?_, ?_, h.spans_lt, h.usable⟩
  · rw [same.onlyReadOffset.isSetUp_eq]; exact h.setUp
  · rw [hread]; exact h.read_lt
  · rw [hwrite]; exact h.write_room
  · rw [hwrite]; exact h.write_start
  · rw [hread, hwrite]
    exact h.chain.congr (Nat.le_of_lt h.spans_lt) fun x hx _ => same.onlyReadOffset.byteAt_data hx

/-! ### Setting up -/

theorem isSetUp_setUp (name : RingName) (hfits : r.Fits m) (hunused : r.isSetUp m = false) :
    r.isSetUp (r.setUp m name).2 = true := by
  rw [Fits, memorySize_eq] at hfits
  rw [setUp_unused name hunused, isSetUp, Memory.word_setWord _ _ _ (by simp [setReadOffset, setWriteOffset]; omega)]
  rfl

theorem writeOffset_setUp (name : RingName) (hfits : r.Fits m) (hunused : r.isSetUp m = false) :
    r.writeOffset (r.setUp m name).2 = 0 := by
  rw [Fits, memorySize_eq] at hfits
  have hword : (r.setUp m name).2.word r.base = (r.setWriteOffset m 0).word r.base := by
    apply Memory.word_congr
    intro i hlo hhi
    rw [setUp_unused name hunused, Memory.byteAt_setWord_of_outside _ _ _ _ (by omega),
      Memory.byteAt_blit_of_outside _ _ _ _ (by omega), Memory.byteAt_setWord_of_outside _ _ _ _ (by omega),
      setReadOffset, Memory.byteAt_setWord_of_outside _ _ _ _ (by omega)]
  rw [writeOffset, hword, setWriteOffset, Memory.word_setWord _ _ _ (by omega)]

theorem readOffset_setUp (name : RingName) (hfits : r.Fits m) (hunused : r.isSetUp m = false) :
    r.readOffset (r.setUp m name).2 = 0 := by
  rw [Fits, memorySize_eq] at hfits
  have hword : (r.setUp m name).2.word (r.base + 4)
      = (r.setReadOffset (r.setWriteOffset m 0) 0).word (r.base + 4) := by
    apply Memory.word_congr
    intro i hlo hhi
    rw [setUp_unused name hunused, Memory.byteAt_setWord_of_outside _ _ _ _ (by omega),
      Memory.byteAt_blit_of_outside _ _ _ _ (by omega), Memory.byteAt_setWord_of_outside _ _ _ _ (by omega)]
  rw [readOffset, hword, setReadOffset, Memory.word_setWord _ _ _ (by simp [setWriteOffset]; omega)]

/-- A ring that has just been set up is intact and empty. -/
theorem intact_setUp (name : RingName) (hfits : r.Fits m) (hunused : r.isSetUp m = false) :
    r.Intact (r.setUp m name).2 [] := by
  have hcap := r.headerSize_lt_capacity
  have hread := readOffset_setUp name hfits hunused
  have hwrite := writeOffset_setUp name hfits hunused
  refine ⟨by rw [Fits, size_setUp]; exact hfits, isSetUp_setUp name hfits hunused, ?_, ?_, ?_, ?_, ?_, by simp⟩
  · rw [hread, UInt32.toNat_zero]; omega
  · rw [hwrite, UInt32.toNat_zero]; omega
  · rw [hwrite]; exact .inl rfl
  · rw [hread, hwrite]; exact .nil _
  · rw [spans]; omega

/-! ### The consumer's steps -/

theorem Intact.next_nil (h : r.Intact m []) : r.next m = .done none := by
  refine next_eq_none_iff.2 ⟨h.read_lt, h.write_lt, fun _ => ?_⟩
  have hgap := h.gap_eq
  rw [spans, gap_eq_zero_iff h.read_lt] at hgap
  exact UInt32.toNat_inj.1 hgap

/-- What a consumer finds at the read offset when the queue has a head. -/
def foundAt (r : Ring) (a : Nat) (e : Entry) : Found := ⟨UInt32.ofNat a, e.header, UInt32.ofNat (r.span e)⟩

theorem HoldsAt.payload_lt {a : Nat} (h : r.HoldsAt m a e) : e.payload.length < UInt64.size := by
  have hcap : r.capacity.toNat ≤ 1048576 := r.geometry.capacity_le_toNat
  have hle := h.le
  have hlen : e.payload.length ≤ 1048576 := by
    rw [span] at hle
    omega
  exact Nat.lt_of_le_of_lt hlen (by decide)

theorem HoldsAt.toNat_size {a : Nat} (h : r.HoldsAt m a e) : e.header.size.toNat = e.payload.length :=
  UInt64.toNat_ofNat_of_lt' h.payload_lt

/-- The header of a record reads back. -/
theorem HoldsAt.decode_eq {a : Nat} (h : r.HoldsAt m a e) :
    Header.decode (m.read (r.dataAt a) r.headerSize.toNat) r.geometry.format = some e.header := by
  have hbytes := h.bytes
  rw [span, Memory.read_add, Entry.encode] at hbytes
  have hhead := (List.append_inj hbytes (by rw [Memory.length_read, Header.length_encode]; rfl)).1
  have hdecode := Header.decode_encode_append e.header r.geometry.format []
  rw [List.append_nil] at hdecode
  rw [hhead, hdecode]
  simp [Entry.header]

/-- The payload of a record reads back. -/
theorem HoldsAt.payload_eq {a : Nat} (h : r.HoldsAt m a e) : r.payload m (r.foundAt a e) = some e.payload := by
  have hle := h.le
  have hsize := h.toNat_size
  have hbytes := h.bytes
  rw [span, Memory.read_add, Entry.encode] at hbytes
  have htail := (List.append_inj hbytes (by rw [Memory.length_read, Header.length_encode]; rfl)).2
  rw [dataAt_add] at htail
  rw [span] at hle
  have hstart : Word.add? (UInt32.ofNat a) r.headerSize = some (UInt32.ofNat (a + r.headerSize.toNat)) := by
    rw [Word.add?_eq_some_iff, toNat_ofNat_of_le_capacity (r := r) (by omega),
      toNat_ofNat_of_le_capacity (r := r) (by omega)]
  unfold payload foundAt
  dsimp only
  rw [hstart, Option.bind_some, toNat_ofNat_of_le_capacity (r := r) (by omega), hsize,
    copyOut, if_pos (by omega), htail]

/-- The next record is the head of the queue. -/
theorem Intact.next_cons (h : r.Intact m (e :: q)) :
    r.next m = .done (some (r.foundAt (r.readOffset m).toNat e)) := by
  have hgap := h.gap_eq
  have hread := h.read_lt
  have hwrite := h.write_lt
  have hlt := h.spans_lt
  have hpos := r.span_entry_pos e
  rw [spans] at hgap hlt
  cases h.chain with
  | cons record rest =>
    have hle := record.le
    have hne : r.readOffset m ≠ r.writeOffset m := by
      intro heq
      rw [heq, (gap_eq_zero_iff h.write_lt).2 rfl] at hgap
      omega
    rw [next_eq_found_iff]
    unfold foundAt
    dsimp only
    rw [UInt32.ofNat_toNat, toNat_ofNat_of_le_capacity (r := r) (show r.span e ≤ _ by omega), record.toNat_size]
    refine ⟨h.setUp, hread, hwrite, hne, rfl, record.decode_eq, rfl, hle, fun hahead => ?_⟩
    unfold gap at hgap
    rw [if_pos (by omega)] at hgap
    omega

/-- Moving past the head of the queue leaves its tail. -/
theorem Intact.advance_head (h : r.Intact m (e :: q)) :
    ∃ m', r.advance m (r.foundAt (r.readOffset m).toNat e).span.toUInt64 = (.ok (), m') ∧ r.Intact m' q ∧
      (r.readOffset m').toNat = r.offsetAfter (r.span e) (r.readOffset m).toNat := by
  have hread := h.read_lt
  have hlt := h.spans_lt
  rw [spans] at hlt
  cases h.chain with
  | cons record rest =>
    have hle := record.le
    have hnext := offsetAfter_lt hle
    have hspan : (r.foundAt (r.readOffset m).toNat e).span.toUInt64.toNat = r.span e := by
      rw [UInt32.toNat_toUInt64, foundAt, toNat_ofNat_of_le_capacity (r := r) (by omega)]
    obtain ⟨m', hadvance, hframe, hnew⟩ := advance_of_le
      (r.foundAt (r.readOffset m).toNat e).span.toUInt64 h.fits hread (by omega)
    rw [hspan] at hnew
    refine ⟨m', hadvance, ⟨hframe.fits h.fits, ?_, ?_, ?_, ?_, ?_, by omega, fun _ => h.usable (by simp)⟩, hnew⟩
    · rw [hframe.isSetUp_eq]; exact h.setUp
    · rw [hnew]; exact hnext
    · rw [hframe.writeOffset_eq]; exact h.write_room
    · rw [hframe.writeOffset_eq]; exact h.write_start
    · rw [hnew, hframe.writeOffset_eq]
      exact rest.congr (by omega) fun x hx _ => hframe.byteAt_data hx

/-- Dropping the head of the queue. -/
theorem Intact.free_cons (h : r.Intact m (e :: q)) : (r.free m).1 = .done () ∧ r.Intact (r.free m).2 q := by
  obtain ⟨m', hadvance, hintact, -⟩ := h.advance_head
  rw [free, if_pos h.setUp, h.next_cons]
  dsimp only
  rw [hadvance]
  exact ⟨rfl, hintact⟩

theorem Intact.free_nil (h : r.Intact m []) : r.free m = (.done (), m) := by
  rw [free, if_pos h.setUp, h.next_nil]

end EventRing.Ring
