import EventRing.Proofs.Placement
import EventRing.Proofs.Steps

/-!
# Only free space is written

A write puts its record behind the unread bytes and touches nothing else, whatever stands in the control block and in
the data area.  `Ring.circle` reads the data area round the circle, so that what is unread is one row of bytes even
where it comes in two pieces.  On the other side, the consumer writes nothing but its offset.

Main statements: `unread_eq_circle` (the unread bytes as one row), `Chain.circle_eq` (the row of some records is what
they are encoded to), `Appends.unread_eq` (what is put behind the unread bytes is unread), and `write_fills_free`, which
says what either side of a ring changes.
-/

namespace EventRing.Ring

/-- The `n` data bytes from offset `a` on, from the end of the data area on to its start. -/
def circle (r : Ring) (m : Memory) (a n : Nat) : List UInt8 :=
  (List.range n).map fun k => m.byteAt (r.dataAt ((a + k) % r.capacity.toNat))

variable {r : Ring} {m m' : Memory} {a b n k : Nat} {e : Entry} {es : List Entry}

/-! ### Round the circle -/

theorem circle_add (r : Ring) (m : Memory) (a n k : Nat) :
    r.circle m a (n + k) = r.circle m a n ++ r.circle m ((a + n) % r.capacity.toNat) k := by
  unfold circle
  rw [List.range_add, List.map_append, List.map_map]
  congr 1
  refine List.map_congr_left fun j _ => ?_
  rw [Function.comp_apply, Nat.mod_add_mod, Nat.add_assoc]

/-- Bytes that do not run past the end of the data area are read in one piece. -/
theorem circle_of_le (h : a + n ≤ r.capacity.toNat) : r.circle m a n = m.read (r.dataAt a) n := by
  unfold circle Memory.read
  rw [List.range'_eq_map_range, List.map_map]
  refine List.map_congr_left fun k hk => ?_
  have hlt := List.mem_range.1 hk
  rw [Function.comp_apply, Nat.mod_eq_of_lt (by omega), dataAt_add]

/-- Only the bytes that a row covers matter to it. -/
theorem circle_congr (ha : a < r.capacity.toNat) (hn : n ≤ r.capacity.toNat)
    (same : ∀ x, r.Covers a n x → m'.byteAt (r.dataAt x) = m.byteAt (r.dataAt x)) :
    r.circle m' a n = r.circle m a n := by
  unfold circle
  refine List.map_congr_left fun k hk => same _ ?_
  have hlt := List.mem_range.1 hk
  unfold Covers
  rcases Nat.lt_or_ge (a + k) r.capacity.toNat with hle | hge
  · rw [Nat.mod_eq_of_lt hle]
    omega
  · rw [Nat.mod_eq_sub_mod hge, Nat.mod_eq_of_lt (by omega)]
    omega

/-- The offset that many bytes behind another one, round the circle. -/
theorem add_gap_mod (ha : a < r.capacity.toNat) (hb : b < r.capacity.toNat) :
    (a + r.gap a b) % r.capacity.toNat = b := by
  unfold gap
  split
  · rw [Nat.mod_eq_of_lt (by omega)]
    omega
  · have hsum : a + (r.capacity.toNat - a + b) = b + r.capacity.toNat := by omega
    rw [hsum, Nat.add_mod_right, Nat.mod_eq_of_lt hb]

/-- Going on from an offset goes on from every other one. -/
theorem gap_add_mod (ha : a < r.capacity.toNat) (hb : b < r.capacity.toNat) (h : r.gap a b + n < r.capacity.toNat) :
    r.gap a ((b + n) % r.capacity.toNat) = r.gap a b + n := by
  unfold gap at h ⊢
  rcases Nat.lt_or_ge (b + n) r.capacity.toNat with hlt | hge
  · rw [Nat.mod_eq_of_lt hlt]
    split at h <;> split <;> omega
  · rw [Nat.mod_eq_sub_mod hge, Nat.mod_eq_of_lt (by omega)]
    split at h <;> split <;> omega

/-- The unread bytes as one row. -/
theorem unread_eq_circle (hread : (r.readOffset m).toNat < r.capacity.toNat)
    (hwrite : (r.writeOffset m).toNat < r.capacity.toNat) :
    (r.unread m).1 ++ (r.unread m).2 = r.circle m (r.readOffset m).toNat (r.unreadSize m) := by
  rw [unreadSize_eq]
  unfold unread
  dsimp only
  split
  · rw [circle_of_le (by omega), List.append_nil]
  · have hend : (r.readOffset m).toNat + (r.capacity.toNat - (r.readOffset m).toNat) = r.capacity.toNat := by omega
    rw [circle_add, hend, Nat.mod_self, circle_of_le (by omega), circle_of_le (by omega)]

/-- The row of some records is what they are encoded to. -/
theorem Chain.circle_eq (h : r.Chain m a es b) :
    r.circle m a (r.spans es) = es.flatMap fun e => e.encode r.geometry.format := by
  induction h with
  | nil a => rfl
  | @cons a b e es record rest ih =>
    rw [spans, circle_add, circle_of_le record.le, record.bytes, ← offsetAfter_eq_mod record.le, ih, List.flatMap_cons]

/-! ### Behind the unread bytes -/

section Appended

variable (h : r.Appends m es m')

include h

theorem Appends.storedCapacity_eq : r.storedCapacity m' = r.storedCapacity m :=
  Memory.word_congr fun _ hlo hhi => h.byteAt_control (by omega) (by omega)

theorem Appends.name_eq : r.name m' = r.name m := by
  have hfield : m'.read (r.base + 16) nameFieldSize = m.read (r.base + 16) nameFieldSize :=
    Memory.read_congr fun _ hlo hhi => h.byteAt_control (by omega) (by unfold nameFieldSize at hhi; omega)
  rw [name, name, h.isSetUp_eq, hfield]

variable (hread : (r.readOffset m).toNat < r.capacity.toNat) (hwrite : (r.writeOffset m).toNat < r.capacity.toNat)

include hread hwrite

theorem Appends.unreadSize_eq : r.unreadSize m' = r.unreadSize m + r.spans es := by
  have hroom := h.room
  rw [unreadSize_eq_gap] at hroom
  rw [unreadSize_eq_gap, unreadSize_eq_gap, h.readOffset_eq, h.chain.stop_eq hwrite, gap_add_mod hread hwrite hroom]

/-- The new write offset does not catch up with the read offset. -/
theorem Appends.writeOffset_ne (hes : es ≠ []) : r.writeOffset m' ≠ r.readOffset m' := by
  have hsize := h.unreadSize_eq hread hwrite
  obtain ⟨e, es, rfl⟩ := List.exists_cons_of_ne_nil hes
  have hpos := r.span_entry_pos e
  rw [unreadSize_eq_gap, spans] at hsize
  intro heq
  rw [heq, (gap_eq_zero_iff (by rw [h.readOffset_eq]; exact hread)).2 rfl] at hsize
  omega

/-- What is put behind the unread bytes is unread. -/
theorem Appends.unread_eq :
    (r.unread m').1 ++ (r.unread m').2
      = (r.unread m).1 ++ (r.unread m).2 ++ es.flatMap fun e => e.encode r.geometry.format := by
  have hstop := h.chain.stop_eq hwrite
  have hroom := h.room
  rw [unread_eq_circle (by rw [h.readOffset_eq]; exact hread) (by rw [hstop]; exact Nat.mod_lt _ (by omega)),
    unread_eq_circle hread hwrite, h.unreadSize_eq hread hwrite, h.readOffset_eq, circle_add, unreadSize_eq_gap,
    add_gap_mod hread hwrite, h.chain.circle_eq, ← unreadSize_eq_gap,
    circle_congr hread (by omega) fun x hx => h.byteAt_unread hx]

end Appended

/-! ### What a write and a consumer change -/

variable {s : Submission}

/-- A write adds its own entry, or a skip marker over the rest of the data area and its own entry. -/
theorem additions_cases (hdone : (r.write m s.kind s.timestamp s.payload).1 = .done ()) :
    r.additions m s = [s.entry] ∨
      ∃ pad : Entry, r.additions m s = [pad, s.entry] ∧ pad.tag = Kind.skipTag ∧
        (r.writeOffset m).toNat + r.span pad = r.capacity.toNat := by
  obtain ⟨p, hplace⟩ := write_eq_done_iff.1 hdone
  obtain ⟨-, ⟨-, -, hp⟩ | ⟨-, -, -, -, hwrite, hp⟩⟩ := place_done hplace
  · exact .inl (by rw [additions, hplace, hp])
  · refine .inr ⟨_, by rw [additions, hplace, hp], rfl, ?_⟩
    rw [span, Memory.length_read]
    omega

/-- What a write has added stands in the data area: its record at the write offset, or a skip marker there, up to the
end of the data area, and the record at the start. -/
theorem Appends.holds (h : r.Appends m (r.additions m s) m')
    (hdone : (r.write m s.kind s.timestamp s.payload).1 = .done ()) :
    r.additions m s = [s.entry] ∧ r.HoldsAt m' (r.writeOffset m).toNat s.entry ∨
      ∃ pad, r.additions m s = [pad, s.entry] ∧ pad.tag = Kind.skipTag ∧
        (r.writeOffset m).toNat + r.span pad = r.capacity.toNat ∧ r.HoldsAt m' (r.writeOffset m).toNat pad ∧
        r.HoldsAt m' 0 s.entry := by
  have hchain := h.chain
  rcases additions_cases hdone with hadds | ⟨pad, hadds, hpad, hend⟩
  · rw [hadds] at hchain
    cases hchain with
    | cons record _ => exact .inl ⟨hadds, record⟩
  · rw [hadds] at hchain
    cases hchain with
    | cons marker rest =>
      have hstart : r.offsetAfter (r.span pad) (r.writeOffset m).toNat = 0 := if_pos hend
      rw [hstart] at rest
      cases rest with
      | cons record _ => exact .inr ⟨pad, hadds, hpad, hend, marker, record⟩

/-- **A write fills free space, and a consumer changes its offset.** Take a ring in memory that holds it, with any
control block and any data bytes.  A write that succeeds changes bytes of the write offset, and bytes at data offsets
where nothing unread stands; the rest of the control block stays.  The new write offset lies in the data area and has
not caught up with the read offset.  What is unread then is what was unread before, and behind it the header and the
payload, or first a skip marker up to the end of the data area; each of them stands whole in the data area.  Dropping a
record, moving the read offset and polling change no byte but those of the read offset. -/
theorem write_fills_free (hfits : r.Fits m) :
    (∀ s : Submission, (r.write m s.kind s.timestamp s.payload).1 = .done () →
      let after := (r.write m s.kind s.timestamp s.payload).2
      (r.readOffset after = r.readOffset m ∧ r.storedCapacity after = r.storedCapacity m ∧
        r.isSetUp after = r.isSetUp m ∧ r.name after = r.name m) ∧
      (∀ i, after.byteAt i ≠ m.byteAt i → r.base ≤ i ∧ i < r.base + 4 ∨ ∃ x, r.IsFree m x ∧ i = r.dataAt x) ∧
      (r.writeOffset after).toNat < r.capacity.toNat ∧ r.writeOffset after ≠ r.readOffset after ∧
      ((r.unread after).1 ++ (r.unread after).2
        = (r.unread m).1 ++ (r.unread m).2 ++ (r.additions m s).flatMap fun e => e.encode r.geometry.format) ∧
      (r.additions m s = [s.entry] ∧ r.HoldsAt after (r.writeOffset m).toNat s.entry ∨
        ∃ pad, r.additions m s = [pad, s.entry] ∧ pad.tag = Kind.skipTag ∧
          (r.writeOffset m).toNat + r.span pad = r.capacity.toNat ∧ r.HoldsAt after (r.writeOffset m).toNat pad ∧
          r.HoldsAt after 0 s.entry)) ∧
    ∀ i, i < r.base + 4 ∨ r.base + 8 ≤ i →
      (r.free m).2.byteAt i = m.byteAt i ∧ (∀ consumed, (r.advance m consumed).2.byteAt i = m.byteAt i) ∧
      ∀ (σ : Type) (clock : Clock σ) (rd : Reader) (max : Nat) (c : σ) (st : Stats),
        (∀ c m, (clock.ask c m).memory.byteAt i = m.byteAt i) →
        (rd.poll clock r max ⟨m, c, st⟩).2.memory.byteAt i = m.byteAt i := by
  refine ⟨fun s hdone => ?_, fun i hi => ⟨?_, fun consumed => ?_, fun σ clock rd max c st hask => ?_⟩⟩
  · obtain ⟨hsome, happends⟩ := write_appends hfits hdone
    obtain ⟨p, hplace⟩ := write_eq_done_iff.1 hdone
    obtain ⟨-, hread, hwrite⟩ := place_ready hplace
    have hpos := r.headerSize_pos
    have hroom := (happends.chain.stop_room hsome).1
    refine ⟨⟨happends.readOffset_eq, happends.storedCapacity_eq, happends.isSetUp_eq, happends.name_eq⟩,
      fun i hne => ?_, by omega, happends.writeOffset_ne hread hwrite hsome, happends.unread_eq hread hwrite,
      happends.holds hdone⟩
    refine Classical.byContradiction fun hout => hne (happends.same i (by omega) fun x hx heq => ?_)
    exact hout (.inr ⟨x, hx, heq⟩)
  · exact (readMoved_free r m).byteAt_eq hi
  · exact ((ReadMoved.refl r m).advance consumed).byteAt_eq hi
  · refine Reader.poll_keeps (P := fun m' => m'.byteAt i = m.byteAt i) rd max (fun c m' h => (hask c m').trans h)
      (fun m' consumed h => ?_) rfl
    exact (((ReadMoved.refl r m').advance consumed).byteAt_eq hi).trans h

/-- A write to a ring of 64 bytes with equal offsets in the data area, whose record goes to the start. -/
theorem write_fills_free_moved :
    let r : Ring := ⟨0, ⟨64, .packed, by decide, by decide⟩⟩
    let m := r.setOffsets ((Memory.zeros 96).setWord 12 1) 40 40
    let after := (r.write m .hidInfo 5 [1, 2, 3, 4]).2
    (r.Fits m ∧ (r.write m .hidInfo 5 [1, 2, 3, 4]).1 = .done ()) ∧ r.readOffset after = r.readOffset m ∧
      r.writeOffset after ≠ r.readOffset after ∧ (r.advance m 21).2.byteAt 0 = m.byteAt 0 := by
  intro r m
  have hfits : r.Fits m := by unfold Fits; decide +kernel
  have hdone : (r.write m .hidInfo 5 [1, 2, 3, 4]).1 = .done () := by decide +kernel
  obtain ⟨hwrite, hconsumer⟩ := write_fills_free hfits
  obtain ⟨⟨hread, -⟩, -, -, hne, -⟩ := hwrite ⟨.hidInfo, 5, [1, 2, 3, 4]⟩ hdone
  obtain ⟨-, hadvance, -⟩ := hconsumer 0 (.inl (by decide))
  exact ⟨⟨hfits, hdone⟩, hread, hne, hadvance 21⟩

end EventRing.Ring
