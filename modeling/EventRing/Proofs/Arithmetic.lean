import EventRing.Proofs.Atomicity
import EventRing.Proofs.Hostile

/-!
# Offset arithmetic

Offsets, sizes and counts are words of 32 or 64 bits.  Here they are set against the integers that they stand for,
whatever offsets stand in the control block and whatever size a header claims: the checks decide what they would decide
in integers, the counts are differences modulo the capacity, and no sum or difference leaves its word.  An operation
whose sum did leave its word would halt or answer `none`, so that it does neither says that none does.

Main statements: `Ring.exists_checkedSpanOf_iff` (which records pass), `Ring.advance_eq_ok_iff` and
`Ring.readOffset_advance` (when the read offset moves, and where to), `Ring.gap_eq_emod` and `Ring.exists_writableBytes`
(the bytes between the offsets, and those that are free), `Reader.scan_ne_halted` and `Reader.poll_ne_halted` (a poll
counts what it has looked at, whatever the clock does to memory meanwhile) and `arithmetic_exact`.
-/

namespace EventRing

/-- An integer at most one turn below its remainder. -/
theorem emod_eq_of_turn {x y c : Int} (hpos : 0 ≤ y) (hlt : y < c) (h : x = y ∨ x + c = y) : x % c = y := by
  rcases h with rfl | h
  · exact Int.emod_eq_of_lt hpos hlt
  · rw [← Int.add_emod_right, h]
    exact Int.emod_eq_of_lt hpos hlt

namespace Ring

variable {r : Ring} {m : Memory}

/-! ### Checking a record and moving on -/

/-- A record passes exactly if header and payload end in the data area and, if it begins in front of the write offset,
end in front of it. -/
theorem exists_checkedSpanOf_iff {offset : UInt32} {header : Header} :
    (∃ span, r.checkedSpanOf m offset header = .done span) ↔
      offset.toNat + r.headerSize.toNat + header.size.toNat ≤ r.capacity.toNat ∧
        (r.writeOffset m).toNat < r.capacity.toNat ∧
        ((r.writeOffset m).toNat ≤ offset.toNat ∨
          offset.toNat + r.headerSize.toNat + header.size.toNat ≤ (r.writeOffset m).toNat) := by
  constructor
  · rintro ⟨span, hspan⟩
    obtain ⟨hsum, hle, hw, hpast⟩ := checkedSpanOf_eq_done_iff.1 hspan
    omega
  · rintro ⟨hle, hw, hpast⟩
    have hword : (UInt32.ofNat (r.headerSize.toNat + header.size.toNat)).toNat
        = r.headerSize.toNat + header.size.toNat := toNat_ofNat_of_le_capacity (r := r) (by omega)
    exact ⟨_, checkedSpanOf_eq_done_iff.2 ⟨hword, by omega, hw, by omega⟩⟩

theorem advance_eq_ok_iff (hfits : r.Fits m) {consumed : UInt64} :
    (r.advance m consumed).1 = .ok () ↔ (r.readOffset m).toNat < r.capacity.toNat ∧
      (r.readOffset m).toNat + consumed.toNat ≤ r.capacity.toNat := by
  constructor
  · intro h
    unfold advance at h
    split at h
    · simp at h
    · next offset hoffset =>
      obtain ⟨hr, hstop⟩ := advancedOffset_eq_ok_iff.1 hoffset
      omega
  · rintro ⟨hr, hle⟩
    obtain ⟨m', hadvance, -, -⟩ := advance_of_le consumed hfits hr hle
    rw [hadvance]

theorem readOffset_advance (hfits : r.Fits m) {consumed : UInt64} (h : (r.advance m consumed).1 = .ok ()) :
    (r.readOffset (r.advance m consumed).2).toNat
      = ((r.readOffset m).toNat + consumed.toNat) % r.capacity.toNat := by
  obtain ⟨hr, hle⟩ := (advance_eq_ok_iff hfits).1 h
  obtain ⟨m', hadvance, -, hnew⟩ := advance_of_le consumed hfits hr hle
  rw [hadvance, hnew, offsetAfter_eq_mod hle]

/-! ### Bytes between the offsets -/

theorem gap_eq_emod {a b : Nat} (ha : a < r.capacity.toNat) (hb : b < r.capacity.toNat) :
    (r.gap a b : Int) = ((b : Int) - a) % r.capacity.toNat := by
  have hlt := gap_lt (a := a) hb
  refine (emod_eq_of_turn (Int.natCast_nonneg _) (by omega) ?_).symm
  unfold gap
  split <;> omega

theorem exists_writableBytes (hset : r.isSetUp m = true) (hr : (r.readOffset m).toNat < r.capacity.toNat)
    (hw : (r.writeOffset m).toNat < r.capacity.toNat) :
    ∃ n, r.writableBytes m = some n ∧
      (n.toNat : Int) = ((r.readOffset m).toNat - (r.writeOffset m).toNat - 1 : Int) % r.capacity.toNat := by
  obtain ⟨n, hn, hsum⟩ := writableBytes_eq hset hr hw
  refine ⟨n, hn, (emod_eq_of_turn (Int.natCast_nonneg _) (by omega) ?_).symm⟩
  unfold gap at hsum
  split at hsum <;> omega

end Ring

namespace Reader

variable {σ : Type} {clock : Clock σ} {r : Ring} {s s' : ReaderState σ} {found : Ring.Found}

/-! ### Counting what has been looked at -/

theorem drop_ne_halted {stats : Stats} {p : Poll} (h : drop r s found stats = .ended p s') : p ≠ .halted := by
  unfold drop at h
  split at h
  · rw [← (Fate.ended.inj h).1]
    simp
  · simp at h

/-- A record that ends a poll does not halt it if the clock shows a time. -/
theorem sift_ne_halted {rd : Reader} {p : Poll} (shows : ∀ c m, (clock.ask c m).time ≠ none)
    (h : rd.sift clock r s found = .ended p s') : p ≠ .halted := by
  unfold sift at h
  split at h
  · exact drop_ne_halted h
  · split at h
    · next hstale =>
      exfalso
      unfold isStale at hstale
      split at hstale
      · exact shows _ _ (Option.map_eq_none_iff.1 (Prod.mk.inj hstale).1)
      · simp at hstale
    · simp at h
    · exact drop_ne_halted h

/-- **What has been looked at is counted without overflow.** Before each sum less than a 32-bit word has been counted,
and a record adds no more than another such word. -/
theorem scan_ne_halted (rd : Reader) (max : Nat) (shows : ∀ c m, (clock.ask c m).time ≠ none) {published : UInt64}
    (consumed : UInt64) (hpublished : published.toNat < UInt32.size) (s : ReaderState σ) :
    (rd.scan clock r max published consumed s).1 ≠ .halted := by
  fun_induction scan rd clock r max published consumed s with
  | case1 | case3 | case8 => simp
  | case2 _ _ _ hnext => exact absurd hnext Ring.next_ne_halted
  | case4 _ _ _ _ _ _ _ hsift => exact sift_ne_halted shows hsift
  | case5 _ _ _ _ hnext => exact deliver_ne_halted rd max hnext
  | case6 consumed s hleft found _ _ _ hsum =>
    have hspan := found.span.toNat_lt_size
    have hlt := UInt64.lt_iff_toNat_lt.1 hleft
    have hsizes : UInt32.size + UInt32.size < UInt64.size := by decide
    have hfits : consumed.toNat + found.span.toUInt64.toNat < UInt64.size := by
      rw [UInt32.toNat_toUInt64]
      omega
    obtain ⟨sum, hsome, -⟩ := Word.addLong?_of_lt consumed found.span.toUInt64 hfits
    exact absurd (hsome.symm.trans hsum) (by simp)
  | case7 _ _ _ _ _ _ _ _ _ ih => exact ih

theorem poll_ne_halted (rd : Reader) (max : Nat) (shows : ∀ c m, (clock.ask c m).time ≠ none) (s : ReaderState σ) :
    (rd.poll clock r max s).1 ≠ .halted := by
  by_cases hset : r.isSetUp s.memory = true
  · cases hoffsets : r.offsets s.memory with
    | error e =>
      rw [poll_of_error rd clock max hset hoffsets]
      simp
    | ok offsets =>
      obtain ⟨read, write⟩ := offsets
      obtain ⟨rfl, rfl, hr, hw⟩ := Ring.offsets_eq_ok_iff.1 hoffsets
      obtain ⟨published, hcount, -⟩ := Ring.occupancy_eq (r.writeOffset s.memory) hr
      rw [poll_eq_scan rd clock max hset hr hw hcount]
      apply scan_ne_halted rd max shows
      rw [UInt32.toNat_toUInt64]
      exact published.toNat_lt_size
  · rw [poll, if_neg hset]
    simp

end Reader

/-- **Offset arithmetic is exact.** Whatever offsets stand in a ring that has been set up, whatever size a header claims
and however far the read offset is to be moved, words decide what unbounded integers would.  A record passes the check
exactly if it ends in the data area and in front of a write offset that lies behind its beginning; its span is then its
header and its payload.  The read offset moves exactly if it lies in the data area and does not pass its end, and the
end is the start; otherwise all stays as it was.  Between offsets in the data area, the bytes that are free and the
bytes that a poll goes through are differences modulo the capacity.  None of these operations halts, and a poll does not
either as long as its clock shows a time. -/
theorem arithmetic_exact {r : Ring} {m : Memory} (hfits : r.Fits m) (hset : r.isSetUp m = true) :
    let C := r.capacity.toNat
    let H := r.headerSize.toNat
    let read := (r.readOffset m).toNat
    let write := (r.writeOffset m).toNat
    (∀ (offset : UInt32) (header : Header),
      ((∃ span, r.checkedSpanOf m offset header = .done span) ↔
        offset.toNat + H + header.size.toNat ≤ C ∧ write < C ∧
          (write ≤ offset.toNat ∨ offset.toNat + H + header.size.toNat ≤ write)) ∧
      (∀ span, r.checkedSpanOf m offset header = .done span → span.toNat = H + header.size.toNat) ∧
      r.checkedSpanOf m offset header ≠ .halted) ∧
    (∀ consumed : UInt64,
      ((r.advance m consumed).1 = .ok () ↔ read < C ∧ read + consumed.toNat ≤ C) ∧
      ((r.advance m consumed).1 = .ok () →
        (r.readOffset (r.advance m consumed).2).toNat = (read + consumed.toNat) % C) ∧
      ((r.advance m consumed).1 ≠ .ok () → (r.advance m consumed).2 = m)) ∧
    (read < C → write < C →
      (∃ free, r.writableBytes m = some free ∧ (free.toNat : Int) = ((read : Int) - write - 1) % C) ∧
      ∃ published, r.occupancy (r.readOffset m) (r.writeOffset m) = some published ∧
        (published.toNat : Int) = ((write : Int) - read) % C ∧
        ∀ (σ : Type) (clock : Clock σ) (rd : Reader) (max : Nat) (c : σ) (st : Stats),
          rd.poll clock r max ⟨m, c, st⟩ = rd.scan clock r max published.toUInt64 0 ⟨m, c, st⟩) ∧
    ∀ (σ : Type) (clock : Clock σ) (rd : Reader) (max : Nat) (c : σ) (st : Stats),
      (∀ c m, (clock.ask c m).time ≠ none) → (rd.poll clock r max ⟨m, c, st⟩).1 ≠ .halted := by
  intro C H read write
  refine ⟨fun offset header => ⟨Ring.exists_checkedSpanOf_iff, ?_, Ring.checkedSpanOf_ne_halted offset header⟩,
    fun consumed => ⟨Ring.advance_eq_ok_iff hfits, Ring.readOffset_advance hfits, Ring.advance_of_ne_ok⟩, ?_,
    fun σ clock rd max c st shows => Reader.poll_ne_halted rd max shows _⟩
  · intro span hspan
    obtain ⟨hsum, -⟩ := Ring.checkedSpanOf_eq_done_iff.1 hspan
    exact hsum
  · intro hr hw
    obtain ⟨published, hcount, hgap⟩ := Ring.occupancy_eq (r.writeOffset m) hr
    refine ⟨Ring.exists_writableBytes hset hr hw, published, hcount, ?_, fun σ clock rd max c st => ?_⟩
    · rw [hgap, Ring.gap_eq_emod hr hw]
    · exact Reader.poll_eq_scan (s := ⟨m, c, st⟩) rd clock max hset hr hw hcount

/-- In a ring of 64 bytes, moving the read offset from 40 by 24 leads to the start, and by the largest word nowhere; a
payload of the largest size passes no check. -/
theorem arithmetic_exact_largest :
    let r : Ring := ⟨0, ⟨64, .packed, by decide, by decide⟩⟩
    let m := r.setOffsets ((Memory.zeros 96).setWord 12 1) 40 10
    r.Fits m ∧ r.isSetUp m = true ∧ (r.readOffset m).toNat < 64 ∧ (r.writeOffset m).toNat < 64 ∧
      (r.readOffset (r.advance m 24).2).toNat = 0 ∧ (r.advance m 0xFFFFFFFFFFFFFFFF).1 ≠ .ok () ∧
      (¬ ∃ span, r.checkedSpanOf m 0 ⟨.hidInfo, 0, 0xFFFFFFFFFFFFFFFF⟩ = .done span) ∧
      (∃ free, r.writableBytes m = some free ∧ (free.toNat : Int) = 29) := by
  intro r m
  have hfits : r.Fits m := by
    have hsize : m.size = 96 := by simp [m, Ring.setOffsets, Ring.setReadOffset, Ring.setWriteOffset]
    rw [Ring.Fits, hsize]
    decide
  have hset : r.isSetUp m = true := by decide +kernel
  have hread : (r.readOffset m).toNat = 40 := by decide +kernel
  have hwrite : (r.writeOffset m).toNat = 10 := by decide +kernel
  have hcapacity : r.capacity.toNat = 64 := rfl
  obtain ⟨hcheck, hadvance, hcount, -⟩ := arithmetic_exact hfits hset
  rw [hread, hcapacity] at hadvance
  rw [hread, hwrite, hcapacity] at hcount
  obtain ⟨free, hfree, hvalue⟩ := (hcount (by decide) (by decide)).1
  refine ⟨hfits, hset, by omega, by omega, ?_, ?_, ?_, free, hfree, hvalue⟩
  · obtain ⟨hok, hto, -⟩ := hadvance 24
    exact hto (hok.2 (by decide))
  · exact fun hok => absurd ((hadvance _).1.1 hok) (by decide)
  · exact fun hpasses => absurd ((hcheck 0 _).1.1 hpasses).1 (by decide)

end EventRing
