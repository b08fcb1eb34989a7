import EventRing.Proofs.Frame
import EventRing.Ring.Produce
import EventRing.Ring.Queue

/-!
# Records in a row

`Ring.Chain r m a es b` says that the records of `es` stand one behind the other from offset `a` to offset `b`, each
whole and each ending at the end of the data area or leaving room for a header; behind the end of the data area the
row goes on at its start.

Main statements: `Chain.append` (two rows in a row), `Chain.stop_eq` and `Chain.gap_eq` (a row is as long as its
records), `Chain.congr` (only the bytes that a row covers matter), `Chain.split_eq` and `Chain.cut` (a row is what
its bytes are cut into, in front of the end of the data area and behind it), and `advance_of_le` (where moving the
read offset leads).
-/

namespace EventRing.Ring

/-- The bytes that an entry takes up in a ring. -/
def span (r : Ring) (e : Entry) : Nat := r.headerSize.toNat + e.payload.length

/-- The bytes that several entries take up. -/
def spans (r : Ring) : List Entry → Nat
  | [] => 0
  | e :: es => r.span e + r.spans es

/-- The record of an entry stands at an offset.  Its bytes are there, and it ends at the end of the data area or leaves
room for a header. -/
structure HoldsAt (r : Ring) (m : Memory) (a : Nat) (e : Entry) : Prop where
  bytes : m.read (r.dataAt a) (r.span e) = e.encode r.geometry.format
  room : r.hasRoomAt (r.span e) a = true

/-- The records of some entries stand one behind the other, from one offset to another.  A record that ends at the
end of the data area is followed by one at its start. -/
inductive Chain (r : Ring) (m : Memory) : Nat → List Entry → Nat → Prop
  | nil (a : Nat) : Chain r m a [] a
  | cons {a b : Nat} {e : Entry} {es : List Entry} (record : r.HoldsAt m a e)
      (rest : Chain r m (r.offsetAfter (r.span e) a) es b) : Chain r m a (e :: es) b

/-- The `n` bytes from offset `a` on, which may run past the end of the data area and on from its start, cover an
offset. -/
def Covers (r : Ring) (a n x : Nat) : Prop := a ≤ x ∧ x < a + n ∨ x + r.capacity.toNat < a + n

variable {r : Ring} {m m' : Memory} {a b c n : Nat} {e : Entry} {es fs : List Entry}

/-! ### Sizes and offsets -/

theorem headerSize_pos (r : Ring) : 0 < r.headerSize.toNat := r.geometry.format.size_pos

theorem headerSize_lt_capacity (r : Ring) : r.headerSize.toNat < r.capacity.toNat := r.geometry.header_lt_toNat

theorem span_entry_pos (r : Ring) (e : Entry) : 0 < r.span e := by
  have h := r.headerSize_pos
  rw [span]
  omega

theorem length_encode (r : Ring) (e : Entry) : (e.encode r.geometry.format).length = r.span e :=
  Entry.length_encode e _

theorem spans_append (r : Ring) (es fs : List Entry) : r.spans (es ++ fs) = r.spans es + r.spans fs := by
  induction es with
  | nil => simp [spans]
  | cons e es ih =>
    rw [List.cons_append, spans, spans, ih]
    omega

theorem hasRoomAt_iff : r.hasRoomAt n a = true ↔
    a + n = r.capacity.toNat ∨ a + n + r.headerSize.toNat ≤ r.capacity.toNat := by
  simp [hasRoomAt]

theorem hasRoomAt_eq_false_iff : r.hasRoomAt n a = false ↔
    a + n ≠ r.capacity.toNat ∧ r.capacity.toNat < a + n + r.headerSize.toNat := by
  rw [← Bool.not_eq_true, hasRoomAt_iff]
  omega

theorem HoldsAt.le (h : r.HoldsAt m a e) : a + r.span e ≤ r.capacity.toNat := by
  have hroom := hasRoomAt_iff.1 h.room
  omega

theorem offsetAfter_lt (h : a + n ≤ r.capacity.toNat) : r.offsetAfter n a < r.capacity.toNat := by
  have hpos := r.headerSize_lt_capacity
  rw [offsetAfter]
  split <;> omega

/-- Behind a record that leaves room for a header there is room for one, and there is room for one in front of it
unless the record ends the data area. -/
theorem offsetAfter_room (h : r.hasRoomAt n a = true) (hle : r.headerSize.toNat ≤ n) :
    r.offsetAfter n a + r.headerSize.toNat ≤ r.capacity.toNat ∧
      (r.offsetAfter n a = 0 ∨ r.headerSize.toNat ≤ r.offsetAfter n a) := by
  have hpos := r.headerSize_lt_capacity
  rw [offsetAfter]
  by_cases hend : a + n = r.capacity.toNat
  · rw [if_pos hend]
    exact ⟨by omega, .inl rfl⟩
  · have hcases := hasRoomAt_iff.1 h
    rw [if_neg hend]
    exact ⟨by omega, .inr (by omega)⟩

theorem offsetAfter_eq_mod (h : a + n ≤ r.capacity.toNat) : r.offsetAfter n a = (a + n) % r.capacity.toNat := by
  rw [offsetAfter]
  by_cases hend : a + n = r.capacity.toNat
  · rw [if_pos hend, hend, Nat.mod_self]
  · rw [if_neg hend, Nat.mod_eq_of_lt (by omega)]

theorem toNat_ofNat_of_le_capacity (h : n ≤ r.capacity.toNat) : (UInt32.ofNat n).toNat = n := by
  have hcap : r.capacity.toNat ≤ 1048576 := r.geometry.capacity_le_toNat
  have hlt : n < 2 ^ 32 := by omega
  exact UInt32.toNat_ofNat_of_lt' hlt

/-- Moving the read offset over bytes that do not run past the end of the data area. -/
theorem advance_of_le (consumed : UInt64) (hfits : r.Fits m) (hr : (r.readOffset m).toNat < r.capacity.toNat)
    (hle : (r.readOffset m).toNat + consumed.toNat ≤ r.capacity.toNat) :
    ∃ m', r.advance m consumed = (.ok (), m') ∧ r.OnlyReadOffset m m' ∧
      (r.readOffset m').toNat = r.offsetAfter consumed.toNat (r.readOffset m).toNat := by
  have hoffset : (UInt32.ofNat (r.offsetAfter consumed.toNat (r.readOffset m).toNat)).toNat
      = r.offsetAfter consumed.toNat (r.readOffset m).toNat :=
    toNat_ofNat_of_le_capacity (Nat.le_of_lt (offsetAfter_lt hle))
  have hadvanced : r.advancedOffset m consumed
      = .ok (UInt32.ofNat (r.offsetAfter consumed.toNat (r.readOffset m).toNat)) := by
    rw [advancedOffset_eq_ok_iff, hoffset]
    refine ⟨hr, ?_⟩
    unfold offsetAfter
    split <;> omega
  refine ⟨r.setReadOffset m (UInt32.ofNat (r.offsetAfter consumed.toNat (r.readOffset m).toNat)), ?_,
    onlyReadOffset_setReadOffset r m _, ?_⟩
  · rw [advance, hadvanced]
  · rw [readOffset_setReadOffset hfits, hoffset]

theorem unreadSize_eq_gap (r : Ring) (m : Memory) :
    r.unreadSize m = r.gap (r.readOffset m).toNat (r.writeOffset m).toNat := r.unreadSize_eq m

/-! ### Rows of records -/

theorem Chain.append (h : r.Chain m a es b) (h' : r.Chain m b fs c) : r.Chain m a (es ++ fs) c := by
  induction h with
  | nil a => exact h'
  | cons record rest ih => exact .cons record (ih h')

theorem Chain.single (h : r.HoldsAt m a e) : r.Chain m a [e] (r.offsetAfter (r.span e) a) := .cons h (.nil _)

/-- A row stops as many bytes behind its start as its records take up, counted round the circle. -/
theorem Chain.stop_eq (h : r.Chain m a es b) (ha : a < r.capacity.toNat) :
    b = (a + r.spans es) % r.capacity.toNat := by
  induction h with
  | nil a => rw [spans, Nat.add_zero, Nat.mod_eq_of_lt ha]
  | @cons a b e es record rest ih =>
    rw [ih (offsetAfter_lt record.le), offsetAfter_eq_mod record.le, Nat.mod_add_mod, spans, Nat.add_assoc]

theorem Chain.gap_eq (h : r.Chain m a es b) (ha : a < r.capacity.toNat) (hlt : r.spans es < r.capacity.toNat) :
    r.gap a b = r.spans es := by
  have hstop := h.stop_eq ha
  unfold gap
  rcases Nat.lt_or_ge (a + r.spans es) r.capacity.toNat with hle | hge
  · rw [Nat.mod_eq_of_lt hle] at hstop
    rw [if_pos (by omega)]
    omega
  · rw [Nat.mod_eq_sub_mod hge, Nat.mod_eq_of_lt (by omega)] at hstop
    rw [if_neg (by omega)]
    omega

/-- Behind a row of records there is room for a header, and in front of its end too unless the row ends the data
area. -/
theorem Chain.stop_room (h : r.Chain m a es b) (hes : es ≠ []) :
    b + r.headerSize.toNat ≤ r.capacity.toNat ∧ (b = 0 ∨ r.headerSize.toNat ≤ b) := by
  induction h with
  | nil a => exact absurd rfl hes
  | @cons a b e es record rest ih =>
    cases rest with
    | nil => exact offsetAfter_room record.room (Nat.le_add_right _ _)
    | cons record' rest' => exact ih (by simp)

/-- Only the data bytes that a record covers matter to it. -/
theorem HoldsAt.congr (h : r.HoldsAt m a e)
    (same : ∀ x, a ≤ x → x < a + r.span e → m'.byteAt (r.dataAt x) = m.byteAt (r.dataAt x)) : r.HoldsAt m' a e := by
  refine ⟨?_, h.room⟩
  rw [← h.bytes]
  apply Memory.read_congr
  intro i hlo hhi
  rw [dataAt_eq] at hlo hhi
  have hat : i = r.dataAt (i - r.base - 32) := by
    rw [dataAt_eq]
    omega
  rw [hat]
  exact same _ (by omega) (by omega)

/-- Only the data bytes that a row covers matter to it. -/
theorem Chain.congr (h : r.Chain m a es b) (hle : r.spans es ≤ r.capacity.toNat)
    (same : ∀ x, x < r.capacity.toNat → r.Covers a (r.spans es) x →
      m'.byteAt (r.dataAt x) = m.byteAt (r.dataAt x)) : r.Chain m' a es b := by
  induction h with
  | nil a => exact .nil a
  | @cons a b e es record rest ih =>
    have hend := record.le
    simp only [spans] at hle same
    refine .cons (record.congr fun x hlo hhi => same x (by omega) (Or.inl (by omega))) (ih (by omega) ?_)
    intro x hx hcovers
    refine same x hx ?_
    unfold Covers offsetAfter at *
    split at hcovers <;> omega

/-- A row that does not run past the end of the data area is what its bytes are cut into. -/
theorem Chain.split_eq (h : r.Chain m a es b) (hle : a + r.spans es ≤ r.capacity.toNat) :
    Entry.split r.geometry.format (m.read (r.dataAt a) (r.spans es)) = (es, []) := by
  induction h with
  | nil a => simp [spans, Memory.read]
  | @cons a b e es record rest ih =>
    have hcap := r.geometry.capacity_le_toNat
    have hlen : e.payload.length < 2 ^ 64 := by
      have hend := record.le
      rw [span, capacity] at hend
      omega
    rw [spans, Memory.read_add, record.bytes, Entry.split_encode_append _ _ _ hlen, dataAt_add]
    rw [spans] at hle
    by_cases hend : a + r.span e = r.capacity.toNat
    · -- The record ends the data area, so nothing is left for the rest.
      have hnil : es = [] := by
        cases es with
        | nil => rfl
        | cons e' es' =>
          have hpos := r.span_entry_pos e'
          rw [spans] at hle
          omega
      subst hnil
      simp [spans, Memory.read]
    · rw [offsetAfter, if_neg hend] at ih
      rw [ih (by omega)]

/-- A row that reaches the end of the data area has a record that ends there. -/
theorem Chain.cut (h : r.Chain m a es b) (ha : a < r.capacity.toNat) (hge : r.capacity.toNat ≤ a + r.spans es) :
    ∃ before after, es = before ++ after ∧ a + r.spans before = r.capacity.toNat ∧ r.Chain m a before 0 ∧
      r.Chain m 0 after b := by
  induction h with
  | nil a =>
    rw [spans] at hge
    omega
  | @cons a b e es record rest ih =>
    rw [spans] at hge
    by_cases hend : a + r.span e = r.capacity.toNat
    · have hzero : r.offsetAfter (r.span e) a = 0 := if_pos hend
      rw [hzero] at rest
      refine ⟨[e], es, rfl, by simpa [spans] using hend, ?_, rest⟩
      exact .cons record (by rw [hzero]; exact .nil 0)
    · have hnext : r.offsetAfter (r.span e) a = a + r.span e := if_neg hend
      have hle := record.le
      rw [hnext] at ih
      obtain ⟨before, after, rfl, hsum, hbefore, hafter⟩ := ih (by omega) (by omega)
      refine ⟨e :: before, after, rfl, by rw [spans]; omega, ?_, hafter⟩
      exact .cons record (by rw [hnext]; exact hbefore)

end EventRing.Ring
