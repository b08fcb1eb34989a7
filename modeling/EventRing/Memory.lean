import EventRing.Bytes

/-!
# Memory

A block of bytes, as it is mapped by the processes that share it.  Reading past the end gives zeros and writing past
the end does nothing, so that both are total.  The view of a block is `byteAt`; main statements: `byteAt_zeros`,
`byteAt_setByte`, `byteAt_blit_of_outside` and `byteAt_blit` say what each operation does to it, and `read_congr` that
reading sees nothing else.  A block is equal to another if the views are (`ext_byteAt`), so writes to ranges that do not
meet commute (`blit_comm`), and of two writes to one range the second remains (`blit_blit`).
-/

namespace EventRing

/-- A block of memory. -/
structure Memory where
  bytes : ByteArray

namespace Memory

/-- The number of bytes in a block. -/
def size (m : Memory) : Nat := m.bytes.size

/-- A block of `n` zero bytes. -/
def zeros (n : Nat) : Memory := ⟨n.fold (fun _ _ bs => bs.push 0) ByteArray.empty⟩

/-- The byte at a position. -/
def byteAt (m : Memory) (i : Nat) : UInt8 :=
  if h : i < m.bytes.size then m.bytes[i] else 0

/-- The block with one byte replaced. -/
def setByte (m : Memory) (i : Nat) (b : UInt8) : Memory :=
  if h : i < m.bytes.size then ⟨m.bytes.set i b h⟩ else m

/-- The `n` bytes from a position on. -/
def read (m : Memory) (start n : Nat) : List UInt8 :=
  (List.range' start n).map m.byteAt

/-- The block with the bytes from a position on replaced. -/
def blit (m : Memory) (start : Nat) : List UInt8 → Memory
  | [] => m
  | b :: bs => (m.setByte start b).blit (start + 1) bs

/-- The 32-bit word at a position. -/
def word (m : Memory) (start : Nat) : UInt32 := Bytes.toUInt32 (m.read start 4)

/-- The block with the 32-bit word at a position replaced. -/
def setWord (m : Memory) (start : Nat) (v : UInt32) : Memory := m.blit start (Bytes.ofUInt32 v)

/-! ## What the operations do to the view -/

theorem byteAt_eq_getD (m : Memory) (i : Nat) : m.byteAt i = m.bytes.data[i]?.getD 0 := by
  unfold byteAt
  split
  · next h =>
    have h' : i < m.bytes.data.size := h
    rw [Array.getElem?_eq_getElem h']
    rfl
  · next h =>
    have h' : m.bytes.data.size ≤ i := Nat.not_lt.1 h
    rw [Array.getElem?_eq_none h']
    rfl

theorem data_setByte (m : Memory) (i : Nat) (b : UInt8) :
    (m.setByte i b).bytes.data = m.bytes.data.setIfInBounds i b := by
  unfold setByte
  split
  · next h =>
    have h' : i < m.bytes.data.size := h
    rw [Array.setIfInBounds, dif_pos h']
    rfl
  · next h =>
    have h' : ¬ i < m.bytes.data.size := h
    rw [Array.setIfInBounds, dif_neg h']

theorem size_eq_data (m : Memory) : m.size = m.bytes.data.size := rfl

@[simp] theorem size_setByte (m : Memory) (i : Nat) (b : UInt8) : (m.setByte i b).size = m.size := by
  rw [size_eq_data, data_setByte, Array.size_setIfInBounds, ← size_eq_data]

theorem byteAt_setByte (m : Memory) (i j : Nat) (b : UInt8) :
    (m.setByte i b).byteAt j = if i = j ∧ i < m.size then b else m.byteAt j := by
  rw [byteAt_eq_getD, data_setByte, Array.getElem?_setIfInBounds, byteAt_eq_getD, size_eq_data]
  by_cases hij : i = j
  · subst hij
    by_cases hi : i < m.bytes.data.size
    · rw [if_pos rfl, if_pos hi, if_pos ⟨rfl, hi⟩]
      rfl
    · rw [if_pos rfl, if_neg hi, if_neg (fun h => hi h.2), Array.getElem?_eq_none (Nat.not_lt.1 hi)]
  · rw [if_neg hij, if_neg (fun h => hij h.1)]

@[simp] theorem size_blit (m : Memory) (start : Nat) (bs : List UInt8) : (m.blit start bs).size = m.size := by
  induction bs generalizing m start with
  | nil => rfl
  | cons b bs ih => rw [blit, ih, size_setByte]

@[simp] theorem size_setWord (m : Memory) (start : Nat) (v : UInt32) : (m.setWord start v).size = m.size :=
  size_blit m start _

/-- A write leaves every byte outside its range as it was. -/
theorem byteAt_blit_of_outside (m : Memory) (start j : Nat) (bs : List UInt8)
    (h : j < start ∨ start + bs.length ≤ j) : (m.blit start bs).byteAt j = m.byteAt j := by
  induction bs generalizing m start with
  | nil => rfl
  | cons b bs ih =>
    simp only [List.length_cons] at h
    rw [blit, ih _ _ (by omega), byteAt_setByte, if_neg (by omega)]

/-- A write within the block puts its bytes in place. -/
theorem byteAt_blit (m : Memory) (start i : Nat) (bs : List UInt8) (hi : i < bs.length)
    (hfit : start + bs.length ≤ m.size) : (m.blit start bs).byteAt (start + i) = bs[i] := by
  induction bs generalizing m start i with
  | nil => simp at hi
  | cons b bs ih =>
    simp only [List.length_cons] at hi hfit
    rw [blit]
    cases i with
    | zero =>
      rw [byteAt_blit_of_outside _ _ _ _ (by omega), byteAt_setByte, if_pos (by omega)]
      rfl
    | succ i =>
      have hpos : start + (i + 1) = start + 1 + i := by omega
      rw [hpos, ih (m.setByte start b) (start + 1) i (by omega) (by rw [size_setByte]; omega)]
      rfl

/-- A write makes the same of a byte in any two blocks of one extent that agree on it. -/
theorem byteAt_blit_congr {m m' : Memory} {j : Nat} (start : Nat) (bs : List UInt8) (hsize : m'.size = m.size)
    (h : m'.byteAt j = m.byteAt j) : (m'.blit start bs).byteAt j = (m.blit start bs).byteAt j := by
  induction bs generalizing m m' start with
  | nil => exact h
  | cons b bs ih =>
    refine ih (start + 1) (by rw [size_setByte, size_setByte, hsize]) ?_
    rw [byteAt_setByte, byteAt_setByte, hsize, h]

@[simp] theorem length_read (m : Memory) (start n : Nat) : (m.read start n).length = n := by
  simp [read]

theorem getElem_read (m : Memory) (start n i : Nat) (h : i < (m.read start n).length) :
    (m.read start n)[i] = m.byteAt (start + i) := by
  simp [read]

/-- What was written within the block is what is read from there. -/
theorem read_blit (m : Memory) (start : Nat) (bs : List UInt8) (hfit : start + bs.length ≤ m.size) :
    (m.blit start bs).read start bs.length = bs := by
  apply List.ext_getElem
  · simp
  · intro i h1 h2
    rw [getElem_read, byteAt_blit m start i bs h2 hfit]

theorem word_setWord (m : Memory) (start : Nat) (v : UInt32) (hfit : start + 4 ≤ m.size) :
    (m.setWord start v).word start = v := by
  have h := read_blit m start (Bytes.ofUInt32 v) (by simpa using hfit)
  rw [Bytes.length_ofUInt32] at h
  rw [word, setWord, h, Bytes.toUInt32_ofUInt32]

/-- What is read depends only on the bytes in the range. -/
theorem read_congr {m m' : Memory} {start n : Nat}
    (h : ∀ i, start ≤ i → i < start + n → m'.byteAt i = m.byteAt i) : m'.read start n = m.read start n := by
  apply List.ext_getElem
  · simp
  · intro i h1 h2
    rw [getElem_read, getElem_read]
    rw [length_read] at h2
    exact h _ (by omega) (by omega)

theorem word_congr {m m' : Memory} {start : Nat}
    (h : ∀ i, start ≤ i → i < start + 4 → m'.byteAt i = m.byteAt i) : m'.word start = m.word start := by
  rw [word, word, read_congr h]

/-- A range is read piece by piece. -/
theorem read_add (m : Memory) (start a b : Nat) : m.read start (a + b) = m.read start a ++ m.read (start + a) b := by
  unfold read
  rw [← List.map_append, List.range'_append_1]

theorem take_read (m : Memory) (start : Nat) {k n : Nat} (h : k ≤ n) : (m.read start n).take k = m.read start k := by
  obtain ⟨d, rfl⟩ := Nat.exists_eq_add_of_le h
  rw [read_add, List.take_left' (length_read _ _ _)]

theorem drop_read (m : Memory) (start : Nat) {k n : Nat} (h : k ≤ n) :
    (m.read start n).drop k = m.read (start + k) (n - k) := by
  obtain ⟨d, rfl⟩ := Nat.exists_eq_add_of_le h
  rw [read_add, List.drop_left' (length_read _ _ _), Nat.add_sub_cancel_left]

/-- Two adjoining writes are one. -/
theorem blit_append (m : Memory) (start : Nat) (as bs : List UInt8) :
    m.blit start (as ++ bs) = (m.blit start as).blit (start + as.length) bs := by
  induction as generalizing m start with
  | nil => rfl
  | cons a as ih =>
    rw [List.cons_append, blit, blit, ih, List.length_cons, Nat.add_assoc, Nat.add_comm 1]

theorem byteAt_setWord_of_outside (m : Memory) (start j : Nat) (v : UInt32) (h : j < start ∨ start + 4 ≤ j) :
    (m.setWord start v).byteAt j = m.byteAt j :=
  byteAt_blit_of_outside m start j _ (by rw [Bytes.length_ofUInt32]; exact h)

theorem data_zeros (n : Nat) : (zeros n).bytes.data = Array.replicate n 0 := by
  unfold zeros
  induction n with
  | zero => rfl
  | succ n ih =>
    rw [Nat.fold_succ, Array.replicate_succ, ← ih]
    rfl

@[simp] theorem size_zeros (n : Nat) : (zeros n).size = n := by
  rw [size_eq_data, data_zeros, Array.size_replicate]

theorem byteAt_zeros (n i : Nat) : (zeros n).byteAt i = 0 := by
  rw [byteAt_eq_getD, data_zeros, Array.getElem?_replicate]
  split <;> rfl

theorem word_zeros (n start : Nat) : (zeros n).word start = 0 := by
  simp only [word, read, byteAt_zeros, List.range', List.map]
  rfl

/-! ## The order of writes -/

/-- A block is known by its extent and its bytes. -/
theorem ext_byteAt {m m' : Memory} (hsize : m'.size = m.size) (h : ∀ i, m'.byteAt i = m.byteAt i) : m' = m := by
  obtain ⟨⟨data⟩⟩ := m
  obtain ⟨⟨data'⟩⟩ := m'
  have hdata : data' = data := by
    refine Array.ext hsize fun i h1 h2 => ?_
    have hat := h i
    rw [byteAt_eq_getD, byteAt_eq_getD, Array.getElem?_eq_getElem h1, Array.getElem?_eq_getElem h2] at hat
    exact hat
  rw [hdata]

theorem setByte_comm (m : Memory) {i j : Nat} (b c : UInt8) (h : i ≠ j) :
    (m.setByte i b).setByte j c = (m.setByte j c).setByte i b := by
  refine ext_byteAt (by simp only [size_setByte]) fun x => ?_
  simp only [byteAt_setByte, size_setByte]
  by_cases hj : j = x
  · rw [if_neg (show ¬ (i = x ∧ i < m.size) by omega), if_neg (show ¬ (i = x ∧ i < m.size) by omega)]
  · rw [if_neg (show ¬ (j = x ∧ j < m.size) by omega), if_neg (show ¬ (j = x ∧ j < m.size) by omega)]

theorem setByte_setByte (m : Memory) (i : Nat) (b c : UInt8) : (m.setByte i b).setByte i c = m.setByte i c := by
  refine ext_byteAt (by simp only [size_setByte]) fun x => ?_
  simp only [byteAt_setByte, size_setByte]
  split <;> rfl

theorem setByte_byteAt (m : Memory) (i : Nat) : m.setByte i (m.byteAt i) = m := by
  refine ext_byteAt (size_setByte _ _ _) fun x => ?_
  rw [byteAt_setByte]
  split
  · next h => rw [h.1]
  · rfl

theorem blit_setByte_comm (m : Memory) {start i : Nat} (bs : List UInt8) (b : UInt8)
    (h : i < start ∨ start + bs.length ≤ i) : (m.setByte i b).blit start bs = (m.blit start bs).setByte i b := by
  induction bs generalizing m start with
  | nil => rfl
  | cons c bs ih =>
    simp only [List.length_cons] at h
    rw [blit, blit, setByte_comm m b c (by omega), ih (m.setByte start c) (by omega)]

/-- Writes to ranges that do not meet can be made in either order. -/
theorem blit_comm (m : Memory) {a b : Nat} (as bs : List UInt8) (h : a + as.length ≤ b ∨ b + bs.length ≤ a) :
    (m.blit a as).blit b bs = (m.blit b bs).blit a as := by
  induction as generalizing m a with
  | nil => rfl
  | cons c as ih =>
    simp only [List.length_cons] at h
    rw [blit, blit, ih (m.setByte a c) (by omega), blit_setByte_comm m bs c (by omega)]

/-- Of two writes to one range the second remains. -/
theorem blit_blit (m : Memory) (start : Nat) {as bs : List UInt8} (h : as.length = bs.length) :
    (m.blit start as).blit start bs = m.blit start bs := by
  induction as generalizing m start bs with
  | nil =>
    rw [List.length_nil] at h
    rw [List.eq_nil_of_length_eq_zero h.symm]
    rfl
  | cons a as ih =>
    cases bs with
    | nil => simp at h
    | cons b bs =>
      simp only [List.length_cons, Nat.add_right_cancel_iff] at h
      rw [blit, blit, blit, ← blit_setByte_comm _ as b (by omega), setByte_setByte, ih _ _ h]

/-- Writing back what is there changes nothing. -/
theorem blit_read (m : Memory) (start n : Nat) : m.blit start (m.read start n) = m := by
  induction n generalizing start with
  | zero => rfl
  | succ n ih =>
    have hread : m.read start (n + 1) = m.byteAt start :: m.read (start + 1) n := rfl
    rw [hread, blit, setByte_byteAt, ih]

theorem setWord_comm (m : Memory) {a b : Nat} (v w : UInt32) (h : a + 4 ≤ b ∨ b + 4 ≤ a) :
    (m.setWord a v).setWord b w = (m.setWord b w).setWord a v :=
  blit_comm m _ _ (by rw [Bytes.length_ofUInt32, Bytes.length_ofUInt32]; exact h)

theorem setWord_blit_comm (m : Memory) {a b : Nat} (v : UInt32) (bs : List UInt8)
    (h : a + 4 ≤ b ∨ b + bs.length ≤ a) : (m.setWord a v).blit b bs = (m.blit b bs).setWord a v :=
  blit_comm m _ _ (by rw [Bytes.length_ofUInt32]; exact h)

theorem setWord_setWord (m : Memory) (start : Nat) (v w : UInt32) :
    (m.setWord start v).setWord start w = m.setWord start w :=
  blit_blit m start (by rw [Bytes.length_ofUInt32, Bytes.length_ofUInt32])

theorem setWord_word (m : Memory) (start : Nat) : m.setWord start (m.word start) = m := by
  rw [setWord, word, Bytes.ofUInt32_toUInt32 (length_read _ _ _), blit_read]

end Memory

end EventRing
