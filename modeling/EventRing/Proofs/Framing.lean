import EventRing.Proofs.Hostile

/-!
# The framing of unread bytes

What records are is said here of byte strings alone: `IsRecord` is a header whose size field tells the number of bytes
behind it.  The unread bytes of a ring are in two pieces, up to the end of the data area and from its start on.
`Framed` says how both are made up of records, `FramedPrefix` how the bytes at their head are.  Neither leaves a choice
(`prefix_or_prefix`): of two rows of records at the head of the same bytes, one begins with the other.

`Ring.Drops` is the walk that drops one record after the other.  Nothing is assumed about the data bytes.  Main
statements: `Ready.free_record` (the record at the head of the first piece is dropped), `Ready.free_overruns` (where
none stands there, the bytes that do reach past the piece, and nothing is dropped), `Ready.walk` (the walk as a whole),
and `framing_walk`, which compares it with the grammar.
-/

namespace EventRing

variable {f : HeaderFormat} {bs x y rest : List UInt8} {u : List UInt8 × List UInt8} {xs ys : List (List UInt8)}

/-! ### Records in a byte string -/

/-- A header and as many bytes behind it as its size field says. -/
def IsRecord (f : HeaderFormat) (bs : List UInt8) : Prop :=
  ∃ h, Header.decode bs f = some h ∧ bs.length = f.size.toNat + h.size.toNat

/-- The header at the head of a byte string, or its payload, reaches past the end. -/
def Overruns (f : HeaderFormat) (bs : List UInt8) : Prop :=
  bs.length < f.size.toNat ∨ ∃ h, Header.decode bs f = some h ∧ bs.length < f.size.toNat + h.size.toNat

/-- Byte strings that are records one by one. -/
def Records (f : HeaderFormat) (xs : List (List UInt8)) : Prop := ∀ x ∈ xs, IsRecord f x

/-- Two pieces are made up of records, and these are all of them in order. -/
def Framed (f : HeaderFormat) (u : List UInt8 × List UInt8) (xs : List (List UInt8)) : Prop :=
  Records f xs ∧ ∃ before after, xs = before ++ after ∧ before.flatten = u.1 ∧ after.flatten = u.2

/-- The bytes at the head of two pieces are made up of records, and these are all of them in order.  None of them goes
from one piece into the other. -/
def FramedPrefix (f : HeaderFormat) (u : List UInt8 × List UInt8) (xs : List (List UInt8)) : Prop :=
  Records f xs ∧
    (xs.flatten <+: u.1 ∨ ∃ before after, xs = before ++ after ∧ before.flatten = u.1 ∧ after.flatten <+: u.2)

theorem IsRecord.size_le (h : IsRecord f x) : f.size.toNat ≤ x.length := by
  obtain ⟨header, -, hlen⟩ := h
  omega

theorem IsRecord.ne_nil (h : IsRecord f x) : x ≠ [] := by
  have hpos := f.size_pos
  have hle := h.size_le
  rintro rfl
  rw [List.length_nil] at hle
  omega

/-- The header of a record is that of any byte string which begins with the record. -/
theorem IsRecord.decode_eq (h : IsRecord f x) (hx : x <+: bs) :
    ∃ header, Header.decode bs f = some header ∧ x.length = f.size.toNat + header.size.toNat := by
  have hle := h.size_le
  obtain ⟨header, hdecode, hlen⟩ := h
  obtain ⟨t, rfl⟩ := hx
  exact ⟨header, (Header.decode_append hle t).trans hdecode, hlen⟩

theorem IsRecord.eq_of_begins (hx : IsRecord f x) (hy : IsRecord f y) (h : x <+: bs) (h' : y <+: bs) : x = y := by
  obtain ⟨header, hdecode, hlen⟩ := hx.decode_eq h
  obtain ⟨header', hdecode', hlen'⟩ := hy.decode_eq h'
  rw [hdecode, Option.some.injEq] at hdecode'
  subst hdecode'
  exact (List.prefix_of_prefix_length_le h h' (by omega)).eq_of_length (by omega)

/-- The first entry of a byte string is the record at its head, and if there is none, what stands there reaches past the
end. -/
theorem first?_spec (f : HeaderFormat) (bs : List UInt8) :
    match Entry.first? f bs with
    | none => Overruns f bs
    | some (_, n) => IsRecord f (bs.take n) := by
  unfold Entry.first?
  cases hdecode : Header.decode bs f with
  | none => exact .inl (Header.decode_eq_none_iff.1 hdecode)
  | some h =>
    dsimp only
    by_cases hstop : f.size.toNat + h.size.toNat ≤ bs.length
    · rw [if_pos hstop]
      have hlen := List.length_take_of_le hstop
      refine ⟨h, ?_, hlen⟩
      rw [← Header.decode_append (by omega) (bs.drop (f.size.toNat + h.size.toNat)), List.take_append_drop]
      exact hdecode
    · rw [if_neg hstop]
      exact .inr ⟨h, hdecode, Nat.not_le.1 hstop⟩

theorem overruns_or_record (f : HeaderFormat) (bs : List UInt8) :
    Overruns f bs ∨ ∃ x, IsRecord f x ∧ x <+: bs := by
  have hfirst := first?_spec f bs
  cases h : Entry.first? f bs with
  | none =>
    rw [h] at hfirst
    exact .inl hfirst
  | some found =>
    rw [h] at hfirst
    exact .inr ⟨_, hfirst, List.take_prefix _ _⟩

theorem Overruns.not_record (h : Overruns f bs) (hx : IsRecord f x) : ¬ x <+: bs := by
  intro hbegins
  have hle := hbegins.length_le
  have hsize := hx.size_le
  obtain ⟨header, hdecode, hlen⟩ := hx.decode_eq hbegins
  rcases h with hlt | ⟨header', hdecode', hlt⟩
  · omega
  · rw [hdecode, Option.some.injEq] at hdecode'
    subst hdecode'
    omega

theorem overruns_nil (f : HeaderFormat) : Overruns f [] := .inl f.size_pos

/-! ### Rows of records -/

theorem records_append_iff : Records f (xs ++ ys) ↔ Records f xs ∧ Records f ys := List.forall_mem_append

theorem records_cons_iff : Records f (x :: xs) ↔ IsRecord f x ∧ Records f xs := List.forall_mem_cons

/-- Two rows of records at the head of the same bytes: one begins with the other. -/
theorem prefix_or_prefix (hx : Records f xs) (hy : Records f ys) (h : xs.flatten <+: bs) (h' : ys.flatten <+: bs) :
    xs <+: ys ∨ ys <+: xs := by
  induction xs generalizing ys bs with
  | nil => exact .inl List.nil_prefix
  | cons x xs ih =>
    cases ys with
    | nil => exact .inr List.nil_prefix
    | cons y ys =>
      rw [records_cons_iff] at hx hy
      rw [List.flatten_cons] at h h'
      have hxs := (List.prefix_append x xs.flatten).trans h
      obtain rfl : x = y := hx.1.eq_of_begins hy.1 hxs ((List.prefix_append _ _).trans h')
      obtain ⟨t, rfl⟩ := hxs
      rw [List.prefix_append_right_inj] at h h'
      rcases ih hx.2 hy.2 h h' with hle | hle
      · exact .inl ((List.prefix_cons_inj x).2 hle)
      · exact .inr ((List.prefix_cons_inj x).2 hle)

/-- A row of records that ends where no record follows is the longest one. -/
theorem prefix_of_overruns (hx : Records f xs) (hy : Records f ys) (hover : Overruns f rest)
    (h : ys.flatten <+: xs.flatten ++ rest) : ys <+: xs := by
  rcases prefix_or_prefix hx hy (List.prefix_append _ _) h with ⟨zs, rfl⟩ | hle
  · rw [List.flatten_append, List.prefix_append_right_inj] at h
    cases zs with
    | nil => simp
    | cons z zs =>
      rw [records_append_iff, records_cons_iff] at hy
      rw [List.flatten_cons] at h
      exact absurd ((List.prefix_append _ _).trans h) (hover.not_record hy.2.1)
  · exact hle

/-- Bytes are made up of records in one way at most. -/
theorem eq_of_flatten_eq (hx : Records f xs) (hy : Records f ys) (h : xs.flatten = ys.flatten) : xs = ys := by
  have hle : xs <+: ys := prefix_of_overruns hy hx (overruns_nil f) (by rw [h]; exact List.prefix_append _ _)
  have hge : ys <+: xs := prefix_of_overruns hx hy (overruns_nil f) (by rw [h]; exact List.prefix_append _ _)
  exact hle.eq_of_length (Nat.le_antisymm hle.length_le hge.length_le)

/-- If bytes are made up of records, nothing is left of them where no record follows. -/
theorem eq_nil_of_flatten_eq (hx : Records f xs) (hy : Records f ys) (hover : Overruns f rest)
    (h : ys.flatten = xs.flatten ++ rest) : rest = [] := by
  obtain ⟨t, rfl⟩ : ys <+: xs := prefix_of_overruns hx hy hover ⟨[], (List.append_nil _).trans h⟩
  rw [List.flatten_append, List.append_assoc, List.self_eq_append_right, List.append_eq_nil_iff] at h
  exact h.2

theorem Framed.framedPrefix (h : Framed f u xs) : FramedPrefix f u xs := by
  obtain ⟨hx, before, after, hxs, hbefore, hafter⟩ := h
  exact ⟨hx, .inr ⟨before, after, hxs, hbefore, [], (List.append_nil _).trans hafter⟩⟩

theorem Framed.flatten_eq (h : Framed f u xs) : xs.flatten = u.1 ++ u.2 := by
  obtain ⟨-, before, after, rfl, hbefore, hafter⟩ := h
  rw [List.flatten_append, hbefore, hafter]

/-- Where a walk over two pieces stops: the records it has passed, and the pieces that are left. -/
inductive Stop (f : HeaderFormat) :
    List UInt8 × List UInt8 → List (List UInt8) → List UInt8 × List UInt8 → Prop
  | before {rest after : List UInt8} {xs : List (List UInt8)} (records : Records f xs) (left : rest ≠ [])
      (overruns : Overruns f rest) : Stop f (xs.flatten ++ rest, after) xs (rest, after)
  | after {rest : List UInt8} {xs ys : List (List UInt8)} (first : Records f xs) (second : Records f ys)
      (overruns : Overruns f rest) : Stop f (xs.flatten, ys.flatten ++ rest) (xs ++ ys) (rest, [])

variable {left : List UInt8 × List UInt8}

theorem Stop.framedPrefix (h : Stop f u xs left) : FramedPrefix f u xs := by
  cases h with
  | before records _ _ => exact ⟨records, .inl (List.prefix_append _ _)⟩
  | after first second _ =>
    exact ⟨records_append_iff.2 ⟨first, second⟩, .inr ⟨_, _, rfl, rfl, List.prefix_append _ _⟩⟩

/-- What has been passed where a walk stops is the longest row of records. -/
theorem Stop.longest (h : Stop f u xs left) (hy : FramedPrefix f u ys) : ys <+: xs := by
  obtain ⟨hrecords, hhead⟩ := hy
  cases h with
  | @before rest _ xs records hleft overruns =>
    rcases hhead with hhead | ⟨as, bs, rfl, has, -⟩
    · exact prefix_of_overruns records hrecords overruns hhead
    · -- The first piece is not all records, since some of it is left.
      rw [records_append_iff] at hrecords
      exact absurd (eq_nil_of_flatten_eq records hrecords.1 overruns has) hleft
  | @after rest xs zs first second overruns =>
    rcases hhead with hhead | ⟨as, bs, rfl, has, hbs⟩
    · have hle := prefix_of_overruns first hrecords (overruns_nil f) (by rw [List.append_nil]; exact hhead)
      exact hle.trans (List.prefix_append _ _)
    · rw [records_append_iff] at hrecords
      obtain rfl : as = xs := eq_of_flatten_eq hrecords.1 first has
      rw [List.prefix_append_right_inj]
      exact prefix_of_overruns second hrecords.2 overruns hbs

/-- Two pieces are made up of records exactly if nothing is left where a walk stops, and then of those it has passed. -/
theorem Stop.framed_iff (h : Stop f u xs left) : Framed f u ys ↔ left.1 = [] ∧ ys = xs := by
  constructor
  · intro hy
    have hflatten := hy.flatten_eq
    obtain ⟨t, ht⟩ := h.longest hy.framedPrefix
    have hbytes := congrArg List.flatten ht
    rw [List.flatten_append] at hbytes
    cases h with
    | before _ hne _ =>
      rw [← hbytes, List.append_assoc, List.append_assoc, List.self_eq_append_right, List.append_eq_nil_iff,
        List.append_eq_nil_iff] at hflatten
      exact absurd hflatten.2.1 hne
    | @after rest xs zs first second overruns =>
      have hsum : xs.flatten ++ (zs.flatten ++ rest) = ys.flatten ++ (t.flatten ++ rest) := by
        rw [← List.append_assoc, ← List.flatten_append, ← hbytes, List.append_assoc]
      rw [hsum, List.self_eq_append_right, List.append_eq_nil_iff] at hflatten
      rw [hflatten.1, List.append_nil] at hbytes
      exact ⟨hflatten.2, eq_of_flatten_eq hy.1 (records_append_iff.2 ⟨first, second⟩) hbytes⟩
  · rintro ⟨hleft, rfl⟩
    cases h with
    | before _ hne _ => exact absurd hleft hne
    | @after rest xs zs first second overruns =>
      dsimp only at hleft
      subst hleft
      exact ⟨records_append_iff.2 ⟨first, second⟩, xs, zs, rfl, rfl, (List.append_nil _).symm⟩

namespace Ring

/-- A ring that is set up, in memory that holds it, with both offsets in the data area. -/
structure Ready (r : Ring) (m : Memory) : Prop where
  fits : r.Fits m
  setUp : r.isSetUp m = true
  read_lt : (r.readOffset m).toNat < r.capacity.toNat
  write_lt : (r.writeOffset m).toNat < r.capacity.toNat

/-- The bytes over which the read offset has moved. -/
def passed (r : Ring) (m m' : Memory) : List UInt8 :=
  m.read (r.dataAt (r.readOffset m).toNat) (r.gap (r.readOffset m).toNat (r.readOffset m').toNat)

/-- The walk that drops one record after the other, while something is unread and nothing fails, with the bytes of the
records that are dropped. -/
inductive Drops (r : Ring) : Memory → List (List UInt8) → Memory → Prop
  | nil (m : Memory) : Drops r m [] m
  | cons {m m' m'' : Memory} {xs : List (List UInt8)} (unread : r.isEmpty m = false)
      (first : r.free m = (.done (), m')) (more : Drops r m' xs m'') : Drops r m (r.passed m m' :: xs) m''

variable {r : Ring} {m m' m'' last last' : Memory} {found : Found}

/-! ### The record at the head of a piece -/

/-- Where the first piece of the unread bytes ends. -/
def pieceEnd (r : Ring) (m : Memory) : Nat :=
  if (r.readOffset m).toNat ≤ (r.writeOffset m).toNat then (r.writeOffset m).toNat else r.capacity.toNat

theorem unread_fst_eq (r : Ring) (m : Memory) :
    (r.unread m).1 = m.read (r.dataAt (r.readOffset m).toNat) (r.pieceEnd m - (r.readOffset m).toNat) := by
  unfold unread pieceEnd
  dsimp only
  by_cases hahead : (r.readOffset m).toNat ≤ (r.writeOffset m).toNat
  · rw [if_pos hahead, if_pos hahead]
  · rw [if_neg hahead, if_neg hahead]

theorem length_unread_fst (r : Ring) (m : Memory) :
    (r.unread m).1.length = r.pieceEnd m - (r.readOffset m).toNat := by
  rw [unread_fst_eq, Memory.length_read]

theorem Ready.pieceEnd_le (h : r.Ready m) : r.pieceEnd m ≤ r.capacity.toNat := by
  have hwrite := h.write_lt
  unfold pieceEnd
  split <;> omega

theorem Ready.isEmpty_iff (h : r.Ready m) : r.isEmpty m = true ↔ (r.unread m).1 = [] := by
  have hread := h.read_lt
  rw [← List.length_eq_zero_iff, length_unread_fst, isEmpty, decide_eq_true_iff, ← UInt32.toNat_inj, pieceEnd]
  split <;> omega

/-- If nothing is left of the first piece, nothing is unread. -/
theorem Ready.unread_of_nil (h : r.Ready m) (hnil : (r.unread m).1 = []) : r.unread m = ((r.unread m).2, []) := by
  have hempty := h.isEmpty_iff.2 hnil
  rw [isEmpty, decide_eq_true_iff] at hempty
  unfold unread
  rw [hempty]
  simp [Memory.read]

/-- A record at the head of the first piece is what a consumer finds. -/
theorem Ready.next_of_record (h : r.Ready m) (hx : IsRecord r.geometry.format x) (hbegins : x <+: (r.unread m).1) :
    ∃ found, r.next m = .done (some found) ∧ found.span.toNat = x.length := by
  have hend := h.pieceEnd_le
  have hsize : r.headerSize.toNat ≤ x.length := hx.size_le
  have hpos := r.headerSize_pos
  have hle := hbegins.length_le
  obtain ⟨header, hdecode, hlen⟩ := hx.decode_eq hbegins
  rw [length_unread_fst] at hle
  -- The header is in the piece, and what stands behind it does not matter.
  rw [unread_fst_eq, ← Nat.add_sub_cancel' (Nat.le_trans hsize hle), Memory.read_add,
    Header.decode_append (by rw [Memory.length_read]; exact Nat.le_refl _)] at hdecode
  have hspan : (UInt32.ofNat x.length).toNat = x.length := toNat_ofNat_of_le_capacity (r := r) (by omega)
  refine ⟨⟨r.readOffset m, header, UInt32.ofNat x.length⟩, ?_, hspan⟩
  rw [next_eq_found_iff]
  dsimp only
  rw [hspan]
  refine ⟨h.setUp, h.read_lt, h.write_lt, ?_, rfl, hdecode, hlen, by omega, fun hahead => ?_⟩
  · intro heq
    rw [pieceEnd, heq, if_pos (Nat.le_refl _)] at hle
    omega
  · rw [pieceEnd, if_pos (Nat.le_of_lt hahead)] at hle
    omega

/-- What a consumer finds is the record at the head of the first piece. -/
theorem record_of_next (hnext : r.next m = .done (some found)) :
    let x := m.read (r.dataAt (r.readOffset m).toNat) found.span.toNat
    Header.decode x r.geometry.format = some found.header ∧
      x.length = r.geometry.format.size.toNat + found.header.size.toNat ∧ x <+: (r.unread m).1 := by
  obtain ⟨-, -, -, hne, hoffset, hdecode, hspan, hle, hpast⟩ := next_eq_found_iff.1 hnext
  have hne' : (r.readOffset m).toNat ≠ (r.writeOffset m).toNat := fun h => hne (UInt32.toNat_inj.1 h)
  rw [hoffset] at hdecode hle hpast
  have hlen : found.span.toNat ≤ r.pieceEnd m - (r.readOffset m).toNat := by
    unfold pieceEnd
    split <;> omega
  refine ⟨?_, ?_, ?_⟩
  · rw [hspan, Memory.read_add, Header.decode_append (by rw [Memory.length_read]; exact Nat.le_refl _)]
    exact hdecode
  · rw [Memory.length_read]
    exact hspan
  · rw [unread_fst_eq, ← Memory.take_read m _ hlen]
    exact List.take_prefix _ _

/-- The unread bytes once the read offset has moved, in terms of the bytes before. -/
theorem OnlyReadOffset.unread_eq (h : r.OnlyReadOffset m m') (hread : (r.readOffset m').toNat < r.capacity.toNat)
    (hwrite : (r.writeOffset m).toNat < r.capacity.toNat) :
    r.unread m' =
      if (r.readOffset m').toNat ≤ (r.writeOffset m).toNat then
        (m.read (r.dataAt (r.readOffset m').toNat) ((r.writeOffset m).toNat - (r.readOffset m').toNat), [])
      else
        (m.read (r.dataAt (r.readOffset m').toNat) (r.capacity.toNat - (r.readOffset m').toNat),
          m.read (r.dataAt 0) (r.writeOffset m).toNat) := by
  unfold unread
  dsimp only
  rw [h.writeOffset_eq]
  split
  · rw [h.read_data (by omega)]
  · rw [h.read_data (by omega), h.read_data (by omega)]

theorem gap_offsetAfter {n : Nat} (a : Nat) (hlt : n < r.capacity.toNat) :
    r.gap a (r.offsetAfter n a) = n := by
  unfold gap offsetAfter
  split <;> split <;> omega

/-- Dropping a record leaves the rest of its piece, or the second piece if nothing is left of the first. -/
theorem OnlyReadOffset.unread_advanced {n : Nat} (h : r.OnlyReadOffset m m') (hr : r.Ready m)
    (hnew : (r.readOffset m').toNat = r.offsetAfter n (r.readOffset m).toNat)
    (hle : (r.readOffset m).toNat + n ≤ r.pieceEnd m) :
    r.unread m' = if (r.readOffset m).toNat + n = r.pieceEnd m then ((r.unread m).2, [])
      else ((r.unread m).1.drop n, (r.unread m).2) := by
  have hend := hr.pieceEnd_le
  have hread := hr.read_lt
  have hwrite := hr.write_lt
  rw [h.unread_eq (by rw [hnew]; exact offsetAfter_lt (by omega)) hwrite, hnew, unread_fst_eq,
    Memory.drop_read _ _ (by omega), dataAt_add, unread, Nat.sub_sub]
  by_cases hahead : (r.readOffset m).toNat ≤ (r.writeOffset m).toNat
  · rw [pieceEnd, if_pos hahead] at hle ⊢
    have hnext : r.offsetAfter n (r.readOffset m).toNat = (r.readOffset m).toNat + n := if_neg (by omega)
    rw [hnext, if_pos hahead, if_pos hle]
    split
    · next hall => rw [hall, Nat.sub_self]; rfl
    · rfl
  · rw [pieceEnd, if_neg hahead] at hle ⊢
    rw [offsetAfter, if_neg hahead]
    split
    · next hall => rw [if_pos (Nat.zero_le _), Nat.sub_zero]
    · next hmore => rw [if_neg (by omega)]

/-- The record at the head of the first piece is dropped, and nothing else. -/
theorem Ready.free_record (h : r.Ready m) (hx : IsRecord r.geometry.format x) (hbegins : x <+: (r.unread m).1) :
    ∃ m', r.free m = (.done (), m') ∧ r.ReadMoved m m' ∧ r.Ready m' ∧ r.passed m m' = x ∧
      (r.readOffset m').toNat = ((r.readOffset m).toNat + x.length) % r.capacity.toNat ∧
      (x = (r.unread m).1 ∧ r.unread m' = ((r.unread m).2, []) ∨
        x ≠ (r.unread m).1 ∧ r.unread m' = ((r.unread m).1.drop x.length, (r.unread m).2)) := by
  have hread := h.read_lt
  have hend := h.pieceEnd_le
  have hpos := List.length_pos_iff.2 hx.ne_nil
  have hlen := hbegins.length_le
  have hpiece : x = m.read (r.dataAt (r.readOffset m).toNat) x.length := by
    have htake := List.prefix_iff_eq_take.1 hbegins
    rw [length_unread_fst] at hlen
    rwa [unread_fst_eq, Memory.take_read _ _ hlen] at htake
  rw [length_unread_fst] at hlen
  obtain ⟨found, hnext, hspan⟩ := h.next_of_record hx hbegins
  rw [← UInt32.toNat_toUInt64] at hspan
  have hle : (r.readOffset m).toNat + found.span.toUInt64.toNat ≤ r.capacity.toNat := by omega
  obtain ⟨m', hadvance, hframe, hnew⟩ := advance_of_le found.span.toUInt64 h.fits hread hle
  have hmoved := (ReadMoved.refl r m).advance found.span.toUInt64
  rw [hadvance] at hmoved
  rw [hspan] at hnew hle
  have hafter := hframe.unread_advanced h hnew (by omega)
  refine ⟨m', ?_, hmoved, ⟨hframe.fits h.fits, hframe.isSetUp_eq.trans h.setUp, ?_, ?_⟩, ?_, ?_, ?_⟩
  · rw [free, if_pos h.setUp, hnext]
    dsimp only
    rw [hadvance]
  · rw [hnew]
    exact offsetAfter_lt hle
  · rw [hframe.writeOffset_eq]
    exact h.write_lt
  · have hless : x.length < r.capacity.toNat := by
      have hwrite := h.write_lt
      unfold pieceEnd at hlen
      split at hlen <;> omega
    rw [passed, hnew, gap_offsetAfter _ hless, ← hpiece]
  · rw [hnew, offsetAfter_eq_mod hle]
  · by_cases hall : (r.readOffset m).toNat + x.length = r.pieceEnd m
    · rw [if_pos hall] at hafter
      exact .inl ⟨hbegins.eq_of_length (by rw [length_unread_fst]; omega), hafter⟩
    · rw [if_neg hall] at hafter
      refine .inr ⟨fun heq => hall ?_, hafter⟩
      have hsame := congrArg List.length heq
      rw [length_unread_fst] at hsame
      omega

/-- Where no record stands at the head of the first piece, nothing is dropped. -/
theorem Ready.free_overruns (h : r.Ready m) (hover : Overruns r.geometry.format (r.unread m).1)
    (hunread : r.isEmpty m = false) : ∃ e, r.free m = (.failed (.framing e), m) := by
  cases hnext : r.next m with
  | failed e => exact ⟨e, by rw [free, if_pos h.setUp, hnext]⟩
  | halted => exact absurd hnext next_ne_halted
  | done next =>
    cases next with
    | none =>
      obtain ⟨-, -, heq⟩ := next_eq_none_iff.1 hnext
      rw [isEmpty, heq h.setUp] at hunread
      simp at hunread
    | some found =>
      obtain ⟨hdecode, hlen, hbegins⟩ := record_of_next hnext
      exact absurd hbegins (hover.not_record ⟨_, hdecode, hlen⟩)

/-! ### The walk -/

theorem Drops.trans (h : r.Drops m xs m') (h' : r.Drops m' ys m'') : r.Drops m (xs ++ ys) m'' := by
  induction h with
  | nil m => exact h'
  | cons unread first more ih => exact .cons unread first (ih h')

/-- Where a walk cannot go on: nothing is unread, or dropping a record fails. -/
def Ended (r : Ring) (m : Memory) : Prop := r.isEmpty m = true ∨ ∃ e, r.free m = (.failed e, m)

/-- There is one walk only that goes as far as it can. -/
theorem Drops.eq_of_ended (h : r.Drops m xs last) (hend : r.Ended last) (h' : r.Drops m ys last')
    (hend' : r.Ended last') : xs = ys ∧ last = last' := by
  have hstays : ∀ {m m' : Memory}, r.isEmpty m = false → r.free m = (.done (), m') → ¬ r.Ended m := by
    rintro m m' hunread hfree (hempty | ⟨e, hfailed⟩)
    · rw [hunread] at hempty
      simp at hempty
    · rw [hfree] at hfailed
      simp at hfailed
  induction h generalizing ys with
  | nil m =>
    cases h' with
    | nil => exact ⟨rfl, rfl⟩
    | cons unread first more => exact absurd hend (hstays unread first)
  | @cons m m' m'' xs unread first more ih =>
    cases h' with
    | nil => exact absurd hend' (hstays unread first)
    | @cons _ m₁ _ ys unread' first' more' =>
      obtain rfl : m' = m₁ := by
        rw [first, Prod.mk.injEq] at first'
        exact first'.2
      obtain ⟨rfl, rfl⟩ := ih hend more'
      exact ⟨rfl, rfl⟩

/-- A walk that leaves the ring ready: what it drops, and where it comes to. -/
structure Passes (r : Ring) (m : Memory) (xs : List (List UInt8)) (m' : Memory) : Prop where
  drops : r.Drops m xs m'
  moved : r.ReadMoved m m'
  ready : r.Ready m'
  offset_eq : (r.readOffset m').toNat = ((r.readOffset m).toNat + xs.flatten.length) % r.capacity.toNat

theorem Passes.refl (h : r.Ready m) : r.Passes m [] m :=
  ⟨.nil m, .refl r m, h, by rw [List.flatten_nil, List.length_nil, Nat.add_zero, Nat.mod_eq_of_lt h.read_lt]⟩

theorem Passes.trans (h : r.Passes m xs m') (h' : r.Passes m' ys m'') : r.Passes m (xs ++ ys) m'' := by
  refine ⟨h.drops.trans h'.drops, h.moved.trans h'.moved, h'.ready, ?_⟩
  rw [h'.offset_eq, h.offset_eq, Nat.mod_add_mod, List.flatten_append, List.length_append, Nat.add_assoc]

/-- One step of the walk. -/
theorem Ready.passes_record (h : r.Ready m) (hx : IsRecord r.geometry.format x) (hbegins : x <+: (r.unread m).1) :
    ∃ m', r.Passes m [x] m' ∧
      (x = (r.unread m).1 ∧ r.unread m' = ((r.unread m).2, []) ∨
        x ≠ (r.unread m).1 ∧ r.unread m' = ((r.unread m).1.drop x.length, (r.unread m).2)) := by
  have hunread : r.isEmpty m = false := by
    rw [← Bool.not_eq_true, h.isEmpty_iff]
    intro hnil
    rw [hnil] at hbegins
    exact hx.ne_nil (List.prefix_nil.1 hbegins)
  obtain ⟨m', hfree, hmoved, hready, rfl, hoffset, hleft⟩ := h.free_record hx hbegins
  exact ⟨m', ⟨.cons hunread hfree (.nil m'), hmoved, hready, by rw [List.flatten_singleton]; exact hoffset⟩, hleft⟩

/-- The walk over the first piece.  It drops records until none stands at the head of what is left; if nothing is left,
it has come to the second piece. -/
theorem Ready.walk_piece (h : r.Ready m) :
    ∃ xs rest m', r.Passes m xs m' ∧ Records r.geometry.format xs ∧
      xs.flatten ++ rest = (r.unread m).1 ∧ Overruns r.geometry.format rest ∧
      (rest = [] ∧ r.unread m' = ((r.unread m).2, []) ∨ rest ≠ [] ∧ r.unread m' = (rest, (r.unread m).2)) := by
  -- Every record that is dropped makes the piece shorter.
  induction hn : (r.unread m).1.length using Nat.strongRecOn generalizing m with
  | _ n ih =>
    rcases overruns_or_record r.geometry.format (r.unread m).1 with hover | ⟨x, hx, hbegins⟩
    · refine ⟨[], (r.unread m).1, m, .refl h, by simp [Records], by simp, hover, ?_⟩
      by_cases hnil : (r.unread m).1 = []
      · exact .inl ⟨hnil, h.unread_of_nil hnil⟩
      · exact .inr ⟨hnil, (Prod.eta _).symm⟩
    · have hone : Records r.geometry.format [x] := by simpa [Records] using hx
      obtain ⟨m', hpasses, ⟨hall, hleft⟩ | ⟨hmore, hleft⟩⟩ := h.passes_record hx hbegins
      · exact ⟨[x], [], m', hpasses, hone, by simpa using hall, overruns_nil _, .inl ⟨rfl, hleft⟩⟩
      · have hshort : (r.unread m').1.length < n := by
          have hpos := List.length_pos_iff.2 hx.ne_nil
          have hle := hbegins.length_le
          rw [hleft, List.length_drop]
          omega
        obtain ⟨xs, rest, m'', hpasses', hrecords, hsplit, hover, hrest⟩ := ih _ hshort hpasses.ready rfl
        rw [hleft] at hsplit hrest
        dsimp only at hsplit hrest
        refine ⟨[x] ++ xs, rest, m'', hpasses.trans hpasses', records_append_iff.2 ⟨hone, hrecords⟩, ?_, hover, hrest⟩
        rw [List.flatten_append, List.flatten_singleton, List.append_assoc, hsplit]
        exact List.prefix_iff_eq_append.1 hbegins

/-- **The walk over unread bytes.** It drops records, goes from the end of the data area on to its start, and stops with
the pieces that are left. -/
theorem Ready.walk (h : r.Ready m) :
    ∃ xs last, r.Passes m xs last ∧ Stop r.geometry.format (r.unread m) xs (r.unread last) ∧
      Overruns r.geometry.format (r.unread last).1 := by
  obtain ⟨xs, rest, m', hpasses, hrecords, hsplit, hover, ⟨rfl, hleft⟩ | ⟨hne, hleft⟩⟩ := h.walk_piece
  · obtain ⟨ys, rest, last, hpasses', hrecords', hsplit', hover', hend⟩ := hpasses.ready.walk_piece
    rw [hleft] at hsplit' hend
    rw [List.append_nil] at hsplit
    have hlast : r.unread last = (rest, []) := by
      rcases hend with ⟨rfl, hnone⟩ | ⟨-, hsome⟩
      · exact hnone
      · exact hsome
    refine ⟨xs ++ ys, last, hpasses.trans hpasses', ?_, ?_⟩
    · rw [hlast, show r.unread m = (xs.flatten, ys.flatten ++ rest) from Prod.ext hsplit.symm hsplit'.symm]
      exact .after hrecords hrecords' hover'
    · rw [hlast]
      exact hover'
  · refine ⟨xs, m', hpasses, ?_, ?_⟩
    · rw [hleft, show r.unread m = (xs.flatten ++ rest, (r.unread m).2) from Prod.ext hsplit.symm rfl]
      exact .before hrecords hne hover
    · rw [hleft]
      exact hover

theorem Ready.ended_of_overruns (h : r.Ready m) (hover : Overruns r.geometry.format (r.unread m).1) : r.Ended m := by
  cases hempty : r.isEmpty m with
  | true => exact .inl hempty
  | false =>
    obtain ⟨e, hfailed⟩ := h.free_overruns hover hempty
    exact .inr ⟨_, hfailed⟩

/-- **Dropping records accepts what is framed.** Take a ring that is set up, with both offsets in the data area and any
data bytes.  Records can be dropped one by one until nothing is unread exactly if both pieces of the unread bytes are
made up of records; there is one way only in which they are, and those records are dropped, in their order.  Otherwise
the longest row of records is dropped, and then dropping fails with a framing error.  The read offset then stands behind
that row, at a header that reaches past its piece, or whose payload does. -/
theorem framing_walk (hfits : r.Fits m) (hset : r.isSetUp m = true)
    (hread : (r.readOffset m).toNat < r.capacity.toNat) (hwrite : (r.writeOffset m).toNat < r.capacity.toNat) :
    let f := r.geometry.format
    ((∃ xs last, r.Drops m xs last ∧ r.isEmpty last = true) ↔ ∃ xs, Framed f (r.unread m) xs) ∧
    (∀ xs last, r.Drops m xs last → r.isEmpty last = true → ∀ ys, Framed f (r.unread m) ys ↔ ys = xs) ∧
    ((¬ ∃ xs, Framed f (r.unread m) xs) →
      ∃ xs last e, r.Drops m xs last ∧ r.isEmpty last = false ∧ r.free last = (.failed (.framing e), last) ∧
        FramedPrefix f (r.unread m) xs ∧ (∀ ys, FramedPrefix f (r.unread m) ys → ys <+: xs) ∧
        r.ReadMoved m last ∧
        (r.readOffset last).toNat = ((r.readOffset m).toNat + xs.flatten.length) % r.capacity.toNat ∧
        Overruns f (r.unread last).1) := by
  have hready : r.Ready m := ⟨hfits, hset, hread, hwrite⟩
  obtain ⟨xs, last, ⟨hdrops, hmoved, hlast, hoffset⟩, hstop, hover⟩ := hready.walk
  have hended := hlast.ended_of_overruns hover
  have hframed : ∀ ys, Framed r.geometry.format (r.unread m) ys ↔ r.isEmpty last = true ∧ ys = xs := by
    intro ys
    rw [hstop.framed_iff, hlast.isEmpty_iff]
  have hsame : ∀ ys last', r.Drops m ys last' → r.isEmpty last' = true → ys = xs ∧ last' = last :=
    fun ys last' hdrops' hempty => hdrops'.eq_of_ended (.inl hempty) hdrops hended
  dsimp only
  refine ⟨⟨?_, ?_⟩, ?_, fun hnone => ?_⟩
  · rintro ⟨ys, last', hdrops', hempty⟩
    obtain ⟨rfl, rfl⟩ := hsame ys last' hdrops' hempty
    exact ⟨ys, (hframed ys).2 ⟨hempty, rfl⟩⟩
  · rintro ⟨ys, hys⟩
    exact ⟨xs, last, hdrops, ((hframed ys).1 hys).1⟩
  · intro ys last' hdrops' hempty zs
    obtain ⟨rfl, rfl⟩ := hsame ys last' hdrops' hempty
    rw [hframed, and_iff_right hempty]
  · have hunread : r.isEmpty last = false := by
      rw [← Bool.not_eq_true]
      exact fun hempty => hnone ⟨xs, (hframed xs).2 ⟨hempty, rfl⟩⟩
    obtain ⟨e, hfailed⟩ := hlast.free_overruns hover hunread
    exact ⟨xs, last, e, hdrops, hunread, hfailed, hstop.framedPrefix, fun ys => hstop.longest, hmoved, hoffset, hover⟩

/-- In a ring of 64 zero bytes whose offsets stand at 47 and 17, one record ends at the end of the data area, and one
stands at its start. -/
theorem framing_walk_wrapped :
    let r : Ring := ⟨0, ⟨64, .packed, by decide, by decide⟩⟩
    let m := r.setOffsets ((Memory.zeros 96).setWord 12 1) 47 17
    (r.Fits m ∧ r.isSetUp m = true ∧ (r.readOffset m).toNat < r.capacity.toNat ∧
      (r.writeOffset m).toNat < r.capacity.toNat) ∧
      ∃ xs last, r.Drops m xs last ∧ r.isEmpty last = true := by
  intro r m
  have hfits : r.Fits m := by unfold Fits; decide +kernel
  have hset : r.isSetUp m = true := by decide +kernel
  have hread : (r.readOffset m).toNat < r.capacity.toNat := by decide +kernel
  have hwrite : (r.writeOffset m).toNat < r.capacity.toNat := by decide +kernel
  have hrecord : IsRecord .packed (List.replicate 17 0) := ⟨⟨.connectionState, 0, 0⟩, by decide, by decide⟩
  have hframed : Framed .packed (r.unread m) [List.replicate 17 0, List.replicate 17 0] :=
    ⟨by simpa [Records] using hrecord, [List.replicate 17 0], [List.replicate 17 0], rfl, by decide +kernel,
      by decide +kernel⟩
  obtain ⟨hiff, -⟩ := framing_walk hfits hset hread hwrite
  exact ⟨⟨hfits, hset, hread, hwrite⟩, hiff.2 ⟨_, hframed⟩⟩

end Ring

end EventRing
