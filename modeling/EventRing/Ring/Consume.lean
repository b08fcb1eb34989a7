import EventRing.Ring.Control

/-!
# The consumer's side of a ring

Looking at the record at an offset, checking that it lies in published data, and moving the read offset past it.  The
sequence of these steps is `Ring.next`, used both by `Ring.free`, which drops one record, and by the reader.  A sum that
needs one bit too many and a copy from outside the data area halt the operation.  Main statements, in natural numbers
and for every content of memory: `headerAt_eq_some_iff`, `checkedSpanOf_eq_done_iff`, `advancedOffset_eq_ok_iff` and
`next_eq_found_iff` say exactly when a step succeeds and with what; `next_ne_halted` says that looking for the next
record never halts.
-/

namespace EventRing.Ring

/-- The `n` bytes of the data area from an offset on; `none` if they are not all inside it. -/
def copyOut (r : Ring) (m : Memory) (offset n : Nat) : Option (List UInt8) :=
  if offset + n ≤ r.capacity.toNat then some (m.read (r.dataAt offset) n) else none

/-- The header at an offset; none in a ring that is not set up or if the producer's offset is reached. -/
def headerAt (r : Ring) (m : Memory) (offset : UInt32) : Outcome FramingError (Option Header) :=
  if r.isSetUp m then
    match r.boundedOffset .write (r.writeOffset m) with
    | .error e => .failed e
    | .ok write =>
      if offset = write then .done none
      else
        match r.boundedOffset .record offset with
        | .error e => .failed e
        | .ok offset =>
          match Word.addLong? offset.toUInt64 r.headerSize.toUInt64 with
          | none => .halted
          | some stop =>
            if r.capacity.toUInt64 < stop then .failed (.headerOverrun offset r.headerSize r.capacity)
            else
              match r.copyOut m offset.toNat r.headerSize.toNat with
              | none => .halted
              | some bytes => .done (Header.decode bytes r.geometry.format)
  else .done none

/-- The bytes of a record, header and payload, if they fit a 32-bit word. -/
def spanOf (r : Ring) (offset : UInt32) (header : Header) : Except FramingError UInt32 :=
  match (Word.narrow? header.size).bind fun size => Word.add? size r.headerSize with
  | some span => .ok span
  | none => .error (.sizeOverflow offset header.size)

/-- The bytes of the record at an offset, if it lies wholly in published data. -/
def checkedSpanOf (r : Ring) (m : Memory) (offset : UInt32) (header : Header) : Outcome FramingError UInt32 :=
  match r.spanOf offset header with
  | .error e => .failed e
  | .ok span =>
    match Word.addLong? offset.toUInt64 span.toUInt64 with
    | none => .halted
    | some stop =>
      if r.capacity.toUInt64 < stop then .failed (.advanceOverrun offset span.toUInt64 r.capacity)
      else
        match r.boundedOffset .write (r.writeOffset m) with
        | .error e => .failed e
        | .ok write =>
          if offset < write ∧ write.toUInt64 < stop then .failed (.recordPastWriteOffset offset stop write)
          else .done span

/-- Where the read offset comes to stand after `consumed` more bytes; the end of the data area is its start. -/
def advancedOffset (r : Ring) (m : Memory) (consumed : UInt64) : Except FramingError UInt32 :=
  match r.boundedOffset .read (r.readOffset m) with
  | .error e => .error e
  | .ok offset =>
    match (Word.narrow? consumed).bind fun c => Word.add? offset c with
    | none => .error (.advanceOverrun offset consumed r.capacity)
    | some stop =>
      if stop < r.capacity then .ok stop
      else if stop = r.capacity then .ok 0
      else .error (.advanceOverrun offset consumed r.capacity)

/-- Moves the read offset forward; past the end of the data area it stays where it is. -/
def advance (r : Ring) (m : Memory) (consumed : UInt64) : Except FramingError Unit × Memory :=
  match r.advancedOffset m consumed with
  | .error e => (.error e, m)
  | .ok offset => (.ok (), r.setReadOffset m offset)

/-- A record that has been found at the read offset and checked. -/
structure Found where
  offset : UInt32
  header : Header
  span : UInt32
deriving DecidableEq

/-- The record at the read offset, or none if everything published has been consumed. -/
def next (r : Ring) (m : Memory) : Outcome FramingError (Option Found) :=
  match r.offsets m with
  | .error e => .failed e
  | .ok (read, _) =>
    match r.headerAt m read with
    | .failed e => .failed e
    | .halted => .halted
    | .done none => .done none
    | .done (some header) =>
      match r.checkedSpanOf m read header with
      | .failed e => .failed e
      | .halted => .halted
      | .done span => .done (some ⟨read, header, span⟩)

/-- The payload bytes of a record that has been found; `none` if they are not all in the data area. -/
def payload (r : Ring) (m : Memory) (found : Found) : Option (List UInt8) :=
  (Word.add? found.offset r.headerSize).bind fun start => r.copyOut m start.toNat found.header.size.toNat

/-- Drops the record at the read offset; nothing happens in an empty ring. -/
def free (r : Ring) (m : Memory) : Outcome Error Unit × Memory :=
  if r.isSetUp m then
    match r.next m with
    | .failed e => (.failed (.framing e), m)
    | .halted => (.halted, m)
    | .done none => (.done (), m)
    | .done (some found) =>
      match r.advance m found.span.toUInt64 with
      | (.error e, m) => (.failed (.framing e), m)
      | (.ok (), m) => (.done (), m)
  else (.failed (.notInitialized (r.name m)), m)

variable {r : Ring} {m : Memory}

/-! ## Offsets -/

theorem boundedOffset_of_lt {offset : UInt32} (field : OffsetField) (h : offset.toNat < r.capacity.toNat) :
    r.boundedOffset field offset = .ok offset := if_pos (UInt32.lt_iff_toNat_lt.2 h)

theorem boundedOffset_of_le {offset : UInt32} (field : OffsetField) (h : r.capacity.toNat ≤ offset.toNat) :
    r.boundedOffset field offset = .error (.offsetOutOfRange field offset r.capacity) :=
  if_neg fun hlt => Nat.not_lt.2 h (UInt32.lt_iff_toNat_lt.1 hlt)

theorem offsets_eq_ok_iff {read write : UInt32} :
    r.offsets m = .ok (read, write) ↔ read = r.readOffset m ∧ write = r.writeOffset m ∧
      (r.readOffset m).toNat < r.capacity.toNat ∧ (r.writeOffset m).toNat < r.capacity.toNat := by
  unfold offsets
  rcases Nat.lt_or_ge (r.readOffset m).toNat r.capacity.toNat with hr | hr
  · rw [boundedOffset_of_lt _ hr]
    rcases Nat.lt_or_ge (r.writeOffset m).toNat r.capacity.toNat with hw | hw
    · rw [boundedOffset_of_lt _ hw]
      simp [hr, hw, eq_comm]
    · rw [boundedOffset_of_le _ hw]
      simp [Nat.not_lt.2 hw]
  · rw [boundedOffset_of_le _ hr]
    simp [Nat.not_lt.2 hr]

/-- Where the read offset goes: forward, and from the end of the data area to its start, but never past the end. -/
theorem advancedOffset_eq_ok_iff {consumed : UInt64} {offset : UInt32} :
    r.advancedOffset m consumed = .ok offset ↔ (r.readOffset m).toNat < r.capacity.toNat ∧
      ((r.readOffset m).toNat + consumed.toNat < r.capacity.toNat ∧
          offset.toNat = (r.readOffset m).toNat + consumed.toNat ∨
        (r.readOffset m).toNat + consumed.toNat = r.capacity.toNat ∧ offset.toNat = 0) := by
  have hcap : r.capacity.toNat < 2 ^ 32 := r.capacity.toNat_lt
  unfold advancedOffset
  rcases Nat.lt_or_ge (r.readOffset m).toNat r.capacity.toNat with hr | hr
  · rw [boundedOffset_of_lt _ hr]
    dsimp only
    split
    · next hsum =>
      -- A sum that does not fit a word is past every capacity.
      have hlarge : 2 ^ 32 ≤ (r.readOffset m).toNat + consumed.toNat := by
        refine Nat.not_lt.1 fun hlt => ?_
        obtain ⟨c, hnarrow, hvalue⟩ := Word.narrow?_of_lt consumed (show consumed.toNat < 2 ^ 32 by omega)
        obtain ⟨stop, hadd, -⟩ := Word.add?_of_lt (r.readOffset m) c (by rw [hvalue]; exact hlt)
        rw [hnarrow, Option.bind_some, hadd] at hsum
        exact absurd hsum (by simp)
      simp only [reduceCtorEq, false_iff]
      omega
    · next stop hsum =>
      obtain ⟨c, hc, hadd⟩ := Option.bind_eq_some_iff.1 hsum
      have hstop : stop.toNat = (r.readOffset m).toNat + consumed.toNat := by
        rw [Word.add?_eq_some_iff.1 hadd, Word.narrow?_eq_some_iff.1 hc]
      rw [← hstop]
      split
      · next hlt =>
        have hlt' := UInt32.lt_iff_toNat_lt.1 hlt
        rw [Except.ok.injEq, ← UInt32.toNat_inj]
        omega
      · next hlt =>
        have hge : r.capacity.toNat ≤ stop.toNat := Nat.not_lt.1 fun h => hlt (UInt32.lt_iff_toNat_lt.2 h)
        split
        · next heq =>
          rw [Except.ok.injEq, ← UInt32.toNat_inj, heq, UInt32.toNat_zero]
          omega
        · next hne =>
          have hne' : stop.toNat ≠ r.capacity.toNat := fun h => hne (UInt32.toNat_inj.1 h)
          simp only [reduceCtorEq, false_iff]
          omega
  · rw [boundedOffset_of_le _ hr]
    simp [Nat.not_lt.2 hr]

/-! ## Looking at a record -/

/-- The sum of two words always fits a long word. -/
theorem addLong?_toUInt64 (a b : UInt32) :
    ∃ c, Word.addLong? a.toUInt64 b.toUInt64 = some c ∧ c.toNat = a.toNat + b.toNat := by
  have ha := a.toNat_lt
  have hb := b.toNat_lt
  have hlt : a.toNat + b.toNat < 2 ^ 64 := by omega
  have hsum := Word.addLong?_of_lt a.toUInt64 b.toUInt64
  rw [UInt32.toNat_toUInt64, UInt32.toNat_toUInt64] at hsum
  exact hsum hlt

/-- Looking at a header in natural numbers: the checks in their order, and then the header that is there. -/
theorem headerAt_eq (offset : UInt32) :
    r.headerAt m offset =
      if r.isSetUp m = false then .done none
      else if r.capacity.toNat ≤ (r.writeOffset m).toNat then
        .failed (.offsetOutOfRange .write (r.writeOffset m) r.capacity)
      else if offset = r.writeOffset m then .done none
      else if r.capacity.toNat ≤ offset.toNat then .failed (.offsetOutOfRange .record offset r.capacity)
      else if r.capacity.toNat < offset.toNat + r.headerSize.toNat then
        .failed (.headerOverrun offset r.headerSize r.capacity)
      else .done (Header.decode (m.read (r.dataAt offset.toNat) r.headerSize.toNat) r.geometry.format) := by
  obtain ⟨stop, hstop, hsum⟩ := addLong?_toUInt64 offset r.headerSize
  have hover : r.capacity.toUInt64 < stop ↔ r.capacity.toNat < offset.toNat + r.headerSize.toNat := by
    rw [UInt64.lt_iff_toNat_lt, hsum, UInt32.toNat_toUInt64]
  unfold headerAt
  cases r.isSetUp m with
  | false => rfl
  | true =>
    rw [if_pos rfl, if_neg (by simp)]
    rcases Nat.lt_or_ge (r.writeOffset m).toNat r.capacity.toNat with hw | hw
    · rw [boundedOffset_of_lt _ hw, if_neg (Nat.not_le.2 hw)]
      dsimp only
      split
      · rfl
      · rcases Nat.lt_or_ge offset.toNat r.capacity.toNat with ho | ho
        · rw [boundedOffset_of_lt _ ho, if_neg (Nat.not_le.2 ho)]
          dsimp only
          rw [hstop]
          dsimp only
          simp only [hover]
          split
          · rfl
          · next hle => rw [copyOut, if_pos (Nat.not_lt.1 hle)]
        · rw [boundedOffset_of_le _ ho, if_pos ho]
    · rw [boundedOffset_of_le _ hw, if_pos hw]

theorem headerAt_ne_halted (offset : UInt32) : r.headerAt m offset ≠ .halted := by
  rw [headerAt_eq]
  repeat' split
  all_goals simp

/-- A header that is found lies inside the data area. -/
theorem headerAt_eq_some_iff {offset : UInt32} {header : Header} :
    r.headerAt m offset = .done (some header) ↔ r.isSetUp m = true ∧
      (r.writeOffset m).toNat < r.capacity.toNat ∧ offset ≠ r.writeOffset m ∧
      offset.toNat + r.headerSize.toNat ≤ r.capacity.toNat ∧
      Header.decode (m.read (r.dataAt offset.toNat) r.headerSize.toNat) r.geometry.format = some header := by
  have hpos : 0 < r.headerSize.toNat := r.geometry.format.size_pos
  rw [headerAt_eq]
  constructor
  · intro h
    by_cases hset : r.isSetUp m = false
    · simp [if_pos hset] at h
    rw [if_neg hset] at h
    by_cases hw : r.capacity.toNat ≤ (r.writeOffset m).toNat
    · simp [if_pos hw] at h
    rw [if_neg hw] at h
    by_cases heq : offset = r.writeOffset m
    · simp [if_pos heq] at h
    rw [if_neg heq] at h
    by_cases ho : r.capacity.toNat ≤ offset.toNat
    · simp [if_pos ho] at h
    rw [if_neg ho] at h
    by_cases hover : r.capacity.toNat < offset.toNat + r.headerSize.toNat
    · simp [if_pos hover] at h
    rw [if_neg hover] at h
    exact ⟨by simpa using hset, by omega, heq, by omega, Outcome.done.inj h⟩
  · rintro ⟨hset, hw, hne, hle, hdecode⟩
    rw [if_neg (by simp [hset]), if_neg (by omega), if_neg hne, if_neg (by omega), if_neg (by omega), hdecode]

theorem headerAt_eq_none_iff {offset : UInt32} :
    r.headerAt m offset = .done none ↔ r.isSetUp m = true →
      (r.writeOffset m).toNat < r.capacity.toNat ∧ offset = r.writeOffset m := by
  have hdecode : Header.decode (m.read (r.dataAt offset.toNat) r.headerSize.toNat) r.geometry.format ≠ none :=
    fun h => absurd (Header.decode_eq_none_iff.1 h) (by rw [Memory.length_read]; exact Nat.lt_irrefl _)
  rw [headerAt_eq]
  constructor
  · intro h hset
    rw [if_neg (by simp [hset])] at h
    by_cases hw : r.capacity.toNat ≤ (r.writeOffset m).toNat
    · simp [if_pos hw] at h
    rw [if_neg hw] at h
    by_cases heq : offset = r.writeOffset m
    · exact ⟨by omega, heq⟩
    rw [if_neg heq] at h
    by_cases ho : r.capacity.toNat ≤ offset.toNat
    · simp [if_pos ho] at h
    rw [if_neg ho] at h
    by_cases hover : r.capacity.toNat < offset.toNat + r.headerSize.toNat
    · simp [if_pos hover] at h
    rw [if_neg hover] at h
    exact absurd (Outcome.done.inj h) hdecode
  · intro h
    cases hset : r.isSetUp m with
    | false => rfl
    | true =>
      obtain ⟨hw, heq⟩ := h hset
      rw [if_neg (by simp), if_neg (by omega), if_pos heq]

theorem spanOf_eq (offset : UInt32) (header : Header) :
    r.spanOf offset header =
      if UInt32.size ≤ header.size.toNat + r.headerSize.toNat then .error (.sizeOverflow offset header.size)
      else .ok (UInt32.ofNat (header.size.toNat + r.headerSize.toNat)) := by
  unfold spanOf
  split
  · next span hspan =>
    obtain ⟨size, hsize, hadd⟩ := Option.bind_eq_some_iff.1 hspan
    have hsum : span.toNat = header.size.toNat + r.headerSize.toNat := by
      rw [Word.add?_eq_some_iff.1 hadd, Word.narrow?_eq_some_iff.1 hsize]
    rw [if_neg (by have := span.toNat_lt_size; omega), ← hsum, UInt32.ofNat_toNat]
  · next hnone =>
    rw [if_pos]
    refine Nat.not_lt.1 fun hlt => ?_
    obtain ⟨size, hsize, hvalue⟩ := Word.narrow?_of_lt header.size (by omega)
    obtain ⟨span, hspan, -⟩ := Word.add?_of_lt size r.headerSize (by rw [hvalue]; exact hlt)
    rw [hsize, Option.bind_some, hspan] at hnone
    exact absurd hnone (by simp)

/-- Checking a record in natural numbers: the checks in their order, and then the bytes of the record. -/
theorem checkedSpanOf_eq (offset : UInt32) (header : Header) :
    r.checkedSpanOf m offset header =
      let span := header.size.toNat + r.headerSize.toNat
      if UInt32.size ≤ span then .failed (.sizeOverflow offset header.size)
      else if r.capacity.toNat < offset.toNat + span then
        .failed (.advanceOverrun offset (UInt64.ofNat span) r.capacity)
      else if r.capacity.toNat ≤ (r.writeOffset m).toNat then
        .failed (.offsetOutOfRange .write (r.writeOffset m) r.capacity)
      else if offset.toNat < (r.writeOffset m).toNat ∧ (r.writeOffset m).toNat < offset.toNat + span then
        .failed (.recordPastWriteOffset offset (UInt64.ofNat (offset.toNat + span)) (r.writeOffset m))
      else .done (UInt32.ofNat span) := by
  unfold checkedSpanOf
  rw [spanOf_eq]
  generalize header.size.toNat + r.headerSize.toNat = n
  dsimp only
  rcases Nat.lt_or_ge n UInt32.size with hn | hn
  · rw [if_neg (Nat.not_le.2 hn), if_neg (Nat.not_le.2 hn)]
    have hword : (UInt32.ofNat n).toNat = n := UInt32.toNat_ofNat_of_lt' hn
    have hlong : (UInt32.ofNat n).toUInt64 = UInt64.ofNat n := by
      have hn' : n < UInt64.size := Nat.lt_trans hn (by decide)
      apply UInt64.toNat_inj.1
      rw [UInt32.toNat_toUInt64, hword, UInt64.toNat_ofNat_of_lt' hn']
    obtain ⟨stop, hstop, hsum⟩ := addLong?_toUInt64 offset (UInt32.ofNat n)
    rw [hword] at hsum
    have hover : r.capacity.toUInt64 < stop ↔ r.capacity.toNat < offset.toNat + n := by
      rw [UInt64.lt_iff_toNat_lt, hsum, UInt32.toNat_toUInt64]
    have hpast : offset < r.writeOffset m ∧ (r.writeOffset m).toUInt64 < stop ↔
        offset.toNat < (r.writeOffset m).toNat ∧ (r.writeOffset m).toNat < offset.toNat + n := by
      rw [UInt64.lt_iff_toNat_lt, hsum, UInt32.toNat_toUInt64, UInt32.lt_iff_toNat_lt]
    dsimp only
    rw [hstop, hlong]
    dsimp only
    simp only [hover]
    split
    · rfl
    · rcases Nat.lt_or_ge (r.writeOffset m).toNat r.capacity.toNat with hw | hw
      · rw [boundedOffset_of_lt _ hw, if_neg (Nat.not_le.2 hw), ← hsum, UInt64.ofNat_toNat]
        simp only [hpast, hsum]
      · rw [boundedOffset_of_le _ hw, if_pos hw]
  · rw [if_pos hn, if_pos hn]

theorem checkedSpanOf_ne_halted (offset : UInt32) (header : Header) : r.checkedSpanOf m offset header ≠ .halted := by
  rw [checkedSpanOf_eq]
  dsimp only
  repeat' split
  all_goals simp

/-- A record passes exactly if it ends inside the data area and, in front of the write offset, not behind it. -/
theorem checkedSpanOf_eq_done_iff {offset span : UInt32} {header : Header} :
    r.checkedSpanOf m offset header = .done span ↔ span.toNat = r.headerSize.toNat + header.size.toNat ∧
      offset.toNat + span.toNat ≤ r.capacity.toNat ∧ (r.writeOffset m).toNat < r.capacity.toNat ∧
      (offset.toNat < (r.writeOffset m).toNat → offset.toNat + span.toNat ≤ (r.writeOffset m).toNat) := by
  have hcap : r.capacity.toNat < 2 ^ 32 := r.capacity.toNat_lt
  rw [checkedSpanOf_eq]
  dsimp only
  constructor
  · intro h
    by_cases hspan : UInt32.size ≤ header.size.toNat + r.headerSize.toNat
    · simp [if_pos hspan] at h
    rw [if_neg hspan] at h
    by_cases hend : r.capacity.toNat < offset.toNat + (header.size.toNat + r.headerSize.toNat)
    · simp [if_pos hend] at h
    rw [if_neg hend] at h
    by_cases hw : r.capacity.toNat ≤ (r.writeOffset m).toNat
    · simp [if_pos hw] at h
    rw [if_neg hw] at h
    by_cases hpast : offset.toNat < (r.writeOffset m).toNat ∧
        (r.writeOffset m).toNat < offset.toNat + (header.size.toNat + r.headerSize.toNat)
    · simp [if_pos hpast] at h
    rw [if_neg hpast] at h
    have hword : span.toNat = header.size.toNat + r.headerSize.toNat := by
      rw [← Outcome.done.inj h, UInt32.toNat_ofNat_of_lt' (Nat.not_le.1 hspan)]
    omega
  · rintro ⟨hspan, hle, hw, hpast⟩
    have hword := span.toNat_lt_size
    rw [if_neg (by omega), if_neg (by omega), if_neg (by omega), if_neg (by omega), Nat.add_comm, ← hspan,
      UInt32.ofNat_toNat]

/-! ## The next record -/

theorem next_ne_halted : r.next m ≠ .halted := by
  rw [next]
  cases r.offsets m with
  | error e => simp
  | ok offsets =>
    obtain ⟨read, write⟩ := offsets
    dsimp only
    cases hheader : r.headerAt m read with
    | failed e => simp
    | halted => exact absurd hheader (headerAt_ne_halted read)
    | done found =>
      cases found with
      | none => simp
      | some header =>
        dsimp only
        cases hspan : r.checkedSpanOf m read header with
        | failed e => simp
        | halted => exact absurd hspan (checkedSpanOf_ne_halted read header)
        | done span => simp

/-- There is no next record exactly if both offsets are in the data area and nothing is published behind the first. -/
theorem next_eq_none_iff :
    r.next m = .done none ↔ (r.readOffset m).toNat < r.capacity.toNat ∧
      (r.writeOffset m).toNat < r.capacity.toNat ∧ (r.isSetUp m = true → r.readOffset m = r.writeOffset m) := by
  unfold next
  constructor
  · intro h
    split at h
    · simp at h
    · next read write hoffsets =>
      obtain ⟨rfl, rfl, hr, hw⟩ := offsets_eq_ok_iff.1 hoffsets
      split at h
      · simp at h
      · simp at h
      · next hnone => exact ⟨hr, hw, fun hset => (headerAt_eq_none_iff.1 hnone hset).2⟩
      · split at h <;> simp at h
  · rintro ⟨hr, hw, heq⟩
    rw [offsets_eq_ok_iff.2 ⟨rfl, rfl, hr, hw⟩]
    dsimp only
    rw [headerAt_eq_none_iff.2 fun hset => ⟨hw, heq hset⟩]

/-- What it takes for a record to be found: its header and its payload lie in the data area, and in front of the write
offset if that is ahead. -/
theorem next_eq_found_iff {found : Found} :
    r.next m = .done (some found) ↔ r.isSetUp m = true ∧ (r.readOffset m).toNat < r.capacity.toNat ∧
      (r.writeOffset m).toNat < r.capacity.toNat ∧ r.readOffset m ≠ r.writeOffset m ∧
      found.offset = r.readOffset m ∧
      Header.decode (m.read (r.dataAt found.offset.toNat) r.headerSize.toNat) r.geometry.format = some found.header ∧
      found.span.toNat = r.headerSize.toNat + found.header.size.toNat ∧
      found.offset.toNat + found.span.toNat ≤ r.capacity.toNat ∧
      (found.offset.toNat < (r.writeOffset m).toNat →
        found.offset.toNat + found.span.toNat ≤ (r.writeOffset m).toNat) := by
  unfold next
  constructor
  · intro h
    split at h
    · simp at h
    · next read write hoffsets =>
      obtain ⟨rfl, rfl, hr, hw⟩ := offsets_eq_ok_iff.1 hoffsets
      split at h
      · simp at h
      · simp at h
      · simp at h
      · next header hheader =>
        obtain ⟨hset, -, hne, -, hdecode⟩ := headerAt_eq_some_iff.1 hheader
        split at h
        · simp at h
        · simp at h
        · next span hspan =>
          obtain ⟨hsum, hle, -, hpast⟩ := checkedSpanOf_eq_done_iff.1 hspan
          obtain rfl := Option.some.inj (Outcome.done.inj h)
          exact ⟨hset, hr, hw, hne, rfl, hdecode, hsum, hle, hpast⟩
  · obtain ⟨offset, header, span⟩ := found
    rintro ⟨hset, hr, hw, hne, rfl, hdecode, hsum, hle, hpast⟩
    dsimp only at hdecode hsum hle hpast
    have hheader : r.headerAt m (r.readOffset m) = .done (some header) :=
      headerAt_eq_some_iff.2 ⟨hset, hw, hne, by omega, hdecode⟩
    have hspan : r.checkedSpanOf m (r.readOffset m) header = .done span :=
      checkedSpanOf_eq_done_iff.2 ⟨hsum, hle, hw, hpast⟩
    rw [offsets_eq_ok_iff.2 ⟨rfl, rfl, hr, hw⟩]
    dsimp only
    rw [hheader]
    dsimp only
    rw [hspan]

/-- A record that has been found covers at least one byte. -/
theorem span_pos {found : Found} (h : r.next m = .done (some found)) : 0 < found.span.toNat := by
  obtain ⟨-, -, -, -, -, -, hspan, -, -⟩ := next_eq_found_iff.1 h
  have hpos : 0 < r.headerSize.toNat := r.geometry.format.size_pos
  omega

end EventRing.Ring
