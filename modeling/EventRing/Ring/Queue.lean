import EventRing.Ring.Control

/-!
# The unread records as a queue

A second account of what a ring holds, which knows nothing of how it is read.  The unread bytes are those from the read
offset to the write offset, in two pieces if they run past the end of the data area.  A piece is cut into entries from
its start for as long as a whole record remains; `Entry.split` gives the entries and the bytes left over.  Main
statements: `split_encode_append` (an encoded entry is cut off whole, whatever follows it), `unreadSize_eq` (how many
bytes are unread) and `queue?_of_isEmpty` (equal offsets mean an empty queue).
-/

namespace EventRing

/-- A record as the bytes of a ring tell it. -/
structure Entry where
  tag : UInt8
  timestamp : UInt64
  payload : List UInt8
deriving DecidableEq

namespace Entry

/-- The header in front of an entry's payload. -/
def header (e : Entry) : Header := ⟨.ofTag e.tag, e.timestamp, UInt64.ofNat e.payload.length⟩

/-- The bytes of an entry: header and payload. -/
def encode (e : Entry) (f : HeaderFormat) : List UInt8 := e.header.encode f ++ e.payload

/-- The entry at the head of a byte string together with the number of its bytes; none if its header or its payload
reaches past the end. -/
def first? (f : HeaderFormat) (bs : List UInt8) : Option (Entry × Nat) :=
  match Header.decode bs f with
  | none => none
  | some h =>
    let stop := f.size.toNat + h.size.toNat
    if stop ≤ bs.length then some (⟨h.kind.tag, h.timestamp, (bs.take stop).drop f.size.toNat⟩, stop) else none

theorem first?_pos {f : HeaderFormat} {bs : List UInt8} {e : Entry} {n : Nat} (h : first? f bs = some (e, n)) :
    0 < n ∧ n ≤ bs.length := by
  have hpos := f.size_pos
  unfold first? at h
  split at h
  · simp at h
  · dsimp only at h
    split at h
    · next hle =>
      obtain ⟨-, rfl⟩ := Prod.mk.inj (Option.some.inj h)
      exact ⟨by omega, hle⟩
    · simp at h

/-- The entries at the head of a byte string, and the bytes after the last whole one. -/
def split (f : HeaderFormat) (bs : List UInt8) : List Entry × List UInt8 :=
  match hfirst : first? f bs with
  | none => ([], bs)
  | some (e, n) =>
    have := first?_pos hfirst
    let (entries, rest) := split f (bs.drop n)
    (e :: entries, rest)
termination_by bs.length
decreasing_by
  rw [List.length_drop]
  omega

@[simp] theorem length_encode (e : Entry) (f : HeaderFormat) :
    (e.encode f).length = f.size.toNat + e.payload.length := by
  rw [encode, List.length_append, Header.length_encode]

@[simp] theorem split_nil (f : HeaderFormat) : split f [] = ([], []) := by
  have hnone : first? f [] = none := by
    unfold first?
    rw [Header.decode_eq_none_iff.2 (by simpa using f.size_pos)]
  rw [split]
  split
  · rfl
  · next hsome => rw [hnone] at hsome; simp at hsome

/-- An encoded entry reads back, whatever follows it. -/
theorem first?_encode_append (e : Entry) (f : HeaderFormat) (t : List UInt8) (h : e.payload.length < UInt64.size) :
    first? f (e.encode f ++ t) = some (e, (e.encode f).length) := by
  have hsize : (UInt64.ofNat e.payload.length).toNat = e.payload.length := UInt64.toNat_ofNat_of_lt' h
  have hdecode : Header.decode (e.encode f ++ t) f = some e.header := by
    rw [encode, List.append_assoc, Header.decode_encode_append]
    simp [header]
  have hstop : (e.encode f ++ t).take (f.size.toNat + e.payload.length) = e.encode f :=
    List.take_left' (length_encode e f)
  have hpayload : (e.encode f).drop f.size.toNat = e.payload :=
    List.drop_left' (Header.length_encode _ _)
  unfold first?
  rw [hdecode]
  simp only [header, hsize, hstop, hpayload, Kind.tag_ofTag, List.length_append, length_encode]
  rw [if_pos (by omega)]

theorem split_encode_append (e : Entry) (f : HeaderFormat) (t : List UInt8) (h : e.payload.length < UInt64.size) :
    split f (e.encode f ++ t) = (e :: (split f t).1, (split f t).2) := by
  rw [split]
  split
  · next hnone => rw [first?_encode_append e f t h] at hnone; simp at hnone
  · next e' n hsome =>
    rw [first?_encode_append e f t h] at hsome
    obtain ⟨rfl, rfl⟩ := Prod.mk.inj (Option.some.inj hsome)
    rw [List.drop_left]

end Entry

namespace Ring

/-- The unread bytes up to the end of the data area, and those from its start on. -/
def unread (r : Ring) (m : Memory) : List UInt8 × List UInt8 :=
  let read := (r.readOffset m).toNat
  let write := (r.writeOffset m).toNat
  if read ≤ write then (m.read (r.dataAt read) (write - read), [])
  else (m.read (r.dataAt read) (r.capacity.toNat - read), m.read (r.dataAt 0) write)

/-- The number of unread bytes. -/
def unreadSize (r : Ring) (m : Memory) : Nat := (r.unread m).1.length + (r.unread m).2.length

/-- The unread entries, oldest first; none if either piece is not made of whole records. -/
def queue? (r : Ring) (m : Memory) : Option (List Entry) :=
  let (before, restBefore) := Entry.split r.geometry.format (r.unread m).1
  let (after, restAfter) := Entry.split r.geometry.format (r.unread m).2
  if restBefore.isEmpty ∧ restAfter.isEmpty then some (before ++ after) else none

theorem unreadSize_eq (r : Ring) (m : Memory) :
    r.unreadSize m =
      if (r.readOffset m).toNat ≤ (r.writeOffset m).toNat then (r.writeOffset m).toNat - (r.readOffset m).toNat
      else r.capacity.toNat - (r.readOffset m).toNat + (r.writeOffset m).toNat := by
  unfold unreadSize unread
  dsimp only
  split <;> simp

/-- A ring with equal offsets holds nothing. -/
theorem queue?_of_isEmpty {r : Ring} {m : Memory} (h : r.isEmpty m = true) : r.queue? m = some [] := by
  have heq : r.readOffset m = r.writeOffset m := by simpa [isEmpty] using h
  have hunread : r.unread m = ([], []) := by
    unfold unread
    rw [heq]
    simp [Memory.read]
  unfold queue?
  rw [hunread]
  simp

end Ring

end EventRing
