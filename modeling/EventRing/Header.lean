import EventRing.Bytes
import EventRing.Kind

/-!
# Record headers

A record is a header followed by its payload.  The header holds the tag, the producer's tick count and the size of
the payload; the two formats differ in the padding after the tag.

```text
packed (17 bytes):  tag | timestamp[8] | size[8]
native (24 bytes):  tag | pad[7] | timestamp[8] | size[8]
```

Main statements: `decode_encode_append` (a written header reads back, with its kind replaced by the one its tag stands
for), `decode_eq_none_iff` (only a short byte string is refused), `decode_append` (what stands behind a header does not
matter).
-/

namespace EventRing

/-- The layout of record headers; both ends of a ring must agree on it. -/
inductive HeaderFormat where
  | packed
  | native
deriving DecidableEq

namespace HeaderFormat

/-- The number of zero bytes between the tag and the timestamp. -/
def padding : HeaderFormat → Nat
  | packed => 0
  | native => 7

/-- The number of bytes in a header. -/
def size : HeaderFormat → UInt32
  | packed => 17
  | native => 24

/-- The name under which a configuration chooses the format. -/
def name : HeaderFormat → String
  | packed => "packed"
  | native => "native"

/-- The name under which a report shows the format. -/
def title : HeaderFormat → String
  | packed => "Packed"
  | native => "Native"

/-- The format with the given name. -/
def ofName? (s : String) : Option HeaderFormat :=
  if s = "packed" then some packed
  else if s = "native" then some native
  else none

theorem size_eq (f : HeaderFormat) : f.size.toNat = 1 + f.padding + 16 := by cases f <;> rfl

theorem size_pos (f : HeaderFormat) : 0 < f.size.toNat := by cases f <;> decide

end HeaderFormat

/-- What a record says about itself.  The size is the producer's claim and may be wrong. -/
structure Header where
  kind : Kind
  timestamp : UInt64
  size : UInt64
deriving DecidableEq

namespace Header

/-- The bytes of a header. -/
def encode (h : Header) (f : HeaderFormat) : List UInt8 :=
  h.kind.tag :: List.replicate f.padding 0 ++ Bytes.ofUInt64 h.timestamp ++ Bytes.ofUInt64 h.size

/-- The header at the head of a byte string, if there are enough bytes. -/
def decode (bs : List UInt8) (f : HeaderFormat) : Option Header :=
  if bs.length < f.size.toNat then none
  else
    match bs with
    | [] => none
    | tag :: rest =>
      some {
        kind := Kind.ofTag tag
        timestamp := Bytes.toUInt64 ((rest.drop f.padding).take 8)
        size := Bytes.toUInt64 ((rest.drop (f.padding + 8)).take 8) }

/-- The kind of a header that has been read is the one that its tag stands for. -/
theorem ofTag_kind_of_decode {bs : List UInt8} {f : HeaderFormat} {h : Header} (hdecode : decode bs f = some h) :
    Kind.ofTag h.kind.tag = h.kind := by
  unfold decode at hdecode
  split at hdecode
  · simp at hdecode
  · split at hdecode
    · simp at hdecode
    · next tag rest _ =>
      rw [← Option.some.inj hdecode]
      exact congrArg Kind.ofTag (Kind.tag_ofTag tag)

@[simp] theorem length_encode (h : Header) (f : HeaderFormat) : (h.encode f).length = f.size.toNat := by
  cases f <;> simp [encode, HeaderFormat.padding, HeaderFormat.size]

theorem decode_eq_none_iff {bs : List UInt8} {f : HeaderFormat} :
    decode bs f = none ↔ bs.length < f.size.toNat := by
  unfold decode
  split
  · next h => simp [h]
  · next h =>
    have hpos := f.size_pos
    cases bs with
    | nil => simp at h; omega
    | cons b bs => simpa using h

/-- A written header reads back whatever follows it; only the kind may lose its spelling. -/
theorem decode_encode_append (h : Header) (f : HeaderFormat) (t : List UInt8) :
    decode (h.encode f ++ t) f = some { h with kind := Kind.ofTag h.kind.tag } := by
  have hlen : ¬ (h.encode f ++ t).length < f.size.toNat := by
    rw [List.length_append, length_encode]
    omega
  unfold decode
  rw [if_neg hlen]
  have hts : (Bytes.ofUInt64 h.timestamp).length = 8 := Bytes.length_ofUInt64 _
  have hsz : (Bytes.ofUInt64 h.size).length = 8 := Bytes.length_ofUInt64 _
  simp only [encode, List.cons_append, List.append_assoc]
  have h1 : (List.replicate f.padding (0 : UInt8) ++ (Bytes.ofUInt64 h.timestamp ++
      (Bytes.ofUInt64 h.size ++ t))).drop f.padding
      = Bytes.ofUInt64 h.timestamp ++ (Bytes.ofUInt64 h.size ++ t) :=
    List.drop_left' (List.length_replicate ..)
  have h2 : (List.replicate f.padding (0 : UInt8) ++ (Bytes.ofUInt64 h.timestamp ++
      (Bytes.ofUInt64 h.size ++ t))).drop (f.padding + 8) = Bytes.ofUInt64 h.size ++ t := by
    rw [← List.drop_drop, h1]
    exact List.drop_left' hts
  rw [h1, h2, List.take_left' hts, List.take_left' hsz]
  simp

/-- What stands behind a header does not matter. -/
theorem decode_append {bs : List UInt8} {f : HeaderFormat} (h : f.size.toNat ≤ bs.length) (t : List UInt8) :
    decode (bs ++ t) f = decode bs f := by
  have hsize := f.size_eq
  cases bs with
  | nil =>
    rw [List.length_nil] at h
    omega
  | cons tag rest =>
    rw [List.length_cons] at h
    unfold decode
    rw [if_neg (by rw [List.length_append, List.length_cons]; omega), if_neg (by rw [List.length_cons]; omega)]
    dsimp only [List.cons_append]
    rw [List.drop_append_of_le_length (by omega), List.drop_append_of_le_length (by omega),
      List.take_append_of_le_length (by rw [List.length_drop]; omega),
      List.take_append_of_le_length (by rw [List.length_drop]; omega)]

end Header

end EventRing
