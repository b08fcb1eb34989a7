import EventRing.Header

/-!
# Headers as bytes

A header that has been written reads back, and a header that has been read is written as the bytes it was read from, but
for the padding, which is written as zeros.  `HeaderFormat.cleared` are these bytes.  Main statements:
`Header.encode_of_decode` (what has been read is written as the cleared bytes), `Header.decode_cleared` (the padding has
no say in what is read), `Header.decode_eq_iff` (when two byte strings read the same) and `Header.codec_exact`.
-/

namespace EventRing

/-- The bytes of a header at the head of a byte string, with zeros in the places that the native format pads. -/
def HeaderFormat.cleared : HeaderFormat → List UInt8 → List UInt8
  | packed, bs => bs.take 17
  | native, bs => bs.take 1 ++ List.replicate 7 0 ++ (bs.drop 8).take 16

namespace Bytes

/-- Two words behind each other, read and written again. -/
theorem ofUInt64_toUInt64_append {bs : List UInt8} (h : 16 ≤ bs.length) :
    ofUInt64 (toUInt64 (bs.take 8)) ++ ofUInt64 (toUInt64 ((bs.drop 8).take 8))
      = bs.take 16 := by
  have hfirst : (bs.take 8).length = 8 := by
    rw [List.length_take]
    omega
  have hsecond : ((bs.drop 8).take 8).length = 8 := by
    rw [List.length_take, List.length_drop]
    omega
  rw [ofUInt64_toUInt64 hfirst, ofUInt64_toUInt64 hsecond, ← List.take_add]

end Bytes

namespace Header

variable {f : HeaderFormat} {h : Header} {bs bs' : List UInt8}

/-- A tag and what stands behind it, cleared. -/
theorem cleared_cons (f : HeaderFormat) (tag : UInt8) (rest : List UInt8) :
    f.cleared (tag :: rest) = tag :: List.replicate f.padding 0 ++ (rest.drop f.padding).take 16 := by
  cases f with
  | packed => simp [HeaderFormat.cleared, HeaderFormat.padding]
  | native => simp [HeaderFormat.cleared, HeaderFormat.padding]

/-- A header that has been read is written as the bytes it was read from, but for the padding. -/
theorem encode_of_decode (hdecode : decode bs f = some h) : h.encode f = f.cleared bs := by
  have hsize := f.size_eq
  unfold decode at hdecode
  split at hdecode
  · simp at hdecode
  · next hlen =>
    cases bs with
    | nil => simp at hdecode
    | cons tag rest =>
      rw [List.length_cons] at hlen
      have hrest : 16 ≤ (rest.drop f.padding).length := by
        rw [List.length_drop]
        omega
      have hwords := Bytes.ofUInt64_toUInt64_append hrest
      rw [List.drop_drop] at hwords
      rw [← Option.some.inj hdecode, encode, Kind.tag_ofTag, List.append_assoc, hwords, cleared_cons]

theorem exists_decode (hlen : f.size.toNat ≤ bs.length) : ∃ h, decode bs f = some h :=
  Option.ne_none_iff_exists'.1 fun hnone => Nat.not_lt.2 hlen (decode_eq_none_iff.1 hnone)

/-- A header whose kind stands for its own tag reads back unchanged. -/
theorem decode_encode (hkind : ∃ tag, h.kind = .ofTag tag) (t : List UInt8) : decode (h.encode f ++ t) f = some h := by
  obtain ⟨tag, htag⟩ := hkind
  rw [decode_encode_append, htag, Kind.tag_ofTag, ← htag]

/-- The padding has no say in what is read. -/
theorem decode_cleared (hlen : f.size.toNat ≤ bs.length) : decode (f.cleared bs) f = decode bs f := by
  obtain ⟨h, hdecode⟩ := exists_decode hlen
  have hback := decode_encode (f := f) ⟨h.kind.tag, (ofTag_kind_of_decode hdecode).symm⟩ []
  rw [List.append_nil, encode_of_decode hdecode] at hback
  rw [hback, hdecode]

/-- Two byte strings read the same if they are the same outside the padding. -/
theorem decode_eq_iff (hlen : f.size.toNat ≤ bs.length) (hlen' : f.size.toNat ≤ bs'.length) :
    decode bs f = decode bs' f ↔ f.cleared bs = f.cleared bs' := by
  constructor
  · intro hsame
    obtain ⟨h, hdecode⟩ := exists_decode hlen
    rw [← encode_of_decode hdecode, ← encode_of_decode (hsame ▸ hdecode)]
  · intro hsame
    rw [← decode_cleared hlen, hsame, decode_cleared hlen']

/-- **Headers and their bytes.** In both formats, a header that is written reads back whatever follows it, with the kind
that its tag stands for in place of its own, and unchanged if a tag stands for its kind.  From every byte string that is
long enough a header is read, and writing that gives the first bytes of the string, with zeros in bytes 1 to 7 of the
native format.  Nothing is read from a shorter one.  So two byte strings that read the same are the same outside the
padding, and the same altogether if they are packed headers. -/
theorem codec_exact (f : HeaderFormat) :
    (∀ (h : Header) (t : List UInt8),
      decode (h.encode f ++ t) f = some { h with kind := .ofTag h.kind.tag } ∧
        ((∃ tag, h.kind = .ofTag tag) → decode (h.encode f ++ t) f = some h)) ∧
    (∀ bs : List UInt8, f.size.toNat ≤ bs.length → ∃ h, decode bs f = some h ∧ h.encode f = f.cleared bs) ∧
    (∀ bs : List UInt8, bs.length < f.size.toNat → decode bs f = none) ∧
    (∀ bs bs' : List UInt8, f.size.toNat ≤ bs.length → f.size.toNat ≤ bs'.length →
      (decode bs f = decode bs' f ↔ f.cleared bs = f.cleared bs')) ∧
    ∀ bs bs' : List UInt8, bs.length = 17 → bs'.length = 17 → decode bs .packed = decode bs' .packed → bs = bs' := by
  refine ⟨fun h t => ⟨decode_encode_append h f t, fun hkind => decode_encode hkind t⟩, ?_,
    fun bs => decode_eq_none_iff.2, fun bs bs' => decode_eq_iff, ?_⟩
  · intro bs hlen
    obtain ⟨h, hdecode⟩ := exists_decode hlen
    exact ⟨h, hdecode, encode_of_decode hdecode⟩
  · intro bs bs' hlen hlen' hsame
    have hcleared := (decode_eq_iff (f := .packed) (Nat.le_of_eq hlen.symm) (Nat.le_of_eq hlen'.symm)).1 hsame
    simpa only [HeaderFormat.cleared, List.take_of_length_le (Nat.le_of_eq hlen),
      List.take_of_length_le (Nat.le_of_eq hlen')] using hcleared

/-- Bytes in the padding of a native header are zero once the header has been read and written. -/
theorem codec_exact_padded :
    let bs : List UInt8 := 4 :: List.replicate 7 9 ++ [1, 2, 3, 4, 5, 6, 7, 8] ++ [25, 0, 0, 0, 0, 0, 0, 0]
    HeaderFormat.native.size.toNat ≤ bs.length ∧ ∃ h, decode bs .native = some h ∧
      h.encode .native = 4 :: List.replicate 7 0 ++ [1, 2, 3, 4, 5, 6, 7, 8] ++ [25, 0, 0, 0, 0, 0, 0, 0] := by
  intro bs
  have hlen : HeaderFormat.native.size.toNat ≤ bs.length := by decide
  exact ⟨hlen, (codec_exact .native).2.1 bs hlen⟩

end Header

end EventRing
