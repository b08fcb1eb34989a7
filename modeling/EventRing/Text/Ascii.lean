import EventRing.RingName
import EventRing.Text.Utf8

/-!
# Text in ASCII

A text all of whose characters are ASCII has one byte for each of them, the character's code.  Main statements:
`toList_toUTF8_of_ascii`, `Utf8.lossy_of_ascii` (such a text reads back from its bytes), `RingName.isAscii` (the name of
a ring is such a text), `RingName.valid_iff` and `RingName.valid_iff_bytes` (which texts are names, by their characters
and by their bytes).
-/

namespace EventRing

namespace Text

/-- All characters of a text are ASCII. -/
def IsAscii (s : String) : Prop := ∀ c ∈ s.toList, c.toNat < 128

theorem toList_loop (bs : ByteArray) (i : Nat) (read : List UInt8) :
    ByteArray.toList.loop bs i read = read.reverse ++ bs.data.toList.drop i := by
  fun_induction ByteArray.toList.loop bs i read with
  | case1 i read h ih =>
    have hi : i < bs.data.toList.length := by simpa using h
    rw [ih, List.drop_eq_getElem_cons hi]
    simp [ByteArray.get!, h]
  | case2 i read h =>
    rw [List.drop_eq_nil_of_le (by simpa using h), List.append_nil]

theorem toList_eq_data (bs : ByteArray) : bs.toList = bs.data.toList := by
  rw [ByteArray.toList, toList_loop, List.reverse_nil, List.nil_append, List.drop_zero]

/-- The bytes of a text are those of its characters. -/
theorem toList_toUTF8 (s : String) : s.toUTF8.toList = s.toList.flatMap String.utf8EncodeChar := by
  rw [toList_eq_data, String.toUTF8_eq_toByteArray, ← String.utf8Encode_toList, List.utf8Encode, List.data_toByteArray]

theorem utf8EncodeChar_of_lt {c : Char} (h : c.toNat < 128) : String.utf8EncodeChar c = [UInt8.ofNat c.toNat] := by
  have hle : c.val.toNat ≤ 127 := Nat.le_of_lt_succ h
  rw [String.utf8EncodeChar, if_pos hle]
  rfl

/-- The bytes of a text in ASCII are the codes of its characters. -/
theorem toList_toUTF8_of_ascii {s : String} (h : IsAscii s) :
    s.toUTF8.toList = s.toList.map fun c => UInt8.ofNat c.toNat := by
  rw [toList_toUTF8, List.map_eq_flatMap]
  unfold IsAscii at h
  generalize s.toList = cs at h ⊢
  induction cs with
  | nil => rfl
  | cons c cs ih =>
    rw [List.flatMap_cons, List.flatMap_cons, utf8EncodeChar_of_lt (h c List.mem_cons_self),
      ih fun d hd => h d (List.mem_cons_of_mem c hd)]

theorem toNat_ofNat_of_ascii {c : Char} (h : c.toNat < 128) : (UInt8.ofNat c.toNat).toNat = c.toNat :=
  UInt8.toNat_ofNat_of_lt' (Nat.lt_trans h (by decide))

theorem length_toUTF8_of_ascii {s : String} (h : IsAscii s) : s.toList.length = s.utf8ByteSize := by
  have hbytes := congrArg List.length (toList_toUTF8_of_ascii h)
  rw [List.length_map, toList_eq_data, Array.length_toList] at hbytes
  exact hbytes.symm

/-- A character beyond ASCII begins with a byte beyond ASCII. -/
theorem exists_mem_utf8EncodeChar {c : Char} (h : 128 ≤ c.toNat) : ∃ b ∈ String.utf8EncodeChar c, 128 ≤ b.toNat := by
  have hlarge : ¬ c.val.toNat ≤ 127 := Nat.not_le.2 h
  rw [String.utf8EncodeChar, if_neg hlarge]
  split
  · refine ⟨_, List.mem_cons_self, ?_⟩
    rw [UInt8.toNat_ofNat']
    omega
  · split
    · refine ⟨_, List.mem_cons_self, ?_⟩
      rw [UInt8.toNat_ofNat']
      omega
    · refine ⟨_, List.mem_cons_self, ?_⟩
      rw [UInt8.toNat_ofNat']
      omega

/-- A text whose bytes are ASCII is itself in ASCII. -/
theorem isAscii_of_bytes {s : String} (h : ∀ b ∈ s.toUTF8.toList, b.toNat < 128) : IsAscii s := by
  refine fun c hc => Nat.lt_of_not_le fun hlarge => ?_
  obtain ⟨b, hb, hbeyond⟩ := exists_mem_utf8EncodeChar hlarge
  have hmem : b ∈ s.toUTF8.toList := by
    rw [toList_toUTF8]
    exact List.mem_flatMap.2 ⟨c, hc, hb⟩
  exact absurd (h b hmem) (Nat.not_lt.2 hbeyond)

namespace Utf8

theorem first_of_ascii {c : Char} (h : c.toNat < 128) (rest : List UInt8) :
    first (UInt8.ofNat c.toNat) rest = (some c, 0) := by
  have hcode := toNat_ofNat_of_ascii h
  have hlt : UInt8.ofNat c.toNat < 0x80 := UInt8.lt_iff_toNat_lt.2 (by rw [hcode]; exact h)
  unfold first
  rw [if_pos hlt, hcode, Char.ofNat_toNat]

theorem scan_of_ascii {cs : List Char} (h : ∀ c ∈ cs, c.toNat < 128) :
    scan 0 (cs.map fun c => UInt8.ofNat c.toNat) = cs.map some := by
  induction cs with
  | nil => rfl
  | cons c cs ih =>
    rw [List.map_cons, scan, first_of_ascii (h c List.mem_cons_self), List.map_cons,
      ih fun d hd => h d (List.mem_cons_of_mem c hd)]

/-- A text in ASCII reads back from its bytes. -/
theorem lossy_of_ascii {s : String} (h : IsAscii s) : lossy s.toUTF8.toList = s := by
  rw [lossy, toList_toUTF8_of_ascii h, scan_of_ascii h, List.map_map]
  have hsame : s.toList.map ((fun c : Option Char => c.getD '\ufffd') ∘ some) = s.toList := List.map_id _
  rw [hsame, String.ofList_toList]

end Utf8

end Text

namespace RingName

/-- The codes of the letters, the digits, the full stop, the low line and the hyphen. -/
def IsNameCode (n : Nat) : Prop :=
  ('A'.toNat ≤ n ∧ n ≤ 'Z'.toNat) ∨ ('a'.toNat ≤ n ∧ n ≤ 'z'.toNat) ∨ ('0'.toNat ≤ n ∧ n ≤ '9'.toNat) ∨
    n = '.'.toNat ∨ n = '_'.toNat ∨ n = '-'.toNat

instance : DecidablePred IsNameCode := fun _ => inferInstanceAs (Decidable ((_ ∧ _) ∨ (_ ∧ _) ∨ (_ ∧ _) ∨ _ ∨ _ ∨ _))

theorem isNameChar_iff {c : Char} : isNameChar c = true ↔ IsNameCode c.toNat := by
  have hcode : ∀ d : Char, c = d ↔ c.toNat = d.toNat := fun d => Char.toNat_inj.symm
  have halnum : c.isAlphanum = true ↔
      (65 ≤ c.toNat ∧ c.toNat ≤ 90 ∨ 97 ≤ c.toNat ∧ c.toNat ≤ 122) ∨ 48 ≤ c.toNat ∧ c.toNat ≤ 57 := by
    change (c.isUpper || c.isLower || c.isDigit) = true ↔ _
    rw [Bool.or_eq_true, Bool.or_eq_true]
    change (decide (c.val ≥ 'A'.val ∧ c.val ≤ 'Z'.val) = true
        ∨ (decide (c.val ≥ 'a'.val) && decide (c.val ≤ 'z'.val)) = true)
      ∨ (decide (c.val ≥ '0'.val) && decide (c.val ≤ '9'.val)) = true ↔ _
    simp only [Bool.and_eq_true, decide_eq_true_eq, ge_iff_le, UInt32.le_iff_toNat_le]
    rfl
  simp only [isNameChar, Bool.or_eq_true, decide_eq_true_eq, halnum, hcode, IsNameCode, Char.reduceToNat]
  omega

theorem IsNameCode.lt {n : Nat} (h : IsNameCode n) : n < 128 := by
  simp only [IsNameCode, Char.reduceToNat] at h
  omega

/-- The characters of a name are ASCII, and neither a slash nor a zero is among them. -/
theorem isNameChar_spec {c : Char} (h : isNameChar c = true) : c.toNat < 128 ∧ c ≠ '/' ∧ c.toNat ≠ 0 := by
  have hcode := isNameChar_iff.1 h
  simp only [IsNameCode, Char.reduceToNat] at hcode
  refine ⟨by omega, fun hslash => ?_, by omega⟩
  rw [hslash] at hcode
  exact absurd hcode (by decide)

variable {s : String}

/-- The names in characters. -/
theorem valid_iff : Valid s ↔ 1 ≤ s.toList.length ∧ s.toList.length ≤ 15 ∧ ∀ c ∈ s.toList, IsNameCode c.toNat := by
  have hchars : s.toList.all isNameChar = true ↔ ∀ c ∈ s.toList, IsNameCode c.toNat := by
    simp only [List.all_eq_true, isNameChar_iff]
  have hempty : s ≠ "" ↔ 1 ≤ s.toList.length := by
    rw [Nat.one_le_iff_ne_zero, ne_eq, ne_eq, List.length_eq_zero_iff, String.toList_eq_nil_iff]
  rw [Valid, hchars, hempty]
  refine and_congr_right fun _ => and_congr_left fun hall => ?_
  rw [Text.length_toUTF8_of_ascii fun c hc => (hall c hc).lt, maxNameLength]

/-- The names in bytes. -/
theorem valid_iff_bytes : Valid s ↔ 1 ≤ s.toUTF8.toList.length ∧ s.toUTF8.toList.length ≤ 15 ∧
    ∀ b ∈ s.toUTF8.toList, IsNameCode b.toNat := by
  rw [valid_iff]
  constructor
  · rintro ⟨hpos, hlen, hall⟩
    have hascii : Text.IsAscii s := fun c hc => (hall c hc).lt
    rw [Text.toList_toUTF8_of_ascii hascii, List.length_map]
    refine ⟨hpos, hlen, fun b hb => ?_⟩
    obtain ⟨c, hc, rfl⟩ := List.mem_map.1 hb
    rw [Text.toNat_ofNat_of_ascii (hascii c hc)]
    exact hall c hc
  · rintro ⟨hpos, hlen, hall⟩
    have hascii : Text.IsAscii s := Text.isAscii_of_bytes fun b hb => (hall b hb).lt
    rw [Text.toList_toUTF8_of_ascii hascii] at hpos hlen hall
    rw [List.length_map] at hpos hlen
    refine ⟨hpos, hlen, fun c hc => ?_⟩
    rw [← Text.toNat_ofNat_of_ascii (hascii c hc)]
    exact hall _ (List.mem_map_of_mem hc)

/-- Every character of a name is one of those. -/
theorem isNameChar_of_mem {name : RingName} {c : Char} (h : c ∈ name.text.toList) : isNameChar c = true :=
  List.all_eq_true.1 name.valid.2.2 c h

theorem isAscii (name : RingName) : Text.IsAscii name.text := fun _ hc => (isNameChar_spec (isNameChar_of_mem hc)).1

/-- None of the bytes of a name is zero. -/
theorem bytes_ne_zero {name : RingName} {b : UInt8} (h : b ∈ name.text.toUTF8.toList) : b ≠ 0 := by
  rw [Text.toList_toUTF8_of_ascii name.isAscii, List.mem_map] at h
  obtain ⟨c, hc, rfl⟩ := h
  obtain ⟨hlt, -, hne⟩ := isNameChar_spec (isNameChar_of_mem hc)
  intro hzero
  have hcode := Text.toNat_ofNat_of_ascii hlt
  rw [hzero] at hcode
  exact hne hcode.symm

theorem length_bytes (name : RingName) : name.text.toUTF8.toList.length = name.text.utf8ByteSize := by
  rw [Text.toList_toUTF8_of_ascii name.isAscii, List.length_map, Text.length_toUTF8_of_ascii name.isAscii]

end RingName

end EventRing
