/-!
# Little-endian byte strings

Every integer of a ring is stored least significant byte first.  `Bytes.little width n` writes the `width` low
bytes of `n`, `Bytes.value` reads a byte string back.  Main statements: `value_little` (reading what was written
gives `n` modulo `bound width`), `little_value` (writing what was read gives the bytes back) and `value_lt` (a
string of `k` bytes is below `bound k`).  The two word widths in use, 32 and 64 bits, have codecs of their own.
-/

namespace EventRing.Bytes

/-- The `width` low bytes of `n`, least significant first. -/
def little : Nat → Nat → List UInt8
  | 0, _ => []
  | width + 1, n => UInt8.ofNat n :: little width (n / 256)

/-- The number whose bytes, least significant first, are given. -/
def value : List UInt8 → Nat
  | [] => 0
  | b :: bs => b.toNat + 256 * value bs

/-- The number of byte strings of a width. -/
def bound : Nat → Nat
  | 0 => 1
  | width + 1 => 256 * bound width

@[simp] theorem length_little (width n : Nat) : (little width n).length = width := by
  induction width generalizing n with
  | zero => rfl
  | succ width ih => simp [little, ih]

theorem value_lt (bs : List UInt8) : value bs < bound bs.length := by
  induction bs with
  | nil => decide
  | cons b bs ih =>
    have hb : b.toNat < 256 := UInt8.toNat_lt b
    rw [value, List.length_cons, bound]
    omega

/-- Reading back what was written loses only what lies above the width. -/
theorem value_little (width n : Nat) : value (little width n) = n % bound width := by
  induction width generalizing n with
  | zero => simp [little, value, bound, Nat.mod_one]
  | succ width ih =>
    have hbyte : (UInt8.ofNat n).toNat = n % 256 := by simp
    rw [little, value, ih, hbyte, bound, Nat.mod_mul]

/-- Writing the value of a byte string at its own width gives the string back. -/
theorem little_value (bs : List UInt8) : little bs.length (value bs) = bs := by
  induction bs with
  | nil => rfl
  | cons b bs ih =>
    have hb : b.toNat < 256 := UInt8.toNat_lt b
    have hdiv : (b.toNat + 256 * value bs) / 256 = value bs := by omega
    have hlow : UInt8.ofNat (b.toNat + 256 * value bs) = b := by
      apply UInt8.toNat_inj.1
      simp only [UInt8.toNat_ofNat']
      omega
    simp only [List.length_cons, little, value, hdiv, ih, hlow]

/-! ## Words -/

/-- The four bytes of a 32-bit word. -/
def ofUInt32 (v : UInt32) : List UInt8 := little 4 v.toNat

/-- The eight bytes of a 64-bit word. -/
def ofUInt64 (v : UInt64) : List UInt8 := little 8 v.toNat

/-- The 32-bit word with the given bytes. -/
def toUInt32 (bs : List UInt8) : UInt32 := UInt32.ofNat (value bs)

/-- The 64-bit word with the given bytes. -/
def toUInt64 (bs : List UInt8) : UInt64 := UInt64.ofNat (value bs)

@[simp] theorem length_ofUInt32 (v : UInt32) : (ofUInt32 v).length = 4 := length_little _ _

@[simp] theorem length_ofUInt64 (v : UInt64) : (ofUInt64 v).length = 8 := length_little _ _

@[simp] theorem toUInt32_ofUInt32 (v : UInt32) : toUInt32 (ofUInt32 v) = v := by
  have hv : v.toNat < bound 4 := UInt32.toNat_lt v
  rw [toUInt32, ofUInt32, value_little, Nat.mod_eq_of_lt hv, UInt32.ofNat_toNat]

@[simp] theorem toUInt64_ofUInt64 (v : UInt64) : toUInt64 (ofUInt64 v) = v := by
  have hv : v.toNat < bound 8 := UInt64.toNat_lt v
  rw [toUInt64, ofUInt64, value_little, Nat.mod_eq_of_lt hv, UInt64.ofNat_toNat]

theorem ofUInt32_toUInt32 {bs : List UInt8} (h : bs.length = 4) : ofUInt32 (toUInt32 bs) = bs := by
  have hv : value bs < UInt32.size := by
    have hlt := value_lt bs
    rw [h] at hlt
    exact hlt
  rw [ofUInt32, toUInt32, UInt32.toNat_ofNat_of_lt' hv, ← h, little_value]

theorem ofUInt64_toUInt64 {bs : List UInt8} (h : bs.length = 8) : ofUInt64 (toUInt64 bs) = bs := by
  have hv : value bs < UInt64.size := by
    have hlt := value_lt bs
    rw [h] at hlt
    exact hlt
  rw [ofUInt64, toUInt64, UInt64.toNat_ofNat_of_lt' hv, ← h, little_value]

end EventRing.Bytes
