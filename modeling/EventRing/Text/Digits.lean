/-!
# Digits

Hexadecimal digits, upper and lower case, and the reading of unsigned numbers in a given base.  Main statements:
`digit?_hexLower`, `digit?_hexUpper` (a written digit reads back as its value) and `bytes?_byteLower`,
`bytes?_byteUpper` (a written byte reads back).
-/

namespace EventRing.Text

/-- The lower-case hexadecimal digit of `n % 16`. -/
def hexLower (n : Nat) : Char :=
  Char.ofNat (if n % 16 < 10 then 0x30 + n % 16 else 0x57 + n % 16)

/-- The upper-case hexadecimal digit of `n % 16`. -/
def hexUpper (n : Nat) : Char :=
  Char.ofNat (if n % 16 < 10 then 0x30 + n % 16 else 0x37 + n % 16)

/-- The value of a digit in a base of at most 16; letters count in either case. -/
def digit? (base : Nat) (c : Char) : Option Nat :=
  let value : Option Nat :=
    if '0' ≤ c ∧ c ≤ '9' then some (c.toNat - 0x30)
    else if 'a' ≤ c ∧ c ≤ 'f' then some (c.toNat - 0x57)
    else if 'A' ≤ c ∧ c ≤ 'F' then some (c.toNat - 0x37)
    else none
  value.filter (· < base)

/-- Two lower-case hexadecimal digits for a byte. -/
def byteLower (b : UInt8) : List Char := [hexLower (b.toNat / 16), hexLower b.toNat]

/-- Two upper-case hexadecimal digits for a byte. -/
def byteUpper (b : UInt8) : List Char := [hexUpper (b.toNat / 16), hexUpper b.toNat]

/-- Continues a number already read as `acc` with further digits; `none` at the first character that is no digit. -/
def digits? (base : Nat) (acc : Nat) : List Char → Option Nat
  | [] => some acc
  | c :: cs =>
    match digit? base c with
    | some d => digits? base (acc * base + d) cs
    | none => none

/-- The number written by one or more digits, leading zeros allowed, if it is below `bound`. -/
def unsigned? (base bound : Nat) (cs : List Char) : Option Nat :=
  if cs.isEmpty then none else (digits? base 0 cs).filter (· < bound)

/-- The bytes written by pairs of hexadecimal digits. -/
def bytes? : List Char → Option (List UInt8)
  | [] => some []
  | [_] => none
  | hi :: lo :: rest =>
    match digit? 16 hi, digit? 16 lo, bytes? rest with
    | some h, some l, some bs => some (UInt8.ofNat (h * 16 + l) :: bs)
    | _, _, _ => none

theorem digit?_hexLower {n : Nat} (h : n < 16) : digit? 16 (hexLower n) = some n := by
  revert n
  decide

theorem digit?_hexUpper {n : Nat} (h : n < 16) : digit? 16 (hexUpper n) = some n := by
  revert n
  decide

theorem hexLower_mod (n : Nat) : hexLower (n % 16) = hexLower n := by rw [hexLower, hexLower, Nat.mod_mod]

theorem hexUpper_mod (n : Nat) : hexUpper (n % 16) = hexUpper n := by rw [hexUpper, hexUpper, Nat.mod_mod]

theorem digit?_hexLower_mod (n : Nat) : digit? 16 (hexLower n) = some (n % 16) := by
  rw [← hexLower_mod]
  exact digit?_hexLower (Nat.mod_lt n (by decide))

theorem digit?_hexUpper_mod (n : Nat) : digit? 16 (hexUpper n) = some (n % 16) := by
  rw [← hexUpper_mod]
  exact digit?_hexUpper (Nat.mod_lt n (by decide))

/-- Two digits read as the byte whose halves they are. -/
theorem bytes?_pair {hi lo : Char} {b : UInt8} (hhi : digit? 16 hi = some (b.toNat / 16 % 16))
    (hlo : digit? 16 lo = some (b.toNat % 16)) : bytes? [hi, lo] = some [b] := by
  have hb : b.toNat < 256 := b.toNat_lt
  have hvalue : b.toNat / 16 % 16 * 16 + b.toNat % 16 = b.toNat := by omega
  simp only [bytes?, hhi, hlo, hvalue, UInt8.ofNat_toNat]

theorem bytes?_byteLower (b : UInt8) : bytes? (byteLower b) = some [b] :=
  bytes?_pair (digit?_hexLower_mod _) (digit?_hexLower_mod _)

theorem bytes?_byteUpper (b : UInt8) : bytes? (byteUpper b) = some [b] :=
  bytes?_pair (digit?_hexUpper_mod _) (digit?_hexUpper_mod _)

end EventRing.Text
