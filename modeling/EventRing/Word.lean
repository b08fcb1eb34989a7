/-!
# Checked word arithmetic

Sums, differences and narrowings of machine words that answer `none` where the exact result does not fit.  Main
statements: `add?_eq_some_iff`, `addLong?_eq_some_iff` and `narrow?_eq_some_iff` say, in natural numbers, exactly when a
result exists and which one it is.
-/

namespace EventRing.Word

/-- The sum of two 32-bit words, unless it needs a 33rd bit. -/
def add? (a b : UInt32) : Option UInt32 :=
  if a.toNat + b.toNat < UInt32.size then some (a + b) else none

/-- The sum of two 64-bit words, unless it needs a 65th bit. -/
def addLong? (a b : UInt64) : Option UInt64 :=
  if a.toNat + b.toNat < UInt64.size then some (a + b) else none

/-- The difference of two 32-bit words, unless it is below zero. -/
def sub? (a b : UInt32) : Option UInt32 :=
  if b ≤ a then some (a - b) else none

/-- A 64-bit word as a 32-bit word, unless it needs more than 32 bits. -/
def narrow? (a : UInt64) : Option UInt32 :=
  if a.toNat < UInt32.size then some a.toUInt32 else none

/-! ## Results that fit -/

theorem add?_of_lt (a b : UInt32) (h : a.toNat + b.toNat < UInt32.size) :
    ∃ c, add? a b = some c ∧ c.toNat = a.toNat + b.toNat := by
  refine ⟨a + b, if_pos h, ?_⟩
  rw [UInt32.toNat_add, Nat.mod_eq_of_lt h]

theorem addLong?_of_lt (a b : UInt64) (h : a.toNat + b.toNat < UInt64.size) :
    ∃ c, addLong? a b = some c ∧ c.toNat = a.toNat + b.toNat := by
  refine ⟨a + b, if_pos h, ?_⟩
  rw [UInt64.toNat_add, Nat.mod_eq_of_lt h]

theorem sub?_of_le (a b : UInt32) (h : b.toNat ≤ a.toNat) : ∃ c, sub? a b = some c ∧ c.toNat + b.toNat = a.toNat := by
  have hle : b ≤ a := UInt32.le_iff_toNat_le.2 h
  refine ⟨a - b, if_pos hle, ?_⟩
  rw [UInt32.toNat_sub_of_le _ _ hle]
  omega

theorem narrow?_of_lt (a : UInt64) (h : a.toNat < UInt32.size) : ∃ c, narrow? a = some c ∧ c.toNat = a.toNat := by
  refine ⟨a.toUInt32, if_pos h, ?_⟩
  rw [UInt64.toNat_toUInt32, Nat.mod_eq_of_lt h]

/-! ## All results -/

theorem add?_eq_some_iff {a b c : UInt32} : add? a b = some c ↔ c.toNat = a.toNat + b.toNat := by
  constructor
  · intro h
    by_cases hfits : a.toNat + b.toNat < UInt32.size
    · obtain ⟨d, hd, hvalue⟩ := add?_of_lt a b hfits
      rw [h] at hd
      obtain rfl := Option.some.inj hd
      exact hvalue
    · rw [add?, if_neg hfits] at h
      exact absurd h (by simp)
  · intro h
    obtain ⟨d, hd, hvalue⟩ := add?_of_lt a b (h ▸ c.toNat_lt_size)
    rw [hd, Option.some.injEq, ← UInt32.toNat_inj]
    omega

theorem addLong?_eq_some_iff {a b c : UInt64} : addLong? a b = some c ↔ c.toNat = a.toNat + b.toNat := by
  constructor
  · intro h
    by_cases hfits : a.toNat + b.toNat < UInt64.size
    · obtain ⟨d, hd, hvalue⟩ := addLong?_of_lt a b hfits
      rw [h] at hd
      obtain rfl := Option.some.inj hd
      exact hvalue
    · rw [addLong?, if_neg hfits] at h
      exact absurd h (by simp)
  · intro h
    obtain ⟨d, hd, hvalue⟩ := addLong?_of_lt a b (h ▸ c.toNat_lt_size)
    rw [hd, Option.some.injEq, ← UInt64.toNat_inj]
    omega

theorem narrow?_eq_some_iff {a : UInt64} {c : UInt32} : narrow? a = some c ↔ c.toNat = a.toNat := by
  constructor
  · intro h
    by_cases hfits : a.toNat < UInt32.size
    · obtain ⟨d, hd, hvalue⟩ := narrow?_of_lt a hfits
      rw [h] at hd
      obtain rfl := Option.some.inj hd
      exact hvalue
    · rw [narrow?, if_neg hfits] at h
      exact absurd h (by simp)
  · intro h
    obtain ⟨d, hd, hvalue⟩ := narrow?_of_lt a (h ▸ c.toNat_lt_size)
    rw [hd, Option.some.injEq, ← UInt32.toNat_inj]
    omega

end EventRing.Word
