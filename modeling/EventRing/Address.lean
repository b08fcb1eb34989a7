import EventRing.Text.Digits

/-!
# Device addresses

A Bluetooth device address is six bytes, kept in the order in which they stand in a payload, and written as six
upper-case hexadecimal pairs between colons.
-/

namespace EventRing

/-- A six-byte device address. -/
structure Address where
  bytes : List UInt8
  length_bytes : bytes.length = 6
deriving DecidableEq

namespace Address

/-- The number of bytes in an address. -/
def size : Nat := 6

/-- The address at the head of a byte string, if there are enough bytes. -/
def ofBytes? (bs : List UInt8) : Option Address :=
  if h : size ≤ bs.length then some ⟨bs.take size, by rw [List.length_take, Nat.min_eq_left h]; rfl⟩ else none

/-- The address with six zero bytes. -/
def zero : Address := ⟨List.replicate 6 0, rfl⟩

/-- The written form of an address. -/
def text (a : Address) : String :=
  String.intercalate ":" (a.bytes.map fun b => String.ofList (Text.byteUpper b))

example : (ofBytes? [0x98, 0xB6, 0xE9, 0x01, 0x02, 0xFF, 7]).map text = some "98:B6:E9:01:02:FF" := by cbv

theorem ofBytes?_eq_some_iff {bs : List UInt8} {a : Address} :
    ofBytes? bs = some a ↔ 6 ≤ bs.length ∧ a.bytes = bs.take 6 := by
  unfold ofBytes? size
  split
  · next h =>
    constructor
    · intro ha
      exact ⟨h, by rw [← Option.some.inj ha]⟩
    · intro ⟨_, ha⟩
      obtain ⟨bytes, hlen⟩ := a
      simp only at ha
      subst ha
      rfl
  · next h => simp [h]

end Address

end EventRing
