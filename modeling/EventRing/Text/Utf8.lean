/-!
# UTF-8

Decoding of byte strings that may not be well formed.  A fault is the longest start of a well-formed character that
the next byte does not continue (at least one byte).  `Utf8.lossy` shows each fault as U+FFFD, `Utf8.strict?` refuses
a text that has one.
-/

namespace EventRing.Text.Utf8

/-- A continuation byte. -/
def isTail (b : UInt8) : Bool := 0x80 ≤ b && b ≤ 0xBF

/-- The second bytes that may follow the lead byte of a three-byte character. -/
def second3 (lead b : UInt8) : Bool :=
  if lead = 0xE0 then 0xA0 ≤ b && b ≤ 0xBF
  else if lead = 0xED then 0x80 ≤ b && b ≤ 0x9F
  else isTail b

/-- The second bytes that may follow the lead byte of a four-byte character. -/
def second4 (lead b : UInt8) : Bool :=
  if lead = 0xF0 then 0x90 ≤ b && b ≤ 0xBF
  else if lead = 0xF4 then 0x80 ≤ b && b ≤ 0x8F
  else isTail b

/-- The low six bits of a continuation byte. -/
def tailBits (b : UInt8) : Nat := b.toNat % 64

/-- The character at the head of `lead :: rest`, or `none` for a fault, and the number of bytes after `lead` that
belong to it. -/
def first (lead : UInt8) (rest : List UInt8) : Option Char × Nat :=
  if lead < 0x80 then (some (Char.ofNat lead.toNat), 0)
  else if 0xC2 ≤ lead ∧ lead ≤ 0xDF then
    match rest with
    | b1 :: _ => if isTail b1 then (some (Char.ofNat ((lead.toNat % 32) * 64 + tailBits b1)), 1) else (none, 0)
    | [] => (none, 0)
  else if 0xE0 ≤ lead ∧ lead ≤ 0xEF then
    match rest with
    | b1 :: more =>
      if second3 lead b1 then
        match more with
        | b2 :: _ =>
          if isTail b2 then
            (some (Char.ofNat (((lead.toNat % 16) * 64 + tailBits b1) * 64 + tailBits b2)), 2)
          else (none, 1)
        | [] => (none, 1)
      else (none, 0)
    | [] => (none, 0)
  else if 0xF0 ≤ lead ∧ lead ≤ 0xF4 then
    match rest with
    | b1 :: more =>
      if second4 lead b1 then
        match more with
        | b2 :: last =>
          if isTail b2 then
            match last with
            | b3 :: _ =>
              if isTail b3 then
                (some (Char.ofNat
                  ((((lead.toNat % 8) * 64 + tailBits b1) * 64 + tailBits b2) * 64 + tailBits b3)), 3)
              else (none, 2)
            | [] => (none, 2)
          else (none, 1)
        | [] => (none, 1)
      else (none, 0)
    | [] => (none, 0)
  else (none, 0)

/-- The characters and faults of a byte string, in order, after `skip` bytes that belong to what came before. -/
def scan (skip : Nat) : List UInt8 → List (Option Char)
  | [] => []
  | b :: bs =>
    match skip with
    | n + 1 => scan n bs
    | 0 => (first b bs).1 :: scan (first b bs).2 bs

/-- The text of a byte string, each fault shown as the replacement character. -/
def lossy (bs : List UInt8) : String :=
  String.ofList ((scan 0 bs).map fun c => c.getD '\ufffd')

/-- The text of a byte string, unless it has a fault. -/
def strict? (bs : List UInt8) : Option String :=
  let chars := scan 0 bs
  if chars.all Option.isSome then some (String.ofList (chars.filterMap id)) else none

end EventRing.Text.Utf8
