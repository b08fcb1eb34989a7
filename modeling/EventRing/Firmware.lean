import EventRing.Text.Blank
import EventRing.Validation

/-!
# Firmware versions

A firmware version has up to three components between full stops, each a number below 256; missing ones are zero.
Versions are ordered by major, then minor, then micro component.
-/

namespace EventRing

/-- The firmware version of a producer. -/
structure Firmware where
  major : UInt8
  minor : UInt8
  micro : UInt8
deriving DecidableEq

namespace Firmware

/-- The order of two versions. -/
def compare (a b : Firmware) : Ordering :=
  (Ord.compare a.major b.major).then ((Ord.compare a.minor b.minor).then (Ord.compare a.micro b.micro))

/-- Whether `a` is `b` or later. -/
def atLeast (a b : Firmware) : Bool := a.compare b != .lt

/-- The written form of a version, all three components. -/
def text (v : Firmware) : String :=
  toString v.major.toNat ++ "." ++ toString v.minor.toNat ++ "." ++ toString v.micro.toNat

/-- The pieces of a text between full stops. -/
def pieces : List Char → List (List Char)
  | [] => [[]]
  | c :: cs =>
    if c = '.' then [] :: pieces cs
    else
      match pieces cs with
      | [] => [[c]]
      | piece :: more => (c :: piece) :: more

/-- The number in one piece: an optional plus sign and digits, leading zeros allowed, below 256. -/
def component? : List Char → Option UInt8
  | '+' :: digits => (Text.unsigned? 10 256 digits).map UInt8.ofNat
  | digits => (Text.unsigned? 10 256 digits).map UInt8.ofNat

/-- The numbers in all pieces. -/
def components? : List (List Char) → Option (List UInt8)
  | [] => some []
  | piece :: more =>
    match component? piece, components? more with
    | some n, some ns => some (n :: ns)
    | _, _ => none

/-- Reads a version, ignoring white space at either end. -/
def ofString (s : String) : Except ValidationError Firmware :=
  let parts := pieces (Text.trim s.toList)
  if parts.length > 3 then .error (.firmwareShape s)
  else
    match components? parts with
    | none => .error (.firmwareComponent s)
    | some numbers =>
      .ok { major := numbers.getD 0 0, minor := numbers.getD 1 0, micro := numbers.getD 2 0 }

example : ofString " 9.+01 " = .ok ⟨9, 1, 0⟩ := by cbv

example : ofString "9..1" = .error (.firmwareComponent "9..1") := by cbv

end Firmware

end EventRing
