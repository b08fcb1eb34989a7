import EventRing.Text.Digits

/-!
# Record kinds

The kind of a record and the tag byte that stands for it in a record header.  A tag without a name of its own is
kept as `Kind.other`.  Main statements: `tag_ofTag` (every tag survives being read as a kind) and `ofTag_eq_skip_iff`
(which one is a skip marker).
-/

namespace EventRing

/-- What a record reports. -/
inductive Kind where
  | connectionState
  | hidInfo
  | protocolMode
  | idleTime
  | getReport
  | virtualUnplug
  | handshake
  | unknown07
  | unknown08
  | unknown09
  | skip
  | other (tag : UInt8)
deriving DecidableEq

namespace Kind

/-- The tag of padding that the producer leaves at the end of the data area. -/
def skipTag : UInt8 := 0xFF

/-- The tag byte of a kind. -/
def tag : Kind → UInt8
  | connectionState => 0
  | hidInfo => 1
  | protocolMode => 2
  | idleTime => 3
  | getReport => 4
  | virtualUnplug => 5
  | handshake => 6
  | unknown07 => 7
  | unknown08 => 8
  | unknown09 => 9
  | skip => skipTag
  | other tag => tag

/-- The kind that a tag byte stands for. -/
def ofTag (tag : UInt8) : Kind :=
  if tag = 0 then connectionState
  else if tag = 1 then hidInfo
  else if tag = 2 then protocolMode
  else if tag = 3 then idleTime
  else if tag = 4 then getReport
  else if tag = 5 then virtualUnplug
  else if tag = 6 then handshake
  else if tag = 7 then unknown07
  else if tag = 8 then unknown08
  else if tag = 9 then unknown09
  else if tag = skipTag then skip
  else other tag

/-- The name of a kind; every unnamed tag shares one. -/
def name : Kind → String
  | connectionState => "ConnectionState"
  | hidInfo => "HidInfo"
  | protocolMode => "ProtocolMode"
  | idleTime => "IdleTime"
  | getReport => "GetReport"
  | virtualUnplug => "VirtualUnplug"
  | handshake => "Handshake"
  | unknown07 => "Unknown07"
  | unknown08 => "Unknown08"
  | unknown09 => "Unknown09"
  | skip => "Skip"
  | other _ => "Other"

/-- The text of a kind: its name, with the tag in hexadecimal where the name does not tell it. -/
def text : Kind → String
  | other tag => "Other(0x" ++ String.ofList (Text.byteLower tag) ++ ")"
  | kind => kind.name

example : (other 4).text = "Other(0x04)" := by cbv

example : (ofTag 4).text = "GetReport" := by cbv

@[simp] theorem tag_ofTag (tag : UInt8) : (ofTag tag).tag = tag := by
  have all : ∀ n : Fin 256, (ofTag (UInt8.ofFin n)).tag = UInt8.ofFin n := by decide +kernel
  exact all tag.toFin

/-- Only the skip tag is read as a skip marker. -/
theorem ofTag_eq_skip_iff {tag : UInt8} : ofTag tag = skip ↔ tag = skipTag := by
  constructor
  · intro h
    rw [← tag_ofTag tag, h]
    rfl
  · rintro rfl
    rfl

end Kind

end EventRing
