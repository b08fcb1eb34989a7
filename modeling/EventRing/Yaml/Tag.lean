import EventRing.Text.Utf8

/-!
# Tags of YAML nodes

A tag is a string of bytes: its escapes write bytes that need not make up characters.  It ends before the first zero
byte.  `Tag.word?` is the word in a tag of the application's own, one that begins with an exclamation mark.
-/

namespace EventRing.Yaml

/-- A tag in full. -/
structure Tag where
  bytes : List UInt8
deriving DecidableEq

namespace Tag

/-- The tag that bytes write; what stands from the first zero byte on is lost. -/
def ofBytes (bs : List UInt8) : Tag := ⟨bs.takeWhile (· ≠ 0)⟩

/-- The tag with a given text. -/
def ofString (s : String) : Tag := ofBytes s.toUTF8.toList

/-- The tag that goes on with another one. -/
def append (leader suffix : Tag) : Tag := ⟨leader.bytes ++ suffix.bytes⟩

/-- Whether a tag has no bytes. -/
def isEmpty (t : Tag) : Bool := t.bytes.isEmpty

/-- The tag that names no type. -/
def lone : Tag := ofString "!"

/-- The text in front of the names of the standard types. -/
def standardLeader : Tag := ofString "tag:yaml.org,2002:"

/-- The tag of an absent value. -/
def null : Tag := standardLeader.append (ofString "null")

/-- The tag of an integer. -/
def int : Tag := standardLeader.append (ofString "int")

/-- What stands behind the exclamation mark of a tag that begins with one, if the bytes are a text. -/
def word? (t : Tag) : Option String :=
  match t.bytes with
  | 0x21 :: rest => Text.Utf8.strict? rest
  | _ => none

example : (ofString "!v2").word? = some "v2" := by cbv

example : lone.word? = some "" := by cbv

example : (ofBytes [0x21, 0xC0, 0x80]).word? = none := by cbv

end Tag

end EventRing.Yaml
