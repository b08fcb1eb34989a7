import EventRing.Text.Digits
import EventRing.Text.Unprintable

/-!
# Quoted text

The form in which a description shows a name: between double quotes, with the usual escapes for a quote, a
backslash and the control characters, and by number where a character is unprintable.
-/

namespace EventRing.Text

/-- The lower-case hexadecimal digits of a number, without leading zeros; zero has one digit. -/
def hexDigits (n : Nat) : List Char :=
  if n < 16 then [hexLower n] else hexDigits (n / 16) ++ [hexLower n]

/-- How a quoted text shows one character. -/
def quoteChar (c : Char) : List Char :=
  if c = '\x00' then ['\\', '0']
  else if c = '\t' then ['\\', 't']
  else if c = '\r' then ['\\', 'r']
  else if c = '\n' then ['\\', 'n']
  else if c = '"' then ['\\', '"']
  else if c = '\\' then ['\\', '\\']
  else if isUnprintable c then ['\\', 'u', '\x7b'] ++ hexDigits c.toNat ++ ['\x7d']
  else [c]

/-- The text between double quotes, with escapes. -/
def quoted (s : String) : String :=
  String.ofList ('"' :: s.toList.flatMap quoteChar ++ ['"'])

example : quoted "\"\n" = "\"\\\"\\n\"" := by cbv

end EventRing.Text
