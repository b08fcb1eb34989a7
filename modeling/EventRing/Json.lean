import EventRing.Text.Digits

/-!
# JSON values

The values in which events and statistics are reported to other programs, and their compact text: no space, members
in the order in which they are given.
-/

namespace EventRing

/-- A JSON value whose numbers are natural. -/
inductive Json where
  | number (n : Nat)
  | string (s : String)
  | array (items : List Json)
  | object (members : List (String × Json))

namespace Json

/-- How a JSON string shows one character. -/
def escapeChar (c : Char) : List Char :=
  if c = '"' then ['\\', '"']
  else if c = '\\' then ['\\', '\\']
  else if c = '\x08' then ['\\', 'b']
  else if c = '\t' then ['\\', 't']
  else if c = '\n' then ['\\', 'n']
  else if c = '\x0c' then ['\\', 'f']
  else if c = '\r' then ['\\', 'r']
  else if c.toNat < 0x20 then ['\\', 'u', '0', '0', Text.hexLower (c.toNat / 16), Text.hexLower c.toNat]
  else [c]

/-- A string between quotes. -/
def quote (s : String) : String :=
  String.ofList ('"' :: s.toList.flatMap escapeChar ++ ['"'])

mutual

/-- The compact text of a value. -/
def text : Json → String
  | number n => toString n
  | string s => quote s
  | array items => "[" ++ textItems items ++ "]"
  | object members => "\x7b" ++ textMembers members ++ "\x7d"

/-- The texts of the items of an array, between commas. -/
def textItems : List Json → String
  | [] => ""
  | [item] => item.text
  | item :: more => item.text ++ "," ++ textItems more

/-- The texts of the members of an object, between commas. -/
def textMembers : List (String × Json) → String
  | [] => ""
  | [(key, value)] => quote key ++ ":" ++ value.text
  | (key, value) :: more => quote key ++ ":" ++ value.text ++ "," ++ textMembers more

end

end Json

end EventRing
