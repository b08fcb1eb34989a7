/-!
# Positions in a YAML text

A cursor is the rest of a text together with how many bytes and lines lie before it, and how many characters of its
line.  Five characters end a line; a carriage return and the line feed after it count as one line end.
-/

namespace EventRing.Yaml

/-- The characters that a YAML text may hold. -/
def isAllowed (c : Char) : Bool :=
  let n := c.toNat
  n = 0x09 || n = 0x0A || n = 0x0D || (0x20 ≤ n && n ≤ 0x7E) || n = 0x85 || (0xA0 ≤ n && n ≤ 0xD7FF)
    || (0xE000 ≤ n && n ≤ 0xFFFD) || 0x10000 ≤ n

/-- A space or a tab. -/
def isGap (c : Char) : Bool := c = ' ' || c = '\t'

/-- A character that ends a line. -/
def isBreak (c : Char) : Bool := c = '\r' || c = '\n' || c = '\u0085' || c = '\u2028' || c = '\u2029'

/-- A letter, a digit, an underscore or a hyphen. -/
def isWord (c : Char) : Bool := c.isAlphanum || c = '_' || c = '-'

/-- The number of bytes of a text in UTF-8. -/
def byteWidth (cs : List Char) : Nat := cs.foldl (fun n c => n + c.utf8Size) 0

/-- A place in a text. -/
structure Cursor where
  rest : List Char
  offset : Nat
  line : Nat
  column : Nat

namespace Cursor

/-- The start of a text. -/
def start (text : List Char) : Cursor := ⟨text, 0, 0, 0⟩

/-- The character `n` places on. -/
def peek (c : Cursor) (n : Nat) : Option Char := c.rest[n]?

/-- Whether the text is at its end. -/
def atEnd (c : Cursor) : Bool := c.rest.isEmpty

/-- Whether a given character comes next. -/
def sees (c : Cursor) (ch : Char) : Bool := c.rest.head? = some ch

/-- Whether a space or a tab stands `n` places on. -/
def gapAt (c : Cursor) (n : Nat) : Bool := (c.peek n).any isGap

/-- Whether a line end stands `n` places on. -/
def breakAt (c : Cursor) (n : Nat) : Bool := (c.peek n).any isBreak

/-- Whether a line end or the end of the text stands `n` places on. -/
def lineEndAt (c : Cursor) (n : Nat) : Bool := (c.peek n).all isBreak

/-- Whether a space, a tab, a line end or the end of the text stands `n` places on. -/
def separatedAt (c : Cursor) (n : Nat) : Bool := (c.peek n).all fun ch => isGap ch || isBreak ch

/-- The cursor `n` characters on, in the same line. -/
def skip (c : Cursor) (n : Nat) : Cursor :=
  ⟨c.rest.drop n, c.offset + byteWidth (c.rest.take n), c.line, c.column + n⟩

/-- The characters that satisfy `p`, and the cursor after them; none of them may end a line. -/
def takeRun (c : Cursor) (p : Char → Bool) : List Char × Cursor :=
  let run := c.rest.takeWhile p
  (run, c.skip run.length)

/-- The cursor after the characters that satisfy `p`. -/
def skipRun (c : Cursor) (p : Char → Bool) : Cursor := (c.takeRun p).2

/-- The line end under the cursor as the character that stands for it in a value, and the cursor in the next line. -/
def takeBreak (c : Cursor) : List Char × Cursor :=
  match c.rest with
  | '\r' :: '\n' :: rest => (['\n'], ⟨rest, c.offset + 2, c.line + 1, 0⟩)
  | ch :: rest =>
    if ch = '\u2028' ∨ ch = '\u2029' then ([ch], ⟨rest, c.offset + ch.utf8Size, c.line + 1, 0⟩)
    else if isBreak ch then (['\n'], ⟨rest, c.offset + ch.utf8Size, c.line + 1, 0⟩)
    else ([], c)
  | [] => ([], c)

/-- The cursor after a line end, if there is one. -/
def skipBreak (c : Cursor) : Cursor := c.takeBreak.2

/-- The cursor after a comment, if one begins here. -/
def skipComment (c : Cursor) : Cursor :=
  if c.sees '#' then c.skipRun fun ch => !isBreak ch else c

/-- Whether three equal characters that mark the border of a document stand at the start of this line. -/
def atMark (c : Cursor) (ch : Char) : Bool :=
  c.column = 0 && c.peek 0 = some ch && c.peek 1 = some ch && c.peek 2 = some ch && c.separatedAt 3

/-- Whether either border of a document stands here. -/
def atDocumentMark (c : Cursor) : Bool := c.atMark '-' || c.atMark '.'

end Cursor

end EventRing.Yaml
