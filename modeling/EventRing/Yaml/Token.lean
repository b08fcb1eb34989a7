import EventRing.Yaml.Scalar
import EventRing.Yaml.Tag

/-!
# Tokens of a YAML text

A text is cut into tokens from left to right.  Block structure is marked by indentation, so tokens without characters
of their own open and close blocks; and a mapping key is recognised only at the colon behind it, so the place of a
candidate for a key is remembered and the token for it is put there afterwards.  `Token.ofText?` gives all tokens of a
text, or `none` if it is ill formed.
-/

namespace EventRing.Yaml

/-- The parts of which a YAML text is made. -/
inductive Token where
  | versionDirective (major minor : Nat)
  | tagDirective (handle : String) (leader : Tag)
  | documentStart
  | documentEnd
  | blockSequenceStart
  | blockMappingStart
  | blockEnd
  | flowSequenceStart
  | flowSequenceEnd
  | flowMappingStart
  | flowMappingEnd
  | blockEntry
  | flowEntry
  | key
  | value
  | alias (name : String)
  | anchor (name : String)
  | tag (handle : String) (suffix : Tag)
  | scalar (text : String) (style : Style)
deriving DecidableEq

/-- A token that may turn out to begin a mapping key: where it stands among the tokens and in the text, and whether the
text is ill formed if it does not. -/
structure Candidate where
  required : Bool
  position : Nat
  offset : Nat
  line : Nat
  column : Nat

/-- The state between two tokens.  `candidates` has one entry for the block level and one for each open bracket, the
innermost first. -/
structure Lexer where
  cursor : Cursor
  tokens : Array Token
  indent : Int
  indents : List Int
  candidates : List (Option Candidate)
  keyAllowed : Bool

namespace Lexer

/-- The state at the start of a text. -/
def start (text : List Char) : Lexer := ⟨.start text, #[], -1, [], [none], true⟩

/-- Whether a bracket is open. -/
def inFlow (l : Lexer) : Bool := 1 < l.candidates.length

/-- Adds a token at the end. -/
def push (l : Lexer) (t : Token) : Lexer := { l with tokens := l.tokens.push t }

/-- Puts a token at an earlier place. -/
def insert (l : Lexer) (position : Nat) (t : Token) : Lexer :=
  { l with tokens := (l.tokens.extract 0 position).push t ++ l.tokens.extract position l.tokens.size }

/-- Moves the cursor. -/
def moveTo (l : Lexer) (c : Cursor) : Lexer := { l with cursor := c }

/-- Says whether a key may begin at the next token. -/
def allowKey (l : Lexer) (allowed : Bool) : Lexer := { l with keyAllowed := allowed }

/-! ## Indentation -/

/-- Opens a block at a column that lies right of the current indentation. -/
def roll (l : Lexer) (column position : Nat) (t : Token) : Lexer :=
  if l.inFlow ∨ (column : Int) ≤ l.indent then l
  else { l with indents := l.indent :: l.indents, indent := column }.insert position t

/-- Closes blocks as long as their indentation lies right of a column. -/
def unwind (column : Int) : Int → List Int → Array Token → Int × List Int × Array Token
  | indent, [], tokens => (indent, [], tokens)
  | indent, outer :: more, tokens =>
    if column < indent then unwind column outer more (tokens.push .blockEnd)
    else (indent, outer :: more, tokens)

/-- Closes the blocks that end at a column; brackets suspend indentation. -/
def unroll (l : Lexer) (column : Int) : Lexer :=
  if l.inFlow then l
  else
    let (indent, indents, tokens) := unwind column l.indent l.indents l.tokens
    { l with indent, indents, tokens }

/-! ## Candidates for a key -/

/-- Whether a key can no longer be completed: it must be in one line and have at most 1024 bytes. -/
def isStale (l : Lexer) (k : Candidate) : Bool :=
  k.line < l.cursor.line || k.offset + 1024 < l.cursor.offset

/-- Drops the candidates that can no longer be completed; `none` if one of them is required. -/
def refresh (l : Lexer) : Option Lexer :=
  let isLost := fun candidate : Option Candidate =>
    match candidate with
    | some k => l.isStale k && k.required
    | none => false
  if l.candidates.any isLost then none
  else some { l with candidates := l.candidates.map fun k => k.filter fun k => !l.isStale k }

/-- Replaces the innermost candidate; `none` if it is required. -/
def setCandidate (l : Lexer) (k : Option Candidate) : Option Lexer :=
  match l.candidates with
  | [] => some { l with candidates := [k] }
  | old :: more =>
    match old with
    | some old => if old.required then none else some { l with candidates := k :: more }
    | none => some { l with candidates := k :: more }

/-- Notes the next token as a candidate if a key may begin there. -/
def noteCandidate (l : Lexer) : Option Lexer :=
  if l.keyAllowed then
    let required := !l.inFlow && l.indent = (l.cursor.column : Int)
    l.setCandidate (some ⟨required, l.tokens.size, l.cursor.offset, l.cursor.line, l.cursor.column⟩)
  else some l

/-! ## White space and comments -/

/-- Goes to the next token.  A line end outside brackets allows a key again; a tab is no indentation.  A byte order
mark may stand at the start of any line and takes a column there. -/
def skipSpace : Nat → Lexer → Lexer
  | 0, l => l
  | fuel + 1, l =>
    let tabs := l.inFlow || !l.keyAllowed
    let c := if l.cursor.column = 0 ∧ l.cursor.sees '\ufeff' then l.cursor.skip 1 else l.cursor
    let c := (c.skipRun fun ch => ch = ' ' || (tabs && ch = '\t')).skipComment
    if c.breakAt 0 then
      let l := l.moveTo c.skipBreak
      skipSpace fuel (if l.inFlow then l else l.allowKey true)
    else l.moveTo c

/-! ## Directives -/

/-- A number of one to nine digits. -/
def takeNumber (c : Cursor) : Option (Nat × Cursor) :=
  let (digits, after) := c.takeRun Char.isDigit
  if digits.length > 9 then none else (Text.unsigned? 10 1000000000 digits).map fun n => (n, after)

/-- A tag handle: an exclamation mark, or a word between two of them. -/
def takeHandle (directive : Bool) (c : Cursor) : Option (String × Cursor) :=
  if c.sees '!' then
    let (word, after) := (c.skip 1).takeRun isWord
    if after.sees '!' then some (String.ofList ('!' :: word ++ ['!']), after.skip 1)
    else if directive && !word.isEmpty then none
    else some (String.ofList ('!' :: word), after)
  else none

/-- The characters that a tag may hold as they are; the last three only where the tag has a closing bracket. -/
def isTagChar (bracketed : Bool) (c : Char) : Bool :=
  isWord c || ";/?:@&=+$.%!~*'()".toList.contains c || (bracketed && ",[]".toList.contains c)

/-- The bytes written by an escape of two hexadecimal digits each.  The first one says how many follow, and each of
those must be a continuation byte; more is not asked of them. -/
def takeTagEscape (c : Cursor) : Option (List UInt8 × Cursor) :=
  let byteAt := fun i : Nat =>
    if c.peek (3 * i) = some '%' then
      match (c.peek (3 * i + 1)).bind (Text.digit? 16), (c.peek (3 * i + 2)).bind (Text.digit? 16) with
      | some hi, some lo => some (UInt8.ofNat (hi * 16 + lo))
      | _, _ => none
    else none
  match byteAt 0 with
  | none => none
  | some lead =>
    let width := if lead < 0x80 then 1 else if lead < 0xC0 then 0 else if lead < 0xE0 then 2
      else if lead < 0xF0 then 3 else if lead < 0xF8 then 4 else 0
    if width = 0 then none
    else
      let tail := (List.range (width - 1)).map fun i => byteAt (i + 1)
      if tail.all fun b => b.any Text.Utf8.isTail then some (lead :: tail.filterMap id, c.skip (3 * width)) else none

/-- The rest of a tag; the bytes come in reverse. -/
def takeTagChars (bracketed : Bool) : Nat → Cursor → List UInt8 → Option (List UInt8 × Cursor)
  | 0, _, _ => none
  | fuel + 1, c, acc =>
    match c.peek 0 with
    | none => some (acc, c)
    | some ch =>
      if isTagChar bracketed ch then
        if ch = '%' then
          match takeTagEscape c with
          | none => none
          | some (bs, c) => takeTagChars bracketed fuel c (bs.reverse ++ acc)
        else takeTagChars bracketed fuel (c.skip 1) (ch.toUInt8 :: acc)
      else some (acc, c)

/-- A tag that goes on from `head`, whose first character is left out; there must be something to go on from or with. -/
def takeTagUri (bracketed : Bool) (head : List Char) (c : Cursor) : Option (Tag × Cursor) :=
  match takeTagChars bracketed (c.rest.length + 1) c [] with
  | none => none
  | some (acc, after) =>
    if head.isEmpty ∧ acc.isEmpty then none
    else some (.ofBytes ((head.drop 1).map Char.toUInt8 ++ acc.reverse), after)

/-- A directive after its percent sign. -/
def takeDirective (c : Cursor) : Option (Token × Cursor) :=
  let (name, c) := c.takeRun isWord
  if name.isEmpty ∨ !c.separatedAt 0 then none
  else if String.ofList name = "YAML" then
    match takeNumber (c.skipRun isGap) with
    | none => none
    | some (major, c) =>
      if c.sees '.' then (takeNumber (c.skip 1)).map fun (minor, c) => (.versionDirective major minor, c)
      else none
  else if String.ofList name = "TAG" then
    match takeHandle true (c.skipRun isGap) with
    | none => none
    | some (handle, c) =>
      if !c.gapAt 0 then none
      else
        match takeTagUri true [] (c.skipRun isGap) with
        | none => none
        | some (leader, c) => if c.separatedAt 0 then some (.tagDirective handle leader, c) else none
  else none

/-- The line end after a directive. -/
def takeDirectiveEnd (c : Cursor) : Option Cursor :=
  let c := (c.skipRun isGap).skipComment
  if c.lineEndAt 0 then some c.skipBreak else none

/-! ## Node properties -/

/-- The name after `&` or `*`. -/
def takeAnchorName (c : Cursor) : Option (String × Cursor) :=
  let (name, after) := c.takeRun isWord
  let ended := (after.peek 0).all fun ch => isGap ch || isBreak ch || "?:,]\x7d%@`".toList.contains ch
  if name.isEmpty ∨ !ended then none else some (String.ofList name, after)

/-- A tag: verbatim between angle brackets, after a handle, or a lone exclamation mark. -/
def takeTag (inFlow : Bool) (c : Cursor) : Option (Token × Cursor) :=
  let parts : Option (String × Tag × Cursor) :=
    if c.peek 1 = some '<' then
      match takeTagUri true [] (c.skip 2) with
      | none => none
      | some (suffix, c) => if c.sees '>' then some ("", suffix, c.skip 1) else none
    else
      match takeHandle false c with
      | none => none
      | some (handle, c) =>
        if 1 < handle.length ∧ handle.toList.getLast? = some '!' then
          (takeTagUri false [] c).map fun (suffix, c) => (handle, suffix, c)
        else
          (takeTagUri false handle.toList c).map fun (suffix, c) =>
            if suffix.isEmpty then ("", .lone, c) else ("!", suffix, c)
  match parts with
  | none => none
  | some (handle, suffix, c) =>
    if (inFlow && c.sees ',') || c.separatedAt 0 then some (.tag handle suffix, c) else none

/-! ## The next token -/

/-- A token of a fixed number of characters. -/
def fixed (l : Lexer) (width : Nat) (t : Token) : Lexer := (l.push t).moveTo (l.cursor.skip width)

/-- A token that opens a bracket. -/
def openBracket (l : Lexer) (t : Token) : Option Lexer :=
  l.noteCandidate.map fun l => ({ l with candidates := none :: l.candidates }.allowKey true).fixed 1 t

/-- A token that closes a bracket. -/
def closeBracket (l : Lexer) (t : Token) : Option Lexer :=
  (l.setCandidate none).map fun l =>
    let candidates := if l.inFlow then l.candidates.drop 1 else l.candidates
    ({ l with candidates }.allowKey false).fixed 1 t

/-- The hyphen in front of an item. -/
def blockEntry (l : Lexer) : Option Lexer :=
  if !l.inFlow && !l.keyAllowed then none
  else
    let l := l.roll l.cursor.column l.tokens.size .blockSequenceStart
    (l.setCandidate none).map fun l => (l.allowKey true).fixed 1 .blockEntry

/-- The question mark in front of a key. -/
def explicitKey (l : Lexer) : Option Lexer :=
  if !l.inFlow && !l.keyAllowed then none
  else
    let l := l.roll l.cursor.column l.tokens.size .blockMappingStart
    (l.setCandidate none).map fun l => (l.allowKey (!l.inFlow)).fixed 1 .key

/-- The colon behind a key.  What stands at the candidate becomes the key; without a candidate the key was announced by
a question mark. -/
def mappingValue (l : Lexer) : Option Lexer :=
  match l.candidates.head?.join.filter fun k => k.required || !l.isStale k with
  | some k =>
    if l.isStale k then none
    else
      let l := (l.insert k.position .key).roll k.column k.position .blockMappingStart
      let l := { l with candidates := none :: l.candidates.drop 1 }
      some ((l.allowKey false).fixed 1 .value)
  | none =>
    if !l.inFlow && !l.keyAllowed then none
    else
      let l := { l with candidates := none :: l.candidates.drop 1 }
      let l := l.roll l.cursor.column l.tokens.size .blockMappingStart
      some ((l.allowKey (!l.inFlow)).fixed 1 .value)

/-- Whether a plain scalar may begin at the cursor. -/
def startsPlain (inFlow : Bool) (c : Cursor) : Bool :=
  match c.peek 0 with
  | none => false
  | some ch =>
    if isGap ch || isBreak ch then false
    else if ch = '-' then !c.gapAt 1
    else if ch = '?' || ch = ':' then !inFlow && !c.separatedAt 1
    else !",[]\x7b\x7d#&*!|>'\"%@`".toList.contains ch

/-- The token at the cursor. -/
def token (l : Lexer) : Option Lexer :=
  let c := l.cursor
  let property := fun (found : Option (Token × Cursor)) =>
    match l.noteCandidate, found with
    | some l, some (t, c) => some (((l.allowKey false).push t).moveTo c)
    | _, _ => none
  if c.column = 0 ∧ c.sees '%' then
    match (l.unroll (-1)).setCandidate none, takeDirective (c.skip 1) with
    | some l, some (t, c) => (takeDirectiveEnd c).map fun c => ((l.allowKey false).push t).moveTo c
    | _, _ => none
  else if c.atMark '-' then
    ((l.unroll (-1)).setCandidate none).map fun l => (l.allowKey false).fixed 3 .documentStart
  else if c.atMark '.' then
    ((l.unroll (-1)).setCandidate none).map fun l => (l.allowKey false).fixed 3 .documentEnd
  else if c.sees '[' then l.openBracket .flowSequenceStart
  else if c.sees '\x7b' then l.openBracket .flowMappingStart
  else if c.sees ']' then l.closeBracket .flowSequenceEnd
  else if c.sees '\x7d' then l.closeBracket .flowMappingEnd
  else if c.sees ',' then (l.setCandidate none).map fun l => (l.allowKey true).fixed 1 .flowEntry
  else if c.sees '-' ∧ c.separatedAt 1 then l.blockEntry
  else if c.sees '?' ∧ (l.inFlow ∨ c.separatedAt 1) then l.explicitKey
  else if c.sees ':' ∧ (l.inFlow ∨ c.separatedAt 1) then l.mappingValue
  else if c.sees '*' then property ((takeAnchorName (c.skip 1)).map fun (name, c) => (.alias name, c))
  else if c.sees '&' then property ((takeAnchorName (c.skip 1)).map fun (name, c) => (.anchor name, c))
  else if c.sees '!' then property (takeTag l.inFlow c)
  else if (c.sees '|' ∨ c.sees '>') ∧ !l.inFlow then
    let literal := c.sees '|'
    match l.setCandidate none, takeBlock literal l.indent c with
    | some l, some (text, c) =>
      some (((l.allowKey true).push (.scalar text (if literal then .literal else .folded))).moveTo c)
    | _, _ => none
  else if c.sees '\'' then property ((takeQuoted false c).map fun (text, c) => (.scalar text .singleQuoted, c))
  else if c.sees '"' then property ((takeQuoted true c).map fun (text, c) => (.scalar text .doubleQuoted, c))
  else if startsPlain l.inFlow c then
    match l.noteCandidate, takePlain l.inFlow (l.indent + 1).toNat c with
    | some l, some (text, c, broken) => some (((l.allowKey broken).push (.scalar text .plain)).moveTo c)
    | _, _ => none
  else none

/-- The tokens from here to the end of the text. -/
def run : Nat → Lexer → Option (Array Token)
  | 0, _ => none
  | fuel + 1, l =>
    let l := l.skipSpace (fuel + 1)
    let l := l.unroll l.cursor.column
    if l.cursor.atEnd then ((l.unroll (-1)).setCandidate none).map Lexer.tokens
    else
      match l.token.bind Lexer.refresh with
      | none => none
      | some l => run fuel l

end Lexer

/-- All tokens of a text, if it is well formed. -/
def Token.ofText? (text : String) : Option (List Token) :=
  let chars := text.toList
  if chars.all isAllowed then (Lexer.run (chars.length + 1) (.start chars)).map Array.toList else none

end EventRing.Yaml
