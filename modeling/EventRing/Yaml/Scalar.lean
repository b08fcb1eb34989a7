import EventRing.Text.Digits
import EventRing.Yaml.Cursor

/-!
# Scalars of a YAML text

The four written forms of a scalar: plain, between single quotes, between double quotes, and as an indented block.  In
the first three a line end inside the scalar is folded: one becomes a space, more become one less.  Each function takes
the cursor at the first character of the scalar and gives the value with the cursor behind it, or `none` if the text is
ill formed.
-/

namespace EventRing.Yaml

/-- How a scalar was written. -/
inductive Style where
  | plain
  | singleQuoted
  | doubleQuoted
  | literal
  | folded
deriving DecidableEq

/-- White space inside a scalar: the spaces of one line, or line ends with nothing but white space between them. -/
structure Fold where
  spaces : List Char
  broken : Bool
  firstBreak : List Char
  laterBreaks : List Char

namespace Fold

/-- No white space. -/
def empty : Fold := ⟨[], false, [], []⟩

/-- A line end that leaves no trace of its own. -/
def escapedBreak : Fold := ⟨[], true, [], []⟩

/-- What the white space contributes to the value. -/
def text (f : Fold) : List Char :=
  if f.broken then
    if f.firstBreak = ['\n'] then (if f.laterBreaks.isEmpty then [' '] else f.laterBreaks)
    else f.firstBreak ++ f.laterBreaks
  else f.spaces

/-- Takes white space in.  A tab left of column `margin` in a line after the first is refused. -/
def take (margin : Nat) : Nat → Cursor → Fold → Option (Fold × Cursor)
  | 0, c, f => some (f, c)
  | fuel + 1, c, f =>
    if c.gapAt 0 then
      if f.broken ∧ c.column < margin ∧ c.sees '\t' then none
      else if f.broken then take margin fuel (c.skip 1) f
      else take margin fuel (c.skip 1) { f with spaces := f.spaces ++ c.rest.take 1 }
    else if c.breakAt 0 then
      let (ch, c) := c.takeBreak
      if f.broken then take margin fuel c { f with laterBreaks := f.laterBreaks ++ ch }
      else take margin fuel c { f with spaces := [], broken := true, firstBreak := ch }
    else some (f, c)

end Fold

/-! ## Quoted scalars -/

/-- The character for a one-letter escape. -/
def simpleEscape? (c : Char) : Option Char :=
  match c with
  | '0' => some '\x00'
  | 'a' => some '\x07'
  | 'b' => some '\x08'
  | 't' => some '\t'
  | '\t' => some '\t'
  | 'n' => some '\n'
  | 'v' => some '\x0b'
  | 'f' => some '\x0c'
  | 'r' => some '\r'
  | 'e' => some '\x1b'
  | ' ' => some ' '
  | '"' => some '"'
  | '/' => some '/'
  | '\\' => some '\\'
  | 'N' => some '\u0085'
  | '_' => some '\u00a0'
  | 'L' => some '\u2028'
  | 'P' => some '\u2029'
  | _ => none

/-- The number of hexadecimal digits after the letter of a numeric escape. -/
def escapeWidth? (c : Char) : Option Nat :=
  match c with
  | 'x' => some 2
  | 'u' => some 4
  | 'U' => some 8
  | _ => none

/-- The character with a number, if it has one. -/
def charOfNumber? (n : Nat) : Option Char :=
  if (0xD800 ≤ n ∧ n ≤ 0xDFFF) ∨ 0x10FFFF < n then none else some (Char.ofNat n)

/-- Reads an escape after its backslash. -/
def takeEscape (c : Cursor) : Option (Char × Cursor) :=
  match c.peek 0 with
  | none => none
  | some letter =>
    match simpleEscape? letter with
    | some ch => some (ch, c.skip 1)
    | none =>
      match escapeWidth? letter with
      | none => none
      | some width =>
        let digits := (c.rest.drop 1).take width
        if digits.length < width then none
        else
          match (Text.digits? 16 0 digits).bind charOfNumber? with
          | none => none
          | some ch => some (ch, c.skip (width + 1))

/-- The characters of a quoted scalar up to white space, its closing quote or an escaped line end; the values come in
reverse.  The flag tells of an escaped line end. -/
def takeQuotedRun (double : Bool) : Nat → Cursor → List Char → Option (List Char × Cursor × Bool)
  | 0, _, _ => none
  | fuel + 1, c, acc =>
    if c.separatedAt 0 then some (acc, c, false)
    else if double then
      if c.sees '"' then some (acc, c, false)
      else if c.sees '\\' then
        if c.breakAt 1 then some (acc, (c.skip 1).skipBreak, true)
        else
          match takeEscape (c.skip 1) with
          | none => none
          | some (ch, c) => takeQuotedRun double fuel c (ch :: acc)
      else takeQuotedRun double fuel (c.skip 1) (c.rest.take 1 ++ acc)
    else if c.sees '\'' then
      if c.peek 1 = some '\'' then takeQuotedRun double fuel (c.skip 2) ('\'' :: acc)
      else some (acc, c, false)
    else takeQuotedRun double fuel (c.skip 1) (c.rest.take 1 ++ acc)

/-- The lines of a quoted scalar up to its closing quote; the values come in reverse. -/
def takeQuotedLines (double : Bool) : Nat → Cursor → List Char → Option (List Char × Cursor)
  | 0, _, _ => none
  | fuel + 1, c, acc =>
    if c.atDocumentMark ∨ c.atEnd then none
    else
      match takeQuotedRun double (fuel + 1) c acc with
      | none => none
      | some (acc, c, escaped) =>
        if c.sees (if double then '"' else '\'') then some (acc, c.skip 1)
        else
          match Fold.take 0 (fuel + 1) c (if escaped then .escapedBreak else .empty) with
          | none => none
          | some (fold, c) => takeQuotedLines double fuel c (fold.text.reverse ++ acc)

/-- A scalar between quotes. -/
def takeQuoted (double : Bool) (c : Cursor) : Option (String × Cursor) :=
  match takeQuotedLines double (c.rest.length + 1) (c.skip 1) [] with
  | none => none
  | some (acc, c) => some (String.ofList acc.reverse, c)

/-! ## Plain scalars -/

/-- Whether a plain scalar inside brackets has a colon that cannot stand there. -/
def badFlowColon (c : Cursor) : Bool :=
  c.sees ':' && (c.peek 1).any fun ch => ch = ',' || ch = '?' || ch = '[' || ch = ']' || ch = '\x7b' || ch = '\x7d'

/-- Whether an indicator ends a plain scalar here. -/
def endsPlain (inFlow : Bool) (c : Cursor) : Bool :=
  (c.sees ':' && c.separatedAt 1)
    || (inFlow && (c.sees ',' || c.sees '[' || c.sees ']' || c.sees '\x7b' || c.sees '\x7d'))

/-- The characters of a plain scalar up to white space or an indicator; the values come in reverse. -/
def takePlainRun (inFlow : Bool) : Nat → Cursor → List Char → Option (List Char × Cursor)
  | 0, _, _ => none
  | fuel + 1, c, acc =>
    if c.separatedAt 0 then some (acc, c)
    else if inFlow && badFlowColon c then none
    else if endsPlain inFlow c then some (acc, c)
    else takePlainRun inFlow fuel (c.skip 1) (c.rest.take 1 ++ acc)

/-- The lines of a plain scalar.  White space counts only if more of the scalar follows it.  The flag tells whether the
cursor has come to a new line. -/
def takePlainLines (inFlow : Bool) (margin : Nat) :
    Nat → Cursor → Fold → List Char → Option (List Char × Cursor × Bool)
  | 0, _, _, _ => none
  | fuel + 1, c, fold, acc =>
    if c.atDocumentMark ∨ c.sees '#' then some (acc, c, fold.broken)
    else
      match takePlainRun inFlow (fuel + 1) c [] with
      | none => none
      | some (run, after) =>
        let acc := if run.isEmpty then acc else run ++ fold.text.reverse ++ acc
        let fold := if run.isEmpty then fold else .empty
        if !(after.gapAt 0 || after.breakAt 0) then some (acc, after, fold.broken)
        else
          match Fold.take margin (fuel + 1) after fold with
          | none => none
          | some (fold, next) =>
            if !inFlow && next.column < margin then some (acc, next, fold.broken)
            else takePlainLines inFlow margin fuel next fold acc

/-- A plain scalar whose further lines must reach column `margin`; the flag tells whether the cursor has come to a new
line. -/
def takePlain (inFlow : Bool) (margin : Nat) (c : Cursor) : Option (String × Cursor × Bool) :=
  match takePlainLines inFlow margin (c.rest.length + 1) c .empty [] with
  | none => none
  | some (acc, c, broken) => some (String.ofList acc.reverse, c, broken)

/-! ## Block scalars -/

/-- What happens to the line ends at the end of a block scalar. -/
inductive Chomping where
  | strip
  | clip
  | keep
deriving DecidableEq

/-- The chomping indicator at the cursor. -/
def takeChomping (c : Cursor) : Option (Chomping × Cursor) :=
  if c.sees '+' then some (.keep, c.skip 1)
  else if c.sees '-' then some (.strip, c.skip 1)
  else none

/-- The indentation indicator at the cursor: a digit; zero is refused (the outer `none`). -/
def takeIndicator (c : Cursor) : Option (Option (Nat × Cursor)) :=
  match (c.peek 0).bind (Text.digit? 10) with
  | none => some none
  | some 0 => none
  | some n => some (some (n, c.skip 1))

/-- The two indicators of a block scalar in either order. -/
def takeBlockHeader (c : Cursor) : Option (Chomping × Option Nat × Cursor) :=
  match takeChomping c with
  | some (chomping, c) =>
    match takeIndicator c with
    | none => none
    | some none => some (chomping, none, c)
    | some (some (n, c)) => some (chomping, some n, c)
  | none =>
    match takeIndicator c with
    | none => none
    | some none => some (.clip, none, c)
    | some (some (n, c)) =>
      match takeChomping c with
      | some (chomping, c) => some (chomping, some n, c)
      | none => some (.clip, some n, c)

/-- Takes indentation and empty lines in front of a line of a block scalar.  Without a known indentation every leading
space counts and the widest one is given back. -/
def takeBlockBreaks (indent : Option Nat) :
    Nat → Cursor → Nat → List Char → Option (Nat × List Char × Cursor)
  | 0, _, _, _ => none
  | fuel + 1, c, widest, breaks =>
    let spaces := (c.rest.takeWhile (· = ' ')).length
    let c :=
      match indent with
      | none => c.skip spaces
      | some n => c.skip (min spaces (n - c.column))
    let widest := max widest c.column
    let inIndent :=
      match indent with
      | none => true
      | some n => c.column < n
    if inIndent && c.sees '\t' then none
    else if c.breakAt 0 then
      let (ch, c) := c.takeBreak
      takeBlockBreaks indent fuel c widest (breaks ++ ch)
    else some (widest, breaks, c)

/-- The lines of a block scalar at a known indentation, in reverse, with the line end after the last one and the empty
lines that follow it. -/
def takeBlockLines (literal : Bool) (indent : Nat) :
    Nat → Cursor → (lastBreak emptyLines : List Char) → (wasGap : Bool) → List Char →
      Option (List Char × List Char × List Char × Cursor)
  | 0, _, _, _, _, _ => none
  | fuel + 1, c, lastBreak, emptyLines, wasGap, acc =>
    if c.column = indent ∧ ¬ c.atEnd then
      let isGap := c.gapAt 0
      let joint :=
        if !literal && lastBreak = ['\n'] && !wasGap && !isGap then
          (if emptyLines.isEmpty then [' '] else emptyLines)
        else lastBreak ++ emptyLines
      let (line, c) := c.takeRun fun ch => !isBreak ch
      let (lastBreak, c) := c.takeBreak
      match takeBlockBreaks (some indent) (fuel + 1) c 0 [] with
      | none => none
      | some (_, emptyLines, c) =>
        takeBlockLines literal indent fuel c lastBreak emptyLines isGap (line.reverse ++ joint.reverse ++ acc)
    else some (acc, lastBreak, emptyLines, c)

/-- A block scalar inside a block whose indentation is `parent`. -/
def takeBlock (literal : Bool) (parent : Int) (c : Cursor) : Option (String × Cursor) :=
  match takeBlockHeader (c.skip 1) with
  | none => none
  | some (chomping, indicator, c) =>
    let c := (c.skipRun isGap).skipComment
    if !c.lineEndAt 0 then none
    else
      let c := c.skipBreak
      let fixed := indicator.map fun n => if 0 ≤ parent then parent.toNat + n else n
      match takeBlockBreaks fixed (c.rest.length + 1) c 0 [] with
      | none => none
      | some (widest, emptyLines, c) =>
        let indent := fixed.getD (max widest (max (parent + 1).toNat 1))
        match takeBlockLines literal indent (c.rest.length + 1) c [] emptyLines false [] with
        | none => none
        | some (acc, lastBreak, emptyLines, c) =>
          let tail :=
            match chomping with
            | .strip => []
            | .clip => lastBreak
            | .keep => lastBreak ++ emptyLines
          some (String.ofList (acc.reverse ++ tail), c)

end EventRing.Yaml
