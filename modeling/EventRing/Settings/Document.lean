import EventRing.Settings
import EventRing.Yaml.Node

/-!
# Settings in a YAML document

The language in which the program reads its settings.  What is proved of settings holds in any language and does not
rest on this module.

A settings document is a mapping with the two sections `ring` and `reader`, each a mapping too.  An empty value counts
as an empty section, unknown keys are passed over, and a known key must not be repeated.  `Settings.ofText` reads a
whole text and `Settings.ofFile` what a path leads to.
-/

namespace EventRing

open Yaml (Node Document Style Tag)

namespace Yaml.Node

/-- The text of a scalar, however it is written. -/
def text? : Node → Option String
  | .scalar text _ _ => some text
  | _ => none

/-- The words for the absence of a value. -/
def isNullWord (s : String) : Bool := s = "~" || s = "null" || s = "Null" || s = "NULL"

/-- Whether a value is absent; `none` if its tag says so and its text does not. -/
def isAbsent? : Node → Option Bool
  | .scalar text .plain none => some (text = "" || isNullWord text)
  | .scalar text .plain (some tag) =>
    if tag = Tag.null then (if isNullWord text then some true else none) else some false
  | _ => some false

/-- The digits after an optional base sign, below `bound`; a decimal number has no leading zero. -/
def unsignedText? (bound : Nat) (cs : List Char) : Option Nat :=
  let digits :=
    match cs with
    | '+' :: rest => rest
    | _ => cs
  match digits with
  | '0' :: 'x' :: rest => Text.unsigned? 16 bound rest
  | '0' :: 'o' :: rest => Text.unsigned? 8 bound rest
  | '0' :: 'b' :: rest => Text.unsigned? 2 bound rest
  | '0' :: _ :: _ => none
  | digits => Text.unsigned? 10 bound digits

/-- The number below `bound` that a scalar writes.  It must be plain, or a literal block that is tagged as a number. -/
def unsigned? (bound : Nat) : Node → Option Nat
  | .scalar text .plain _ => unsignedText? bound text.toList
  | .scalar text .literal (some tag) => if tag = Tag.int then unsignedText? bound text.toList else none
  | _ => none

/-- The word that a scalar chooses: the one in its tag, with no value behind it, or else its text. -/
def choice? : Node → Option String
  | .scalar text style tag =>
    match tag.bind Tag.word? with
    | some word => if style = .plain ∧ (text = "" ∨ isNullWord text) then some word else none
    | none => some text
  | _ => none

/-- The entries of a section. -/
def section? : Node → Option (List (Node × Node))
  | .mapping entries _ => some entries
  | .scalar text .plain _ => if text = "" then some [] else none
  | _ => none

end Yaml.Node

namespace Settings

/-- A section by key, each with the node its value stands for.  Keys are scalars. -/
def keyed (d : Document) : List (Node × Node) → Option (List (String × Option Node))
  | [] => some []
  | (key, value) :: more =>
    match (d.resolve key).bind Node.text?, keyed d more with
    | some key, some rest => some ((key, d.resolve value) :: rest)
    | _, _ => none

/-- The section that a node holds. -/
def sectionOf (d : Document) (n : Node) : Option (List (String × Option Node)) := n.section?.bind (keyed d)

/-- The value under a known key.  It is read by `f`, and replaced by `standard` if the key is missing; a repeated key is
refused. -/
def field {α : Type} (entries : List (String × Option Node)) (key : String) (standard : α) (f : Node → Option α) :
    Option α :=
  match entries.filter fun entry => entry.1 = key with
  | [] => some standard
  | [(_, value)] => value.bind f
  | _ => none

/-- A value that may be absent. -/
def optional {α : Type} (f : Node → Option α) (n : Node) : Option (Option α) :=
  match n.isAbsent? with
  | none => none
  | some true => some none
  | some false => (f n).map some

/-- The section `ring`. -/
def ringDraft (d : Document) (n : Node) : Option RingDraft :=
  match sectionOf d n with
  | none => none
  | some entries =>
    match field entries "name" RingDraft.standard.name Node.text?,
      field entries "capacity" RingDraft.standard.capacity
        (fun n => (n.unsigned? UInt32.size).map UInt32.ofNat),
      field entries "header_format" RingDraft.standard.format
        (fun n => n.choice?.bind HeaderFormat.ofName?) with
    | some name, some capacity, some format => some ⟨name, capacity, format⟩
    | _, _, _ => none

/-- The section `reader`. -/
def readerDraft (d : Document) (n : Node) : Option ReaderDraft :=
  let word := fun n : Node => (n.unsigned? UInt64.size).map UInt64.ofNat
  match sectionOf d n with
  | none => none
  | some entries =>
    match field entries "staleness_window_ms" ReaderDraft.standard.stalenessWindow word,
      field entries "max_payload" ReaderDraft.standard.maxPayload word,
      field entries "layout" none (optional fun n => n.choice?.bind Layout.ofName?),
      field entries "firmware_version" none
        (optional fun n => n.text?.bind fun s => (Firmware.ofString s).toOption),
      field entries "poll_interval_ms" ReaderDraft.standard.pollInterval word with
    | some window, some maxPayload, some layout, some firmware, some interval =>
      some ⟨window, maxPayload, layout, firmware, interval⟩
    | _, _, _, _, _ => none

/-- The settings in a document. -/
def draftOfDocument (d : Document) : Option Draft :=
  match (d.resolve d.root).bind (sectionOf d) with
  | none => none
  | some entries =>
    match field entries "ring" .standard (ringDraft d), field entries "reader" .standard (readerDraft d) with
    | some ring, some reader => some ⟨ring, reader⟩
    | _, _ => none

/-- The settings in the document that a text holds. -/
def draftOfDocumentText (text : String) : Option Draft := (Document.ofText? text).bind draftOfDocument

/-- Reads and checks the settings in a text. -/
def ofText (text : String) : Except Error Settings := ofTextBy draftOfDocumentText text

/-- Reads and checks the settings in a file. -/
def ofFile (path : String) (file : SettingsFile) : Except Error Settings := ofFileBy draftOfDocumentText path file

end Settings

end EventRing
