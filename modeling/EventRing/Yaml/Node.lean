import EventRing.Yaml.Token

/-!
# Nodes of a YAML document

The tree that the tokens of a text describe.  A node can be given a name by an anchor and be repeated by an alias.
Anchors are numbered by how many names there are when the anchor is met, an alias stands for the number its name has
then, and a number stands for the last node that was given it anywhere in the document.  `Document.ofText?` reads a text
that holds one document, or none at all.
-/

namespace EventRing.Yaml

/-- A value of a document. -/
inductive Node where
  | scalar (text : String) (style : Style) (tag : Option Tag)
  | sequence (items : List Node) (tag : Option Tag)
  | mapping (entries : List (Node × Node)) (tag : Option Tag)
  | alias (number : Nat)

/-- The anchors met so far: the number of each name, and the nodes by number and order of their beginning. -/
structure Anchors where
  names : List (String × Nat)
  met : Nat
  nodes : List (Nat × Nat × Node)

namespace Anchors

/-- No anchor. -/
def empty : Anchors := ⟨[], 0, []⟩

/-- Meets an anchor: gives the number of its node and its place in the order. -/
def meet (a : Anchors) (name : String) : (Nat × Nat) × Anchors :=
  let number := a.names.length
  let others := a.names.filter fun entry => entry.1 ≠ name
  ((number, a.met), { a with names := (name, number) :: others, met := a.met + 1 })

/-- Meets the anchor of a node, if it has one. -/
def meet? (a : Anchors) (name : Option String) : Option (Nat × Nat) × Anchors :=
  match name with
  | none => (none, a)
  | some name =>
    let (place, a) := a.meet name
    (some place, a)

/-- Notes the node of an anchor that was met. -/
def note (a : Anchors) (place : Option (Nat × Nat)) (n : Node) : Anchors :=
  match place with
  | none => a
  | some (number, order) => { a with nodes := (number, order, n) :: a.nodes }

/-- The node that a number stands for. -/
def node? (a : Anchors) (number : Nat) : Option Node :=
  let candidates := a.nodes.filter fun entry => entry.1 = number
  let latest := candidates.foldl (fun best entry => max best entry.2.1) 0
  (candidates.find? fun entry => entry.2.1 = latest).map fun entry => entry.2.2

end Anchors

/-- A document: its root and its anchors. -/
structure Document where
  root : Node
  anchors : Anchors

namespace Document

/-- What a node is once an alias is replaced by the node it stands for. -/
def resolve (d : Document) (n : Node) : Option Node :=
  match n with
  | .alias number => d.anchors.node? number
  | n => some n

end Document

/-- What each tag handle stands for. -/
abbrev Handles := List (String × Tag)

/-- The handles of a document without directives. -/
def standardHandles : Handles := [("!", .lone), ("!!", .standardLeader)]

/-- A tag in full; `none` for an unknown handle. -/
def expandTag (handles : Handles) (handle : String) (suffix : Tag) : Option Tag :=
  if handle = "" then some suffix else (handles.lookup handle).map fun leader => leader.append suffix

/-- The anchor and the tag in front of a node, in either order, each at most once. -/
def takeProperties : List Token → Option String × Option (String × Tag) × List Token
  | .anchor a :: .tag handle suffix :: rest => (some a, some (handle, suffix), rest)
  | .anchor a :: rest => (some a, none, rest)
  | .tag handle suffix :: .anchor a :: rest => (some a, some (handle, suffix), rest)
  | .tag handle suffix :: rest => (none, some (handle, suffix), rest)
  | rest => (none, none, rest)

/-- Where a node may be left out. -/
def isOmitted (ends : List Token) : List Token → Bool
  | [] => true
  | t :: _ => ends.contains t

/-- The node for a missing value. -/
def Node.omitted : Node := .scalar "" .plain none

mutual

/-- A node.  `block` says whether block structure may begin here, `indentless` whether a sequence may begin at the
column of its parent. -/
def parseNode (handles : Handles) : Nat → (block indentless : Bool) → List Token → Anchors →
    Option (Node × List Token × Anchors)
  | 0, _, _, _, _ => none
  | _ + 1, _, _, .alias name :: rest, a =>
    (a.names.lookup name).map fun number => (.alias number, rest, a)
  | fuel + 1, block, indentless, tokens, a =>
    let (anchor, property, tokens) := takeProperties tokens
    match (match property with
      | none => some none
      | some (handle, suffix) => (expandTag handles handle suffix).map some) with
    | none => none
    | some tag =>
      let (place, a) := a.meet? anchor
      let noted := fun (found : Option (Node × List Token × Anchors)) =>
        found.map fun (n, rest, a) => (n, rest, a.note place n)
      match tokens with
      | .blockEntry :: _ =>
        if indentless then
          noted ((parseItems handles fuel true tokens a).map fun (items, rest, a) => (.sequence items tag, rest, a))
        else if anchor.isSome ∨ tag.isSome then noted (some (.scalar "" .plain tag, tokens, a))
        else none
      | .scalar text style :: rest =>
        noted (some (.scalar text style tag, rest, a))
      | .flowSequenceStart :: rest =>
        noted ((parseFlowItems handles fuel true rest a).map fun (items, rest, a) => (.sequence items tag, rest, a))
      | .flowMappingStart :: rest =>
        noted ((parseFlowEntries handles fuel true rest a).map fun (entries, rest, a) =>
          (.mapping entries tag, rest, a))
      | .blockSequenceStart :: rest =>
        if block then
          noted ((parseItems handles fuel false rest a).map fun (items, rest, a) => (.sequence items tag, rest, a))
        else if anchor.isSome ∨ tag.isSome then noted (some (.scalar "" .plain tag, tokens, a))
        else none
      | .blockMappingStart :: rest =>
        if block then
          noted ((parseEntries handles fuel rest a).map fun (entries, rest, a) => (.mapping entries tag, rest, a))
        else if anchor.isSome ∨ tag.isSome then noted (some (.scalar "" .plain tag, tokens, a))
        else none
      | _ =>
        if anchor.isSome ∨ tag.isSome then noted (some (.scalar "" .plain tag, tokens, a))
        else none

/-- A node, or the one for a missing value before the given tokens. -/
def parseOptional (handles : Handles) : Nat → (block indentless : Bool) → List Token → List Token → Anchors →
    Option (Node × List Token × Anchors)
  | 0, _, _, _, _, _ => none
  | fuel + 1, block, indentless, ends, tokens, a =>
    if isOmitted ends tokens then some (.omitted, tokens, a) else parseNode handles fuel block indentless tokens a

/-- The items of a block sequence.  One at the column of its parent has no token for its end. -/
def parseItems (handles : Handles) : Nat → (indentless : Bool) → List Token → Anchors →
    Option (List Node × List Token × Anchors)
  | 0, _, _, _ => none
  | fuel + 1, indentless, tokens, a =>
    match tokens with
    | .blockEntry :: rest =>
      let ends : List Token := if indentless then [.blockEntry, .key, .value, .blockEnd] else [.blockEntry, .blockEnd]
      match parseOptional handles fuel true false ends rest a with
      | none => none
      | some (item, rest, a) =>
        (parseItems handles fuel indentless rest a).map fun (items, rest, a) => (item :: items, rest, a)
    | .blockEnd :: rest => if indentless then some ([], tokens, a) else some ([], rest, a)
    | _ => if indentless then some ([], tokens, a) else none

/-- The entries of a block mapping. -/
def parseEntries (handles : Handles) : Nat → List Token → Anchors →
    Option (List (Node × Node) × List Token × Anchors)
  | 0, _, _ => none
  | fuel + 1, tokens, a =>
    match tokens with
    | .key :: rest =>
      match parseOptional handles fuel true true [.key, .value, .blockEnd] rest a with
      | none => none
      | some (key, rest, a) =>
        let found :=
          match rest with
          | .value :: rest => parseOptional handles fuel true true [.key, .value, .blockEnd] rest a
          | rest => some (.omitted, rest, a)
        match found with
        | none => none
        | some (value, rest, a) =>
          (parseEntries handles fuel rest a).map fun (entries, rest, a) => ((key, value) :: entries, rest, a)
    | .blockEnd :: rest => some ([], rest, a)
    | _ => none

/-- The items of a sequence in brackets.  A key makes an item a mapping with one entry; a key left out there takes the
token behind it along. -/
def parseFlowItems (handles : Handles) : Nat → (first : Bool) → List Token → Anchors →
    Option (List Node × List Token × Anchors)
  | 0, _, _, _ => none
  | fuel + 1, first, tokens, a =>
    let opened : Option (List Token) :=
      match tokens with
      | .flowSequenceEnd :: _ => some tokens
      | .flowEntry :: rest => if first then some tokens else some rest
      | _ => if first then some tokens else none
    match opened with
    | none => none
    | some (.flowSequenceEnd :: rest) => some ([], rest, a)
    | some (.key :: rest) =>
      let keyed :=
        if isOmitted [.value, .flowEntry, .flowSequenceEnd] rest then some (.omitted, rest.drop 1, a)
        else parseNode handles fuel false false rest a
      match keyed with
      | none => none
      | some (key, rest, a) =>
        let found :=
          match rest with
          | .value :: rest => parseOptional handles fuel false false [.flowEntry, .flowSequenceEnd] rest a
          | rest => some (.omitted, rest, a)
        match found with
        | none => none
        | some (value, rest, a) =>
          (parseFlowItems handles fuel false rest a).map fun (items, rest, a) =>
            (.mapping [(key, value)] none :: items, rest, a)
    | some tokens =>
      match parseNode handles fuel false false tokens a with
      | none => none
      | some (item, rest, a) =>
        (parseFlowItems handles fuel false rest a).map fun (items, rest, a) => (item :: items, rest, a)

/-- The entries of a mapping in brackets.  A node that is not marked as a key is one without a value. -/
def parseFlowEntries (handles : Handles) : Nat → (first : Bool) → List Token → Anchors →
    Option (List (Node × Node) × List Token × Anchors)
  | 0, _, _, _ => none
  | fuel + 1, first, tokens, a =>
    let opened : Option (List Token) :=
      match tokens with
      | .flowMappingEnd :: _ => some tokens
      | .flowEntry :: rest => if first then some tokens else some rest
      | _ => if first then some tokens else none
    match opened with
    | none => none
    | some (.flowMappingEnd :: rest) => some ([], rest, a)
    | some (.key :: rest) =>
      match parseOptional handles fuel false false [.value, .flowEntry, .flowMappingEnd] rest a with
      | none => none
      | some (key, rest, a) =>
        let found :=
          match rest with
          | .value :: rest => parseOptional handles fuel false false [.flowEntry, .flowMappingEnd] rest a
          | rest => some (.omitted, rest, a)
        match found with
        | none => none
        | some (value, rest, a) =>
          (parseFlowEntries handles fuel false rest a).map fun (entries, rest, a) =>
            ((key, value) :: entries, rest, a)
    | some tokens =>
      match parseNode handles fuel false false tokens a with
      | none => none
      | some (key, rest, a) =>
        (parseFlowEntries handles fuel false rest a).map fun (entries, rest, a) =>
          ((key, .omitted) :: entries, rest, a)

end

/-- The directives in front of a document: at most one version, which must be known, and no handle twice. -/
def takeDirectives : List Token → (versioned : Bool) → Handles → Option (Handles × List Token)
  | .versionDirective major minor :: rest, versioned, handles =>
    if versioned ∨ major ≠ 1 ∨ (minor ≠ 1 ∧ minor ≠ 2) then none else takeDirectives rest true handles
  | .tagDirective handle leader :: rest, versioned, handles =>
    if (handles.lookup handle).isSome then none else takeDirectives rest versioned ((handle, leader) :: handles)
  | rest, _, handles => some (handles, rest)

/-- The root of a document that begins at the given tokens, without the marks around it. -/
def parseDocument (tokens : List Token) : Option (Document × List Token) :=
  let fuel := 8 * tokens.length + 8
  match tokens with
  | .versionDirective .. :: _ | .tagDirective .. :: _ | .documentStart :: _ =>
    match takeDirectives tokens false [] with
    | some (handles, .documentStart :: rest) =>
      let isEmpty :=
        match rest with
        | [] => true
        | t :: _ =>
          match t with
          | .versionDirective .. | .tagDirective .. | .documentStart | .documentEnd => true
          | _ => false
      if isEmpty then some (⟨.omitted, .empty⟩, rest)
      else
        (parseNode (handles ++ standardHandles) fuel true false rest .empty).map fun (root, rest, anchors) =>
          (⟨root, anchors⟩, rest)
    | _ => none
  | tokens =>
    (parseNode standardHandles fuel true false tokens .empty).map fun (root, rest, anchors) =>
      (⟨root, anchors⟩, rest)

namespace Document

/-- The document in a text.  A text without one has an empty root; with a second one it is refused. -/
def ofText? (text : String) : Option Document :=
  match Token.ofText? text with
  | none => none
  | some [] => some ⟨.omitted, .empty⟩
  | some tokens =>
    match parseDocument tokens with
    | none => none
    | some (document, rest) => if rest.all (· = .documentEnd) then some document else none

end Document

end EventRing.Yaml
