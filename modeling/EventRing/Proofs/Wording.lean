import EventRing.Command.Report
import Mathlib.Data.List.Basic

/-!
# The wording of what is printed

What a command prints for events and counters, said of each kind of event by itself and without the program's JSON
values, its digits and its columns.  `Wording.line` is the line for one event, `Wording.lines` what is printed for a row
of them, and `Wording.counters` the lines for the counters of a reader.  Statements on the output of a command are made
in these words.

Nothing in a name, an address or a kind has to be escaped in JSON: `Json.Plain` says so of a text.  Main statements:
`Json.quote_eq_of_plain` (such a text stands between quotes as it is), `Event.text_eq` and `Event.text_toJson` (the two
forms of an event), `Report.eventLine_eq` and `Report.statsLines_eq` (these are the lines that are printed).
-/

namespace EventRing

/-! ### The lines -/

namespace Wording

/-- A byte as two digits of base sixteen. -/
def pair (digits : String) (b : UInt8) : String :=
  String.ofList [digits.toList.getD (b.toNat / 16) ' ', digits.toList.getD (b.toNat % 16) ' ']

/-- An address as text. -/
def address (a : Address) : String := ":".intercalate (a.bytes.map (pair "0123456789ABCDEF"))

/-- A kind as text. -/
def kind : Kind → String
  | .other tag => "Other(0x" ++ pair "0123456789abcdef" tag ++ ")"
  | kind => kind.name

/-- A status as text. -/
def status : Status → String
  | .other number => "Other(" ++ toString number.toNat ++ ")"
  | status => status.name

/-- An event as text. -/
def text : Event → String
  | .connectionState a state => "ConnectionState " ++ address a ++ " " ++ state.name
  | .getReport a st length report =>
    "GetReport " ++ address a ++ " " ++ status st ++ " length=" ++ toString length.toNat ++ " report="
      ++ toString report.length ++ "B"
  | .passthrough k payload => kind k ++ " payload=" ++ toString payload.length ++ "B"

/-- A status as JSON. -/
def jsonStatus : Status → String
  | .other number => "\x7b\"Other\":" ++ toString number.toNat ++ "\x7d"
  | status => "\"" ++ status.name ++ "\""

/-- A byte string as JSON. -/
def jsonBytes (bs : List UInt8) : String := "[" ++ ",".intercalate (bs.map fun b => toString b.toNat) ++ "]"

/-- An event as JSON. -/
def json : Event → String
  | .connectionState a state =>
    "\x7b\"type\":\"connection_state\",\"address\":\"" ++ address a ++ "\",\"state\":\"" ++ state.name ++ "\"\x7d"
  | .getReport a st length report =>
    "\x7b\"type\":\"get_report\",\"address\":\"" ++ address a ++ "\",\"status\":" ++ jsonStatus st
      ++ ",\"report_length\":" ++ toString length.toNat ++ ",\"report\":" ++ jsonBytes report ++ "\x7d"
  | .passthrough k payload =>
    "\x7b\"type\":\"passthrough\",\"kind\":\"" ++ kind k ++ "\",\"payload\":" ++ jsonBytes payload ++ "\x7d"

/-- The line for an event: the JSON, or the text after its number in a column of six characters. -/
def line (asJson : Bool) (number : Nat) (event : Event) : String :=
  if asJson then json event ++ "\n"
  else "[" ++ String.ofList ((toString number).toList.leftpad 6 ' ') ++ "] " ++ text event ++ "\n"

/-- The lines for several events, with consecutive numbers. -/
def lines (asJson : Bool) (first : Nat) (events : List Event) : String :=
  String.join ((events.zipIdx first).map fun numbered => line asJson numbered.2 numbered.1)

/-- The lines for the counters of a reader. -/
def counters (asJson : Bool) (stats : Stats) : List String :=
  if asJson then
    ["\x7b\"delivered\":" ++ toString stats.delivered ++ ",\"stale_discarded\":" ++ toString stats.staleDiscarded
      ++ ",\"skip_markers\":" ++ toString stats.skipMarkers ++ ",\"decode_failures\":" ++ toString stats.decodeFailures
      ++ "\x7d"]
  else
    ["", "Reader Statistics:", "  Delivered:        " ++ toString stats.delivered,
      "  Stale Discarded:  " ++ toString stats.staleDiscarded, "  Skip Markers:     " ++ toString stats.skipMarkers,
      "  Decode Failures:  " ++ toString stats.decodeFailures]

theorem lines_cons (asJson : Bool) (first : Nat) (event : Event) (events : List Event) :
    lines asJson first (event :: events) = line asJson first event ++ lines asJson (first + 1) events := by
  rw [lines, List.zipIdx_cons, List.map_cons, String.join_cons]
  rfl

theorem lines_append (asJson : Bool) (first : Nat) (events events' : List Event) :
    lines asJson first (events ++ events') =
      lines asJson first events ++ lines asJson (first + events.length) events' := by
  rw [lines, List.zipIdx_append, List.map_append, String.join_append]
  rfl

end Wording

/-! ### Digits and columns -/

namespace Text

theorem hexUpper_eq {n : Nat} (h : n < 16) : hexUpper n = "0123456789ABCDEF".toList.getD n ' ' := by
  revert n
  decide

theorem hexLower_eq {n : Nat} (h : n < 16) : hexLower n = "0123456789abcdef".toList.getD n ' ' := by
  revert n
  decide

theorem ofList_byteUpper (b : UInt8) : String.ofList (byteUpper b) = Wording.pair "0123456789ABCDEF" b := by
  have hhigh : b.toNat / 16 < 16 := Nat.div_lt_of_lt_mul b.toNat_lt
  have hlow : b.toNat % 16 < 16 := Nat.mod_lt _ (by decide)
  rw [byteUpper, Wording.pair, ← hexUpper_mod b.toNat, hexUpper_eq hhigh, hexUpper_eq hlow]

theorem ofList_byteLower (b : UInt8) : String.ofList (byteLower b) = Wording.pair "0123456789abcdef" b := by
  have hhigh : b.toNat / 16 < 16 := Nat.div_lt_of_lt_mul b.toNat_lt
  have hlow : b.toNat % 16 < 16 := Nat.mod_lt _ (by decide)
  rw [byteLower, Wording.pair, ← hexLower_mod b.toNat, hexLower_eq hhigh, hexLower_eq hlow]

end Text

theorem Address.text_eq (a : Address) : a.text = Wording.address a := by
  rw [Address.text, Wording.address]
  simp only [Text.ofList_byteUpper]

theorem Kind.text_eq (k : Kind) : k.text = Wording.kind k := by
  cases k with
  | other tag => rw [Kind.text, Wording.kind, Text.ofList_byteLower]
  | _ => rfl

theorem Status.text_eq (status : Status) : status.text = Wording.status status := by
  cases status <;> rfl

theorem Event.text_eq (event : Event) : event.text = Wording.text event := by
  unfold Event.text Wording.text
  cases event with
  | connectionState a state =>
    dsimp only
    rw [a.text_eq]
  | getReport a st length report =>
    dsimp only
    rw [a.text_eq, st.text_eq]
  | passthrough k payload =>
    dsimp only
    rw [k.text_eq]

/-! ### Texts in JSON -/

namespace Json

/-- No character of a text needs an escape. -/
def Plain (s : String) : Prop := ∀ c ∈ s.toList, escapeChar c = [c]

instance (s : String) : Decidable (Plain s) := List.decidableBAll _ s.toList

theorem Plain.append {s s' : String} (h : Plain s) (h' : Plain s') : Plain (s ++ s') := by
  intro c hc
  rw [String.toList_append, List.mem_append] at hc
  exact hc.elim (h c) (h' c)

theorem Plain.intercalate {sep : String} {ss : List String} (hsep : Plain sep) (hss : ∀ s ∈ ss, Plain s) :
    Plain (sep.intercalate ss) := by
  induction ss with
  | nil => simp [Plain]
  | cons s ss ih =>
    obtain ⟨hs, hss⟩ := List.forall_mem_cons.1 hss
    cases ss with
    | nil => simpa using hs
    | cons s' ss =>
      rw [String.intercalate_cons_cons]
      exact (hs.append hsep).append (ih hss)

/-- A text without special characters stands between quotes as it is. -/
theorem quote_eq_of_plain {s : String} (h : Plain s) : quote s = "\"" ++ s ++ "\"" := by
  have hescaped : s.toList.flatMap escapeChar = s.toList := by
    rw [List.flatMap_congr h, List.flatMap_singleton']
  rw [quote, hescaped, ← String.toList_inj]
  simp

/-- Items stand between commas. -/
theorem textItems_eq (items : List Json) : textItems items = ",".intercalate (items.map text) := by
  induction items with
  | nil => rfl
  | cons item more ih =>
    cases more with
    | nil => simp [textItems]
    | cons next more =>
      rw [textItems, ih, List.map_cons, List.map_cons, List.map_cons, String.intercalate_cons_cons]
      simp

end Json

/-! ### Events and counters -/

namespace Wording

/-- The digits of a byte need no escape if no digit does. -/
theorem plain_pair {digits : String} (h : Json.Plain digits) (b : UInt8) : Json.Plain (pair digits b) := by
  have hdigit : ∀ n, Json.escapeChar (digits.toList.getD n ' ') = [digits.toList.getD n ' '] := by
    intro n
    rw [List.getD_eq_getElem?_getD]
    cases hn : digits.toList[n]? with
    | none => decide
    | some c => exact h c (List.mem_of_getElem? hn)
  intro c hc
  rw [pair, String.toList_ofList] at hc
  rcases List.mem_pair.1 hc with rfl | rfl
  · exact hdigit _
  · exact hdigit _

theorem plain_address (a : Address) : Json.Plain (address a) := by
  refine .intercalate (by decide) fun s hs => ?_
  obtain ⟨b, -, rfl⟩ := List.mem_map.1 hs
  exact plain_pair (by decide) b

theorem plain_kind (k : Kind) : Json.Plain (kind k) := by
  cases k with
  | other tag =>
    have hdigits : Json.Plain (pair "0123456789abcdef" tag) := plain_pair (by decide) tag
    exact (Json.Plain.append (by decide) hdigits).append (by decide)
  | _ => decide

end Wording

theorem ConnectionState.plain_name (state : ConnectionState) : Json.Plain state.name := by
  cases state <;> decide

theorem Status.text_toJson (st : Status) : st.toJson.text = Wording.jsonStatus st := by
  cases st with
  | other number =>
    rw [toJson, Wording.jsonStatus, Json.text, Json.textMembers, Json.text, Json.quote_eq_of_plain (by decide),
      ← String.toList_inj]
    simp
  | _ => exact Json.quote_eq_of_plain (by decide)

theorem Event.text_bytesToJson (bs : List UInt8) : (bytesToJson bs).text = Wording.jsonBytes bs := by
  rw [bytesToJson, Wording.jsonBytes, Json.text, Json.textItems_eq, List.map_map]
  simp only [Function.comp_def, Json.text]

/-- **The JSON of an event**, member by member. -/
theorem Event.text_toJson (event : Event) : event.toJson.text = Wording.json event := by
  unfold Event.toJson Wording.json
  -- The keys and the type are plain by evaluation; what stands behind them is rewritten by its own lemma.
  cases event with
  | connectionState a state =>
    dsimp only
    simp (disch := decide) only [Json.text, Json.textMembers, Json.quote_eq_of_plain]
    rw [a.text_eq, Json.quote_eq_of_plain (Wording.plain_address a), Json.quote_eq_of_plain state.plain_name,
      ← String.toList_inj]
    simp
  | getReport a st length report =>
    dsimp only
    simp (disch := decide) only [Json.text, Json.textMembers, Json.quote_eq_of_plain]
    rw [a.text_eq, Json.quote_eq_of_plain (Wording.plain_address a), st.text_toJson, text_bytesToJson,
      ← String.toList_inj]
    simp
  | passthrough k payload =>
    dsimp only
    simp (disch := decide) only [Json.text, Json.textMembers, Json.quote_eq_of_plain]
    rw [k.text_eq, Json.quote_eq_of_plain (Wording.plain_kind k), text_bytesToJson, ← String.toList_inj]
    simp

namespace Report

theorem column6_eq (n : Nat) : column6 n = String.ofList ((toString n).toList.leftpad 6 ' ') := by
  have hpush : ∀ k, ("".pushn ' ' k).toList = List.replicate k ' ' := by
    intro k
    rw [String.pushn_eq_repeat_push]
    induction k with
    | zero => rfl
    | succ k ih => rw [Nat.repeat, String.toList_push, ih, List.replicate_succ']
  rw [column6, ← String.toList_inj, String.toList_ofList, String.toList_append, hpush, List.leftpad,
    String.length_toList]

/-- **The line that is printed for an event.** -/
theorem eventLine_eq (asJson : Bool) (number : Nat) (event : Event) :
    eventLine asJson number event = Wording.line asJson number event := by
  rw [eventLine, Wording.line, event.text_toJson, event.text_eq, column6_eq]

example : eventLine true 0 (.getReport .zero (.other 16) 2 [1, 255]) =
    "\x7b\"type\":\"get_report\",\"address\":\"00:00:00:00:00:00\",\"status\":\x7b\"Other\":16\x7d,"
      ++ "\"report_length\":2,\"report\":[1,255]\x7d\n" := by
  rw [eventLine_eq]
  decide +kernel

/-- **The lines that are printed for the counters of a reader.** -/
theorem statsLines_eq (asJson : Bool) (stats : Stats) : statsLines asJson stats = Wording.counters asJson stats := by
  cases asJson with
  | false => rfl
  | true =>
    rw [statsLines, Wording.counters, Stats.toJson]
    simp (disch := decide) only [Json.text, Json.textMembers, Json.quote_eq_of_plain, if_true]
    rw [List.singleton_inj, ← String.toList_inj]
    simp

end Report

end EventRing
