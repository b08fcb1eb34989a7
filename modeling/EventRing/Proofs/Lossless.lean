import EventRing.Event
import Mathlib.Data.List.Nodup

/-!
# Events as JSON

What is left of an event once it has been written as JSON and read again.  `Json.Value` is a value as its reader has
it: all that is known of an object is what it holds under each key.  The texts inside an event tell what they stand for:
an address falls into pairs of digits at its colons, named kinds, states and statuses have names of their own, and an
unnamed kind is written in a form that no name has.

Main statements: `Address.splitOn_text`, `Address.text_injective`, `Kind.text_injective`,
`ConnectionState.name_injective`, `Status.value_toJson_injective`, `Event.value_toJson` (an event holds its type) and
`Event.json_lossless` (events that read the same are the same).
-/

namespace EventRing

/-! ### Values -/

namespace Json

/-- A JSON value as its reader has it: the members of an object are found by their keys, in no order. -/
inductive Value where
  | number (n : Nat)
  | string (s : String)
  | array (items : List Value)
  | object (members : String → Option Value)

mutual

/-- What a reader makes of a value. -/
def value : Json → Value
  | number n => .number n
  | string s => .string s
  | array items => .array (itemValues items)
  | object members => .object (memberValues members)

/-- What a reader makes of the items of an array. -/
def itemValues : List Json → List Value
  | [] => []
  | item :: more => item.value :: itemValues more

/-- What a reader finds under a key among the members of an object; of several under one key, the last counts. -/
def memberValues : List (String × Json) → String → Option Value
  | [], _ => none
  | (key, member) :: more, k => (memberValues more k).or (if key = k then some member.value else none)

end

theorem itemValues_eq_map (items : List Json) : itemValues items = items.map value := by
  induction items with
  | nil => rfl
  | cons item more ih => rw [itemValues, ih, List.map_cons]

/-- Objects that read the same hold the same under every key. -/
theorem memberValues_eq {members members' : List (String × Json)}
    (h : (object members).value = (object members').value) (key : String) :
    memberValues members key = memberValues members' key := by
  rw [value, value] at h
  exact congrFun (Value.object.inj h) key

end Json

/-! ### Texts that tell what they stand for -/

namespace Text

theorem byteLower_injective : Function.Injective byteLower := by
  intro b b' h
  have hback := bytes?_byteLower b
  rw [h, bytes?_byteLower] at hback
  exact (List.singleton_inj.1 (Option.some.inj hback)).symm

theorem byteUpper_injective : Function.Injective byteUpper := by
  intro b b' h
  have hback := bytes?_byteUpper b
  rw [h, bytes?_byteUpper] at hback
  exact (List.singleton_inj.1 (Option.some.inj hback)).symm

theorem colon_notMem_byteUpper (b : UInt8) : ':' ∉ byteUpper b := by
  have hdigit : ∀ n, ':' ≠ hexUpper n := by
    intro n hcolon
    have hread := digit?_hexUpper_mod n
    rw [← hcolon] at hread
    exact absurd hread (by simp [digit?])
  simp [byteUpper, hdigit]

end Text

/-- Labels tell values apart if those of the named values differ, those of the others differ, and no label is on both
sides. -/
theorem injective_of_named {α β γ : Type} {label : α → β} {named : List α} {other : γ → α}
    (cover : ∀ a, a ∈ named ∨ ∃ c, a = other c) (nodup : (named.map label).Nodup)
    (apart : ∀ a ∈ named, ∀ c, label (other c) ≠ label a)
    (others : ∀ c c', label (other c) = label (other c') → c = c') : Function.Injective label := by
  intro a b h
  rcases cover a with ha | ⟨c, rfl⟩
  · rcases cover b with hb | ⟨c', rfl⟩
    · exact List.inj_on_of_nodup_map nodup ha hb h
    · exact absurd h.symm (apart a ha c')
  · rcases cover b with hb | ⟨c', rfl⟩
    · exact absurd h (apart b hb c)
    · exact congrArg other (others c c' h)

namespace Address

/-- An address falls into its six pairs of digits at the colons. -/
theorem splitOn_text (a : Address) : a.text.toList.splitOn ':' = a.bytes.map Text.byteUpper := by
  have htext : a.text.toList = [':'].intercalate (a.bytes.map Text.byteUpper) := by
    simp [text, String.toList_intercalate, Function.comp_def]
  rw [htext, List.splitOn_intercalate]
  · intro pair hpair
    obtain ⟨b, -, rfl⟩ := List.mem_map.1 hpair
    exact Text.colon_notMem_byteUpper b
  · intro hnil
    have hlen := congrArg List.length hnil
    simp [a.length_bytes] at hlen

theorem text_injective : Function.Injective text := by
  intro a b h
  have hpairs := a.splitOn_text
  rw [h, b.splitOn_text] at hpairs
  have hbytes : b.bytes = a.bytes := Text.byteUpper_injective.list_map hpairs
  obtain ⟨bytes, hlen⟩ := a
  obtain ⟨bytes', hlen'⟩ := b
  rw [Address.mk.injEq]
  exact hbytes.symm

end Address

namespace Kind

/-- The kinds that have a name of their own. -/
def named : List Kind :=
  [connectionState, hidInfo, protocolMode, idleTime, getReport, virtualUnplug, handshake, unknown07, unknown08,
    unknown09, skip]

theorem mem_named_or_other (kind : Kind) : kind ∈ named ∨ ∃ tag, kind = other tag := by
  cases kind <;> simp [named]

theorem toList_text_other (tag : UInt8) :
    (other tag).text.toList = "Other(0x".toList ++ Text.byteLower tag ++ [')'] := by
  simp [text]

/-- No name of a kind has the form in which an unnamed one is written: there is no bracket in it. -/
theorem text_other_ne {kind : Kind} (h : kind ∈ named) (tag : UInt8) : (other tag).text ≠ kind.text := by
  have hnone : ∀ kind ∈ named, '(' ∉ kind.text.toList := by decide
  intro hsame
  apply hnone kind h
  rw [← hsame, toList_text_other]
  simp

theorem text_injective : Function.Injective text := by
  refine injective_of_named mem_named_or_other (by decide) (fun kind h => text_other_ne h) ?_
  intro tag tag' h
  have hlist := congrArg String.toList h
  rw [toList_text_other, toList_text_other, List.append_cancel_right_eq, List.append_cancel_left_eq] at hlist
  exact Text.byteLower_injective hlist

end Kind

namespace ConnectionState

/-- All states. -/
def all : List ConnectionState :=
  [connected, connecting, disconnected, disconnecting, failedMouseFromHost, failedKeyboardFromHost,
    failedTooManyDevices, failedNoBluetoothHidDriver, failedGeneric, unknown]

theorem mem_all (state : ConnectionState) : state ∈ all := by
  cases state <;> decide

theorem name_injective : Function.Injective name := by
  have hnodup : (all.map name).Nodup := by decide
  exact fun a b h => List.inj_on_of_nodup_map hnodup a.mem_all b.mem_all h

end ConnectionState

namespace Status

/-- The statuses that have a name of their own. -/
def named : List Status :=
  [ok, handshakeHidNotReady, handshakeInvalidReportId, handshakeTransactionNotSupported, handshakeInvalidParameter,
    handshakeError, error, errorSdp, errorProtocol, errorDatabaseFull, errorDeviceTypeUnsupported, errorNoResources,
    errorAuthenticationFailed, errorHdl]

theorem mem_named_or_other (status : Status) : status ∈ named ∨ ∃ number, status = other number := by
  cases status <;> simp [named]

theorem value_toJson_of_mem {status : Status} (h : status ∈ named) : status.toJson.value = .string status.name := by
  cases status with
  | other number => simp [named] at h
  | _ => simp [toJson, Json.value]

/-- A status without a name is an object, one with a name is a text. -/
theorem value_toJson_other (number : UInt32) :
    (other number).toJson.value = .object (Json.memberValues [("Other", .number number.toNat)]) := by
  rw [toJson, Json.value]

theorem value_toJson_injective : Function.Injective fun status : Status => status.toJson.value := by
  refine injective_of_named mem_named_or_other ?_ ?_ ?_
  · have hnodup : (named.map name).Nodup := by decide
    have hnames := hnodup.map (f := Json.Value.string) fun _ _ => Json.Value.string.inj
    rw [List.map_map] at hnames
    rwa [List.map_congr_left fun status h => value_toJson_of_mem h]
  · intro status h number
    rw [value_toJson_other, value_toJson_of_mem h]
    simp
  · intro number number' h
    have hmember := Json.memberValues_eq h "Other"
    have hnumber : number.toNat = number'.toNat := by simpa [Json.memberValues, Json.value] using hmember
    exact UInt32.toNat_inj.1 hnumber

end Status

/-! ### Events -/

namespace Event

theorem value_bytesToJson (bs : List UInt8) :
    (bytesToJson bs).value = .array (bs.map fun b => .number b.toNat) := by
  simp [bytesToJson, Json.value, Json.itemValues_eq_map]

theorem value_bytesToJson_injective : Function.Injective fun bs => (bytesToJson bs).value := by
  intro bs bs' h
  simp only [value_bytesToJson, Json.Value.array.injEq] at h
  have hnumber : Function.Injective fun b : UInt8 => Json.Value.number b.toNat :=
    fun b b' hb => UInt8.toNat_inj.1 (Json.Value.number.inj hb)
  exact hnumber.list_map h

/-- The type under which an event is shown. -/
def typeName : Event → String
  | connectionState .. => "connection_state"
  | getReport .. => "get_report"
  | passthrough .. => "passthrough"

/-- An event is an object that holds its type. -/
theorem value_toJson (event : Event) :
    ∃ members, event.toJson.value = .object members ∧ members "type" = some (.string event.typeName) := by
  cases event <;> exact ⟨_, by rw [toJson, Json.value], by simp [Json.memberValues, Json.value, typeName]⟩

theorem typeName_eq {a b : Event} (h : a.toJson.value = b.toJson.value) : a.typeName = b.typeName := by
  obtain ⟨members, ha, htype⟩ := a.value_toJson
  obtain ⟨members', hb, htype'⟩ := b.value_toJson
  rw [ha, hb, Json.Value.object.injEq] at h
  rw [h, htype'] at htype
  exact (Json.Value.string.inj (Option.some.inj htype)).symm

/-- Once the types agree, each member of the object gives back one field of the event. -/
theorem value_toJson_injective : Function.Injective fun event : Event => event.toJson.value := by
  intro a b h
  have htype := typeName_eq h
  cases a with
  | connectionState address state =>
    cases b with
    | connectionState address' state' =>
      have hmember := Json.memberValues_eq h
      have haddress : address.text = address'.text := by
        simpa [Json.memberValues, Json.value] using hmember "address"
      have hstate : state.name = state'.name := by
        simpa [Json.memberValues, Json.value] using hmember "state"
      rw [Address.text_injective haddress, ConnectionState.name_injective hstate]
    | _ => simp [typeName] at htype
  | getReport address status length report =>
    cases b with
    | getReport address' status' length' report' =>
      have hmember := Json.memberValues_eq h
      have haddress : address.text = address'.text := by
        simpa [Json.memberValues, Json.value] using hmember "address"
      have hstatus : status.toJson.value = status'.toJson.value := by
        simpa [Json.memberValues, Json.value] using hmember "status"
      have hlength : length.toNat = length'.toNat := by
        simpa [Json.memberValues, Json.value] using hmember "report_length"
      have hreport : (bytesToJson report).value = (bytesToJson report').value := by
        simpa [Json.memberValues, Json.value] using hmember "report"
      rw [Address.text_injective haddress, Status.value_toJson_injective hstatus, UInt32.toNat_inj.1 hlength,
        value_bytesToJson_injective hreport]
    | _ => simp [typeName] at htype
  | passthrough kind payload =>
    cases b with
    | passthrough kind' payload' =>
      have hmember := Json.memberValues_eq h
      have hkind : kind.text = kind'.text := by
        simpa [Json.memberValues, Json.value] using hmember "kind"
      have hpayload : (bytesToJson payload).value = (bytesToJson payload').value := by
        simpa [Json.memberValues, Json.value] using hmember "payload"
      rw [Kind.text_injective hkind, value_bytesToJson_injective hpayload]
    | _ => simp [typeName] at htype

/-- **The JSON form of an event loses nothing.** Events that read the same as JSON are the same, whatever their
addresses, states, statuses, lengths, bytes and kinds.  In particular a kind without a name is never taken for one that
has a name, not even for the one that its tag stands for, and events of different types never read the same. -/
theorem json_lossless :
    (∀ a b : Event, a.toJson.value = b.toJson.value ↔ a = b) ∧
    (∀ (tag : UInt8) (payload payload' : List UInt8), ∀ kind ∈ Kind.named,
      (passthrough (.other tag) payload).toJson.value ≠ (passthrough kind payload').toJson.value) ∧
    ∀ a b : Event, a.typeName ≠ b.typeName → a.toJson.value ≠ b.toJson.value := by
  refine ⟨fun a b => value_toJson_injective.eq_iff, ?_, fun a b hne h => hne (typeName_eq h)⟩
  intro tag payload payload' kind hkind h
  obtain ⟨hsame, -⟩ := Event.passthrough.inj (value_toJson_injective h)
  exact Kind.text_other_ne hkind tag (congrArg Kind.text hsame)

/-- Tag 4 is that of a report response. -/
theorem json_lossless_four :
    Kind.getReport ∈ Kind.named ∧
      (passthrough (.other 4) [1]).toJson.value ≠ (passthrough .getReport [1]).toJson.value ∧
      (passthrough .getReport [1]).typeName ≠ (getReport .zero .ok 1 [1]).typeName ∧
      (passthrough .getReport [1]).toJson.value ≠ (getReport .zero .ok 1 [1]).toJson.value := by
  obtain ⟨-, hkinds, htypes⟩ := json_lossless
  have hnamed : Kind.getReport ∈ Kind.named := by decide
  have hne : (passthrough .getReport [1]).typeName ≠ (getReport .zero .ok 1 [1]).typeName := by decide
  exact ⟨hnamed, hkinds 4 [1] [1] .getReport hnamed, hne, htypes _ _ hne⟩

end Event

end EventRing
