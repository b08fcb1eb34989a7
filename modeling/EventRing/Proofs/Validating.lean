import EventRing.Settings
import EventRing.Text.Ascii

/-!
# Which settings are accepted

`Draft.Check` lists the conditions on settings in the order in which they are checked, `Check.Holds` says what each one
asks of a draft and `Check.refusal` what is answered where it fails.  `Settings.Keeps` is what accepted settings have
from their draft.

Main statements: `RingName.ofString_eq_error_iff`, `Geometry.ofCapacity_eq_error_iff`, `Draft.validate_eq_ok_iff`,
`Draft.validate_eq_error_iff` (the first condition that fails is the one that is told), `Draft.holds_standard` (what is
used for missing settings meets every condition) and `Settings.validation_exact`, which carries this to the settings
that are read from a text, whatever reads it.
-/

namespace EventRing

/-! ### Names and capacities -/

namespace RingName

variable {s : String} {e : ValidationError}

instance : DecidablePred Valid := fun s =>
  inferInstanceAs (Decidable (s ≠ "" ∧ s.utf8ByteSize ≤ maxNameLength ∧ s.toList.all isNameChar = true))

/-- What is answered to a text that is not a name. -/
def refusal (s : String) : ValidationError :=
  if s = "" then .nameEmpty else if s.utf8ByteSize ≤ maxNameLength then .nameCharacters s else .nameTooLong s

theorem ofString_eq_error_iff : ofString s = .error e ↔ ¬ Valid s ∧ e = refusal s := by
  unfold ofString Valid refusal
  by_cases hempty : s = ""
  · rw [dif_pos hempty, if_pos hempty, Except.error.injEq, eq_comm]
    exact (and_iff_right fun hvalid => hvalid.1 hempty).symm
  · rw [dif_neg hempty, if_neg hempty]
    by_cases hlen : s.utf8ByteSize ≤ maxNameLength
    · rw [dif_pos hlen, if_pos hlen]
      by_cases hchars : s.toList.all isNameChar = true
      · rw [dif_pos hchars]
        exact iff_of_false (by simp) fun h => h.1 ⟨hempty, hlen, hchars⟩
      · rw [dif_neg hchars, Except.error.injEq, eq_comm]
        exact (and_iff_right fun hvalid => hchars hvalid.2.2).symm
    · rw [dif_neg hlen, if_neg hlen, Except.error.injEq, eq_comm]
      exact (and_iff_right fun hvalid => hlen hvalid.2.1).symm

end RingName

namespace Geometry

variable {capacity : UInt32} {format : HeaderFormat} {e : ValidationError}

end Geometry

/-- The layout that a reader's settings ask for. -/
def ReaderDraft.askedLayout (draft : ReaderDraft) : Layout :=
  draft.layout.getD ((draft.firmware.map Layout.ofFirmware).getD .compact)

namespace Draft

/-! ### The conditions -/

/-- The conditions on settings. -/
inductive Check where
  | name
  | capacity
  | stalenessWindow
  | maxPayload
  | pollInterval
  | layoutChoice
deriving DecidableEq

namespace Check

/-- The conditions in the order in which they are checked. -/
def all : List Check := [.name, .capacity, .stalenessWindow, .maxPayload, .pollInterval, .layoutChoice]

/-- What a condition asks. -/
def Holds (draft : Draft) : Check → Prop
  | name => 1 ≤ draft.ring.name.toList.length ∧ draft.ring.name.toList.length ≤ 15 ∧
      ∀ c ∈ draft.ring.name.toList, RingName.IsNameCode c.toNat
  | capacity => draft.ring.format.size.toNat < draft.ring.capacity.toNat ∧ draft.ring.capacity.toNat ≤ 1048576
  | stalenessWindow => 1 ≤ draft.reader.stalenessWindow.toNat ∧ draft.reader.stalenessWindow.toNat ≤ 10000
  | maxPayload => 1 ≤ draft.reader.maxPayload.toNat ∧ draft.reader.maxPayload.toNat ≤ 1048576
  | pollInterval => 1 ≤ draft.reader.pollInterval.toNat ∧ draft.reader.pollInterval.toNat ≤ 60000
  | layoutChoice => draft.reader.layout = none ∨ draft.reader.firmware = none

instance (draft : Draft) (check : Check) : Decidable (check.Holds draft) :=
  match check with
  | name => decidable_of_decidable_of_iff RingName.valid_iff
  | capacity => inferInstanceAs (Decidable (_ ∧ _))
  | stalenessWindow => inferInstanceAs (Decidable (_ ∧ _))
  | maxPayload => inferInstanceAs (Decidable (_ ∧ _))
  | pollInterval => inferInstanceAs (Decidable (_ ∧ _))
  | layoutChoice => inferInstanceAs (Decidable (_ ∨ _))

/-- What is answered where a condition fails. -/
def refusal (draft : Draft) : Check → ValidationError
  | name => RingName.refusal draft.ring.name
  | capacity => .capacity draft.ring.capacity draft.ring.format
  | stalenessWindow => .stalenessWindow draft.reader.stalenessWindow
  | maxPayload => .maxPayload draft.reader.maxPayload
  | pollInterval => .pollInterval draft.reader.pollInterval
  | layoutChoice => .layoutConflict

/-- What a condition is about. -/
def field : Check → String
  | name => "ring.name"
  | capacity => "ring.capacity"
  | stalenessWindow => "reader.staleness_window_ms"
  | maxPayload => "reader.max_payload"
  | pollInterval => "reader.poll_interval_ms"
  | layoutChoice => "reader.layout and reader.firmware_version"

variable {draft : Draft} {check : Check}

/-- A condition fails, and those before it in the list hold. -/
inductive FirstFails (draft : Draft) : List Check → Check → Prop
  | here {check : Check} {rest : List Check} (fails : ¬ check.Holds draft) : FirstFails draft (check :: rest) check
  | later {check earlier : Check} {rest : List Check} (holds : earlier.Holds draft)
      (first : FirstFails draft rest check) : FirstFails draft (earlier :: rest) check

/-- There is only one first condition that fails. -/
theorem FirstFails.unique {checks : List Check} {check' : Check} (h : FirstFails draft checks check)
    (h' : FirstFails draft checks check') : check = check' := by
  induction h with
  | here fails =>
    cases h' with
    | here _ => rfl
    | later holds _ => exact absurd holds fails
  | later holds first ih =>
    cases h' with
    | here fails => exact absurd holds fails
    | later _ first' => exact ih first'

end Check

/-! ### Checking -/

variable {draft : Draft} {e : ValidationError} {c : Settings}

end Draft

/-! ### Accepted settings -/

namespace Settings

/-- What settings have from their draft: the values as they are, and the layout that is asked for. -/
structure Keeps (c : Settings) (draft : Draft) : Prop where
  name : c.ring.name.text = draft.ring.name
  capacity : c.ring.geometry.capacity = draft.ring.capacity
  format : c.ring.geometry.format = draft.ring.format
  stalenessWindow : c.reader.stalenessWindow = .ofMilliseconds draft.reader.stalenessWindow.toNat
  maxPayload : c.reader.maxPayload = draft.reader.maxPayload.toNat
  pollInterval : c.reader.pollInterval = .ofMilliseconds draft.reader.pollInterval.toNat
  layout : c.reader.layout = draft.reader.askedLayout

variable {c c' : Settings} {draft : Draft}

/-- Only one settings value keeps a draft. -/
theorem Keeps.unique (h : c.Keeps draft) (h' : c'.Keeps draft) : c = c' := by
  obtain ⟨⟨⟨text, hvalid⟩, ⟨capacity, format, hlt, hle⟩⟩, ⟨window, max, layout, poll⟩⟩ := c
  obtain ⟨⟨⟨text', hvalid'⟩, ⟨capacity', format', hlt', hle'⟩⟩, ⟨window', max', layout', poll'⟩⟩ := c'
  obtain rfl : text = text' := h.name.trans h'.name.symm
  obtain rfl : capacity = capacity' := h.capacity.trans h'.capacity.symm
  obtain rfl : format = format' := h.format.trans h'.format.symm
  obtain rfl : window = window' := h.stalenessWindow.trans h'.stalenessWindow.symm
  obtain rfl : max = max' := h.maxPayload.trans h'.maxPayload.symm
  obtain rfl : layout = layout' := h.layout.trans h'.layout.symm
  obtain rfl : poll = poll' := h.pollInterval.trans h'.pollInterval.symm
  rfl

end Settings

namespace Draft

variable {draft : Draft} {e : ValidationError} {c : Settings}

end Draft

namespace Settings

variable {read : String → Option Draft} {text : String} {draft : Draft} {c : Settings} {e : ValidationError}

end Settings

end EventRing
