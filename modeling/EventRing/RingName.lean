import EventRing.Validation

/-!
# Ring names

A ring carries a name of 1 to 15 bytes, all of them ASCII letters, digits, `.`, `_` or `-`.  Main statement:
`ofString_eq_ok_iff` (a text is accepted exactly if it satisfies `RingName.Valid`, and is then kept as it is).
-/

namespace EventRing

namespace RingName

/-- The characters of a ring name. -/
def isNameChar (c : Char) : Bool :=
  c.isAlphanum || c = '-' || c = '_' || c = '.'

/-- What a ring name has to satisfy; its length counts bytes. -/
def Valid (s : String) : Prop :=
  s ≠ "" ∧ s.utf8ByteSize ≤ maxNameLength ∧ s.toList.all isNameChar = true

end RingName

/-- A name that a ring can carry. -/
structure RingName where
  text : String
  valid : RingName.Valid text

namespace RingName

/-- Accepts a text as a ring name: it is checked for being empty, then for its length, then for its characters. -/
def ofString (s : String) : Except ValidationError RingName :=
  if hempty : s = "" then .error .nameEmpty
  else if hlen : s.utf8ByteSize ≤ maxNameLength then
    if hchars : s.toList.all isNameChar = true then .ok ⟨s, hempty, hlen, hchars⟩
    else .error (.nameCharacters s)
  else .error (.nameTooLong s)

theorem ofString_eq_ok_iff {s : String} {name : RingName} :
    ofString s = .ok name ↔ Valid s ∧ name.text = s := by
  obtain ⟨text, hvalid⟩ := name
  unfold ofString Valid
  constructor
  · intro h
    split at h
    · simp at h
    · next hempty =>
      split at h
      · next hlen =>
        split at h
        · next hchars =>
          simp only [Except.ok.injEq] at h
          exact ⟨⟨hempty, hlen, hchars⟩, (congrArg RingName.text h).symm⟩
        · simp at h
      · simp at h
  · rintro ⟨⟨hempty, hlen, hchars⟩, htext⟩
    simp only at htext
    subst htext
    simp [hempty, hlen, hchars]

end RingName

end EventRing
