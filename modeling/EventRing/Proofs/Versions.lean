import EventRing.Layout
import Mathlib.Data.List.Forall2
import Mathlib.Data.List.GetD
import Mathlib.Data.List.TakeWhile
import Mathlib.Data.Prod.Lex

/-!
# How a firmware version is written

`Text.Stripped` says what is left of a text without the white space around it, `Firmware.IsComponent` which pieces of
text write a component, and `Firmware.Spells` how one to three components stand between full stops.  A version is
ordered as its `Firmware.key`, lexicographically.

Main statements: `Text.stripped_iff` (trimming strips), `Text.unsigned?_eq_some_iff` (which digits write a number, and
which one), `Firmware.pieces_eq_splitOn`, `Firmware.component?_eq_some_iff`, `Firmware.ofString_eq_ok_iff` (which texts
are read, and as which versions), `Firmware.ofString_text` (a written version reads back) and
`Firmware.reading_exact`, which adds how a text is refused and what the order of versions decides.
-/

namespace EventRing

/-! ### White space around a text -/

namespace Text

/-- What is left of a text without the blanks at either end. -/
def Stripped (cs core : List Char) : Prop :=
  ∃ before after, cs = before ++ core ++ after ∧ (∀ c ∈ before, isBlank c = true) ∧ (∀ c ∈ after, isBlank c = true) ∧
    (∀ c ∈ core.head?, isBlank c = false) ∧ ∀ c ∈ core.getLast?, isBlank c = false

variable {cs core : List Char}

theorem head?_dropWhile_isBlank (cs : List Char) : ∀ c ∈ (cs.dropWhile isBlank).head?, isBlank c = false := by
  intro c hc
  have hhead := List.head?_dropWhile_not isBlank cs
  rw [Option.mem_def.1 hc] at hhead
  exact hhead

theorem dropWhile_isBlank_eq_self (h : ∀ c ∈ cs.head?, isBlank c = false) : cs.dropWhile isBlank = cs := by
  cases cs with
  | nil => rfl
  | cons c cs => exact List.dropWhile_cons_of_neg (by simp [h c rfl])

/-- Trimming strips. -/
theorem stripped_trim (cs : List Char) : Stripped cs (trim cs) := by
  obtain ⟨rest, hrest⟩ : ∃ rest, rest = cs.dropWhile isBlank := ⟨_, rfl⟩
  have hcs : cs = cs.takeWhile isBlank ++ rest := by rw [hrest, List.takeWhile_append_dropWhile]
  have hcore : rest = trim cs ++ (rest.reverse.takeWhile isBlank).reverse := by
    rw [trim, ← hrest, ← List.reverse_append, List.takeWhile_append_dropWhile, List.reverse_reverse]
  refine ⟨cs.takeWhile isBlank, (rest.reverse.takeWhile isBlank).reverse, ?_, fun c hc => List.mem_takeWhile_imp hc,
    fun c hc => List.mem_takeWhile_imp (List.mem_reverse.1 hc), fun c hc => ?_, fun c hc => ?_⟩
  · rw [List.append_assoc, ← hcore, ← hcs]
  · refine head?_dropWhile_isBlank cs c ?_
    rw [← hrest, hcore, List.head?_append]
    exact Option.or_eq_some_iff.2 (.inl hc)
  · rw [trim, List.getLast?_reverse] at hc
    exact head?_dropWhile_isBlank _ c hc

/-- There is only one way to strip a text. -/
theorem trim_eq_of_stripped (h : Stripped cs core) : trim cs = core := by
  obtain ⟨before, after, rfl, hbefore, hafter, hhead, hlast⟩ := h
  have hfront : (before ++ core ++ after).dropWhile isBlank = (core ++ after).dropWhile isBlank := by
    rw [List.append_assoc, List.dropWhile_append_of_pos hbefore]
  have hback : (after.reverse ++ core.reverse).dropWhile isBlank = core.reverse := by
    rw [List.dropWhile_append_of_pos fun c hc => hafter c (List.mem_reverse.1 hc)]
    exact dropWhile_isBlank_eq_self fun c hc => hlast c (by rwa [List.head?_reverse] at hc)
  rw [trim, hfront]
  cases core with
  | nil =>
    have hnone : after.dropWhile isBlank = [] := List.dropWhile_eq_nil_iff.2 hafter
    rw [List.nil_append, hnone]
    rfl
  | cons c core =>
    have hmiddle : (c :: core ++ after).dropWhile isBlank = c :: core ++ after := dropWhile_isBlank_eq_self hhead
    rw [hmiddle, List.reverse_append, hback, List.reverse_reverse]

theorem stripped_iff : Stripped cs core ↔ core = trim cs :=
  ⟨fun h => (trim_eq_of_stripped h).symm, fun h => h ▸ stripped_trim cs⟩

/-! ### Digits -/

variable {c : Char} {n d bound : Nat}

/-- The decimal digits. -/
def IsDigit (c : Char) : Prop := '0' ≤ c ∧ c ≤ '9'

theorem isDigit_iff : IsDigit c ↔ 48 ≤ c.toNat ∧ c.toNat ≤ 57 := by
  rw [IsDigit, Char.le_def, Char.le_def, UInt32.le_iff_toNat_le, UInt32.le_iff_toNat_le]
  rfl

theorem digit?_ten_eq_some_iff : digit? 10 c = some d ↔ IsDigit c ∧ d = c.toNat - '0'.toNat := by
  have hdigit := isDigit_iff (c := c)
  have hzero : '0'.toNat = 48 := rfl
  have hsmall : ('a' ≤ c ∧ c ≤ 'f') ↔ 97 ≤ c.toNat ∧ c.toNat ≤ 102 := by
    rw [Char.le_def, Char.le_def, UInt32.le_iff_toNat_le, UInt32.le_iff_toNat_le]
    rfl
  have hlarge : ('A' ≤ c ∧ c ≤ 'F') ↔ 65 ≤ c.toNat ∧ c.toNat ≤ 70 := by
    rw [Char.le_def, Char.le_def, UInt32.le_iff_toNat_le, UInt32.le_iff_toNat_le]
    rfl
  rw [digit?, Option.filter_eq_some_iff, decide_eq_true_iff]
  -- The letters are digits of larger bases only.
  by_cases h : '0' ≤ c ∧ c ≤ '9'
  · rw [if_pos h, Option.some.injEq, hzero]
    have hrange := hdigit.1 h
    exact ⟨fun hd => ⟨h, hd.1.symm⟩, fun hd => ⟨hd.2.symm, by omega⟩⟩
  · rw [if_neg h]
    refine ⟨fun hd => ?_, fun hd => absurd hd.1 h⟩
    split at hd
    · next hletter =>
      have hrange := hsmall.1 hletter
      have hvalue := Option.some.inj hd.1
      omega
    · split at hd
      · next hletter =>
        have hrange := hlarge.1 hletter
        have hvalue := Option.some.inj hd.1
        omega
      · simp at hd

theorem digits?_ten_eq_some_iff {acc : Nat} :
    digits? 10 acc cs = some n ↔ (∀ c ∈ cs, IsDigit c) ∧ n = Nat.ofDigitChars 10 cs acc := by
  induction cs generalizing acc with
  | nil => simp [digits?, eq_comm]
  | cons c cs ih =>
    rw [digits?, List.forall_mem_cons, Nat.ofDigitChars_cons]
    cases hdigit : digit? 10 c with
    | none =>
      have hnot : ¬ IsDigit c := fun h => absurd (digit?_ten_eq_some_iff.2 ⟨h, rfl⟩) (by simp [hdigit])
      simp [hnot]
    | some d =>
      obtain ⟨his, rfl⟩ := digit?_ten_eq_some_iff.1 hdigit
      dsimp only
      rw [ih, Nat.mul_comm acc 10]
      simp [his]

/-- Which digits write a number below a bound, and which number. -/
theorem unsigned?_eq_some_iff : unsigned? 10 bound cs = some n ↔
    cs ≠ [] ∧ (∀ c ∈ cs, IsDigit c) ∧ n = Nat.ofDigitChars 10 cs 0 ∧ n < bound := by
  unfold unsigned?
  cases cs with
  | nil => simp
  | cons c cs =>
    rw [if_neg (by simp), Option.filter_eq_some_iff, digits?_ten_eq_some_iff, decide_eq_true_iff, and_assoc]
    simp

/-- A digit is no blank, no full stop and no plus sign. -/
theorem IsDigit.other (h : IsDigit c) : isBlank c = false ∧ c ≠ '.' ∧ c ≠ '+' := by
  have hrange := isDigit_iff.1 h
  refine ⟨?_, ?_, ?_⟩
  · rw [isBlank, ← Bool.not_eq_true, List.contains_iff_mem]
    intro hblank
    simp only [blanks, List.mem_cons, List.not_mem_nil, or_false] at hblank
    omega
  · rintro rfl
    exact absurd hrange (by decide)
  · rintro rfl
    exact absurd hrange (by decide)

end Text

namespace Firmware

/-! ### Components -/

/-- A piece of text writes a component: digits, with or without a plus sign, and a number of at most 255. -/
def IsComponent (cs : List Char) (n : Nat) : Prop :=
  ∃ sign digits, cs = sign ++ digits ∧ (sign = [] ∨ sign = ['+']) ∧ digits ≠ [] ∧ (∀ c ∈ digits, Text.IsDigit c) ∧
    n = Nat.ofDigitChars 10 digits 0 ∧ n ≤ 255

/-- A text writes one to three numbers, with full stops between them. -/
def Spells (cs : List Char) (numbers : List Nat) : Prop :=
  ∃ parts, cs = ['.'].intercalate parts ∧ 1 ≤ parts.length ∧ parts.length ≤ 3 ∧
    List.Forall₂ IsComponent parts numbers

/-- The components of a version, in order. -/
def components (v : Firmware) : List Nat := [v.major.toNat, v.minor.toNat, v.micro.toNat]

/-- The version with the given components, in order.  Missing ones are zero. -/
def ofNumbers (numbers : List Nat) : Firmware :=
  ⟨UInt8.ofNat (numbers.getD 0 0), UInt8.ofNat (numbers.getD 1 0), UInt8.ofNat (numbers.getD 2 0)⟩

variable {cs core : List Char} {parts : List (List Char)} {numbers : List Nat} {s : String} {v : Firmware} {n : Nat}

theorem IsComponent.le (h : IsComponent cs n) : n ≤ 255 := by
  obtain ⟨sign, digits, -, -, -, -, -, hle⟩ := h
  exact hle

/-- What a component is written with. -/
theorem IsComponent.other (h : IsComponent cs n) : ∀ c ∈ cs, Text.isBlank c = false ∧ c ≠ '.' := by
  obtain ⟨sign, digits, rfl, hsign, -, hdigits, -, -⟩ := h
  intro c hc
  rcases List.mem_append.1 hc with hmem | hmem
  · rcases hsign with rfl | rfl
    · simp at hmem
    · obtain rfl := List.mem_singleton.1 hmem
      decide
  · obtain ⟨hblank, hstop, -⟩ := (hdigits c hmem).other
    exact ⟨hblank, hstop⟩

theorem unsigned?_map_eq_some_iff {m : UInt8} :
    (Text.unsigned? 10 256 cs).map UInt8.ofNat = some m ↔
      cs ≠ [] ∧ (∀ c ∈ cs, Text.IsDigit c) ∧ m.toNat = Nat.ofDigitChars 10 cs 0 ∧ m.toNat ≤ 255 := by
  rw [Option.map_eq_some_iff]
  constructor
  · rintro ⟨n, hn, rfl⟩
    obtain ⟨hne, hdigits, hvalue, hlt⟩ := Text.unsigned?_eq_some_iff.1 hn
    rw [UInt8.toNat_ofNat_of_lt' hlt]
    exact ⟨hne, hdigits, hvalue, by omega⟩
  · rintro ⟨hne, hdigits, hvalue, hle⟩
    exact ⟨m.toNat, Text.unsigned?_eq_some_iff.2 ⟨hne, hdigits, hvalue, by omega⟩, UInt8.ofNat_toNat⟩

/-- Which pieces of text are read as a component. -/
theorem component?_eq_some_iff {m : UInt8} : component? cs = some m ↔ IsComponent cs m.toNat := by
  unfold component?
  split
  · next digits =>
    rw [unsigned?_map_eq_some_iff]
    constructor
    · rintro ⟨hne, hdigits, hvalue, hle⟩
      exact ⟨['+'], digits, rfl, .inr rfl, hne, hdigits, hvalue, hle⟩
    · rintro ⟨sign, rest, hcs, hsign, hne, hdigits, hvalue, hle⟩
      rcases hsign with rfl | rfl
      · rw [List.nil_append] at hcs
        subst hcs
        exact absurd rfl (hdigits '+' List.mem_cons_self).other.2.2
      · obtain rfl : digits = rest := List.tail_eq_of_cons_eq hcs
        exact ⟨hne, hdigits, hvalue, hle⟩
  · next hplus =>
    rw [unsigned?_map_eq_some_iff]
    constructor
    · rintro ⟨hne, hdigits, hvalue, hle⟩
      exact ⟨[], cs, rfl, .inl rfl, hne, hdigits, hvalue, hle⟩
    · rintro ⟨sign, rest, hcs, rfl | rfl, hne, hdigits, hvalue, hle⟩
      · rw [List.nil_append] at hcs
        subst hcs
        exact ⟨hne, hdigits, hvalue, hle⟩
      · exact absurd hcs (hplus rest)

/-- Numbers whose components are read are written by them. -/
theorem forall₂_of_components? {ms : List UInt8} (h : components? parts = some ms) :
    List.Forall₂ IsComponent parts (ms.map UInt8.toNat) := by
  induction parts generalizing ms with
  | nil =>
    obtain rfl := Option.some.inj h
    exact .nil
  | cons part parts ih =>
    rw [components?] at h
    split at h
    · next m rest hm hrest =>
      obtain rfl := Option.some.inj h
      exact .cons (component?_eq_some_iff.1 hm) (ih hrest)
    · simp at h

/-- Components that write numbers are read as such. -/
theorem components?_of_forall₂ (h : List.Forall₂ IsComponent parts numbers) :
    components? parts = some (numbers.map UInt8.ofNat) := by
  induction h with
  | nil => rfl
  | @cons part n parts numbers hpart _ ih =>
    have hn : (UInt8.ofNat n).toNat = n := UInt8.toNat_ofNat_of_lt' (Nat.lt_succ_of_le hpart.le)
    have hread : component? part = some (UInt8.ofNat n) := component?_eq_some_iff.2 (by rw [hn]; exact hpart)
    rw [components?, hread, ih]
    rfl

/-! ### Pieces -/

/-- The pieces of a text are those between full stops. -/
theorem pieces_eq_splitOn (cs : List Char) : pieces cs = cs.splitOn '.' := by
  induction cs with
  | nil => rfl
  | cons c cs ih =>
    rw [pieces, List.splitOn_cons_eq_if_modifyHead, ih]
    by_cases hc : c = '.'
    · simp [hc]
    · rw [if_neg hc, if_neg (by simpa using hc)]
      cases hsplit : cs.splitOn '.' with
      | nil => exact absurd hsplit (List.splitOn_ne_nil '.' cs)
      | cons piece more => rfl

/-- There is one piece more than there are full stops. -/
theorem length_pieces (cs : List Char) : (pieces cs).length = cs.count '.' + 1 := by
  induction cs with
  | nil => rfl
  | cons c cs ih =>
    rw [pieces, List.count_cons]
    by_cases hc : c = '.'
    · simp [hc, ih]
    · rw [if_neg hc, if_neg (by simpa using hc), Nat.add_zero, ← ih]
      split
      · next hnone => simp [hnone] at ih
      · next hsome => simp [hsome]

/-- Pieces without a full stop are found again between full stops. -/
theorem pieces_intercalate (hparts : ∀ part ∈ parts, '.' ∉ part) (hne : parts ≠ []) :
    pieces (['.'].intercalate parts) = parts := by
  rw [pieces_eq_splitOn, List.splitOn_intercalate '.' hparts hne]

/-! ### Reading -/

theorem ofNumbers_map_toNat (ms : List UInt8) :
    ofNumbers (ms.map UInt8.toNat) = ⟨ms.getD 0 0, ms.getD 1 0, ms.getD 2 0⟩ := by
  have hget : ∀ i, UInt8.ofNat ((ms.map UInt8.toNat).getD i 0) = ms.getD i 0 := by
    intro i
    have hmap : (ms.map UInt8.toNat).getD i (UInt8.toNat 0) = (ms.getD i 0).toNat := List.getD_map ms 0 UInt8.toNat
    rw [UInt8.toNat_zero] at hmap
    rw [hmap, UInt8.ofNat_toNat]
  rw [ofNumbers, hget, hget, hget]

theorem ofNumbers_eq (numbers : List Nat) : ofNumbers numbers =
    ⟨(numbers.map UInt8.ofNat).getD 0 0, (numbers.map UInt8.ofNat).getD 1 0, (numbers.map UInt8.ofNat).getD 2 0⟩ := by
  have hget : ∀ i, (numbers.map UInt8.ofNat).getD i 0 = UInt8.ofNat (numbers.getD i 0) := fun _ =>
    List.getD_map numbers 0 UInt8.ofNat
  rw [ofNumbers, hget, hget, hget]

/-- Components have no blanks and no full stops. -/
theorem other_of_forall₂ (h : List.Forall₂ IsComponent parts numbers) :
    ∀ part ∈ parts, ∀ c ∈ part, Text.isBlank c = false ∧ c ≠ '.' :=
  ((List.forall₂_and_left _ _).1 (h.imp fun _ _ hn => ⟨hn.other, hn⟩)).1

theorem Spells.length (h : Spells core numbers) : 1 ≤ numbers.length ∧ numbers.length ≤ 3 := by
  obtain ⟨parts, -, hlow, hhigh, hall⟩ := h
  exact hall.length_eq ▸ ⟨hlow, hhigh⟩

theorem Spells.le (h : Spells core numbers) : ∀ n ∈ numbers, n ≤ 255 := by
  obtain ⟨parts, -, -, -, hall⟩ := h
  have hflip : List.Forall₂ (fun n part => n ≤ 255 ∧ IsComponent part n) numbers parts :=
    (hall.imp fun _ _ hn => (⟨hn.le, hn⟩ : _ ∧ _)).flip
  exact ((List.forall₂_and_left _ _).1 hflip).1

/-- The components of a version are the numbers spelled, with zeros in place of the missing ones. -/
theorem Spells.eq_ofNumbers_iff (h : Spells core numbers) :
    v = ofNumbers numbers ↔ v.components = numbers ++ List.replicate (3 - numbers.length) 0 := by
  have hback : (ofNumbers numbers).components = numbers ++ List.replicate (3 - numbers.length) 0 := by
    have hle := h.le
    obtain ⟨hlow, hhigh⟩ := h.length
    match numbers, hlow, hhigh with
    | [a], _, _ | [a, b], _, _ | [a, b, c], _, _ =>
      simp only [List.forall_mem_cons] at hle
      simp [ofNumbers, components, List.replicate_succ]
      omega
  rw [← hback]
  refine ⟨fun heq => heq ▸ rfl, fun heq => ?_⟩
  rw [components, components, List.cons.injEq, List.cons.injEq, List.cons.injEq] at heq
  obtain ⟨hmajor, hminor, hmicro, -⟩ := heq
  obtain ⟨major, minor, micro⟩ := v
  obtain rfl : major = _ := UInt8.toNat_inj.1 hmajor
  obtain rfl : minor = _ := UInt8.toNat_inj.1 hminor
  obtain rfl : micro = _ := UInt8.toNat_inj.1 hmicro
  rfl

/-- What is spelled falls into its components. -/
theorem Spells.pieces_eq (h : Spells core numbers) :
    (pieces core).length ≤ 3 ∧ components? (pieces core) = some (numbers.map UInt8.ofNat) := by
  obtain ⟨parts, rfl, hlow, hhigh, hall⟩ := h
  have hstops : ∀ part ∈ parts, '.' ∉ part := fun part hpart hmem => (other_of_forall₂ hall part hpart '.' hmem).2 rfl
  rw [pieces_intercalate hstops (List.ne_nil_of_length_pos hlow)]
  exact ⟨hhigh, components?_of_forall₂ hall⟩

/-- **Which texts are read as a version, and as which.** -/
theorem ofString_eq_ok_iff : ofString s = .ok v ↔
    ∃ core numbers, Text.Stripped s.toList core ∧ Spells core numbers ∧ v = ofNumbers numbers := by
  unfold ofString
  dsimp only
  constructor
  · intro h
    split at h
    · simp at h
    · next hlength =>
      split at h
      · simp at h
      · next ms hms =>
        have hlow := length_pieces (Text.trim s.toList)
        refine ⟨Text.trim s.toList, ms.map UInt8.toNat, Text.stripped_trim _,
          ⟨pieces (Text.trim s.toList), ?_, by omega, by omega, forall₂_of_components? hms⟩, ?_⟩
        · rw [pieces_eq_splitOn, List.intercalate_splitOn]
        · rw [ofNumbers_map_toNat]
          exact (Except.ok.inj h).symm
  · rintro ⟨core, numbers, hstripped, hspells, rfl⟩
    obtain ⟨hlength, hread⟩ := hspells.pieces_eq
    rw [← Text.stripped_iff.1 hstripped, if_neg (by omega), hread, ofNumbers_eq]

/-- Which texts are refused, and what is told of them. -/
theorem ofString_eq_error_iff {e : ValidationError} : ofString s = .error e ↔
    (∀ v, ofString s ≠ .ok v) ∧
      e = if 2 < (Text.trim s.toList).count '.' then .firmwareShape s else .firmwareComponent s := by
  have hlength := length_pieces (Text.trim s.toList)
  unfold ofString
  dsimp only
  by_cases hlong : 2 < (Text.trim s.toList).count '.'
  · rw [if_pos (by omega), if_pos hlong]
    simp [eq_comm]
  · rw [if_neg (by omega), if_neg hlong]
    cases components? (pieces (Text.trim s.toList)) with
    | none => simp [eq_comm]
    | some ms => simp

/-! ### Writing -/

/-- A number below 256 is written as a component. -/
theorem isComponent_toDigits (hn : n ≤ 255) : IsComponent (Nat.toDigits 10 n) n := by
  refine ⟨[], Nat.toDigits 10 n, rfl, .inl rfl, Nat.toDigits_ne_nil, fun c hc => ?_,
    Nat.ofDigitChars_ten_toDigits.symm, hn⟩
  have hdigit := Nat.isDigit_of_mem_toDigits (by decide) (by decide) hc
  rw [Char.isDigit, Bool.and_eq_true, decide_eq_true_iff, decide_eq_true_iff] at hdigit
  exact hdigit

theorem toNat_le (m : UInt8) : m.toNat ≤ 255 := Nat.le_of_lt_succ m.toNat_lt

theorem spells_text (v : Firmware) : Spells v.text.toList [v.major.toNat, v.minor.toNat, v.micro.toNat] := by
  refine ⟨[Nat.toDigits 10 v.major.toNat, Nat.toDigits 10 v.minor.toNat, Nat.toDigits 10 v.micro.toNat], ?_,
    Nat.le_add_left 1 2, Nat.le_refl 3, .cons (isComponent_toDigits (toNat_le _))
      (.cons (isComponent_toDigits (toNat_le _)) (.cons (isComponent_toDigits (toNat_le _)) .nil))⟩
  have hdigits : ∀ n : Nat, (toString n).toList = Nat.toDigits 10 n := fun _ => Nat.toList_repr
  have hstop : ".".toList = ['.'] := rfl
  simp only [text, String.toList_append, hdigits, hstop, List.intercalate_cons_cons, List.intercalate_singleton]
  simp only [List.append_assoc]

/-- Between full stops there are the pieces. -/
theorem mem_intercalate {c : Char} (h : c ∈ ['.'].intercalate parts) : c = '.' ∨ ∃ part ∈ parts, c ∈ part := by
  induction parts with
  | nil => simp at h
  | cons part parts ih =>
    cases parts with
    | nil => exact .inr ⟨part, List.mem_cons_self, by simpa using h⟩
    | cons next more =>
      rw [List.intercalate_cons_cons, List.mem_append, List.mem_append, List.mem_singleton] at h
      rcases h with (hpart | hstop) | hmore
      · exact .inr ⟨part, List.mem_cons_self, hpart⟩
      · exact .inl hstop
      · obtain hstop | ⟨piece, hpiece, hmem⟩ := ih hmore
        · exact .inl hstop
        · exact .inr ⟨piece, List.mem_cons_of_mem _ hpiece, hmem⟩

/-- What is spelled is not stripped any further. -/
theorem Spells.stripped (h : Spells core numbers) : Text.Stripped core core := by
  obtain ⟨parts, rfl, -, -, hall⟩ := h
  have hblank : ∀ c ∈ ['.'].intercalate parts, Text.isBlank c = false := by
    intro c hc
    obtain rfl | ⟨part, hpart, hmem⟩ := mem_intercalate hc
    · decide
    · exact (other_of_forall₂ hall part hpart c hmem).1
  exact ⟨[], [], by simp, by simp, by simp, fun c hc => hblank c (List.mem_of_mem_head? hc),
    fun c hc => hblank c (List.mem_of_mem_getLast? hc)⟩

/-- A written version reads back. -/
theorem ofString_text (v : Firmware) : ofString v.text = .ok v := by
  refine ofString_eq_ok_iff.2 ⟨v.text.toList, _, (spells_text v).stripped, spells_text v, ?_⟩
  obtain ⟨major, minor, micro⟩ := v
  simp [ofNumbers]

/-! ### The order of versions -/

/-- The components of a version, ordered lexicographically. -/
def key (v : Firmware) : ℕ ×ₗ ℕ ×ₗ ℕ := toLex (v.major.toNat, toLex (v.minor.toNat, v.micro.toNat))

variable {a b : Firmware}

theorem key_lt_iff : a.key < b.key ↔ a.major < b.major ∨
    a.major = b.major ∧ (a.minor < b.minor ∨ a.minor = b.minor ∧ a.micro < b.micro) := by
  simp only [key, Prod.Lex.toLex_lt_toLex, UInt8.lt_iff_toNat_lt, UInt8.toNat_inj]

theorem compare_eq_lt_iff : a.compare b = .lt ↔ a.key < b.key := by
  rw [key_lt_iff, compare, Ordering.then_eq_lt, Ordering.then_eq_lt, Std.compare_eq_lt, Std.compare_eq_lt,
    Std.compare_eq_lt, Std.compare_eq_iff_eq, Std.compare_eq_iff_eq]

theorem compare_eq_gt_iff : a.compare b = .gt ↔ b.key < a.key := by
  rw [key_lt_iff, compare, Ordering.then_eq_gt, Ordering.then_eq_gt, Std.compare_eq_gt, Std.compare_eq_gt,
    Std.compare_eq_gt, Std.compare_eq_iff_eq, Std.compare_eq_iff_eq]
  simp only [eq_comm]

theorem compare_eq_eq_iff : a.compare b = .eq ↔ a = b := by
  obtain ⟨major, minor, micro⟩ := a
  obtain ⟨major', minor', micro'⟩ := b
  rw [compare, Ordering.then_eq_eq, Ordering.then_eq_eq, Std.compare_eq_iff_eq, Std.compare_eq_iff_eq,
    Std.compare_eq_iff_eq, Firmware.mk.injEq]

theorem atLeast_iff : a.atLeast b = true ↔ b.key ≤ a.key := by
  rw [atLeast, bne_iff_ne, ne_eq, compare_eq_lt_iff, not_lt]

/-- Which firmware has the newer layout. -/
theorem ofFirmware_eq_v2_iff : Layout.ofFirmware v = .v2 ↔ 9 ≤ v.major.toNat := by
  have hnine : (⟨9, 0, 0⟩ : Firmware).key = toLex (9, toLex (0, 0)) := rfl
  have hlayout : Layout.ofFirmware v = .v2 ↔ v.atLeast ⟨9, 0, 0⟩ = true := by
    unfold Layout.ofFirmware
    split <;> simp_all
  rw [hlayout, atLeast_iff, hnine, key, Prod.Lex.toLex_le_toLex]
  constructor
  · rintro (hlt | ⟨heq, -⟩)
    · exact Nat.le_of_lt hlt
    · exact Nat.le_of_eq heq
  · intro hle
    rcases Nat.lt_or_eq_of_le hle with hlt | heq
    · exact .inl hlt
    · refine .inr ⟨heq, Prod.Lex.toLex_le_toLex.2 ?_⟩
      rcases Nat.eq_zero_or_pos v.minor.toNat with hzero | hpos
      · exact .inr ⟨hzero.symm, Nat.zero_le _⟩
      · exact .inl hpos

/-- **Firmware versions and their texts.**  A text is read as a version just if, stripped of white space, it is one to
three components between full stops; the version has their numbers, and zeros for the components that are missing.  Any
other text is refused, for its shape if it has too many full stops and else for a component.  A written version reads
back, so reading and writing a text twice is no different from once.  Versions are compared component by component, and
the layout of a version that was read is the newer one just if the first number is at least 9. -/
theorem reading_exact :
    (∀ s v, ofString s = .ok v ↔ ∃ core numbers, Text.Stripped s.toList core ∧ Spells core numbers ∧
      v.components = numbers ++ List.replicate (3 - numbers.length) 0) ∧
    (∀ s, (∃ v, ofString s = .ok v) ↔ ∃ core numbers, Text.Stripped s.toList core ∧ Spells core numbers) ∧
    (∀ s e, ofString s = .error e ↔ (¬ ∃ core numbers, Text.Stripped s.toList core ∧ Spells core numbers) ∧
      e = if 2 < (Text.trim s.toList).count '.' then .firmwareShape s else .firmwareComponent s) ∧
    (∀ v : Firmware, ofString v.text = .ok v) ∧
    (∀ s t, (ofString s).map text = .ok t → (ofString t).map text = .ok t) ∧
    (∀ a b : Firmware, (a.compare b = .lt ↔ a.key < b.key) ∧ (a.compare b = .eq ↔ a = b) ∧
      (a.compare b = .gt ↔ b.key < a.key) ∧ (a.atLeast b = true ↔ b.key ≤ a.key)) ∧
    ∀ s v core first more, ofString s = .ok v → Text.Stripped s.toList core → Spells core (first :: more) →
      (Layout.ofFirmware v = .v2 ↔ 9 ≤ first) := by
  have hok : ∀ s v, ofString s = .ok v ↔ ∃ core numbers, Text.Stripped s.toList core ∧ Spells core numbers ∧
      v.components = numbers ++ List.replicate (3 - numbers.length) 0 := by
    intro s v
    rw [ofString_eq_ok_iff]
    exact exists_congr fun core => exists_congr fun numbers =>
      and_congr_right fun _ => and_congr_right fun hspells => hspells.eq_ofNumbers_iff
  have hsome : ∀ s, (∃ v, ofString s = .ok v) ↔
      ∃ core numbers, Text.Stripped s.toList core ∧ Spells core numbers := by
    refine fun s => ⟨fun ⟨v, hv⟩ => ?_, fun ⟨core, numbers, hstripped, hspells⟩ =>
      ⟨ofNumbers numbers, ofString_eq_ok_iff.2 ⟨core, numbers, hstripped, hspells, rfl⟩⟩⟩
    obtain ⟨core, numbers, hstripped, hspells, -⟩ := (hok s v).1 hv
    exact ⟨core, numbers, hstripped, hspells⟩
  refine ⟨hok, hsome, fun s e => ?_, ofString_text, fun s t hs => ?_, fun a b => ⟨compare_eq_lt_iff, compare_eq_eq_iff,
    compare_eq_gt_iff, atLeast_iff⟩, fun s v core first more hs hstripped hspells => ?_⟩
  · rw [ofString_eq_error_iff, ← hsome, not_exists]
  · cases hread : ofString s with
    | error e => simp [hread, Except.map] at hs
    | ok v =>
      have ht : v.text = t := by simpa [hread, Except.map] using hs
      rw [← ht, ofString_text, Except.map]
  · -- The text is stripped and split in one way only.
    obtain ⟨core', numbers, hstripped', hspells', rfl⟩ := ofString_eq_ok_iff.1 hs
    obtain rfl : core' = core := (Text.stripped_iff.1 hstripped').trans (Text.stripped_iff.1 hstripped).symm
    have hnumbers := hspells'.pieces_eq.2.symm.trans hspells.pieces_eq.2
    have hfirst : (ofNumbers numbers).major = UInt8.ofNat first := by
      rw [ofNumbers_eq, Option.some.inj hnumbers, List.map_cons, List.getD_cons_zero]
    have hle : first ≤ 255 := hspells.le first List.mem_cons_self
    rw [ofFirmware_eq_v2_iff, hfirst, UInt8.toNat_ofNat_of_lt' (Nat.lt_succ_of_le hle)]

/-- A version of two components, one of them with a sign and a leading zero, in white space. -/
theorem reading_exact_signed : Text.Stripped " 9.+01 ".toList "9.+01".toList ∧ Spells "9.+01".toList [9, 1] ∧
    ofString " 9.+01 " = .ok ⟨9, 1, 0⟩ ∧ (ofString " 9.+01 ").map text = .ok "9.1.0" ∧
    (ofString "9.1.0").map text = .ok "9.1.0" ∧ Layout.ofFirmware ⟨9, 1, 0⟩ = .v2 := by
  have hread : ofString " 9.+01 " = .ok ⟨9, 1, 0⟩ := by cbv
  have hwritten : (ofString " 9.+01 ").map text = .ok "9.1.0" := by cbv
  have hstripped : Text.Stripped " 9.+01 ".toList "9.+01".toList := Text.stripped_iff.2 (by cbv)
  have hspells : Spells "9.+01".toList [9, 1] :=
    ⟨["9".toList, "+01".toList], by decide, by decide, by decide,
      .cons ⟨[], ['9'], rfl, .inl rfl, by decide, by simp [Text.isDigit_iff], by decide, by decide⟩
        (.cons ⟨['+'], ['0', '1'], rfl, .inr rfl, by decide, by simp [Text.isDigit_iff], by decide, by decide⟩ .nil)⟩
  exact ⟨hstripped, hspells, hread, hwritten, reading_exact.2.2.2.2.1 _ _ hwritten,
    (reading_exact.2.2.2.2.2.2 _ _ _ _ _ hread hstripped hspells).2 (by decide)⟩

end Firmware

end EventRing
