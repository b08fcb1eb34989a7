import EventRing.Proofs.Sharing

/-!
# Who removes a name

A mapping knows the name under which it was made, and whether it made the object.  When the maker ends it, the name is
removed, whichever object has it by then.  `World` is all objects together with all mappings that are open, `World.step`
what one process may do to them, and `World.Change` says once what a step comes to.

`World.Owned` is the invariant of a name that no other process removes: whoever made an object under that name still
finds it there.  Main statements: `World.step_change`, `World.Owned.step` and `World.Owned.run` (one step, and a run by
induction), and `closing_removes_own`, which says what ending a mapping does to the names.  Beside it stands a run in
which another process removes a name: there the maker of an object takes the name from another one.
-/

namespace EventRing

namespace Objects

variable {s : Objects} {name other : String}

/-! ### What the end of a mapping does to the names -/

theorem find?_unlink_self (s : Objects) (name : String) : (s.unlink name).find? name = none := by
  rw [find?, List.lookup_eq_none_iff]
  intro entry hentry
  simp only [unlink, List.mem_filter, decide_eq_true_eq] at hentry
  simpa using Ne.symm hentry.2

theorem find?_unlink_of_ne (h : other ≠ name) : (s.unlink name).find? other = s.find? other := by
  obtain ⟨memories, directory⟩ := s
  simp only [find?, unlink]
  induction directory with
  | nil => rfl
  | cons entry directory ih =>
    by_cases heq : entry.1 = name
    · have hne : (other == entry.1) = false := by simpa [heq] using h
      rw [List.filter_cons_of_neg (by simp [heq]), ih, List.lookup_cons, hne]
    · rw [List.filter_cons_of_pos (by simp [heq]), List.lookup_cons, List.lookup_cons, ih]

/-- The end of a mapping leaves a name alone, unless it is the maker's and the name it was made under. -/
theorem find?_close_of_not {region : Region} (h : ¬ (region.creator = true ∧ region.name = name)) :
    (s.close region).find? name = s.find? name := by
  unfold close
  split
  · next hcreator =>
    exact find?_unlink_of_ne fun heq => h ⟨hcreator, heq.symm⟩
  · rfl

end Objects

/-- All objects, and all mappings that are open. -/
structure World where
  objects : Objects
  held : List Region

/-- One thing that a process does.  A mapping is meant by its place among those that are open. -/
inductive Move where
  | create (name : String) (size : Nat)
  | openRegion (name : String)
  | createRing (name : RingName) (geometry : Geometry)
  | openRing (name : RingName) (geometry : Geometry)
  | attach (place : Nat) (geometry : Geometry)
  | close (place : Nat)
  | remove (name : String)
  | change (object : Nat) (memory : Memory)

/-- The place of the mapping that a move may end. -/
def Move.ends? : Move → Option Nat
  | .close place => some place
  | .attach place _ => some place
  | _ => none

namespace World

/-- The world after a move.  A ring keeps its mapping open; if attaching to an open mapping fails, the mapping is
ended. -/
def step (w : World) : Move → World
  | .create name size =>
    match w.objects.create name size with
    | (.ok region, s) => ⟨s, w.held ++ [region]⟩
    | (.error _, s) => ⟨s, w.held⟩
  | .openRegion name =>
    match w.objects.openRegion name with
    | .ok region => ⟨w.objects, w.held ++ [region]⟩
    | .error _ => w
  | .createRing name g =>
    match w.objects.createRing name g with
    | (.ok shared, s) => ⟨s, w.held ++ [shared.region]⟩
    | (.error _, s) => ⟨s, w.held⟩
  | .openRing name g =>
    match w.objects.openRing name g with
    | (.ok shared, s) => ⟨s, w.held ++ [shared.region]⟩
    | (.error _, s) => ⟨s, w.held⟩
  | .attach place g =>
    match w.held[place]? with
    | none => w
    | some region =>
      match w.objects.attach region g with
      | (.ok _, s) => ⟨s, w.held⟩
      | (.error _, s) => ⟨s, w.held.eraseIdx place⟩
  | .close place =>
    match w.held[place]? with
    | none => w
    | some region => ⟨w.objects.close region, w.held.eraseIdx place⟩
  | .remove name => ⟨w.objects.unlink name, w.held⟩
  | .change object m => ⟨w.objects.setMemory object m, w.held⟩

/-- The world after some moves. -/
def run (w : World) (moves : List Move) : World := moves.foldl step w

/-- What a move can come to: nothing, a new object with its maker's mapping, a mapping of someone else's object, the end
of a mapping, the removal of a name, or other bytes in an object. -/
inductive Change (w : World) : Move → World → Prop
  | idle (move : Move) : Change w move w
  | made (move : Move) (name : String) (size : Nat) (m : Memory) (unused : w.objects.find? name = none) :
      Change w move ⟨w.objects.withObject name size m, w.held ++ [⟨name, w.objects.memories.size, size, true⟩]⟩
  | mapped (move : Move) (region : Region) (foreign : region.creator = false) :
      Change w move ⟨w.objects, w.held ++ [region]⟩
  | closed (move : Move) (place : Nat) (region : Region) (ends : move.ends? = some place)
      (held : w.held[place]? = some region) :
      Change w move ⟨w.objects.close region, w.held.eraseIdx place⟩
  | removed (name : String) : Change w (.remove name) ⟨w.objects.unlink name, w.held⟩
  | changed (move : Move) (object : Nat) (m : Memory) : Change w move ⟨w.objects.setMemory object m, w.held⟩

variable {w : World} {move : Move} {moves : List Move} {name : String}

/-! ### What a move comes to -/

theorem step_create (w : World) (name : String) (size : Nat) :
    w.Change (.create name size) (w.step (.create name size)) := by
  rw [step]
  rcases w.objects.create_cases name size with ⟨e, h⟩ | ⟨hunused, h⟩
  · rw [h]
    exact .idle _
  · rw [h]
    exact .made _ name size _ hunused

theorem step_openRegion (w : World) (name : String) :
    w.Change (.openRegion name) (w.step (.openRegion name)) := by
  rw [step]
  cases hopen : w.objects.openRegion name with
  | error e => exact .idle _
  | ok region =>
    obtain ⟨object, size, -, rfl⟩ := Objects.openRegion_eq_ok hopen
    exact .mapped _ _ rfl

theorem step_createRing (w : World) (name : RingName) (g : Geometry) :
    w.Change (.createRing name g) (w.step (.createRing name g)) := by
  rw [step]
  by_cases htaken : Objects.isReserved name.text = true ∨ (w.objects.find? name.text).isSome = true
  · rw [Objects.createRing_of_taken htaken]
    exact .idle _
  · rw [not_or, Bool.not_eq_true, Option.not_isSome_iff_eq_none] at htaken
    rw [Objects.createRing_of_unused htaken.1 htaken.2]
    exact .made _ _ _ _ htaken.2

theorem step_openRing (w : World) (name : RingName) (g : Geometry) :
    w.Change (.openRing name g) (w.step (.openRing name g)) := by
  rw [step, Objects.openRing]
  cases hopen : w.objects.openRegion name.text with
  | error e => exact .idle _
  | ok region =>
    obtain ⟨object, size, -, rfl⟩ := Objects.openRegion_eq_ok hopen
    dsimp only
    rw [Objects.attach]
    cases Ring.attach 0 size g (w.objects.memory object) with
    | error e => exact .idle _
    | ok ring => exact .mapped _ _ rfl

theorem step_attach (w : World) (place : Nat) (g : Geometry) :
    w.Change (.attach place g) (w.step (.attach place g)) := by
  rw [step]
  cases hheld : w.held[place]? with
  | none => exact .idle _
  | some region =>
    dsimp only
    rw [Objects.attach]
    cases Ring.attach 0 region.size g (w.objects.memory region.object) with
    | error e => exact .closed _ place region rfl hheld
    | ok ring => exact .idle _

/-- What every move comes to. -/
theorem step_change (w : World) (move : Move) : w.Change move (w.step move) := by
  cases move with
  | create name size => exact w.step_create name size
  | openRegion name => exact w.step_openRegion name
  | createRing name g => exact w.step_createRing name g
  | openRing name g => exact w.step_openRing name g
  | attach place g => exact w.step_attach place g
  | close place =>
    rw [step]
    cases hheld : w.held[place]? with
    | none => exact .idle _
    | some region => exact .closed _ place region rfl hheld
  | remove name => exact .removed name
  | change object m => exact .changed _ object m

/-! ### Makers and their objects -/

/-- Every maker's object is there, and no two makers have the same one. -/
structure Apart (w : World) : Prop where
  inside : ∀ region ∈ w.held, region.creator = true → region.object < w.objects.memories.size
  apart : w.held.Pairwise fun a b => a.creator = true → b.creator = true → a.object ≠ b.object

/-- Whoever made an object under a name finds it there. -/
def Owned (w : World) (name : String) : Prop :=
  ∀ region ∈ w.held, region.creator = true → region.name = name →
    w.objects.find? name = some (region.object, region.size)

theorem Apart.change {w' : World} (h : w.Apart) (c : w.Change move w') : w'.Apart := by
  cases c with
  | idle => exact h
  | made _ name size m _ =>
    have hsize : (w.objects.withObject name size m).memories.size = w.objects.memories.size + 1 := Array.size_push _
    refine ⟨fun region hregion hcreator => ?_, List.pairwise_append.2 ⟨h.apart, List.pairwise_singleton _ _, ?_⟩⟩
    · rw [hsize]
      rcases List.mem_append.1 hregion with hold | hnew
      · exact Nat.lt_succ_of_lt (h.inside region hold hcreator)
      · rw [List.mem_singleton.1 hnew]
        exact Nat.lt_succ_self _
    · intro a ha b hb hcreator _
      rw [List.mem_singleton.1 hb]
      exact Nat.ne_of_lt (h.inside a ha hcreator)
  | mapped _ region foreign =>
    refine ⟨fun other hother hcreator => ?_, List.pairwise_append.2 ⟨h.apart, List.pairwise_singleton _ _, ?_⟩⟩
    · rcases List.mem_append.1 hother with hold | hnew
      · exact h.inside other hold hcreator
      · rw [List.mem_singleton.1 hnew, foreign] at hcreator
        exact absurd hcreator (by simp)
    · intro a _ b hb _ hcreator
      rw [List.mem_singleton.1 hb, foreign] at hcreator
      exact absurd hcreator (by simp)
  | closed _ place region _ _ =>
    have hsub := List.eraseIdx_sublist w.held place
    refine ⟨fun other hother hcreator => ?_, h.apart.sublist hsub⟩
    rw [Objects.memories_close]
    exact h.inside other (hsub.mem hother) hcreator
  | removed name => exact ⟨h.inside, h.apart⟩
  | changed _ object m =>
    refine ⟨fun other hother hcreator => ?_, h.apart⟩
    rw [Objects.setMemory, Array.size_setIfInBounds]
    exact h.inside other hother hcreator

/-- Two makers of one object are in one place. -/
theorem Apart.place_eq (h : w.Apart) {i j : Nat} {a b : Region} (ha : w.held[i]? = some a) (hb : w.held[j]? = some b)
    (hacreator : a.creator = true) (hbcreator : b.creator = true) (hsame : a.object = b.object) : i = j := by
  obtain ⟨hi, rfl⟩ := List.getElem?_eq_some_iff.1 ha
  obtain ⟨hj, rfl⟩ := List.getElem?_eq_some_iff.1 hb
  have hpair := List.pairwise_iff_getElem.1 h.apart
  rcases Nat.lt_trichotomy i j with hlt | heq | hgt
  · exact absurd hsame (hpair i j hi hj hlt hacreator hbcreator)
  · exact heq
  · exact absurd hsame.symm (hpair j i hj hi hgt hbcreator hacreator)

/-- A change that is not the removal of a name by another process leaves its object to the maker. -/
theorem Owned.change {w' : World} (h : w.Owned name) (happart : w.Apart) (c : w.Change move w')
    (hmove : move ≠ .remove name) : w'.Owned name := by
  cases c with
  | idle => exact h
  | made _ name' size m unused =>
    intro region hregion hcreator hname
    by_cases heq : name = name'
    · subst heq
      rcases List.mem_append.1 hregion with hold | hnew
      · rw [h region hold hcreator hname] at unused
        exact absurd unused (by simp)
      · rw [List.mem_singleton.1 hnew]
        exact Objects.find?_withObject _ _ _ _
    · rw [Objects.find?_withObject_of_ne heq]
      rcases List.mem_append.1 hregion with hold | hnew
      · exact h region hold hcreator hname
      · rw [List.mem_singleton.1 hnew] at hname
        exact absurd hname.symm heq
  | mapped _ region foreign =>
    intro other hother hcreator hname
    rcases List.mem_append.1 hother with hold | hnew
    · exact h other hold hcreator hname
    · rw [List.mem_singleton.1 hnew, foreign] at hcreator
      exact absurd hcreator (by simp)
  | closed _ place region _ held =>
    intro other hother hcreator hname
    obtain ⟨j, hne, hj⟩ := List.mem_eraseIdx_iff_getElem?.1 hother
    have hfound := h other (List.mem_of_getElem? hj) hcreator hname
    by_cases hown : region.creator = true ∧ region.name = name
    · -- Two makers under one name have found the same object there.
      have hsame := h region (List.mem_of_getElem? held) hown.1 hown.2
      rw [hfound, Option.some.injEq, Prod.mk.injEq] at hsame
      exact absurd (happart.place_eq hj held hcreator hown.1 hsame.1) hne
    · rw [Objects.find?_close_of_not hown]
      exact hfound
  | removed name' =>
    intro region hregion hcreator hname
    have hne : name ≠ name' := fun heq => hmove (by rw [heq])
    rw [Objects.find?_unlink_of_ne hne]
    exact h region hregion hcreator hname
  | changed _ object m => exact h

/-- In a run from no mappings, no two makers have the same object. -/
theorem apart_run (objects : Objects) (moves : List Move) : (run ⟨objects, []⟩ moves).Apart := by
  have hstart : (⟨objects, []⟩ : World).Apart := ⟨by simp, .nil⟩
  rw [run]
  generalize (⟨objects, []⟩ : World) = w at hstart
  induction moves generalizing w with
  | nil => exact hstart
  | cons move moves ih => exact ih _ (hstart.change (w.step_change move))

/-- In a run from no mappings in which no other process removes a name, its object is left to the maker. -/
theorem owned_run (objects : Objects) (hkept : .remove name ∉ moves) : (run ⟨objects, []⟩ moves).Owned name := by
  have happart : (⟨objects, []⟩ : World).Apart := ⟨by simp, .nil⟩
  have howned : (⟨objects, []⟩ : World).Owned name := by simp [Owned]
  rw [run]
  generalize (⟨objects, []⟩ : World) = w at happart howned
  induction moves generalizing w with
  | nil => exact howned
  | cons move moves ih =>
    rw [List.mem_cons, not_or] at hkept
    exact ih hkept.2 _ (happart.change (w.step_change move))
      (howned.change happart (w.step_change move) (Ne.symm hkept.1))

/-! ### Who takes a name -/

/-- A name is taken by another process, or with the mapping of someone who made an object under it. -/
theorem Change.lost {w' : World} (c : w.Change move w') (had : w.objects.find? name ≠ none)
    (lost : w'.objects.find? name = none) (hmove : move ≠ .remove name) :
    ∃ place region, move.ends? = some place ∧ w.held[place]? = some region ∧
      w' = ⟨w.objects.close region, w.held.eraseIdx place⟩ ∧ region.creator = true ∧ region.name = name := by
  cases c with
  | idle => exact absurd lost had
  | made _ name' size m _ =>
    by_cases heq : name = name'
    · rw [heq, Objects.find?_withObject] at lost
      exact absurd lost (by simp)
    · rw [Objects.find?_withObject_of_ne heq] at lost
      exact absurd lost had
  | mapped _ region _ => exact absurd lost had
  | closed _ place region ends held =>
    refine ⟨place, region, ends, held, rfl, Decidable.byContradiction fun hnot => ?_⟩
    rw [Objects.find?_close_of_not hnot] at lost
    exact had lost
  | removed name' =>
    have hne : name ≠ name' := fun heq => hmove (by rw [heq])
    rw [Objects.find?_unlink_of_ne hne] at lost
    exact absurd lost had
  | changed _ object m => exact absurd lost had

/-- **Who makes an object removes its own name.** Start from any objects and no mappings, and let processes make and
open objects and rings, attach to what they have mapped, end mappings, and remove names.  If a name is lost in a step,
and not because another process removes it, then a mapping is ended in that step, it is one that was made with its
object and under that name, and no other such mapping has that object.  No memory changes, and no other name is lost.
If no other process has removed the name in the run, what the name denoted was the very object that was made with the
mapping. -/
theorem closing_removes_own {objects : Objects} {moves : List Move} {move : Move} {name : String}
    (had : (run ⟨objects, []⟩ moves).objects.find? name ≠ none)
    (lost : ((run ⟨objects, []⟩ moves).step move).objects.find? name = none) (hmove : move ≠ .remove name) :
    let w := run ⟨objects, []⟩ moves
    let w' := w.step move
    ∃ place region, move.ends? = some place ∧ w.held[place]? = some region ∧ w'.held = w.held.eraseIdx place ∧
      region.creator = true ∧ region.name = name ∧
      (∀ j other, w.held[j]? = some other → other.creator = true → other.object = region.object → j = place) ∧
      w'.objects.memories = w.objects.memories ∧
      (∀ other, other ≠ name → w'.objects.find? other = w.objects.find? other) ∧
      (.remove name ∉ moves → w.objects.find? name = some (region.object, region.size)) := by
  have happart := apart_run objects moves
  have howned : .remove name ∉ moves → (run ⟨objects, []⟩ moves).Owned name := owned_run objects
  generalize run ⟨objects, []⟩ moves = w at had lost happart howned
  obtain ⟨place, region, hends, hheld, hstep, hcreator, hname⟩ := (w.step_change move).lost had lost hmove
  refine ⟨place, region, hends, hheld, by rw [hstep], hcreator, hname, fun j other hj hother hsame =>
    happart.place_eq hj hheld hother hcreator hsame, ?_, fun other hne => ?_, fun hkept =>
    howned hkept region (List.mem_of_getElem? hheld) hcreator hname⟩
  · rw [hstep]
    exact w.objects.memories_close region
  · rw [hstep]
    exact Objects.find?_close_of_not fun hown => hne (hown.2.symm.trans hname)

theorem step_create_of_unused (w : World) (name : RingName) {size : Nat} (hname : Objects.isReserved name.text = false)
    (hunused : w.objects.find? name.text = none) (hsize : Objects.isObjectSize size = true) :
    w.step (.create name.text size) = ⟨w.objects.withObject name.text size (Memory.zeros size),
      w.held ++ [⟨name.text, w.objects.memories.size, size, true⟩]⟩ := by
  rw [step, Objects.create_ringName _ _ hsize, if_neg (by simp [hname, hunused])]

/-- Someone makes an object and ends the mapping: the name was still that of the object. -/
theorem closing_removes_own_made :
    let w := run ⟨.empty, []⟩ [.create "ring" 4096]
    (w.objects.find? "ring" ≠ none ∧ (w.step (.close 0)).objects.find? "ring" = none) ∧
      ∃ region, w.held[0]? = some region ∧ w.objects.find? "ring" = some (region.object, region.size) := by
  intro w
  have hsize : Objects.isObjectSize 4096 = true := by decide
  have hw : w = _ :=
    step_create_of_unused ⟨.empty, []⟩ ⟨"ring", by decide, by decide, by decide⟩ (by decide) rfl hsize
  have had : w.objects.find? "ring" ≠ none := by
    rw [hw, Objects.find?_withObject]
    simp
  have lost : (w.step (.close 0)).objects.find? "ring" = none := by
    rw [hw]
    exact Objects.find?_unlink_self _ _
  obtain ⟨place, region, hends, hheld, -, -, -, -, -, -, hown⟩ := closing_removes_own had lost (by simp)
  obtain rfl := Option.some.inj hends
  exact ⟨⟨had, lost⟩, region, hheld, hown (by simp)⟩

/-- Someone makes an object, another process removes its name, and someone else makes an object under the name again.
When the first mapping is ended, the second object loses the name. -/
theorem closing_removes_other :
    let w := run ⟨.empty, []⟩ [.create "ring" 4096, .remove "ring", .create "ring" 4096]
    w.held = [⟨"ring", 0, 4096, true⟩, ⟨"ring", 1, 4096, true⟩] ∧ w.objects.find? "ring" = some (1, 4096) ∧
      (w.step (.close 0)).objects.find? "ring" = none := by
  intro w
  have hsize : Objects.isObjectSize 4096 = true := by decide
  let name : RingName := ⟨"ring", by decide, by decide, by decide⟩
  have hfirst := step_create_of_unused ⟨.empty, []⟩ name (by decide) rfl hsize
  generalize hmade : Objects.empty.withObject name.text 4096 (Memory.zeros 4096) = made at hfirst
  have hone : (made.unlink "ring").memories.size = 1 := by rw [← hmade]; rfl
  have hsecond := step_create_of_unused ⟨made.unlink "ring", [⟨"ring", 0, 4096, true⟩]⟩ name (by decide)
    (made.find?_unlink_self "ring") hsize
  have hw : w = _ :=
    (congrArg (fun first : World => (first.step (.remove "ring")).step (.create "ring" 4096)) hfirst).trans hsecond
  rw [hw]
  dsimp only
  rw [hone, Objects.find?_withObject, hone]
  exact ⟨rfl, rfl, Objects.find?_unlink_self _ _⟩

end World

end EventRing
