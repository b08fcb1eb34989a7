import EventRing.Proofs.Acceptance
import EventRing.Proofs.Capacity
import EventRing.Text.Ascii
import Mathlib.Data.List.TakeWhile

/-!
# Rings in named objects

A ring is made in an object under its name, and opened by that name.  `Objects.withRing` are the objects once a ring has
been made in a new one, and `Objects.Traffic` is whatever may happen afterwards while the name still denotes the object
and only uses of the ring touch its memory.

Main statements: `createRing_of_unused` and `createRing_of_taken` (making a ring succeeds exactly if nothing has the
name), `openRing_of_holds` (opening is decided by the size of the object and the capacity in the control block), and
`createRing_openRing`, which puts the two ends together.
-/

namespace EventRing

namespace Ring

variable {r : Ring} {m : Memory}

/-! ### The name in the control block -/

/-- A name fills its field up with zeros. -/
theorem nameField_eq (name : RingName) :
    nameField name = name.text.toUTF8.toList ++ List.replicate (nameFieldSize - name.text.utf8ByteSize) 0 := by
  have hle : name.text.utf8ByteSize ≤ maxNameLength := name.valid.2.1
  have hlength := name.length_bytes
  rw [nameField, List.take_of_length_le (by omega), hlength]

theorem length_nameField (name : RingName) : (nameField name).length = nameFieldSize := by
  have hle : name.text.utf8ByteSize ≤ 15 := name.valid.2.1
  have hsize : nameFieldSize = 16 := rfl
  rw [nameField_eq, List.length_append, List.length_replicate, name.length_bytes]
  omega

/-- The name of a ring reads back from its control block. -/
theorem name_setUp (name : RingName) (hfits : r.Fits m) (hunused : r.isSetUp m = false) :
    r.name (r.setUp m name).2 = name.text := by
  have hset := isSetUp_setUp name hfits hunused
  have hle : name.text.utf8ByteSize ≤ 15 := name.valid.2.1
  have hsize : nameFieldSize = 16 := rfl
  have hread : (r.setUp m name).2.read (r.base + 16) nameFieldSize = nameField name := by
    rw [Fits, memorySize_eq] at hfits
    rw [setUp_unused name hunused]
    dsimp only
    rw [Memory.read_congr fun i _ _ => Memory.byteAt_setWord_of_outside _ _ _ _ (by omega), ← length_nameField name]
    refine Memory.read_blit _ _ _ ?_
    rw [length_nameField, Memory.size_setWord, setReadOffset, setWriteOffset, Memory.size_setWord, Memory.size_setWord]
    omega
  have hbytes : (nameField name).takeWhile (· ≠ 0) = name.text.toUTF8.toList := by
    rw [nameField_eq, List.takeWhile_append_of_pos fun b hb => decide_eq_true (RingName.bytes_ne_zero hb),
      List.takeWhile_replicate, if_neg (by simp), List.append_nil]
  rw [Ring.name, if_pos hset, hread, hbytes, Text.Utf8.lossy_of_ascii name.isAscii]

end Ring

namespace Objects

variable {s s' : Objects} {name : RingName} {g : Geometry} {m : Memory} {object : Nat}

/-! ### The memory of one object -/

theorem memory_setMemory (h : object < s.memories.size) (m : Memory) : (s.setMemory object m).memory object = m := by
  simp [memory, setMemory, h]

/-- Where there is no object, replacing its memory changes nothing. -/
theorem setMemory_of_le (h : s.memories.size ≤ object) (m : Memory) : s.setMemory object m = s := by
  rw [setMemory, Array.setIfInBounds_eq_of_size_le h]

theorem setMemory_setMemory (s : Objects) (object : Nat) (m m' : Memory) :
    (s.setMemory object m).setMemory object m' = s.setMemory object m' := by
  simp [setMemory]

/-- An operation on the memory of an object replaces that memory. -/
theorem modify_eq {α : Type} (s : Objects) (object : Nat) (f : Memory → α × Memory) :
    s.modify object f = ((f (s.memory object)).1, s.setMemory object (f (s.memory object)).2) := by
  rw [modify]
  dsimp only
  rw [setMemory_setMemory]

/-- The end of a mapping changes no memory. -/
theorem memories_close (s : Objects) (region : Region) : (s.close region).memories = s.memories := by
  unfold close
  split <;> rfl

/-! ### One more object -/

/-- The objects with one more, of a size and with some memory, under a name. -/
def withObject (s : Objects) (name : String) (size : Nat) (m : Memory) : Objects :=
  { memories := s.memories.push m, directory := (name, s.memories.size, size) :: s.directory }

theorem find?_withObject (s : Objects) (name : String) (size : Nat) (m : Memory) :
    (s.withObject name size m).find? name = some (s.memories.size, size) := by
  simp [find?, withObject]

theorem find?_withObject_of_ne {name other : String} (h : other ≠ name) (s : Objects) (size : Nat) (m : Memory) :
    (s.withObject name size m).find? other = s.find? other := by
  have hne : (other == name) = false := by simpa using h
  simp [find?, withObject, List.lookup_cons, hne]

theorem memory_withObject (s : Objects) (name : String) (size : Nat) (m : Memory) :
    (s.withObject name size m).memory s.memories.size = m := by
  simp [memory, withObject]

theorem setMemory_withObject (s : Objects) (name : String) (size : Nat) (m m' : Memory) :
    (s.withObject name size m).setMemory s.memories.size m' = s.withObject name size m' := by
  have hput : (s.memories.push m).setIfInBounds s.memories.size m' = s.memories.push m' := by
    rw [Array.setIfInBounds, dif_pos (by simp), Array.set_push, dif_neg (Nat.lt_irrefl _)]
  rw [withObject, setMemory, hput, withObject]

/-- Making an object fails and changes nothing, or there is one more. -/
theorem create_cases (s : Objects) (name : String) (size : Nat) :
    (∃ e, s.create name size = (.error e, s)) ∨
      s.find? name = none ∧ s.create name size =
        (.ok ⟨name, s.memories.size, size, true⟩, s.withObject name size (Memory.zeros size)) := by
  unfold create
  split
  · exact .inl ⟨_, rfl⟩
  · split
    · exact .inl ⟨_, rfl⟩
    · split
      · exact .inl ⟨_, rfl⟩
      · split
        · exact .inl ⟨_, rfl⟩
        · next hfree =>
          rw [not_or, Option.not_isSome_iff_eq_none] at hfree
          exact .inr ⟨hfree.2, rfl⟩

/-! ### Making a ring -/

theorem checkName_ringName (name : RingName) : checkName name.text = none := by
  have hslash : ¬ '/' ∈ name.text.toList := fun hmem =>
    (RingName.isNameChar_spec (RingName.isNameChar_of_mem hmem)).2.1 rfl
  have hzero : name.text.toUTF8.toList.takeWhile (· ≠ 0) = name.text.toUTF8.toList :=
    List.takeWhile_eq_self_iff.2 fun b hb => decide_eq_true (RingName.bytes_ne_zero hb)
  rw [checkName, if_neg name.valid.1, if_neg (by simpa using hslash)]
  dsimp only
  rw [hzero, name.length_bytes, if_neg (Nat.lt_irrefl _)]

theorem isObjectSize_sharedSize (g : Geometry) : isObjectSize g.sharedSize = true := by
  have hle := g.capacity_le_toNat
  have hpages : g.sharedSize = (32 + g.capacity.toNat + 4096 - 1) / 4096 * 4096 := rfl
  have hmin : minObjectSize = 4096 := rfl
  have hmax : maxObjectSize = 16777216 := rfl
  rw [isObjectSize, Bool.and_eq_true, decide_eq_true_iff, decide_eq_true_iff]
  omega

/-- With the name of a ring and a size that objects may have, only the directory decides. -/
theorem create_ringName (s : Objects) (name : RingName) {size : Nat} (hsize : isObjectSize size = true) :
    s.create name.text size =
      if isReserved name.text = true ∨ (s.find? name.text).isSome = true then
        (.error (.createFailed name.text (.system .taken)), s)
      else (.ok ⟨name.text, s.memories.size, size, true⟩, s.withObject name.text size (Memory.zeros size)) := by
  have hlimit : ¬ nameLimit < name.text.utf8ByteSize :=
    Nat.not_lt.2 (Nat.le_trans name.valid.2.1 (by decide))
  rw [create, if_neg (by simp [hsize]), checkName_ringName]
  dsimp only
  rw [if_neg hlimit]
  rfl

/-- The objects with one more, in which a ring has been set up under a name. -/
def withRing (s : Objects) (name : RingName) (g : Geometry) : Objects :=
  s.withObject name.text g.sharedSize ((⟨0, g⟩ : Ring).setUp (Memory.zeros g.sharedSize) name).2

/-- A name that is taken, or that the directory uses itself, gets no ring, and nothing changes. -/
theorem createRing_of_taken (h : isReserved name.text = true ∨ (s.find? name.text).isSome = true) (g : Geometry) :
    s.createRing name g = (.error (.createFailed name.text (.system .taken)), s) := by
  rw [createRing, create_ringName s name (isObjectSize_sharedSize g), if_pos h]

/-- A name that nothing has gets a ring. -/
theorem createRing_of_unused (hname : isReserved name.text = false) (h : s.find? name.text = none) (g : Geometry) :
    s.createRing name g =
      (.ok ⟨⟨name.text, s.memories.size, g.sharedSize, true⟩, ⟨0, g⟩⟩, s.withRing name g) := by
  have hmemory := s.memory_withObject name.text g.sharedSize (Memory.zeros g.sharedSize)
  have hunused := Ring.isSetUp_zeros ⟨0, g⟩ g.sharedSize
  have hattach : (s.withObject name.text g.sharedSize (Memory.zeros g.sharedSize)).attach
      ⟨name.text, s.memories.size, g.sharedSize, true⟩ g =
        (.ok ⟨⟨name.text, s.memories.size, g.sharedSize, true⟩, ⟨0, g⟩⟩,
          s.withObject name.text g.sharedSize (Memory.zeros g.sharedSize)) := by
    rw [attach, hmemory, Ring.attach_of_unused g.memorySize_le_sharedSize rfl hunused]
  have hsetUp : ((⟨0, g⟩ : Ring).setUp (Memory.zeros g.sharedSize) name).1 = .ok () := by
    rw [Ring.setUp_unused name hunused]
  rw [createRing, create_ringName s name (isObjectSize_sharedSize g), if_neg (by simp [hname, h])]
  dsimp only
  rw [hattach]
  dsimp only
  rw [modify_eq, hmemory, hsetUp, setMemory_withObject]
  rfl

/-- Making a ring succeeds exactly if nothing has the name. -/
theorem createRing_eq_ok_iff (hname : isReserved name.text = false) {shared : SharedRing} {made : Objects} :
    s.createRing name g = (.ok shared, made) ↔ s.find? name.text = none ∧
      shared = ⟨⟨name.text, s.memories.size, g.sharedSize, true⟩, ⟨0, g⟩⟩ ∧ made = s.withRing name g := by
  cases hfind : s.find? name.text with
  | none =>
    rw [createRing_of_unused hname hfind]
    simp [eq_comm]
  | some found =>
    rw [createRing_of_taken (.inr (by rw [hfind]; rfl))]
    simp

theorem le_sharedSize (g : Geometry) : 0 + g.memorySize ≤ g.sharedSize := by
  rw [Nat.zero_add]
  exact g.memorySize_le_sharedSize

/-! ### Traffic -/

/-- A name denotes the object of a ring of some geometry, and the control block there still says that the ring is set
up, and of which capacity. -/
structure Holds (s : Objects) (name : String) (object : Nat) (g : Geometry) : Prop where
  found : s.find? name = some (object, g.sharedSize)
  declares : Ring.Declares 0 g.capacity (s.memory object)

/-- What may happen while a name denotes an object that a ring is in.  The ring is used, through handles of any
geometry, and anything is done to other objects and other names. -/
inductive Traffic (name : String) (object : Nat) : Objects → Objects → Prop
  | start (s : Objects) : Traffic name object s s
  | use {s s' : Objects} (before : Traffic name object s s') (g : Geometry) (u : Ring.Use) :
      Traffic name object s (s'.setMemory object ((⟨0, g⟩ : Ring).use (s'.memory object) u))
  | elsewhere {s s' s'' : Objects} (before : Traffic name object s s') (found : s''.find? name = s'.find? name)
      (same : s''.memory object = s'.memory object) : Traffic name object s s''

theorem Holds.use {name : String} (h : s.Holds name object g) (g' : Geometry) (u : Ring.Use) :
    (s.setMemory object ((⟨0, g'⟩ : Ring).use (s.memory object) u)).Holds name object g := by
  refine ⟨h.found, ?_⟩
  rcases Nat.lt_or_ge object s.memories.size with hlt | hge
  · rw [memory_setMemory hlt]
    exact Ring.Declares.use (r := ⟨0, g'⟩) h.declares u
  · rw [setMemory_of_le hge]
    exact h.declares

/-- Traffic leaves a ring to be found as it was made. -/
theorem Holds.traffic {name : String} (h : s.Holds name object g) (later : Traffic name object s s') :
    s'.Holds name object g := by
  induction later with
  | start => exact h
  | use before g' u ih => exact ih.use g' u
  | elsewhere before found same ih =>
    refine ⟨found.trans ih.found, ?_⟩
    rw [same]
    exact ih.declares

theorem holds_withRing (s : Objects) (name : RingName) (g : Geometry) :
    (s.withRing name g).Holds name.text s.memories.size g := by
  refine ⟨s.find?_withObject _ _ _, ?_⟩
  rw [withRing, memory_withObject]
  exact Ring.declares_setUp name (Ring.fits_zeros ⟨0, g⟩ (le_sharedSize g)) (Ring.isSetUp_zeros ⟨0, g⟩ _)

/-! ### Opening a ring -/

/-- Opening is decided by the size of the object and the capacity in the control block; nothing changes. -/
theorem openRing_of_holds (hname : isReserved name.text = false) (h : s.Holds name.text object g) (g' : Geometry) :
    s.openRing name g' =
      (if g.sharedSize < g'.memorySize then .error (.regionTooSmall g.sharedSize g'.capacity g'.memorySize)
        else if g'.capacity ≠ g.capacity then .error (.capacityMismatch g'.capacity g.capacity)
        else .ok ⟨⟨name.text, object, g.sharedSize, false⟩, ⟨0, g'⟩⟩, s) := by
  have hlimit : ¬ nameLimit < name.text.utf8ByteSize :=
    Nat.not_lt.2 (Nat.le_trans name.valid.2.1 (by decide))
  have hopen : s.openRegion name.text = .ok ⟨name.text, object, g.sharedSize, false⟩ := by
    rw [openRegion, checkName_ringName]
    dsimp only
    rw [if_neg hlimit, if_neg (by simp [hname]), h.found]
    dsimp only
    rw [if_pos (isObjectSize_sharedSize g)]
  rw [openRing, hopen]
  dsimp only
  rw [attach, Ring.attach_eq_of_declares h.declares, if_neg (show ¬ 0 % 4 ≠ 0 by simp)]
  by_cases hsize : g.sharedSize < g'.memorySize
  · rw [if_pos hsize, if_pos hsize]
    rfl
  · by_cases hcap : g'.capacity = g.capacity
    · simp [hsize, hcap]
    · simp [hsize, hcap, close]

/-- Opening succeeds exactly with the capacity that the ring was made with. -/
theorem openRing_eq_ok_iff (hname : isReserved name.text = false) (h : s.Holds name.text object g) {g' : Geometry}
    {opened : SharedRing} : (s.openRing name g').1 = .ok opened ↔
      g'.capacity = g.capacity ∧ opened = ⟨⟨name.text, object, g.sharedSize, false⟩, ⟨0, g'⟩⟩ := by
  rw [openRing_of_holds hname h]
  dsimp only
  constructor
  · intro hopened
    split at hopened
    · simp at hopened
    · split at hopened
      · simp at hopened
      · next hcap => exact ⟨Decidable.not_not.1 hcap, (Except.ok.inj hopened).symm⟩
  · rintro ⟨hcap, rfl⟩
    have hsize : g'.memorySize = g.memorySize := by rw [Geometry.memorySize, Geometry.memorySize, hcap]
    rw [if_neg (by rw [hsize]; exact Nat.not_lt.2 g.memorySize_le_sharedSize), if_neg (by simp [hcap])]

/-! ### The two ends -/

/-- Handles of one capacity see the same unread bytes, whatever their header formats. -/
theorem unread_of_capacity_eq {g' : Geometry} (h : g'.capacity = g.capacity) (m : Memory) :
    (⟨0, g'⟩ : Ring).unread m = (⟨0, g⟩ : Ring).unread m := by
  have hcap : (⟨0, g'⟩ : Ring).capacity = (⟨0, g⟩ : Ring).capacity := h
  unfold Ring.unread
  rw [hcap]
  rfl

theorem offsets_of_capacity_eq {g' : Geometry} (h : g'.capacity = g.capacity) (m : Memory) :
    (⟨0, g'⟩ : Ring).offsets m = (⟨0, g⟩ : Ring).offsets m := by
  have hcap : (⟨0, g'⟩ : Ring).capacity = (⟨0, g⟩ : Ring).capacity := h
  unfold Ring.offsets Ring.boundedOffset
  rw [hcap]
  rfl

/-- A ring that has been made is empty, carries its name, and fills an object of its own. -/
theorem withRing_spec (s : Objects) (name : RingName) (g : Geometry) :
    let r : Ring := ⟨0, g⟩
    let m := (s.withRing name g).memory s.memories.size
    m.size = g.sharedSize ∧ r.Intact m [] ∧ r.readOffset m = 0 ∧ r.name m = name.text := by
  intro r m
  have hm : m = (r.setUp (Memory.zeros g.sharedSize) name).2 := s.memory_withObject _ _ _
  have hfits : r.Fits (Memory.zeros g.sharedSize) := Ring.fits_zeros r (le_sharedSize g)
  have hunused := Ring.isSetUp_zeros r g.sharedSize
  rw [hm]
  exact ⟨by rw [Ring.size_setUp, Memory.size_zeros], Ring.intact_setUp name hfits hunused,
    Ring.readOffset_setUp name hfits hunused, Ring.name_setUp name hfits hunused⟩

/-- **Making a ring and opening it agree.** Take any objects, and a name that the directory does not use itself.  A ring
is made under the name exactly if nothing has it.  It is then set up and empty and carries the name, and its object has
the whole pages that the ring needs, which is a size that objects may have.  Whatever traffic there is on it, the name
goes on to denote it and its control block says of which capacity it is; and as long as that is so, a ring of another
geometry is opened under the name exactly if its capacity is the same.  If it needs more than those pages, that is the
reason why it is not, and otherwise the capacities are.  The opened ring has the offsets and the unread bytes of the one
that was made, and is the same ring if the header formats are the same too. -/
theorem createRing_openRing (s : Objects) {name : RingName} (hname : isReserved name.text = false) (g : Geometry) :
    ((∃ shared, (s.createRing name g).1 = .ok shared) ↔ s.find? name.text = none) ∧
    ∀ shared made, s.createRing name g = (.ok shared, made) →
      let object := shared.region.object
      let m := made.memory object
      (shared.ring.geometry = g ∧ shared.ring.isSetUp m = true ∧ shared.ring.isEmpty m = true ∧
        shared.ring.queue? m = some [] ∧ shared.ring.name m = name.text) ∧
      (made.find? name.text = some (object, g.sharedSize) ∧ m.size = g.sharedSize ∧
        isObjectSize g.sharedSize = true) ∧
      (∀ later, Traffic name.text object made later → later.Holds name.text object g) ∧
      ∀ later : Objects, later.Holds name.text object g → ∀ g' : Geometry,
        ((∃ opened, (later.openRing name g').1 = .ok opened) ↔ g'.capacity = g.capacity) ∧
        (g.sharedSize < g'.memorySize → later.openRing name g' =
          (.error (.regionTooSmall g.sharedSize g'.capacity g'.memorySize), later)) ∧
        (g'.memorySize ≤ g.sharedSize → g'.capacity ≠ g.capacity → later.openRing name g' =
          (.error (.capacityMismatch g'.capacity g.capacity), later)) ∧
        ∀ opened, (later.openRing name g').1 = .ok opened →
          opened.region.object = object ∧
          opened.ring.offsets (later.memory object) = shared.ring.offsets (later.memory object) ∧
          opened.ring.unread (later.memory object) = shared.ring.unread (later.memory object) ∧
          (g'.format = g.format → opened.ring = shared.ring) := by
  refine ⟨⟨?_, fun hfind => ⟨_, congrArg Prod.fst (createRing_of_unused hname hfind g)⟩⟩, ?_⟩
  · rintro ⟨shared, hshared⟩
    exact ((createRing_eq_ok_iff hname).1 (Prod.ext hshared rfl)).1
  intro shared made hmade
  obtain ⟨-, rfl, rfl⟩ := (createRing_eq_ok_iff hname).1 hmade
  obtain ⟨hsize, hintact, -, hcarried⟩ := s.withRing_spec name g
  have hholds := s.holds_withRing name g
  refine ⟨⟨rfl, hintact.setUp, hintact.isEmpty_nil, hintact.queue?_eq, hcarried⟩,
    ⟨hholds.found, hsize, isObjectSize_sharedSize g⟩, fun later traffic => hholds.traffic traffic,
    fun later h g' => ⟨?_, fun hlarge => ?_, fun hle hne => ?_, fun opened hopened => ?_⟩⟩
  · constructor
    · rintro ⟨opened, hopened⟩
      exact ((openRing_eq_ok_iff hname h).1 hopened).1
    · intro hcap
      exact ⟨_, (openRing_eq_ok_iff hname h).2 ⟨hcap, rfl⟩⟩
  · rw [openRing_of_holds hname h, if_pos hlarge]
  · rw [openRing_of_holds hname h, if_neg (Nat.not_lt.2 hle), if_pos hne]
  · obtain ⟨hcap, rfl⟩ := (openRing_eq_ok_iff hname h).1 hopened
    refine ⟨rfl, offsets_of_capacity_eq hcap _, unread_of_capacity_eq hcap _, fun hformat => ?_⟩
    obtain ⟨capacity, format, _, _⟩ := g
    obtain ⟨capacity', format', _, _⟩ := g'
    dsimp only at hcap hformat
    subst hcap hformat
    rfl

/-- An object for a ring of 64 bytes has 4096.  A ring of 128 bytes would have room in it, one of 5000 bytes would not,
and neither is opened. -/
theorem createRing_openRing_sixty_four :
    let name : RingName := ⟨"ring", by decide, by decide, by decide⟩
    let small : Geometry := ⟨64, .packed, by decide, by decide⟩
    let large : Geometry := ⟨128, .packed, by decide, by decide⟩
    let huge : Geometry := ⟨5000, .packed, by decide, by decide⟩
    let made := (empty.createRing name small).2
    isReserved name.text = false ∧ made.openRing name large = (.error (.capacityMismatch 128 64), made) ∧
      made.openRing name huge = (.error (.regionTooSmall 4096 5000 5032), made) := by
  intro name small large huge made
  have hname : isReserved name.text = false := by decide
  have hsize : small.sharedSize = 4096 := by decide
  obtain ⟨-, hopens⟩ := createRing_openRing empty hname small
  have hmade := createRing_of_unused hname (s := empty) rfl small
  have hwith : made = empty.withRing name small := congrArg Prod.snd hmade
  rw [← hwith] at hmade
  clear_value made
  obtain ⟨-, -, htraffic, hlater⟩ := hopens _ made hmade
  have hholds := hlater made (htraffic made (.start made))
  obtain ⟨-, -, hmismatch, -⟩ := hholds large
  obtain ⟨-, hsmall, -, -⟩ := hholds huge
  rw [hsize] at hmismatch hsmall
  exact ⟨hname, hmismatch (by decide) (by decide), hsmall (by decide)⟩

/-- Unread bytes that are one encoded record are a queue of one. -/
theorem queue?_of_unread {r : Ring} {e : Entry} (h : r.unread m = (e.encode r.geometry.format, []))
    (hlt : e.payload.length < UInt64.size) : r.queue? m = some [e] := by
  have hsplit := Entry.split_encode_append e r.geometry.format [] hlt
  rw [List.append_nil] at hsplit
  rw [Ring.queue?, h, hsplit]
  simp

/-- One unread record at the start of the data area is one piece. -/
theorem unread_of_start {r : Ring} {e : Entry} (h : r.Intact m [e]) (hstart : r.readOffset m = 0) :
    r.unread m = (e.encode r.geometry.format, []) := by
  have hgap := h.gap_eq
  have hchain := h.chain
  rw [hstart, UInt32.toNat_zero] at hgap hchain
  rw [Ring.gap, if_pos (Nat.zero_le _), Nat.sub_zero] at hgap
  rw [Ring.unread, hstart, UInt32.toNat_zero, if_pos (Nat.zero_le _), Nat.sub_zero, hgap, Ring.spans, Ring.spans,
    Nat.add_zero]
  cases hchain with
  | cons record _ => rw [record.bytes]

/-- A ring of 64 bytes is made with packed headers and gets a record.  It can be opened with native headers, and then
shows another record in the same bytes. -/
theorem openRing_other_format :
    let name : RingName := ⟨"ring", by decide, by decide, by decide⟩
    let packed : Ring := ⟨0, ⟨64, .packed, by decide, by decide⟩⟩
    let native : Ring := ⟨0, ⟨64, .native, by decide, by decide⟩⟩
    let submission : Submission := ⟨.hidInfo, 0, List.replicate 7 0⟩
    ∃ made later : Objects, empty.createRing name packed.geometry = (.ok ⟨⟨"ring", 0, 4096, true⟩, packed⟩, made) ∧
      later = made.setMemory 0 (packed.use (made.memory 0) (.write submission)) ∧
      Traffic name.text 0 made later ∧
      later.openRing name native.geometry = (.ok ⟨⟨"ring", 0, 4096, false⟩, native⟩, later) ∧
      packed.queue? (later.memory 0) = some [⟨1, 0, List.replicate 7 0⟩] ∧
      native.queue? (later.memory 0) = some [⟨1, 1792, []⟩] := by
  intro name packed native submission
  have hname : isReserved name.text = false := by decide
  have hsize : packed.geometry.sharedSize = 4096 := by decide
  have hmade := createRing_of_unused hname (s := empty) rfl packed.geometry
  obtain ⟨-, hintact, hstart, -⟩ := empty.withRing_spec name packed.geometry
  have hholds := empty.holds_withRing name packed.geometry
  have hroom : 0 < (empty.withRing name packed.geometry).memories.size := by simp [withRing, withObject]
  generalize empty.withRing name packed.geometry = made at *
  rw [hsize] at hmade
  have htraffic : Traffic name.text 0 made _ := .use (.start made) packed.geometry (.write submission)
  have hunread : packed.unread (packed.use (made.memory 0) (.write submission)) =
      (submission.entry.encode .packed, []) := by
    rw [Ring.use]
    refine unread_of_start (hintact.write_first hstart submission (by decide)) ?_
    rw [Ring.readOffset_write]
    exact hstart
  have hnative : native.unread (packed.use (made.memory 0) (.write submission)) =
      ((⟨1, 1792, []⟩ : Entry).encode .native, []) := by
    have hsame : submission.entry.encode .packed = (⟨1, 1792, []⟩ : Entry).encode .native := by decide
    rw [← hsame, ← hunread]
    exact unread_of_capacity_eq (g := packed.geometry) rfl _
  refine ⟨made, _, hmade, rfl, htraffic, ?_, ?_, ?_⟩
  · rw [openRing_of_holds hname (hholds.traffic htraffic), hsize]
    rfl
  · rw [memory_setMemory hroom]
    exact queue?_of_unread hunread (by decide)
  · rw [memory_setMemory hroom]
    exact queue?_of_unread hnative (by decide)

end Objects

end EventRing
