import EventRing.Proofs.Sharing

/-!
# The name of a ring stays

The record of a ring is what its control block says beside the offsets: the capacity, that it is set up, and the name.
`Ring.Handled base m m'` says that `m` has become `m'` through handles to the ring at `base`, of whatever geometry: by
records that are written, read and dropped, by offsets that are moved or replaced, and by attempts to set the ring up
again.  While a reader asks its clock, others may handle the ring too.

Each of these steps keeps the record (`SameRecord.write`, `SameRecord.readMoved`, `SameRecord.setOffsets`,
`SameRecord.setUp`), and so does a whole run: `Handled.sameRecord`.  As long as the record is kept, the name reads back
and the ring is not set up again: `name_kept`.
-/

namespace EventRing

namespace Ring

/-- Memory in which the record of the ring at `base` is as before. -/
structure SameRecord (base : Nat) (m m' : Memory) : Prop where
  size : m'.size = m.size
  bytes : ∀ i, base + 8 ≤ i → i < base + 32 → m'.byteAt i = m.byteAt i

/-- What `m` may become by handling the ring at `base`. -/
inductive Handled (base : Nat) : Memory → Memory → Prop
  | refl (m : Memory) : Handled base m m
  | write {m m' : Memory} (g : Geometry) (s : Submission) (before : Handled base m m') :
      Handled base m ((⟨base, g⟩ : Ring).write m' s.kind s.timestamp s.payload).2
  | free {m m' : Memory} (g : Geometry) (before : Handled base m m') : Handled base m ((⟨base, g⟩ : Ring).free m').2
  | poll {m m' : Memory} {σ : Type} (g : Geometry) (rd : Reader) (max : Nat) (clock : Clock σ) (c : σ) (st : Stats)
      (asking : ∀ c m, Handled base m (clock.ask c m).memory) (before : Handled base m m') :
      Handled base m (rd.poll clock ⟨base, g⟩ max ⟨m', c, st⟩).2.memory
  | drain {m m' : Memory} {σ : Type} (g : Geometry) (rd : Reader) (max : Nat) (clock : Clock σ) (c : σ) (st : Stats)
      (asking : ∀ c m, Handled base m (clock.ask c m).memory) (before : Handled base m m') :
      Handled base m (rd.drain clock ⟨base, g⟩ max ⟨m', c, st⟩).2.memory
  | advance {m m' : Memory} (g : Geometry) (consumed : UInt64) (before : Handled base m m') :
      Handled base m ((⟨base, g⟩ : Ring).advance m' consumed).2
  | setOffsets {m m' : Memory} (g : Geometry) (read write : UInt32) (before : Handled base m m') :
      Handled base m ((⟨base, g⟩ : Ring).setOffsets m' read write)
  | setUp {m m' : Memory} (g : Geometry) (name : RingName) (before : Handled base m m') :
      Handled base m ((⟨base, g⟩ : Ring).setUp m' name).2

variable {r : Ring} {m m' m'' : Memory} {base : Nat} {g : Geometry}

/-! ### The steps -/

theorem SameRecord.refl (base : Nat) (m : Memory) : SameRecord base m m := ⟨rfl, fun _ _ _ => rfl⟩

theorem SameRecord.trans (h : SameRecord base m m') (h' : SameRecord base m' m'') : SameRecord base m m'' :=
  ⟨h'.size.trans h.size, fun i hlo hhi => (h'.bytes i hlo hhi).trans (h.bytes i hlo hhi)⟩

theorem SameRecord.declares {capacity : UInt32} (h : SameRecord base m m') (hset : Declares base capacity m) :
    Declares base capacity m' :=
  hset.congr fun i hlo hhi => h.bytes i hlo (by omega)

theorem SameRecord.readMoved (h : SameRecord r.base m m') (moved : r.ReadMoved m' m'') : SameRecord r.base m m'' :=
  h.trans ⟨moved.onlyReadOffset.size, fun _ _ _ => moved.byteAt_eq (by omega)⟩

theorem SameRecord.advance (h : SameRecord r.base m m') (consumed : UInt64) :
    SameRecord r.base m (r.advance m' consumed).2 :=
  h.readMoved ((ReadMoved.refl r m').advance consumed)

theorem SameRecord.write (h : SameRecord r.base m m') (s : Submission) :
    SameRecord r.base m (r.write m' s.kind s.timestamp s.payload).2 := by
  refine h.trans ⟨size_write r m' s.kind s.timestamp s.payload, fun i _ _ => byteAt_write_of_not_owned ?_⟩
  rw [ProducerOwns, dataAt_eq]
  omega

theorem SameRecord.setOffsets (h : SameRecord r.base m m') (read write : UInt32) :
    SameRecord r.base m (r.setOffsets m' read write) := by
  refine h.trans ⟨?_, fun i _ _ => ?_⟩
  · rw [Ring.setOffsets, setWriteOffset, setReadOffset, Memory.size_setWord, Memory.size_setWord]
  · rw [Ring.setOffsets, setWriteOffset, setReadOffset, Memory.byteAt_setWord_of_outside _ _ _ _ (by omega),
      Memory.byteAt_setWord_of_outside _ _ _ _ (by omega)]

/-- A ring that is set up is not set up again. -/
theorem SameRecord.setUp {capacity : UInt32} (h : SameRecord r.base m m') (hset : Declares r.base capacity m)
    (name : RingName) : SameRecord r.base m (r.setUp m' name).2 := by
  rw [(h.declares hset).setUp_eq name]
  exact h

/-- Whatever is done to a ring that is set up, its record is kept. -/
theorem Handled.sameRecord {capacity : UInt32} (h : Handled base m m') (hset : Declares base capacity m) :
    SameRecord base m m' := by
  induction h with
  | refl m => exact .refl base m
  | write g s before ih => exact SameRecord.write (r := ⟨base, g⟩) (ih hset) s
  | free g before ih => exact SameRecord.readMoved (r := ⟨base, g⟩) (ih hset) (readMoved_free _ _)
  | @poll m m' σ g rd max clock c st asking before asked ih =>
    refine Reader.poll_keeps (P := fun m'' => SameRecord base m m'') rd max
      (fun c x hx => hx.trans (asked c x (hx.declares hset))) (fun x consumed hx => ?_) (ih hset)
    exact SameRecord.advance (r := ⟨base, g⟩) hx consumed
  | @drain m m' σ g rd max clock c st asking before asked ih =>
    refine Reader.drain_keeps (P := fun m'' => SameRecord base m m'') rd max
      (fun c x hx => hx.trans (asked c x (hx.declares hset))) (fun x consumed hx => ?_) (ih hset)
    exact SameRecord.advance (r := ⟨base, g⟩) hx consumed
  | advance g consumed before ih => exact SameRecord.advance (r := ⟨base, g⟩) (ih hset) consumed
  | setOffsets g read write before ih => exact SameRecord.setOffsets (r := ⟨base, g⟩) (ih hset) read write
  | setUp g name before ih => exact SameRecord.setUp (r := ⟨base, g⟩) (ih hset) hset name

/-! ### What the record says -/

/-- Every handle to the ring reads the same name. -/
theorem SameRecord.name_eq {capacity : UInt32} (h : SameRecord r.base m m') (hset : Declares r.base capacity m)
    (g : Geometry) : (⟨r.base, g⟩ : Ring).name m' = r.name m := by
  have hread : m'.read (r.base + 16) nameFieldSize = m.read (r.base + 16) nameFieldSize :=
    Memory.read_congr fun i hlo hhi => h.bytes i (by omega) hhi
  have hafter : (⟨r.base, g⟩ : Ring).isSetUp m' = true := Declares.isSetUp_eq (r := ⟨r.base, g⟩) (h.declares hset)
  rw [name, name, hset.isSetUp_eq, hafter, if_pos rfl, if_pos rfl, hread]

/-- Setting a ring up touches its control block only. -/
theorem byteAt_setUp_of_outside (name : RingName) (hunused : r.isSetUp m = false) {i : Nat}
    (hi : i < r.base ∨ r.base + 32 ≤ i) : (r.setUp m name).2.byteAt i = m.byteAt i := by
  have hlength : (nameField name).length = 16 := length_nameField name
  rw [setUp_unused name hunused, Memory.byteAt_setWord_of_outside _ _ _ _ (by omega),
    Memory.byteAt_blit_of_outside _ _ _ _ (by omega), Memory.byteAt_setWord_of_outside _ _ _ _ (by omega),
    setReadOffset, Memory.byteAt_setWord_of_outside _ _ _ _ (by omega), setWriteOffset,
    Memory.byteAt_setWord_of_outside _ _ _ _ (by omega)]

/-- **The name of a ring stays.**  A text is a name just if it has 1 to 15 bytes and they are all letters, digits, full
stops, low lines and hyphens.  Whatever stood in memory, setting a ring up under a name starts with both offsets at zero
and changes no byte beyond the control block.  The record is kept however the ring is handled since, and as long as it
is, every handle reads the name, is told it when it would set the ring up again, and attaches if it has the capacity. -/
theorem name_kept :
    (∀ s : String, (∃ name, RingName.ofString s = .ok name) ↔ 1 ≤ s.toUTF8.toList.length ∧
      s.toUTF8.toList.length ≤ 15 ∧ ∀ b ∈ s.toUTF8.toList, RingName.IsNameCode b.toNat) ∧
    ∀ (s : String) (name : RingName) (r : Ring) (m : Memory), RingName.ofString s = .ok name → r.Fits m →
      r.isSetUp m = false →
      let made := (r.setUp m name).2
      (r.setUp m name).1 = .ok () ∧ r.readOffset made = 0 ∧ r.writeOffset made = 0 ∧
      (∀ i, i < r.base ∨ r.base + 32 ≤ i → made.byteAt i = m.byteAt i) ∧
      (∀ later, Handled r.base made later → SameRecord r.base made later) ∧
      ∀ later, SameRecord r.base made later → ∀ g : Geometry,
        (⟨r.base, g⟩ : Ring).name later = s ∧
        (∀ other, (⟨r.base, g⟩ : Ring).setUp later other = (.error (.alreadyInitialized s), later)) ∧
        ∀ size, attach r.base size g later =
          if size < g.memorySize then .error (.regionTooSmall size g.capacity g.memorySize)
          else if r.base % 4 ≠ 0 then .error .misaligned
          else if g.capacity ≠ r.capacity then .error (.capacityMismatch g.capacity r.capacity)
          else .ok ⟨r.base, g⟩ := by
  refine ⟨fun s => ?_, fun s name r m hname hfits hunused => ?_⟩
  · rw [← RingName.valid_iff_bytes]
    exact ⟨fun ⟨name, hname⟩ => (RingName.ofString_eq_ok_iff.1 hname).1,
      fun hvalid => ⟨⟨s, hvalid⟩, RingName.ofString_eq_ok_iff.2 ⟨hvalid, rfl⟩⟩⟩
  · intro made
    have hset : Declares r.base r.capacity made := declares_setUp name hfits hunused
    refine ⟨by rw [setUp_unused name hunused], readOffset_setUp name hfits hunused,
      writeOffset_setUp name hfits hunused, fun i hi => byteAt_setUp_of_outside name hunused hi,
      fun later hlater => hlater.sameRecord hset, fun later hlater g => ?_⟩
    have hdeclares := hlater.declares hset
    have hread : (⟨r.base, g⟩ : Ring).name later = s := by
      rw [hlater.name_eq hset g, name_setUp name hfits hunused]
      exact (RingName.ofString_eq_ok_iff.1 hname).2
    refine ⟨hread, fun other => ?_, fun size => attach_eq_of_declares hdeclares size g⟩
    rw [Ring.setUp, if_pos (Declares.isSetUp_eq (r := ⟨r.base, g⟩) hdeclares), hread]

/-- A ring under a name of 15 bytes is set up in memory full of sevens, written to, and given offsets far outside.  A
native handle reads the name, and is told it. -/
theorem name_kept_fifteen :
    let r : Ring := ⟨0, ⟨64, .packed, by decide, by decide⟩⟩
    let m := (Memory.zeros 96).blit 0 (List.replicate 96 7)
    let name : RingName := ⟨"abc.DEF-0_xyz12", by decide, by decide, by decide⟩
    let other : RingName := ⟨"b", by decide, by decide, by decide⟩
    let later := r.setOffsets (r.write (r.setUp m name).2 .hidInfo 5 [1, 2, 3]).2 60000 7
    let native : Ring := ⟨0, ⟨64, .native, by decide, by decide⟩⟩
    native.name later = "abc.DEF-0_xyz12" ∧
      native.setUp later other = (.error (.alreadyInitialized "abc.DEF-0_xyz12"), later) ∧
      attach 0 96 native.geometry later = .ok native := by
  intro r m name other later native
  have hname : RingName.ofString "abc.DEF-0_xyz12" = .ok name := RingName.ofString_eq_ok_iff.2 ⟨name.valid, rfl⟩
  have hfits : r.Fits m := by
    show 96 ≤ m.size
    rw [Memory.size_blit, Memory.size_zeros]
  obtain ⟨-, -, -, -, hhandled, hkept⟩ := name_kept.2 _ name r m hname hfits (by decide +kernel)
  have hlater : Handled 0 (r.setUp m name).2 later :=
    .setOffsets r.geometry 60000 7 (.write r.geometry ⟨.hidInfo, 5, [1, 2, 3]⟩ (.refl _))
  obtain ⟨hread, htold, hattach⟩ := hkept later (hhandled later hlater) native.geometry
  exact ⟨hread, htold other, hattach 96⟩

end Ring

end EventRing
