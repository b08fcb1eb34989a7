import EventRing.Proofs.Polling

/-!
# A consumer in hostile memory

Nothing is assumed here about what stands in the control block and in the data area of a ring.  `Ring.Onward m m'`
says what a consumer may make of such memory: only the read offset differs, and it has come no further than the
write offset.  `Reader.Drains` is the loop of a drain as a relation between its first state and its last, without a
bound on the number of polls.

Main statements: `advance_found` (moving past a record that has been found succeeds, and leaves as many bytes fewer
unread as the record has), `sift_safe` and `scan_safe` (one round of a scan, and all of them), `poll_safe`,
`drain_safe`, `pump_safe`, `free_safe`, and `consumer_safe`, which sums up what a consumer can do to a ring.
-/

namespace EventRing

namespace Ring

/-- What a consumer may make of memory: only the read offset differs, and it lies between where it was and the write
offset.  If it has moved, it lies in the data area. -/
structure Onward (r : Ring) (m m' : Memory) : Prop where
  frame : r.OnlyReadOffset m m'
  way : OnTheWay (r.readOffset m).toNat (r.writeOffset m).toNat (r.readOffset m').toNat
  stays : r.readOffset m' = r.readOffset m ∨ (r.readOffset m').toNat < r.capacity.toNat

variable {r : Ring} {m m' m'' : Memory} {found : Found}

/-! ### Moving on -/

theorem SameRegion.onward (h : r.SameRegion m m') : r.Onward m m' := by
  refine ⟨h.onlyReadOffset, ?_, .inl h.readOffset_eq⟩
  rw [h.readOffset_eq]
  exact .refl _ _

theorem Onward.refl (r : Ring) (m : Memory) : r.Onward m m := (SameRegion.refl r m).onward

theorem Onward.trans (h : r.Onward m m') (h' : r.Onward m' m'') : r.Onward m m'' := by
  refine ⟨h.frame.trans h'.frame, ?_, ?_⟩
  · have hway := h'.way
    rw [h.frame.writeOffset_eq] at hway
    exact h.way.trans hway
  · rcases h'.stays with heq | hlt
    · rw [heq]
      exact h.stays
    · exact .inr hlt

theorem SameRegion.unreadSize_eq (h : r.SameRegion m m') : r.unreadSize m' = r.unreadSize m := by
  rw [Ring.unreadSize_eq, Ring.unreadSize_eq, h.readOffset_eq, h.onlyReadOffset.writeOffset_eq]

theorem unreadSize_lt (hw : (r.writeOffset m).toNat < r.capacity.toNat) : r.unreadSize m < r.capacity.toNat := by
  rw [unreadSize_eq]
  exact gap_lt hw

/-- Looking at a header does not depend on the read offset. -/
theorem OnlyReadOffset.headerAt_eq (h : r.OnlyReadOffset m m') (offset : UInt32) :
    r.headerAt m' offset = r.headerAt m offset := by
  rw [Ring.headerAt_eq, Ring.headerAt_eq, h.isSetUp_eq, h.writeOffset_eq]
  by_cases hle : offset.toNat + r.headerSize.toNat ≤ r.capacity.toNat
  · rw [h.read_data hle]
  · simp only [if_pos (Nat.not_le.1 hle)]

theorem OnlyReadOffset.checkedSpanOf_eq (h : r.OnlyReadOffset m m') (offset : UInt32) (header : Header) :
    r.checkedSpanOf m' offset header = r.checkedSpanOf m offset header := by
  rw [checkedSpanOf, checkedSpanOf, h.writeOffset_eq]

/-- What is found depends on the bytes of the ring alone. -/
theorem SameRegion.next_eq (h : r.SameRegion m m') : r.next m' = r.next m := by
  have hoffsets : r.offsets m' = r.offsets m := by
    rw [offsets, offsets, h.readOffset_eq, h.onlyReadOffset.writeOffset_eq]
  simp only [next, hoffsets, h.onlyReadOffset.headerAt_eq, h.onlyReadOffset.checkedSpanOf_eq]

/-- Payloads do not depend on the read offset. -/
theorem OnlyReadOffset.payload_eq (h : r.OnlyReadOffset m m') (found : Found) :
    r.payload m' found = r.payload m found := by
  have hcopy : ∀ start n : Nat, r.copyOut m' start n = r.copyOut m start n := by
    intro start n
    rw [copyOut, copyOut]
    split
    · next hle => rw [h.read_data hle]
    · rfl
  simp only [payload, hcopy]

/-- The payload of a record that has been found lies in the data area, behind its header. -/
theorem payload_found (hnext : r.next m = .done (some found)) (m' : Memory) :
    r.payload m' found
      = some (m'.read (r.dataAt (found.offset.toNat + r.headerSize.toNat)) found.header.size.toNat) := by
  have hcap := r.capacity.toNat_lt
  obtain ⟨-, -, -, -, -, -, hspan, hle, -⟩ := next_eq_found_iff.1 hnext
  have hstart : (found.offset + r.headerSize).toNat = found.offset.toNat + r.headerSize.toNat := by
    rw [UInt32.toNat_add, Nat.mod_eq_of_lt (by omega)]
  rw [payload, Word.add?_eq_some_iff.2 hstart, Option.bind_some, hstart, copyOut, if_pos (by omega)]

/-- Moving past a record that has been found. -/
theorem advance_found (hfits : r.Fits m) (hnext : r.next m = .done (some found)) :
    ∃ m', r.advance m found.span.toUInt64 = (.ok (), m') ∧ r.Onward m m' ∧
      r.unreadSize m' + found.span.toNat = r.unreadSize m := by
  obtain ⟨-, hr, hw, hne, hoffset, -, -, hle, hpast⟩ := next_eq_found_iff.1 hnext
  have hne' : (r.readOffset m).toNat ≠ (r.writeOffset m).toNat := fun h => hne (UInt32.toNat_inj.1 h)
  rw [hoffset] at hle hpast
  obtain ⟨m', hadvance, hframe, hnew⟩ := advance_of_le found.span.toUInt64 hfits hr
    (by rw [UInt32.toNat_toUInt64]; exact hle)
  rw [UInt32.toNat_toUInt64] at hnew
  -- In front of the write offset the record ends there at the latest, behind it at the end of the data area.
  unfold offsetAfter at hnew
  refine ⟨m', hadvance, ⟨hframe, ?_, .inr (by split at hnew <;> omega)⟩, ?_⟩
  · unfold OnTheWay
    split <;> split at hnew <;> omega
  · rw [unreadSize_eq, unreadSize_eq, hframe.writeOffset_eq]
    split at hnew <;> split <;> split <;> omega

/-- Dropping one record. -/
theorem free_safe (hfits : r.Fits m) : (r.free m).1 ≠ .halted ∧ r.Onward m (r.free m).2 := by
  by_cases hset : r.isSetUp m = true
  · rw [free, if_pos hset]
    cases hnext : r.next m with
    | failed e => exact ⟨by simp, .refl r m⟩
    | halted => exact absurd hnext next_ne_halted
    | done next =>
      cases next with
      | none => exact ⟨by simp, .refl r m⟩
      | some found =>
        obtain ⟨m', hadvance, honward, -⟩ := advance_found hfits hnext
        dsimp only
        rw [hadvance]
        exact ⟨by simp, honward⟩
  · rw [free, if_neg hset]
    exact ⟨by simp, .refl r m⟩

end Ring

namespace Reader

variable {σ : Type} {rd : Reader} {clock : Clock σ} {r : Ring} {max : Nat} {s s' : ReaderState σ} {found : Ring.Found}

/-! ### One record -/

theorem drop_found (hfits : r.Fits s.memory) (hnext : r.next s.memory = .done (some found)) (stats : Stats) :
    ∃ s', drop r s found stats = .dropped s' ∧ r.Onward s.memory s'.memory ∧
      r.unreadSize s'.memory + found.span.toNat = r.unreadSize s.memory := by
  obtain ⟨m', hadvance, honward, hsize⟩ := Ring.advance_found hfits hnext
  refine ⟨{ s with memory := m', stats }, ?_, honward, hsize⟩
  rw [drop, hadvance]

/-- A record that has been found is dropped, or it is fresh and nothing has happened to the ring. -/
theorem sift_safe (rd : Reader) (quiet : clock.Quiet r) (hfits : r.Fits s.memory)
    (hnext : r.next s.memory = .done (some found)) :
    (∃ s', rd.sift clock r s found = .dropped s' ∧ r.Onward s.memory s'.memory ∧
        r.unreadSize s'.memory + found.span.toNat = r.unreadSize s.memory) ∨
      ∃ s', rd.sift clock r s found = .fresh s' ∧ r.SameRegion s.memory s'.memory := by
  by_cases marker : found.header.kind = .skip
  · rw [sift, if_pos marker]
    exact .inl (drop_found hfits hnext _)
  · by_cases report : found.header.kind = .getReport
    · obtain ⟨⟨now, htime⟩, hsame⟩ := quiet s.clock s.memory
      rw [sift_of_time rd clock r s found report htime]
      split
      · obtain ⟨s', hdrop, honward, hsize⟩ := drop_found
          (s := { s with memory := (clock.ask s.clock s.memory).memory, clock := (clock.ask s.clock s.memory).state })
          (hsame.onlyReadOffset.fits hfits) (hsame.next_eq.trans hnext) s.stats.countStale
        rw [hsame.unreadSize_eq] at hsize
        exact .inl ⟨s', hdrop, hsame.onward.trans honward, hsize⟩
      · exact .inr ⟨_, rfl, hsame⟩
    · rw [sift, if_neg marker, isStale_other rd clock s report]
      exact .inr ⟨s, rfl, .refl r _⟩

/-- A record that was found in one memory is delivered in any other without halting. -/
theorem deliver_ne_halted {m : Memory} (rd : Reader) (max : Nat) (hnext : r.next m = .done (some found)) :
    (rd.deliver r max s found).1 ≠ .halted := by
  obtain ⟨bytes, hpayload⟩ : ∃ bytes, r.payload s.memory found = some bytes :=
    ⟨_, Ring.payload_found hnext s.memory⟩
  rw [deliver, hpayload]
  dsimp only
  split
  · simp
  · rcases settle_cases rd max found.header.kind bytes s.stats with ⟨event, hsettle⟩ | ⟨e, hsettle⟩ <;> simp [hsettle]

/-- Delivering a record that has been found. -/
theorem deliver_safe (rd : Reader) (max : Nat) (hfits : r.Fits s.memory)
    (hnext : r.next s.memory = .done (some found)) :
    (rd.deliver r max s found).1 ≠ .halted ∧ r.Onward s.memory (rd.deliver r max s found).2.memory ∧
      r.unreadSize (rd.deliver r max s found).2.memory + found.span.toNat = r.unreadSize s.memory := by
  obtain ⟨bytes, hpayload⟩ : ∃ bytes, r.payload s.memory found = some bytes :=
    ⟨_, Ring.payload_found hnext s.memory⟩
  obtain ⟨m', hadvance, honward, hsize⟩ := Ring.advance_found hfits hnext
  refine ⟨deliver_ne_halted rd max hnext, ?_⟩
  rw [deliver, hpayload]
  dsimp only
  rw [hadvance]
  exact ⟨honward, hsize⟩

/-! ### Scans and polls -/

/-- **A scan of hostile memory.** It does not halt and stays between the offsets, and it delivers only what was
unread. -/
theorem scan_safe (rd : Reader) (max : Nat) (quiet : clock.Quiet r) (published consumed : UInt64)
    (hfits : r.Fits s.memory) (hcount : published.toNat = consumed.toNat + r.unreadSize s.memory) :
    (rd.scan clock r max published consumed s).1 ≠ .halted ∧
      r.Onward s.memory (rd.scan clock r max published consumed s).2.memory ∧
      ∀ event, (rd.scan clock r max published consumed s).1 = .event event →
        r.unreadSize (rd.scan clock r max published consumed s).2.memory < r.unreadSize s.memory := by
  -- Whatever a record claims, dropping it leaves fewer bytes unread, and these are the published ones still left.
  induction hn : r.unreadSize s.memory using Nat.strongRecOn generalizing s consumed with
  | _ n ih =>
    rw [hn] at hcount
    by_cases hleft : consumed < published
    · cases hnext : r.next s.memory with
      | failed e =>
        rw [scan_of_failed rd clock max hleft hnext]
        exact ⟨by simp, .refl r _, by simp⟩
      | halted => exact absurd hnext Ring.next_ne_halted
      | done next =>
        cases next with
        | none =>
          rw [scan_of_none rd clock max hnext]
          exact ⟨by simp, .refl r _, by simp⟩
        | some found =>
          have hpos := Ring.span_pos hnext
          rw [scan_of_found rd clock max hleft hnext]
          rcases sift_safe rd quiet hfits hnext with ⟨s', hsift, honward, hsize⟩ | ⟨s', hsift, hsame⟩
          · obtain ⟨sum, hsum, htotal⟩ := Word.addLong?_of_lt consumed found.span.toUInt64
              (by rw [UInt32.toNat_toUInt64]; have := published.toNat_lt_size; omega)
            rw [UInt32.toNat_toUInt64] at htotal
            obtain ⟨hhalt, hrest, hevent⟩ := ih (r.unreadSize s'.memory) (by omega) sum
              (honward.frame.fits hfits) (by omega) rfl
            rw [hsift]
            dsimp only
            rw [hsum]
            refine ⟨hhalt, honward.trans hrest, fun event hpoll => ?_⟩
            have hless := hevent event hpoll
            dsimp only
            omega
          · obtain ⟨hhalt, honward, hsize⟩ := deliver_safe rd max (hsame.onlyReadOffset.fits hfits)
              (hsame.next_eq.trans hnext)
            rw [hsame.unreadSize_eq] at hsize
            rw [hsift]
            dsimp only
            exact ⟨hhalt, hsame.onward.trans honward, fun event _ => by omega⟩
    · rw [scan_of_le rd clock r max s hleft]
      exact ⟨by simp, .refl r _, by simp⟩

/-- **A poll of hostile memory.** -/
theorem poll_safe (rd : Reader) (max : Nat) (quiet : clock.Quiet r) (hfits : r.Fits s.memory) :
    (rd.poll clock r max s).1 ≠ .halted ∧ r.Onward s.memory (rd.poll clock r max s).2.memory ∧
      ∀ event, (rd.poll clock r max s).1 = .event event →
        r.unreadSize (rd.poll clock r max s).2.memory < r.unreadSize s.memory ∧
          r.unreadSize s.memory < r.capacity.toNat := by
  by_cases hset : r.isSetUp s.memory = true
  · cases hoffsets : r.offsets s.memory with
    | error e =>
      rw [poll_of_error rd clock max hset hoffsets]
      exact ⟨by simp, .refl r _, by simp⟩
    | ok offsets =>
      obtain ⟨read, write⟩ := offsets
      obtain ⟨rfl, rfl, hr, hw⟩ := Ring.offsets_eq_ok_iff.1 hoffsets
      obtain ⟨published, hoccupancy, hcount⟩ := Ring.occupancy_eq (r.writeOffset s.memory) hr
      obtain ⟨hhalt, honward, hevent⟩ := scan_safe rd max quiet published.toUInt64 0 hfits
        (by rw [UInt32.toNat_toUInt64, UInt64.toNat_zero, Nat.zero_add, hcount, Ring.unreadSize_eq]; rfl)
      rw [poll_eq_scan rd clock max hset hr hw hoccupancy]
      exact ⟨hhalt, honward, fun event hpoll => ⟨hevent event hpoll, Ring.unreadSize_lt hw⟩⟩
  · rw [poll, if_neg hset]
    exact ⟨by simp, .refl r _, by simp⟩

/-- A scan looks only at records that have been found. -/
theorem next_of_mem_scanned {published consumed : UInt64}
    (h : found ∈ rd.scanned clock r published consumed s) : ∃ m, r.next m = .done (some found) := by
  fun_induction scanned rd clock r published consumed s with
  | case4 _ _ _ _ hnext | case5 _ _ _ _ hnext | case6 _ _ _ _ hnext =>
    rw [List.mem_singleton] at h
    exact ⟨_, h ▸ hnext⟩
  | case7 _ _ _ _ hnext _ _ _ _ ih =>
    rcases List.mem_cons.1 h with hhead | hrest
    · exact ⟨_, hhead ▸ hnext⟩
    · exact ih hrest
  | _ => simp at h

theorem next_of_mem_examined (h : found ∈ rd.examined clock r s) : ∃ m, r.next m = .done (some found) := by
  unfold examined at h
  split at h
  · split at h
    · simp at h
    · split at h
      · simp at h
      · exact next_of_mem_scanned h
  · simp at h

/-! ### Drains -/

/-- The loop of a drain: polls from one state to another that find an event each, and then one that does not. -/
inductive Drains (rd : Reader) (clock : Clock σ) (r : Ring) (max : Nat) :
    ReaderState σ → Drained → ReaderState σ → Prop
  | empty {s s' : ReaderState σ} (last : rd.poll clock r max s = (.empty, s')) :
      Drains rd clock r max s (.events []) s'
  | failed {s s' : ReaderState σ} {e : Error} (last : rd.poll clock r max s = (.failed e, s')) :
      Drains rd clock r max s (.failed e) s'
  | halted {s s' : ReaderState σ} (last : rd.poll clock r max s = (.halted, s')) :
      Drains rd clock r max s .halted s'
  | event {s s' s'' : ReaderState σ} {event : Event} {events : List Event}
      (first : rd.poll clock r max s = (.event event, s')) (more : Drains rd clock r max s' (.events events) s'') :
      Drains rd clock r max s (.events (event :: events)) s''
  | event_failed {s s' s'' : ReaderState σ} {event : Event} {e : Error}
      (first : rd.poll clock r max s = (.event event, s')) (more : Drains rd clock r max s' (.failed e) s'') :
      Drains rd clock r max s (.failed e) s''
  | event_halted {s s' s'' : ReaderState σ} {event : Event}
      (first : rd.poll clock r max s = (.event event, s')) (more : Drains rd clock r max s' .halted s'') :
      Drains rd clock r max s .halted s''

/-- A bound on the number of polls that is larger than the number of unread bytes does not cut the loop short. -/
theorem drainUpTo_safe (rd : Reader) (max : Nat) (quiet : clock.Quiet r) {fuel : Nat} (hfits : r.Fits s.memory)
    (hpos : 0 < fuel) (hfuel : r.unreadSize s.memory < r.capacity.toNat → r.unreadSize s.memory < fuel) :
    Drains rd clock r max s (rd.drainUpTo clock r max fuel s).1 (rd.drainUpTo clock r max fuel s).2 ∧
      (rd.drainUpTo clock r max fuel s).1 ≠ .halted ∧
      r.Onward s.memory (rd.drainUpTo clock r max fuel s).2.memory := by
  induction fuel generalizing s with
  | zero => exact absurd hpos (Nat.lt_irrefl 0)
  | succ fuel ih =>
    obtain ⟨hhalt, honward, hevent⟩ := poll_safe rd max quiet hfits
    rw [drainUpTo]
    rcases hpoll : rd.poll clock r max s with ⟨poll, s'⟩
    rw [hpoll] at hhalt honward hevent
    dsimp only at honward hevent ⊢
    cases poll with
    | empty => exact ⟨.empty hpoll, by simp, honward⟩
    | failed e => exact ⟨.failed hpoll, by simp, honward⟩
    | halted => exact absurd rfl hhalt
    | event event =>
      obtain ⟨hless, hlt⟩ := hevent event rfl
      have hleft := hfuel hlt
      obtain ⟨hdrains, hhalt', honward'⟩ := ih (honward.frame.fits hfits) (by omega) (by omega)
      dsimp only
      rcases hrest : rd.drainUpTo clock r max fuel s' with ⟨drained, s''⟩
      rw [hrest] at hdrains hhalt' honward'
      cases drained with
      | events events => exact ⟨.event hpoll hdrains, by simp, honward.trans honward'⟩
      | failed e => exact ⟨.event_failed hpoll hdrains, by simp, honward.trans honward'⟩
      | halted => exact absurd rfl hhalt'

/-- **A drain of hostile memory.** -/
theorem drain_safe (rd : Reader) (max : Nat) (quiet : clock.Quiet r) (hfits : r.Fits s.memory) :
    Drains rd clock r max s (rd.drain clock r max s).1 (rd.drain clock r max s).2 ∧
      (rd.drain clock r max s).1 ≠ .halted ∧ r.Onward s.memory (rd.drain clock r max s).2.memory := by
  have hbound := capacity_lt_pollBound clock r s
  rw [drain]
  exact drainUpTo_safe rd max quiet hfits (by omega) (by omega)

/-! ### Pumps -/

theorem pumpUpTo_safe (rd : Reader) (max fuel : Nat) (quiet : clock.Quiet r) (hfits : r.Fits s.memory) :
    Poll.halted ∉ (rd.pumpUpTo clock r max fuel s).1 ∧ r.Onward s.memory (rd.pumpUpTo clock r max fuel s).2.memory := by
  induction fuel generalizing s with
  | zero => exact ⟨by simp [pumpUpTo], .refl r _⟩
  | succ fuel ih =>
    obtain ⟨hhalt, honward, -⟩ := poll_safe rd max quiet hfits
    rw [pumpUpTo]
    rcases hpoll : rd.poll clock r max s with ⟨poll, s'⟩
    rw [hpoll] at hhalt honward
    obtain ⟨hhalt', honward'⟩ := ih (honward.frame.fits hfits)
    cases poll with
    | empty => exact ⟨by simp, honward⟩
    | halted => exact absurd rfl hhalt
    | event event => exact ⟨by simpa using hhalt', honward.trans honward'⟩
    | failed e =>
      dsimp only
      split
      · exact ⟨by simpa using hhalt', honward.trans honward'⟩
      · exact ⟨by simp, honward⟩

/-- **A pump of hostile memory.** -/
theorem pump_safe (rd : Reader) (max : Nat) (quiet : clock.Quiet r) (hfits : r.Fits s.memory) :
    Poll.halted ∉ (rd.pump clock r max s).1 ∧ r.Onward s.memory (rd.pump clock r max s).2.memory :=
  pumpUpTo_safe rd max _ quiet hfits

end Reader

variable {r : Ring} {m : Memory}

/-- **A consumer is safe in hostile memory.** Whatever stands in a ring, and under any clock that leaves the ring
alone, polling, draining, dropping a record, looking at a record, checking one and moving the read offset come to an
end without halting.  They look only at data bytes and change at most the read offset, and the first three leave it
between where it was and the write offset. -/
theorem consumer_safe (hfits : r.Fits m) :
    (∀ (σ : Type) (clock : Clock σ) (rd : Reader) (max : Nat) (c : σ) (st : Stats), clock.Quiet r →
      ((rd.poll clock r max ⟨m, c, st⟩).1 ≠ .halted ∧ r.Onward m (rd.poll clock r max ⟨m, c, st⟩).2.memory) ∧
      (∀ found ∈ rd.examined clock r ⟨m, c, st⟩,
        found.span.toNat = r.headerSize.toNat + found.header.size.toNat ∧
          found.offset.toNat + found.span.toNat ≤ r.capacity.toNat) ∧
      Reader.Drains rd clock r max ⟨m, c, st⟩ (rd.drain clock r max ⟨m, c, st⟩).1 (rd.drain clock r max ⟨m, c, st⟩).2 ∧
      (rd.drain clock r max ⟨m, c, st⟩).1 ≠ .halted ∧ r.Onward m (rd.drain clock r max ⟨m, c, st⟩).2.memory) ∧
    ((r.free m).1 ≠ .halted ∧ r.Onward m (r.free m).2) ∧
    (∀ offset : UInt32, r.headerAt m offset ≠ .halted ∧ ∀ header, r.headerAt m offset = .done (some header) →
      offset.toNat + r.headerSize.toNat ≤ r.capacity.toNat) ∧
    (∀ (offset : UInt32) (header : Header), r.checkedSpanOf m offset header ≠ .halted) ∧
    ∀ consumed : UInt64, r.OnlyReadOffset m (r.advance m consumed).2 := by
  refine ⟨?_, Ring.free_safe hfits, ?_, Ring.checkedSpanOf_ne_halted, Ring.onlyReadOffset_advance r m⟩
  · intro σ clock rd max c st quiet
    obtain ⟨hpoll, honward, -⟩ := Reader.poll_safe (s := ⟨m, c, st⟩) rd max quiet hfits
    refine ⟨⟨hpoll, honward⟩, ?_, Reader.drain_safe (s := ⟨m, c, st⟩) rd max quiet hfits⟩
    intro found hfound
    obtain ⟨m', hnext⟩ := Reader.next_of_mem_examined hfound
    obtain ⟨-, -, -, -, -, -, hspan, hle, -⟩ := Ring.next_eq_found_iff.1 hnext
    exact ⟨hspan, hle⟩
  · intro offset
    refine ⟨Ring.headerAt_ne_halted offset, fun header hheader => ?_⟩
    obtain ⟨-, -, -, hle, -⟩ := Ring.headerAt_eq_some_iff.1 hheader
    exact hle

/-- A ring of 64 bytes whose read offset has been overwritten. -/
theorem consumer_safe_overwritten :
    let r : Ring := ⟨0, ⟨64, .packed, by decide, by decide⟩⟩
    let m := ((Memory.zeros 96).setWord 12 1).setWord 4 0xFFFFFFFF
    r.Fits m ∧ (r.free m).1 ≠ .halted ∧ r.Onward m (r.free m).2 := by
  intro r m
  have hfits : r.Fits m := by
    have hsize : m.size = 96 := by simp [m]
    rw [Ring.Fits, hsize]
    decide
  obtain ⟨-, hfree, -⟩ := consumer_safe hfits
  exact ⟨hfits, hfree⟩

end EventRing
