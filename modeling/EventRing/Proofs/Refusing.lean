import EventRing.Proofs.Acceptance

/-!
# Records that are too large

A record is too large for a ring if not even a new ring has room for it and for a header behind it.
`Ring.longestPayload` is the longest payload that is not, and `Ring.longestTold` the one that a refusal tells of: these
differ where the record alone would fill the data area.

Main statements: `Intact.write_eq_too_large_iff` (which records are refused as too large, and what they are told),
`Reachable.too_large_iff` (the offsets have no say in it) and `Reachable.longest_told` (what a new ring makes of the
longest payload that has been told).
-/

namespace EventRing.Ring

/-- The longest payload that a new ring takes. -/
def longestPayload (r : Ring) : Nat := r.capacity.toNat - 2 * r.headerSize.toNat

/-- The longest payload that the refusal of `n` bytes tells of. -/
def longestTold (r : Ring) (n : Nat) : Nat :=
  if r.capacity.toNat ≤ n + r.headerSize.toNat then r.capacity.toNat - r.headerSize.toNat - 1 else r.longestPayload

/-- A ring takes every record with `n` payload bytes. -/
def Accepts (r : Ring) (m : Memory) (n : Nat) : Prop :=
  ∀ kind timestamp payload, payload.length = n → (r.write m kind timestamp payload).1 = .done ()

/-- A ring refuses every record with `n` payload bytes as too large. -/
def FindsTooLarge (r : Ring) (m : Memory) (n : Nat) : Prop :=
  ∀ kind timestamp payload, payload.length = n →
    ∃ max, (r.write m kind timestamp payload).1 = .failed (.payloadTooLarge n max)

variable {r : Ring} {m blank : Memory} {q : List Entry} {n size max : Nat}
variable {kind : Kind} {timestamp : UInt64} {payload : List UInt8}

/-! ### Intact rings -/

theorem longestPayload_lt_iff (hcap : 2 * r.headerSize.toNat ≤ r.capacity.toNat) :
    r.longestPayload < n ↔ r.capacity.toNat < n + 2 * r.headerSize.toNat := by
  rw [longestPayload]
  omega

/-- Which records are refused as too large, and what the refusal tells. -/
theorem Intact.write_eq_too_large_iff (h : r.Intact m q) (hcap : 2 * r.headerSize.toNat ≤ r.capacity.toNat) :
    (r.write m kind timestamp payload).1 = .failed (.payloadTooLarge size max) ↔
      r.longestPayload < payload.length ∧ size = payload.length ∧ max = r.longestTold payload.length := by
  rcases Nat.lt_or_ge r.longestPayload payload.length with hlong | hshort
  · have hover := (longestPayload_lt_iff hcap).1 hlong
    have hrefused : (r.write m kind timestamp payload).1 =
        .failed (.payloadTooLarge payload.length (r.longestTold payload.length)) := by
      rw [h.write_too_large hover 0, emptyAnswer_of_lt hover, if_neg (Nat.not_lt.2 hcap), longestTold]
      split <;> rfl
    simp [hrefused, hlong, eq_comm]
  · have hfits : payload.length + 2 * r.headerSize.toNat ≤ r.capacity.toNat :=
      Nat.not_lt.1 (mt (longestPayload_lt_iff hcap).2 (Nat.not_lt.2 hshort))
    rcases h.write_fitting kind timestamp hfits with hdone | ⟨writable, hfull⟩
    · simp [hdone, Nat.not_lt.2 hshort]
    · simp [hfull, Nat.not_lt.2 hshort]

/-! ### New rings -/

theorem accepts_setUp (name : RingName) (hfits : r.Fits blank) (hunused : r.isSetUp blank = false)
    (hcap : 2 * r.headerSize.toNat ≤ r.capacity.toNat) (hshort : n ≤ r.longestPayload) :
    r.Accepts (r.setUp blank name).2 n := by
  rintro kind timestamp payload rfl
  exact (write_setUp_eq_done_iff name hfits hunused).2
    (Nat.not_lt.1 (mt (longestPayload_lt_iff hcap).2 (Nat.not_lt.2 hshort)))

theorem findsTooLarge_setUp (name : RingName) (hfits : r.Fits blank) (hunused : r.isSetUp blank = false)
    (hcap : 2 * r.headerSize.toNat ≤ r.capacity.toNat) (hlong : r.longestPayload < n) :
    r.FindsTooLarge (r.setUp blank name).2 n := by
  rintro kind timestamp payload rfl
  exact ⟨_, ((intact_setUp name hfits hunused).write_eq_too_large_iff hcap).2 ⟨hlong, rfl, rfl⟩⟩

/-! ### Honest traffic -/

/-- **Which records are too large.** Take a ring with room for two headers, in any state that honest traffic leads to.
A record is refused as too large exactly if its payload leaves no room for two headers, whatever else it says and
wherever the offsets stand.  Every other record is written, or the ring is full.  The records that are too large are
those that the ring takes in no state at all. -/
theorem Reachable.too_large_iff (h : r.Reachable m) (hcap : 2 * r.headerSize.toNat ≤ r.capacity.toNat) (kind : Kind)
    (timestamp : UInt64) (payload : List UInt8) :
    let answer := (r.write m kind timestamp payload).1
    ((∃ size max, answer = .failed (.payloadTooLarge size max)) ↔
      r.capacity.toNat - 2 * r.headerSize.toNat < payload.length) ∧
    (payload.length ≤ r.capacity.toNat - 2 * r.headerSize.toNat →
      answer = .done () ∨ ∃ writable, answer = .failed (.ringFull payload.length writable)) ∧
    ((∃ size max, answer = .failed (.payloadTooLarge size max)) ↔
      ∀ m', r.Reachable m' → (r.write m' kind timestamp payload).1 ≠ .done ()) := by
  intro answer
  obtain ⟨q, hq⟩ := h.intact
  have hlarge : (∃ size max, answer = .failed (.payloadTooLarge size max)) ↔ r.longestPayload < payload.length := by
    simp [answer, hq.write_eq_too_large_iff hcap]
  refine ⟨hlarge, fun hshort => hq.write_fitting kind timestamp (by omega), hlarge.trans ⟨fun hlong m' h' => ?_, fun hnever => ?_⟩⟩
  · obtain ⟨q', hq'⟩ := h'.intact
    rw [(hq'.write_eq_too_large_iff hcap).2 ⟨hlong, rfl, rfl⟩]
    simp
  · refine Nat.not_le.1 fun hshort => ?_
    have name : RingName := ⟨"ring", by decide, by decide, by decide⟩
    have hfits : r.Fits (Memory.zeros (r.base + r.geometry.memorySize)) := r.fits_zeros (Nat.le_refl _)
    have hunused := r.isSetUp_zeros (r.base + r.geometry.memorySize)
    exact hnever _ (.setUp name hfits hunused) (accepts_setUp name hfits hunused hcap hshort kind timestamp payload rfl)

/-- In a ring of 64 bytes, 31 payload bytes are too large. -/
theorem too_large_iff_thirty_one :
    let r : Ring := ⟨0, ⟨64, .packed, by decide, by decide⟩⟩
    let m := r.use (r.setUp (Memory.zeros 96) ⟨"ring", by decide, by decide, by decide⟩).2 (.write ⟨.hidInfo, 5, [1]⟩)
    (r.Reachable m ∧ 2 * r.headerSize.toNat ≤ r.capacity.toNat) ∧
      ∃ size max, (r.write m .hidInfo 6 (List.replicate 31 0)).1 = .failed (.payloadTooLarge size max) := by
  intro r m
  have hreachable : r.Reachable m := .use _ (r.reachable_zeros _ (by decide))
  have hcap : 2 * r.headerSize.toNat ≤ r.capacity.toNat := by decide
  exact ⟨⟨hreachable, hcap⟩, (hreachable.too_large_iff hcap .hidInfo 6 (List.replicate 31 0)).1.2 (by decide)⟩

/-- **What a refusal tells.** Let honest traffic have led to a ring with room for two headers, and let it refuse a
record as too large.  The refusal tells the length of the payload, and of a longest payload that is shorter.  A payload
that is one byte longer than that is too large for a new ring.  If the refused record would not fill the data area
by itself, a new ring takes the longest payload that was told.  Otherwise all bytes but a header and one more are told
of, and a payload of that length is too large for a new ring as well. -/
theorem Reachable.longest_told (h : r.Reachable m) (hcap : 2 * r.headerSize.toNat ≤ r.capacity.toNat)
    (hrefused : (r.write m kind timestamp payload).1 = .failed (.payloadTooLarge size max)) (hfits : r.Fits blank)
    (hunused : r.isSetUp blank = false) (name : RingName) :
    let new := (r.setUp blank name).2
    (size = payload.length ∧ max < size) ∧ r.FindsTooLarge new (max + 1) ∧
      (size + r.headerSize.toNat < r.capacity.toNat → r.Accepts new max) ∧
      (r.capacity.toNat ≤ size + r.headerSize.toNat →
        max = r.capacity.toNat - r.headerSize.toNat - 1 ∧ r.FindsTooLarge new max) := by
  intro new
  obtain ⟨q, hq⟩ := h.intact
  obtain ⟨hlong, rfl, rfl⟩ := (hq.write_eq_too_large_iff hcap).1 hrefused
  have hheader : r.headerSize.toNat = 1 + r.geometry.format.padding + 16 := r.geometry.format.size_eq
  have hlarge : ∀ n, r.longestPayload < n → r.FindsTooLarge new n := fun n =>
    findsTooLarge_setUp name hfits hunused hcap
  have htold : r.longestTold payload.length =
    if r.capacity.toNat ≤ payload.length + r.headerSize.toNat then r.capacity.toNat - r.headerSize.toNat - 1
    else r.longestPayload := rfl
  by_cases hfills : r.capacity.toNat ≤ payload.length + r.headerSize.toNat
  · rw [if_pos hfills] at htold
    have hover : r.longestPayload < r.longestTold payload.length := by
      rw [htold, longestPayload]
      omega
    exact ⟨⟨rfl, by omega⟩, hlarge _ (Nat.lt_succ_of_lt hover), fun hlt => absurd hlt (Nat.not_lt.2 hfills),
      fun _ => ⟨htold, hlarge _ hover⟩⟩
  · rw [if_neg hfills] at htold
    rw [htold]
    exact ⟨⟨rfl, hlong⟩, hlarge _ (Nat.lt_succ_self _), fun _ => accepts_setUp name hfits hunused hcap (Nat.le_refl _),
      fun hle => absurd hle hfills⟩

/-- In a ring of 64 bytes, a refusal of 31 payload bytes tells of 30, which a new ring takes. -/
theorem longest_told_thirty :
    let r : Ring := ⟨0, ⟨64, .packed, by decide, by decide⟩⟩
    let blank := Memory.zeros 96
    let new := (r.setUp blank ⟨"ring", by decide, by decide, by decide⟩).2
    (r.Reachable new ∧ 2 * r.headerSize.toNat ≤ r.capacity.toNat ∧
      (r.write new .hidInfo 0 (List.replicate 31 0)).1 = .failed (.payloadTooLarge 31 30) ∧ r.Fits blank ∧
      r.isSetUp blank = false) ∧ r.FindsTooLarge new 31 ∧ r.Accepts new 30 := by
  intro r blank new
  have hfits : r.Fits blank := r.fits_zeros (by decide)
  have hunused : r.isSetUp blank = false := r.isSetUp_zeros 96
  have hreachable : r.Reachable new := .setUp _ hfits hunused
  have hcap : 2 * r.headerSize.toNat ≤ r.capacity.toNat := by decide
  have hrefused : (r.write new .hidInfo 0 (List.replicate 31 0)).1 = .failed (.payloadTooLarge 31 30) := by
    rw [(intact_setUp _ hfits hunused).write_eq_too_large_iff hcap]
    decide
  obtain ⟨-, hlarge, htaken, -⟩ :=
    hreachable.longest_told hcap hrefused hfits hunused ⟨"ring", by decide, by decide, by decide⟩
  exact ⟨⟨hreachable, hcap, hrefused, hfits, hunused⟩, hlarge, htaken (by decide)⟩

/-- A ring of 64 bytes refuses 47 payload bytes and tells of 46, and of these it then refuses as well. -/
theorem longest_told_refused :
    let r : Ring := ⟨0, ⟨64, .packed, by decide, by decide⟩⟩
    let new := (r.setUp (Memory.zeros 96) ⟨"ring", by decide, by decide, by decide⟩).2
    r.Reachable new ∧ 2 * r.headerSize.toNat ≤ r.capacity.toNat ∧
      (r.write new .hidInfo 0 (List.replicate 47 0)).1 = .failed (.payloadTooLarge 47 46) ∧
      (r.write new .hidInfo 0 (List.replicate 46 0)).1 = .failed (.payloadTooLarge 46 30) := by
  intro r new
  have hfits : r.Fits (Memory.zeros 96) := r.fits_zeros (by decide)
  have hunused : r.isSetUp (Memory.zeros 96) = false := r.isSetUp_zeros 96
  have hintact : r.Intact new [] := intact_setUp _ hfits hunused
  have hcap : 2 * r.headerSize.toNat ≤ r.capacity.toNat := by decide
  refine ⟨.setUp _ hfits hunused, hcap, ?_, ?_⟩
  · rw [hintact.write_eq_too_large_iff hcap]
    decide
  · rw [hintact.write_eq_too_large_iff hcap]
    decide

end EventRing.Ring
