import EventRing.Proofs.Polling

/-!
# Stale reports

A report response is dropped if it is older than the window of a reader.  The age is a difference of words that stops at
zero, and durations are compared by their seconds first and by the nanoseconds beyond them after that.  Main statements:
`Duration.shorter_iff` (the comparison of durations is that of their nanoseconds), `Duration.toNat_toTicks` (a duration
in ticks stops at the largest word), `Reader.isStaleAt_iff` (the verdict on a record, in natural numbers) and
`Reader.stale_iff_older` (the verdict in integers, and how it changes with time and window).
-/

namespace EventRing

namespace Duration

/-- One duration is shorter than another: by its whole seconds, or by the nanoseconds beyond as many seconds. -/
def Shorter (a b : Duration) : Prop := a.seconds < b.seconds ∨ a.seconds = b.seconds ∧ a.subsecond < b.subsecond

theorem shorter_iff {a b : Duration} : a.Shorter b ↔ a.nanoseconds < b.nanoseconds := by
  unfold Shorter seconds subsecond
  omega

@[simp] theorem nanoseconds_ofTicks (ticks : UInt64) : (ofTicks ticks).nanoseconds = ticks.toNat := rfl

theorem toNat_toTicks (d : Duration) : d.toTicks.toNat = min d.nanoseconds (UInt64.size - 1) :=
  UInt64.toNat_ofNat_of_lt' (Nat.lt_of_le_of_lt (Nat.min_le_right _ _) (by decide))

/-- A difference of ticks is larger than a duration in ticks exactly if it is longer, also where the duration does not
fit a word. -/
theorem toTicks_lt_iff {d : Duration} {ticks : UInt64} : d.toTicks < ticks ↔ d.nanoseconds < ticks.toNat := by
  have hlt : ticks.toNat < UInt64.size := ticks.toNat_lt_size
  rw [UInt64.lt_iff_toNat_lt, toNat_toTicks]
  omega

end Duration

namespace Reader

variable {rd : Reader} {now later : UInt64} {window : Duration} {header : Header}

/-- A record is stale if it is a report response whose timestamp and the window together do not reach the present. -/
theorem isStaleAt_iff : rd.isStaleAt now header = true ↔
    header.kind = .getReport ∧ rd.window.nanoseconds + header.timestamp.toNat < now.toNat := by
  rw [isStaleAt, Bool.and_eq_true, decide_eq_true_iff, decide_eq_true_iff, Duration.nanoseconds_ofTicks,
    toNat_ticksBetween]
  exact and_congr_right fun _ => by omega

theorem isStaleAt_of_le (h : rd.isStaleAt now header = true) (hle : now ≤ later) :
    rd.isStaleAt later header = true := by
  obtain ⟨hkind, hold⟩ := isStaleAt_iff.1 h
  exact isStaleAt_iff.2 ⟨hkind, Nat.lt_of_lt_of_le hold (UInt64.le_iff_toNat_le.1 hle)⟩

theorem isStaleAt_of_window_le (h : rd.isStaleAt now header = true)
    (hle : window.nanoseconds ≤ rd.window.nanoseconds) :
    isStaleAt { rd with window := window } now header = true := by
  obtain ⟨hkind, hold⟩ := isStaleAt_iff.1 h
  exact isStaleAt_iff.2 ⟨hkind, Nat.lt_of_le_of_lt (Nat.add_le_add_right hle _) hold⟩

/-- Whatever else a clock does, the time it shows decides. -/
theorem isStale_of_time {σ : Type} {clock : Clock σ} {s : ReaderState σ}
    (htime : (clock.ask s.clock s.memory).time = some now) :
    (rd.isStale clock s header).1 = some (rd.isStaleAt now header) := by
  by_cases hkind : header.kind = .getReport
  · rw [isStale_report rd clock s hkind, htime, Option.map_some]
  · rw [isStale_other rd clock s hkind, isStaleAt_of_ne hkind]

/-- **Which records are stale.** The time that a clock shows decides, whatever else asking it does.  A record is stale
exactly if it is a report response and its age, an integer without bounds, is larger than the nanoseconds of the window.
So a record of the present or the future is fresh, one whose age is the window is fresh, and a window that does not fit
a word of nanoseconds drops nothing.  What is stale stays so at every later time and under every shorter window.  The
same is told by comparing durations as seconds and nanoseconds, and by comparing the ticks between with the window in
ticks, however long the window is. -/
theorem stale_iff_older (rd : Reader) (now : UInt64) (header : Header) :
    (∀ (σ : Type) (clock : Clock σ) (s : ReaderState σ), (clock.ask s.clock s.memory).time = some now →
      (rd.isStale clock s header).1 = some (rd.isStaleAt now header)) ∧
    (rd.isStaleAt now header = true ↔
      header.kind = .getReport ∧ (rd.window.nanoseconds : Int) < (now.toNat : Int) - header.timestamp.toNat) ∧
    (now ≤ header.timestamp → rd.isStaleAt now header = false) ∧
    ((now.toNat : Int) - header.timestamp.toNat = rd.window.nanoseconds → rd.isStaleAt now header = false) ∧
    (UInt64.size ≤ rd.window.nanoseconds → rd.isStaleAt now header = false) ∧
    (rd.isStaleAt now header = true → ∀ later, now ≤ later → rd.isStaleAt later header = true) ∧
    (rd.isStaleAt now header = true → ∀ window : Duration, window.nanoseconds ≤ rd.window.nanoseconds →
      isStaleAt { rd with window := window } now header = true) ∧
    (rd.isStaleAt now header = true ↔
      header.kind = .getReport ∧ rd.window.Shorter (.ofTicks (ticksBetween header.timestamp now))) ∧
    (rd.isStaleAt now header = true ↔
      header.kind = .getReport ∧ rd.window.toTicks < ticksBetween header.timestamp now) := by
  have hnow : now.toNat < UInt64.size := now.toNat_lt_size
  have hfresh : ¬ rd.window.nanoseconds + header.timestamp.toNat < now.toNat → rd.isStaleAt now header = false :=
    fun hyoung => Bool.eq_false_iff.2 fun hstale => hyoung (isStaleAt_iff.1 hstale).2
  refine ⟨fun σ clock s => isStale_of_time, ?_, ?_, ?_, ?_, fun hstale _ => isStaleAt_of_le hstale,
    fun hstale _ => isStaleAt_of_window_le hstale, ?_, ?_⟩
  · rw [isStaleAt_iff]
    exact and_congr_right fun _ => by omega
  · intro hahead
    have hle := UInt64.le_iff_toNat_le.1 hahead
    exact hfresh (by omega)
  · intro hedge
    exact hfresh (by omega)
  · intro hlong
    exact hfresh (by omega)
  · rw [isStaleAt_iff, Duration.shorter_iff, Duration.nanoseconds_ofTicks, toNat_ticksBetween]
    exact and_congr_right fun _ => by omega
  · rw [isStaleAt_iff, Duration.toTicks_lt_iff, toNat_ticksBetween]
    exact and_congr_right fun _ => by omega

/-- With the standard window, a report of which 100 milliseconds have passed is fresh, and stale a nanosecond later. -/
theorem stale_iff_older_edge :
    let rd : Reader := .ofLayout .compact
    let header : Header := ⟨.getReport, 5, 0⟩
    (rd.isStale (.fixed 100000005) ⟨Memory.zeros 0, (), .zero⟩ header).1 = some false ∧
      (rd.isStale (.fixed 100000006) ⟨Memory.zeros 0, (), .zero⟩ header).1 = some true := by
  intro rd header
  obtain ⟨htold, -, -, hedge, -⟩ := rd.stale_iff_older 100000005 header
  obtain ⟨htold', hstale, -⟩ := rd.stale_iff_older 100000006 header
  have hfresh : rd.isStaleAt 100000005 header = false := hedge (by decide)
  have hold : rd.isStaleAt 100000006 header = true := hstale.2 (by decide)
  rw [htold Unit (.fixed 100000005) _ rfl, htold' Unit (.fixed 100000006) _ rfl, hfresh, hold]
  exact ⟨rfl, rfl⟩

end Reader

end EventRing
