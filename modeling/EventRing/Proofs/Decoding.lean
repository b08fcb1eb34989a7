import EventRing.Layout

/-!
# What a payload is decoded to

A report is decoded whole or not at all, a connection state is a fixed number of bytes, and everything else is handed on
up to a limit.  `Layout.Reports` says which bytes of a payload the fields of a report response are, and
`Layout.LetsThrough` how many bytes of a payload may be handed on.

Main statements: `Layout.decodeReport_eq_ok_iff` and `Layout.decodeReport_eq_error_iff` (which reports are decoded, and
what the others are refused with), `Event.decodeConnection_eq_error_iff`, `Layout.prefix_handed_iff` (the longest prefix
is handed on), `Layout.decode_of_le` (a larger destination is given the same event, or more of the same payload) and
`Layout.decoding_exact`.
-/

namespace EventRing

/-- Enough bytes begin with an address. -/
theorem Address.exists_ofBytes? {bs : List UInt8} (h : 6 ≤ bs.length) : ∃ address, Address.ofBytes? bs = some address :=
  ⟨⟨bs.take 6, List.length_take_of_le h⟩, Address.ofBytes?_eq_some_iff.2 ⟨h, rfl⟩⟩

namespace Event

variable {payload other : List UInt8} {max max' : Nat} {event : Event} {e : DecodeError}

theorem decodeConnection_eq_error_iff : decodeConnection payload max = .error e ↔
    payload.length < 12 ∧ e = .payloadTooShort .connectionState 12 payload.length ∨
      12 ≤ payload.length ∧ max < 12 ∧ e = .bufferTooSmall 12 max := by
  unfold decodeConnection connectionSize
  by_cases hlen : payload.length < 12
  · simp [hlen, Nat.not_le.2 hlen, eq_comm]
  · by_cases hmax : max < 12
    · simp [hlen, hmax, Nat.not_lt.1 hlen, eq_comm]
    · have hsix : 6 ≤ payload.length := by omega
      obtain ⟨address, haddress⟩ := Address.exists_ofBytes? hsix
      simp [hlen, hmax, haddress]

/-- The bytes of the address and those of the state are all that matters. -/
theorem decodeConnection_congr (hlen : 12 ≤ payload.length) (hlen' : 12 ≤ other.length)
    (haddress : other.take 6 = payload.take 6) (hstate : (other.drop 8).take 4 = (payload.drop 8).take 4) :
    decodeConnection other max = decodeConnection payload max := by
  have hsix : 6 ≤ payload.length := by omega
  obtain ⟨address, hsome⟩ := Address.exists_ofBytes? hsix
  have hbytes := (Address.ofBytes?_eq_some_iff.1 hsome).2
  have hsome' : Address.ofBytes? other = some address :=
    Address.ofBytes?_eq_some_iff.2 ⟨by omega, hbytes.trans haddress.symm⟩
  unfold decodeConnection connectionSize
  rw [if_neg (Nat.not_lt.2 hlen), if_neg (Nat.not_lt.2 hlen'), hsome, hsome', hstate]

theorem decodeConnection_of_le (h : decodeConnection payload max = .ok event) (hle : max ≤ max') :
    decodeConnection payload max' = .ok event := by
  obtain ⟨hlen, hmax, hevent⟩ := decodeConnection_eq_ok_iff.1 h
  exact decodeConnection_eq_ok_iff.2 ⟨hlen, Nat.le_trans hmax hle, hevent⟩

end Event

namespace Layout

/-- The report response that stands in a payload, field by field. -/
structure Reports (layout : Layout) (payload : List UInt8) (address : Address) (status : Status) (length : UInt32)
    (report : List UInt8) : Prop where
  address_eq : address.bytes = (payload.drop layout.addressOffset).take 6
  status_eq : status =
    if layout = .compact then .ofNumber (UInt32.ofNat ((payload.getD 6 0).toNat + 256 * (payload.getD 7 0).toNat))
    else .ok
  length_eq : length.toNat = payload.length
  report_eq : report = payload.drop layout.reportOffset

/-- A record may be handed on with `n` bytes of its payload to a destination of `max` bytes. -/
def LetsThrough (layout : Layout) (kind : Kind) (max n : Nat) : Prop :=
  n ≤ max ∧ ∀ limit, layout.fixedLimit kind = some limit → n ≤ limit

variable {layout : Layout} {kind : Kind} {payload p : List UInt8} {max max' n : Nat} {event : Event} {e : DecodeError}

/-! ### Reports -/

/-- A payload that reaches as far as the report has room for the address. -/
theorem six_le_length_drop (h : layout.reportOffset ≤ payload.length) :
    6 ≤ (payload.drop layout.addressOffset).length := by
  have hfits : layout.addressOffset + 6 ≤ layout.reportOffset := by cases layout <;> decide
  rw [List.length_drop]
  omega

/-- The bytes of an address stand in a payload that reaches as far as the report. -/
theorem exists_address (h : layout.reportOffset ≤ payload.length) :
    ∃ address : Address, address.bytes = (payload.drop layout.addressOffset).take 6 := by
  obtain ⟨address, haddress⟩ := Address.exists_ofBytes? (six_le_length_drop h)
  exact ⟨address, (Address.ofBytes?_eq_some_iff.1 haddress).2⟩

/-- The status of a compact payload is the number in the two bytes in front of the report. -/
theorem status_eq (h : layout.reportOffset ≤ payload.length) : layout.status payload =
    if layout = .compact then .ofNumber (UInt32.ofNat ((payload.getD 6 0).toNat + 256 * (payload.getD 7 0).toNat))
    else .ok := by
  cases layout with
  | compact =>
    have hlen : 8 ≤ payload.length := h
    have hbytes : (payload.drop 6).take 2 = [payload[6], payload[7]] := by
      rw [List.drop_eq_getElem_cons (by omega), List.take_succ_cons, List.drop_eq_getElem_cons (by omega),
        List.take_succ_cons, List.take_zero]
    rw [if_pos rfl, status, hbytes, List.getD_eq_getElem?_getD, List.getD_eq_getElem?_getD,
      List.getElem?_eq_getElem (show 6 < payload.length by omega),
      List.getElem?_eq_getElem (show 7 < payload.length by omega)]
    rfl
  | legacy | v2 => rfl

theorem decodeReport_eq_error_iff : layout.decodeReport payload max = .error e ↔
    payload.length < layout.reportOffset ∧ e = .payloadTooShort .getReport layout.reportOffset payload.length ∨
      layout.reportOffset ≤ payload.length ∧ max < payload.length - layout.reportOffset ∧
        e = .bufferTooSmall (payload.length - layout.reportOffset) max := by
  unfold decodeReport
  by_cases hlen : payload.length < layout.reportOffset
  · simp [hlen, Nat.not_le.2 hlen, eq_comm]
  · by_cases hmax : max < payload.length - layout.reportOffset
    · simp [hlen, hmax, Nat.not_lt.1 hlen, eq_comm]
    · obtain ⟨address, haddress⟩ := Address.exists_ofBytes? (six_le_length_drop (Nat.not_lt.1 hlen))
      simp [hlen, hmax, haddress]

theorem decodeReport_of_le {address : Address} (hlen : layout.reportOffset ≤ payload.length)
    (hmax : payload.length - layout.reportOffset ≤ max)
    (hbytes : address.bytes = (payload.drop layout.addressOffset).take 6) :
    layout.decodeReport payload max = .ok (.getReport address (layout.status payload) (UInt32.ofNat payload.length)
      (payload.drop layout.reportOffset)) := by
  have haddress := Address.ofBytes?_eq_some_iff.2 ⟨six_le_length_drop hlen, hbytes⟩
  rw [decodeReport, if_neg (Nat.not_lt.2 hlen), if_neg (Nat.not_lt.2 hmax), haddress]

theorem le_of_decodeReport (h : layout.decodeReport payload max = .ok event) :
    layout.reportOffset ≤ payload.length ∧ payload.length - layout.reportOffset ≤ max := by
  unfold decodeReport at h
  split at h
  · simp at h
  · next hlen =>
    split at h
    · simp at h
    · next hmax => exact ⟨Nat.not_lt.1 hlen, Nat.not_lt.1 hmax⟩

/-- A report is decoded if it is all there and fits into the destination, and then field by field. -/
theorem decodeReport_eq_ok_iff (hword : payload.length < UInt32.size) : layout.decodeReport payload max = .ok event ↔
    (layout.reportOffset ≤ payload.length ∧ payload.length - layout.reportOffset ≤ max) ∧
      ∃ address status length report,
        layout.Reports payload address status length report ∧ event = .getReport address status length report := by
  have hlength : (UInt32.ofNat payload.length).toNat = payload.length := UInt32.toNat_ofNat_of_lt' hword
  constructor
  · intro h
    obtain ⟨hlen, hmax⟩ := le_of_decodeReport h
    obtain ⟨address, hbytes⟩ := exists_address hlen
    rw [decodeReport_of_le hlen hmax hbytes] at h
    exact ⟨⟨hlen, hmax⟩, _, _, _, _, ⟨hbytes, status_eq hlen, hlength, rfl⟩, (Except.ok.inj h).symm⟩
  · rintro ⟨⟨hlen, hmax⟩, address, status, length, report, ⟨hbytes, hstatus, hlength', rfl⟩, rfl⟩
    obtain rfl : length = UInt32.ofNat payload.length := UInt32.toNat_inj.1 (hlength'.trans hlength.symm)
    rw [decodeReport_of_le hlen hmax hbytes, status_eq hlen, ← hstatus]

theorem decodeReport_of_max_le (h : layout.decodeReport payload max = .ok event) (hle : max ≤ max') :
    layout.decodeReport payload max' = .ok event := by
  obtain ⟨hlen, hmax⟩ := le_of_decodeReport h
  obtain ⟨address, hbytes⟩ := exists_address hlen
  rw [← h, decodeReport_of_le hlen hmax hbytes, decodeReport_of_le hlen (Nat.le_trans hmax hle) hbytes]

/-! ### Records that are handed on -/

theorem letsThrough_iff : layout.LetsThrough kind max n ↔ n ≤ layout.handedSize kind max := by
  unfold LetsThrough handedSize
  cases layout.fixedLimit kind with
  | none => simp
  | some limit =>
    simp only [Option.some.injEq, forall_eq', Nat.le_min]
    exact and_comm

/-- The prefixes of what is handed on are the prefixes that may be handed on. -/
theorem prefix_handed_iff :
    p <+: payload.take (layout.handedSize kind max) ↔ p <+: payload ∧ layout.LetsThrough kind max p.length := by
  rw [List.prefix_take_iff, letsThrough_iff]

theorem handedSize_le (hle : max ≤ max') : layout.handedSize kind max ≤ layout.handedSize kind max' :=
  letsThrough_iff.1 ⟨Nat.le_trans (letsThrough_iff.2 (Nat.le_refl _)).1 hle, (letsThrough_iff.2 (Nat.le_refl _)).2⟩

theorem decode_of_ne (hconnection : kind ≠ .connectionState) (hreport : kind ≠ .getReport) :
    layout.decode kind payload max = .ok (layout.handOn kind payload max) := by
  cases kind <;> first | rfl | contradiction

/-- A larger destination is given the same event, or more of the same payload. -/
theorem decode_of_le (h : layout.decode kind payload max = .ok event) (hle : max ≤ max') :
    if kind = .connectionState ∨ kind = .getReport then layout.decode kind payload max' = .ok event
    else ∃ handed more, event = .passthrough kind handed ∧ handed ++ more <+: payload ∧
      layout.decode kind payload max' = .ok (.passthrough kind (handed ++ more)) := by
  by_cases hconnection : kind = .connectionState
  · subst hconnection
    rw [if_pos (.inl rfl)]
    exact Event.decodeConnection_of_le h hle
  · by_cases hreport : kind = .getReport
    · subst hreport
      rw [if_pos (.inr rfl)]
      exact decodeReport_of_max_le h hle
    · rw [if_neg (by simp [hconnection, hreport])]
      rw [decode_of_ne hconnection hreport] at h ⊢
      have hmost : layout.handedSize kind max ≤ layout.handedSize kind max' := handedSize_le hle
      have hlonger : payload.take (layout.handedSize kind max) <+: payload.take (layout.handedSize kind max') :=
        List.take_prefix_take_left hmost
      obtain ⟨more, hmore⟩ := hlonger
      refine ⟨_, more, (Except.ok.inj h).symm, ?_, ?_⟩
      · rw [hmore]
        exact List.take_prefix _ _
      · rw [hmore, handOn]

/-- **What a payload is decoded to.** A report response is decoded exactly if the payload reaches as far as the report
and the report fits into the destination, and then its fields are the bytes that the layout says.  Otherwise the error
tells of the payload if that is too short, and only then of the destination; an address is never missing.  A connection
state is decoded exactly if payload and destination both have twelve bytes, and only the bytes of address and state
matter.  Everything else is handed on, namely the longest prefix of the payload that destination and layout let through.
So a larger destination is given the same report response or connection state, and of other records the same bytes, or
more behind them. -/
theorem decoding_exact (layout : Layout) (payload : List UInt8) (max : Nat) (hword : payload.length < UInt32.size) :
    (∀ event, layout.decode .getReport payload max = .ok event ↔
      (layout.reportOffset ≤ payload.length ∧ payload.length - layout.reportOffset ≤ max) ∧
        ∃ address status length report,
          layout.Reports payload address status length report ∧ event = .getReport address status length report) ∧
    (∀ e, layout.decode .getReport payload max = .error e ↔
      payload.length < layout.reportOffset ∧ e = .payloadTooShort .getReport layout.reportOffset payload.length ∨
        layout.reportOffset ≤ payload.length ∧ max < payload.length - layout.reportOffset ∧
          e = .bufferTooSmall (payload.length - layout.reportOffset) max) ∧
    (layout.reportOffset ≤ payload.length →
      ∃ address, Address.ofBytes? (payload.drop layout.addressOffset) = some address) ∧
    (∀ event, layout.decode .connectionState payload max = .ok event ↔
      12 ≤ payload.length ∧ 12 ≤ max ∧ ∃ address : Address, address.bytes = payload.take 6 ∧
        event = .connectionState address (.ofNumber (Bytes.toUInt32 ((payload.drop 8).take 4)))) ∧
    (∀ e, layout.decode .connectionState payload max = .error e ↔
      payload.length < 12 ∧ e = .payloadTooShort .connectionState 12 payload.length ∨
        12 ≤ payload.length ∧ max < 12 ∧ e = .bufferTooSmall 12 max) ∧
    (∀ other : List UInt8, 12 ≤ payload.length → 12 ≤ other.length → other.take 6 = payload.take 6 →
      (other.drop 8).take 4 = (payload.drop 8).take 4 →
      layout.decode .connectionState other max = layout.decode .connectionState payload max) ∧
    (∀ kind, ∃ handed, layout.handOn kind payload max = .passthrough kind handed ∧
      (handed <+: payload ∧ layout.LetsThrough kind max handed.length) ∧
      (∀ p, p <+: payload → layout.LetsThrough kind max p.length → p <+: handed) ∧
      (kind ≠ .connectionState → kind ≠ .getReport →
        layout.decode kind payload max = .ok (.passthrough kind handed))) ∧
    ∀ kind event larger, layout.decode kind payload max = .ok event → max ≤ larger →
      if kind = .connectionState ∨ kind = .getReport then layout.decode kind payload larger = .ok event
      else ∃ handed more, event = .passthrough kind handed ∧ handed ++ more <+: payload ∧
        layout.decode kind payload larger = .ok (.passthrough kind (handed ++ more)) := by
  refine ⟨fun event => decodeReport_eq_ok_iff hword, fun e => decodeReport_eq_error_iff,
    fun h => Address.exists_ofBytes? (six_le_length_drop h), fun event => Event.decodeConnection_eq_ok_iff,
    fun e => Event.decodeConnection_eq_error_iff, fun other => Event.decodeConnection_congr, fun kind => ?_,
    fun kind event larger => decode_of_le⟩
  exact ⟨payload.take (layout.handedSize kind max), rfl, prefix_handed_iff.1 (List.prefix_refl _),
    fun p hp hthrough => prefix_handed_iff.2 ⟨hp, hthrough⟩, decode_of_ne⟩

/-- A compact report of two bytes is refused by a destination of one byte and decoded by one of two. -/
theorem decoding_exact_two :
    let payload : List UInt8 := [1, 2, 3, 4, 5, 6, 5, 0, 7, 8]
    payload.length < UInt32.size ∧ compact.decode .getReport payload 1 = .error (.bufferTooSmall 2 1) ∧
      compact.decode .getReport payload 2 =
        .ok (.getReport ⟨[1, 2, 3, 4, 5, 6], rfl⟩ .handshakeError 10 [7, 8]) := by
  intro payload
  have hword : payload.length < UInt32.size := by decide
  have hreports : compact.Reports payload ⟨[1, 2, 3, 4, 5, 6], rfl⟩ .handshakeError 10 [7, 8] := ⟨rfl, rfl, rfl, rfl⟩
  obtain ⟨-, hrefused, -⟩ := decoding_exact compact payload 1 hword
  obtain ⟨htaken, -⟩ := decoding_exact compact payload 2 hword
  exact ⟨hword, (hrefused _).2 (.inr ⟨by decide, by decide, rfl⟩),
    (htaken _).2 ⟨by decide, _, _, _, _, hreports, rfl⟩⟩

end Layout

end EventRing
