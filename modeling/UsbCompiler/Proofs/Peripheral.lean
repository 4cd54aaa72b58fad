import UsbCompiler.Peripheral
import UsbCompiler.Proofs.Layout.Grants

/-!
# `UsbCompiler.Proofs.Peripheral` — what the driver programs is what was reserved

A layout is rounded twice: packet sizes when buffers are reserved, and buffer sizes again when the driver's
setup is computed. The second rounding changes nothing, because what was granted is already the size of a
class; so the setup exists unless a slot is double-buffered, and it says the same as the slots.

## Contents
- `Peripheral.Buffer.region` and `Peripheral.Endpoint.regions`: the setup in bytes.
- `Peripheral.Endpoint.Describes` and `Slot.exists_toPeripheral`: one slot.
- `Peripheral.Describes` and `Layout.exists_toPeripheral`: a whole layout.
- `Layout.run_toPeripheral`: every run of calls that place endpoints.
-/

namespace UsbCompiler

open Layout (Grant)

/-! ## The setup in bytes -/

namespace Peripheral

/-- The bytes of a buffer. -/
def Buffer.region (buffer : Buffer) : Region := ⟨2 * buffer.offset, 2 * buffer.size⟩

/-- **Counted buffers.** What the hardware reads from the receive count register is the size of the buffer, and
    the register has no other bits. -/
def Buffer.Counted (buffer : Buffer) : Prop :=
  ReceiveClass.describedSize buffer.receiveCount = buffer.region.size
    ∧ buffer.receiveCount % 0x400 = 0 ∧ buffer.receiveCount < 0x10000

namespace Endpoint

/-- Whether the half of a direction is in use. -/
def enabled (endpoint : Endpoint) : Direction → Bool
  | .toHost => endpoint.transmitEnabled
  | .toDevice => endpoint.receiveEnabled

/-- The buffer of a direction. -/
def buffer (endpoint : Endpoint) : Direction → Option Buffer
  | .toHost => endpoint.transmitBuffer
  | .toDevice => endpoint.receiveBuffer

/-- All bytes of packet memory that an endpoint uses: its table entry and its buffers. -/
def regions (endpoint : Endpoint) : List Region :=
  ⟨endpoint.entryOffset, 8⟩
    :: ((endpoint.transmitBuffer.map Buffer.region).toList ++ (endpoint.receiveBuffer.map Buffer.region).toList)

/-- **The setup of a slot.** It has the number, type, table entry and flags of the slot. A half in use has a
    buffer with the very bytes that were reserved for its grant, which hold the packets that the grant is for;
    a half that is not in use has none. The receive count register describes the receive buffer exactly. -/
structure Describes (endpoint : Endpoint) (slot : Slot) (grants : List Grant) : Prop where
  number : endpoint.number = slot.number
  type : endpoint.type = slot.type
  entry : slot.entry = ⟨endpoint.entryOffset, 8⟩
  enabled : ∀ d, endpoint.enabled d = (slot.half d).enabled
  unused : ∀ d, endpoint.enabled d = false → (slot.half d).buffer = none ∧ endpoint.buffer d = none
  used : ∀ d, endpoint.enabled d = true → ∃ buffer, endpoint.buffer d = some buffer
    ∧ (slot.half d).buffer = some buffer.region
    ∧ ∃ grant ∈ grants, grant.toHolding = ⟨slot.number, slot.type, d, false, [buffer.region]⟩
      ∧ grant.packetSize ≤ buffer.region.size
  received : ∀ buffer, endpoint.buffer .toDevice = some buffer → buffer.Counted

end Endpoint

/-- **The setup of a layout.** Each slot is found under its number, the endpoints are in the order of their
    numbers, and the bytes that they use lie in packet memory and are disjoint. -/
structure Describes (peripheral : Peripheral) (layout : Layout) (grants : List Grant) : Prop where
  slots : ∀ slot ∈ layout.slots, ∃ endpoint,
    peripheral.find slot.number = .ok endpoint ∧ endpoint.Describes slot grants
  endpoints : ∀ endpoint ∈ peripheral.endpoints, ∃ slot ∈ layout.slots,
    peripheral.find slot.number = .ok endpoint
  ordered : (peripheral.endpoints.map Endpoint.number).Pairwise (· < ·)
  disjoint : (peripheral.endpoints.flatMap Endpoint.regions).Pairwise Region.Disjoint
  bounds : ∀ region ∈ peripheral.endpoints.flatMap Endpoint.regions,
    0 ≤ region.address ∧ region.address + region.size ≤ 512

end Peripheral

/-! ## Buffers -/

namespace Region

variable {region : Region}

theorem region_toTransmitBuffer (haddress : region.address % 2 = 0) (hsize : region.size % 2 = 0) :
    region.toTransmitBuffer.region = region := by
  obtain ⟨address, size⟩ := region
  simp only at haddress hsize
  simp only [toTransmitBuffer, Peripheral.Buffer.region, Region.mk.injEq]
  omega

/-- The size that a packet size was rounded up to is not rounded again. -/
theorem exists_toReceiveBuffer {packetSize : Int} (haddress : region.address % 2 = 0)
    (h : bufferSize .toDevice packetSize = .ok region.size) :
    ∃ buffer, region.toReceiveBuffer = .ok buffer ∧ buffer.region = region ∧ buffer.Counted := by
  have heven := (bufferSize_spec h).2
  obtain ⟨cls, hcls, hsize⟩ := map_eq_ok_iff.mp h
  -- The region has the size of a class, so rounding finds this class again.
  have hagain : ReceiveClass.ofPacketSize region.size = .ok cls := by
    rw [← hsize]
    exact ReceiveClass.ofPacketSize_size hcls
  have hbytes := region_toTransmitBuffer haddress heven
  refine ⟨{ region.toTransmitBuffer with receiveCount := cls.count }, ?_, hbytes, ?_⟩
  · unfold toReceiveBuffer
    rw [hagain]
    exact if_pos hsize
  · refine ⟨?_, ReceiveClass.count_emod hcls, ReceiveClass.count_lt hcls⟩
    show (ReceiveClass.describedSize cls.count : Int) = region.toTransmitBuffer.region.size
    rw [ReceiveClass.describedSize_ofPacketSize hcls, hsize, hbytes]

end Region

/-! ## Slots -/

namespace Slot

variable {slot : Slot} {grants : List Grant}

/-- What the projection of a slot relies on: its buffers belong to halves in use, each of which has a grant that
    asks for a buffer of this size. -/
structure Ready (slot : Slot) (grants : List Grant) : Prop where
  number : 0 ≤ slot.number ∧ slot.number < 16
  paired : slot.Paired
  entry : slot.entry.size = 8
  even : ∀ buffer ∈ slot.buffers, buffer.address % 2 = 0 ∧ buffer.size % 2 = 0
  granted : ∀ d, (slot.half d).enabled = true → slot.doubleBuffered = false →
    ∃ grant ∈ grants, grant.toHolding = ⟨slot.number, slot.type, d, false, (slot.half d).buffer.toList⟩
      ∧ ∀ buffer ∈ grant.buffers, bufferSize d grant.packetSize = .ok buffer.size

theorem mem_buffers {d : Direction} {region : Region} (h : (slot.half d).buffer = some region) :
    region ∈ slot.buffers := by
  unfold buffers
  cases d with
  | toHost =>
    have h : slot.transmit.buffer = some region := h
    rw [h]
    exact List.mem_append_left _ List.mem_cons_self
  | toDevice =>
    have h : slot.receive.buffer = some region := h
    rw [h]
    exact List.mem_append_right _ List.mem_cons_self

/-- A half with a buffer is in use, so somebody asked for it. -/
theorem Ready.exists_grant (h : slot.Ready grants) (hsingle : slot.doubleBuffered = false) {d : Direction}
    {region : Region} (hregion : (slot.half d).buffer = some region) :
    ∃ grant ∈ grants, grant.toHolding = ⟨slot.number, slot.type, d, false, [region]⟩
      ∧ bufferSize d grant.packetSize = .ok region.size := by
  have henabled : (slot.half d).enabled = true := by
    rw [h.paired hsingle d, hregion]
    rfl
  obtain ⟨grant, hgrant, hholding, hsizes⟩ := h.granted d henabled hsingle
  rw [hregion] at hholding
  refine ⟨grant, hgrant, hholding, hsizes region ?_⟩
  rw [show grant.buffers = [region] from congrArg Layout.Holding.buffers hholding]
  exact List.mem_cons_self

/-- The receive buffer of a slot, if it has one, is one that the hardware can describe. -/
theorem Ready.exists_receive (h : slot.Ready grants) (hsingle : slot.doubleBuffered = false) :
    ∃ receive, slot.receive.buffer.mapM Region.toReceiveBuffer = .ok receive
      ∧ receive.map Peripheral.Buffer.region = slot.receive.buffer
      ∧ ∀ buffer, receive = some buffer → buffer.Counted := by
  cases hregion : slot.receive.buffer with
  | none => exact ⟨none, rfl, rfl, nofun⟩
  | some region =>
    have hhalf : (slot.half .toDevice).buffer = some region := hregion
    obtain ⟨grant, _, _, hsize⟩ := h.exists_grant hsingle hhalf
    obtain ⟨buffer, hbuffer, hbytes, hcounted⟩ :=
      Region.exists_toReceiveBuffer (h.even region (mem_buffers hhalf)).1 hsize
    refine ⟨some buffer, ?_, congrArg some hbytes, ?_⟩
    · rw [Option.mapM_some, hbuffer]
      rfl
    · intro other hother
      cases hother
      exact hcounted

/-- The transmit buffer of a slot, if it has one, keeps its bytes. -/
theorem Ready.map_transmit (h : slot.Ready grants) :
    (slot.transmit.buffer.map Region.toTransmitBuffer).map Peripheral.Buffer.region = slot.transmit.buffer := by
  cases hregion : slot.transmit.buffer with
  | none => rfl
  | some region =>
    have hhalf : (slot.half .toHost).buffer = some region := hregion
    obtain ⟨haddress, hsize⟩ := h.even region (mem_buffers hhalf)
    exact congrArg some (Region.region_toTransmitBuffer haddress hsize)

/-- An endpoint with the parts and the bytes of a slot describes it. -/
theorem Ready.describes (h : slot.Ready grants) (hsingle : slot.doubleBuffered = false)
    {endpoint : Peripheral.Endpoint} (hnumber : endpoint.number = slot.number)
    (htype : endpoint.type = slot.type) (hentry : endpoint.entryOffset = slot.entry.address)
    (henabled : ∀ d, endpoint.enabled d = (slot.half d).enabled)
    (hbytes : ∀ d, (endpoint.buffer d).map Peripheral.Buffer.region = (slot.half d).buffer)
    (hcounted : ∀ buffer, endpoint.buffer .toDevice = some buffer → buffer.Counted) :
    endpoint.Describes slot grants where
  number := hnumber
  type := htype
  entry := by rw [hentry, ← h.entry]
  enabled := henabled
  unused := by
    intro d hdisabled
    rw [henabled] at hdisabled
    have hnone := h.paired.buffer_eq_none hsingle hdisabled
    have hmap := hbytes d
    rw [hnone, Option.map_eq_none_iff] at hmap
    exact ⟨hnone, hmap⟩
  used := by
    intro d hused
    rw [henabled, h.paired hsingle d, Option.isSome_iff_exists] at hused
    obtain ⟨region, hregion⟩ := hused
    have hmap := hbytes d
    rw [hregion, Option.map_eq_some_iff] at hmap
    obtain ⟨buffer, hbuffer, rfl⟩ := hmap
    obtain ⟨grant, hgrant, hholding, hsize⟩ := h.exists_grant hsingle hregion
    exact ⟨buffer, hbuffer, hregion, grant, hgrant, hholding, (bufferSize_spec hsize).1⟩
  received := hcounted

/-- **A slot that is ready has a setup**, unless it is double-buffered. -/
theorem exists_toPeripheral (h : slot.Ready grants) (hsingle : slot.doubleBuffered = false) :
    ∃ endpoint, slot.toPeripheral = .ok endpoint ∧ endpoint.Describes slot grants := by
  obtain ⟨receive, hreceive, hbytes, hcounted⟩ := h.exists_receive hsingle
  unfold toPeripheral
  rw [if_neg (by rw [hsingle]; exact Bool.false_ne_true), if_neg (fun hout => hout h.number), hreceive]
  refine ⟨_, rfl, h.describes hsingle rfl rfl rfl ?_ ?_ hcounted⟩
  · intro d
    cases d <;> rfl
  · intro d
    cases d with
    | toHost => exact h.map_transmit
    | toDevice => exact hbytes

theorem toPeripheral_of_doubleBuffered (hdouble : slot.doubleBuffered = true) :
    slot.toPeripheral = .error (.doubleBuffered slot.number) :=
  if_pos hdouble

end Slot

namespace Layout

variable {layout : Layout} {past : List Receipt} {peripheral : Peripheral}

/-! ## Slots of a run -/

/-- What a run of calls that place endpoints leaves is ready. -/
theorem ready_of_run {calls : List Call} (hcalls : ∀ call ∈ calls, call.Checked ∧ call.PlacesEndpoint)
    {slot : Slot} (hslot : slot ∈ (empty.run calls).slots) :
    slot.Ready ((empty.receipts calls).flatMap Receipt.grants) := by
  have htiled := run_tiled fun call hcall => (hcalls call hcall).1
  have howned := run_owned fun call hcall => Call.not_reserves (hcalls call hcall).2
  have hgranted := run_granted fun call hcall => (hcalls call hcall).2
  refine ⟨hgranted.numbers slot hslot, howned.paired slot hslot, ?_, ?_, ?_⟩
  · have hmem : slot.entry ∈ (empty.receipts calls).flatMap Receipt.entries := by
      rw [howned.entries]
      exact List.mem_map_of_mem hslot
    rw [htiled.table] at hmem
    obtain ⟨i, _, hentry⟩ := List.mem_map.mp hmem
    rw [← hentry]
  · intro buffer hbuffer
    exact htiled.even buffer (howned.buffers.mem_iff.mpr (List.mem_flatMap.mpr ⟨slot, hslot, hbuffer⟩))
  · intro d henabled hsingle
    have hholding := Slot.holdingFor_of_enabled hsingle henabled
    have hmem : ⟨slot.number, slot.type, d, false, (slot.half d).buffer.toList⟩ ∈ slot.holdings := by
      rw [Slot.mem_holdings_iff, hholding]
      exact List.mem_cons_self
    obtain ⟨grant, hgrant, hsame⟩ := hgranted.exists_grant hslot hmem
    have hdirection : grant.direction = d := congrArg Holding.direction hsame
    exact ⟨grant, hgrant, hsame, hdirection ▸ hgranted.sizes grant hgrant⟩

/-! ## Layouts -/

theorem slotsByNumber_perm (layout : Layout) : layout.slotsByNumber.Perm layout.slots :=
  List.mergeSort_perm _ _

theorem number_le_trans (a b c : Slot) (hab : decide (a.number ≤ b.number) = true)
    (hbc : decide (b.number ≤ c.number) = true) : decide (a.number ≤ c.number) = true := by
  simp only [decide_eq_true_eq] at *
  omega

theorem number_le_total (a b : Slot) : (decide (a.number ≤ b.number) || decide (b.number ≤ a.number)) = true := by
  simp only [Bool.or_eq_true, decide_eq_true_eq]
  omega

theorem slotsByNumber_sorted (layout : Layout) :
    layout.slotsByNumber.Pairwise fun a b => a.number ≤ b.number := by
  have hle := List.pairwise_mergeSort number_le_trans number_le_total layout.slots
  unfold slotsByNumber
  simpa only [decide_eq_true_eq] using hle

/-- Slots with numbers of their own are in strict order. -/
theorem slotsByNumber_ordered (h : (layout.slots.map Slot.number).Nodup) :
    (layout.slotsByNumber.map Slot.number).Pairwise (· < ·) := by
  have hnodup : (layout.slotsByNumber.map Slot.number).Nodup :=
    (layout.slotsByNumber_perm.map Slot.number).nodup_iff.mpr h
  -- Numbers that are sorted and distinct are in strict order.
  refine List.pairwise_map.mpr (layout.slotsByNumber_sorted.imp₂ ?_ (List.pairwise_map.mp hnodup))
  intro a b hle hne
  omega

/-- The setup of a layout is made of the setups of its slots. -/
theorem toPeripheral_eq_ok_iff : layout.toPeripheral = .ok peripheral
    ↔ List.Forall₂ (fun slot endpoint => slot.toPeripheral = .ok endpoint) layout.slotsByNumber
      peripheral.endpoints := by
  unfold toPeripheral
  rw [map_eq_ok_iff]
  constructor
  · rintro ⟨endpoints, hendpoints, rfl⟩
    exact mapM_eq_ok_iff.mp hendpoints
  · intro h
    exact ⟨peripheral.endpoints, mapM_eq_ok_iff.mpr h, rfl⟩

/-- A layout of which all slots are ready has a setup unless a slot is double-buffered, and then the error names
    such a slot. -/
theorem double_of_toPeripheral_eq_error {grants : List Grant} {e : Error}
    (hready : ∀ slot ∈ layout.slots, slot.Ready grants) (h : layout.toPeripheral = .error e) :
    ∃ slot ∈ layout.slots, slot.doubleBuffered = true ∧ e = .doubleBuffered slot.number := by
  obtain ⟨slot, hslot, herror⟩ := exists_of_mapM_eq_error (map_eq_error_iff.mp h)
  have hslot := layout.slotsByNumber_perm.mem_iff.mp hslot
  refine ⟨slot, hslot, ?_⟩
  by_cases hdouble : slot.doubleBuffered = true
  · rw [Slot.toPeripheral_of_doubleBuffered hdouble] at herror
    cases herror
    exact ⟨hdouble, rfl⟩
  · obtain ⟨endpoint, hok, _⟩ := Slot.exists_toPeripheral (hready slot hslot) (by simpa using hdouble)
    rw [hok] at herror
    cases herror

/-- A layout that has a setup has no double-buffered slot. -/
theorem single_of_toPeripheral_eq_ok (h : layout.toPeripheral = .ok peripheral) {slot : Slot}
    (hslot : slot ∈ layout.slots) : slot.doubleBuffered = false := by
  obtain ⟨endpoint, _, hok⟩ :=
    exists_of_forall₂ (toPeripheral_eq_ok_iff.mp h) (layout.slotsByNumber_perm.mem_iff.mpr hslot)
  cases hdouble : slot.doubleBuffered with
  | false => rfl
  | true =>
    rw [Slot.toPeripheral_of_doubleBuffered hdouble] at hok
    cases hok

/-- If the slots are ready, their setups describe them, in order. -/
theorem forall₂_describes {grants : List Grant} (hready : ∀ slot ∈ layout.slots, slot.Ready grants)
    (h : layout.toPeripheral = .ok peripheral) :
    List.Forall₂ (fun slot endpoint => slot ∈ layout.slots ∧ endpoint.Describes slot grants)
      layout.slotsByNumber peripheral.endpoints := by
  have hmem : ∀ slot ∈ layout.slotsByNumber, slot ∈ layout.slots :=
    fun slot hslot => layout.slotsByNumber_perm.mem_iff.mp hslot
  refine ((List.forall₂_and_left _ _).mpr ⟨hmem, toPeripheral_eq_ok_iff.mp h⟩).imp ?_
  rintro slot endpoint ⟨hslot, hok⟩
  obtain ⟨other, hother, hdescribes⟩ :=
    Slot.exists_toPeripheral (hready slot hslot) (single_of_toPeripheral_eq_ok h hslot)
  rw [hok] at hother
  cases hother
  exact ⟨hslot, hdescribes⟩

end Layout

namespace Peripheral

variable {peripheral : Peripheral} {layout : Layout} {slot : Slot} {endpoint : Endpoint} {grants : List Grant}

theorem Endpoint.Describes.map_buffer (h : endpoint.Describes slot grants) (d : Direction) :
    (endpoint.buffer d).map Buffer.region = (slot.half d).buffer := by
  cases hd : endpoint.enabled d with
  | false =>
    obtain ⟨hslot, hnone⟩ := h.unused d hd
    rw [hslot, hnone]
    rfl
  | true =>
    obtain ⟨buffer, hbuffer, hslot, _⟩ := h.used d hd
    rw [hslot, hbuffer]
    rfl

/-- An endpoint uses the bytes of its slot. -/
theorem Endpoint.Describes.regions_eq (h : endpoint.Describes slot grants) :
    endpoint.regions = slot.entry :: slot.buffers := by
  have htransmit : endpoint.transmitBuffer.map Buffer.region = slot.transmit.buffer := h.map_buffer .toHost
  have hreceive : endpoint.receiveBuffer.map Buffer.region = slot.receive.buffer := h.map_buffer .toDevice
  rw [regions, htransmit, hreceive, h.entry]
  rfl

/-- **From slots to layouts.** If the setups of the slots describe them, the setup of the layout describes it. -/
theorem describes_of_forall₂ (hdistinct : (layout.slots.map Slot.number).Nodup)
    (hdisjoint : (layout.slots.map Slot.entry ++ layout.slots.flatMap Slot.buffers).Pairwise Region.Disjoint)
    (hbounds : ∀ region ∈ layout.slots.map Slot.entry ++ layout.slots.flatMap Slot.buffers,
      0 ≤ region.address ∧ region.address + region.size ≤ 512)
    (h : List.Forall₂ (fun slot endpoint => slot ∈ layout.slots ∧ endpoint.Describes slot grants)
      layout.slotsByNumber peripheral.endpoints) :
    peripheral.Describes layout grants := by
  have hnumbers : layout.slotsByNumber.map Slot.number = peripheral.endpoints.map Endpoint.number :=
    map_eq_of_forall₂ h fun _ _ hpair => hpair.2.number.symm
  have hregions : layout.slotsByNumber.flatMap (fun slot => slot.entry :: slot.buffers)
      = peripheral.endpoints.flatMap Endpoint.regions :=
    flatMap_eq_of_forall₂ h fun _ _ hpair => hpair.2.regions_eq.symm
  have hordered := Layout.slotsByNumber_ordered hdistinct
  rw [hnumbers] at hordered
  have hnodup : (peripheral.endpoints.map Endpoint.number).Nodup :=
    hordered.imp (fun hlt => Int.ne_of_lt hlt)
  have hfind {slot endpoint} (hendpoint : endpoint ∈ peripheral.endpoints)
      (hdescribes : Endpoint.Describes endpoint slot grants) : peripheral.find slot.number = .ok endpoint := by
    have := find?_of_nodup_map hnodup hendpoint
    unfold find
    rw [← hdescribes.number, this]
  -- Endpoints use the regions of their slots, entries and buffers together and in another order.
  have hperm : (layout.slots.map Slot.entry ++ layout.slots.flatMap Slot.buffers).Perm
      (peripheral.endpoints.flatMap Endpoint.regions) := by
    rw [← hregions]
    exact (List.map_append_flatMap_perm _ _ _).trans (layout.slotsByNumber_perm.symm.flatMap_right _)
  refine ⟨?_, ?_, hordered, ?_, ?_⟩
  · intro slot hslot
    obtain ⟨endpoint, hendpoint, _, hdescribes⟩ :=
      exists_of_forall₂ h (layout.slotsByNumber_perm.mem_iff.mpr hslot)
    exact ⟨endpoint, hfind hendpoint hdescribes, hdescribes⟩
  · intro endpoint hendpoint
    obtain ⟨slot, _, hslot, hdescribes⟩ := exists_of_forall₂ h.flip hendpoint
    exact ⟨slot, hslot, hfind hendpoint hdescribes⟩
  · exact (hperm.pairwise_iff Region.Disjoint.symm).mp hdisjoint
  · intro region hregion
    exact hbounds region (hperm.mem_iff.mpr hregion)

end Peripheral

namespace Layout

/-! ## Runs -/

/-- A setup that a run has describes what the run left. -/
theorem describes_of_run {calls : List Call} (hcalls : ∀ call ∈ calls, call.Checked ∧ call.PlacesEndpoint)
    {peripheral : Peripheral} (h : (empty.run calls).toPeripheral = .ok peripheral) :
    peripheral.Describes (empty.run calls) ((empty.receipts calls).flatMap Receipt.grants) := by
  have htiled := run_tiled fun call hcall => (hcalls call hcall).1
  have howned := run_owned fun call hcall => Call.not_reserves (hcalls call hcall).2
  have hgranted := run_granted fun call hcall => (hcalls call hcall).2
  have hperm := howned.buffers.append_left ((empty.run calls).slots.map Slot.entry)
  rw [← howned.entries] at hperm
  refine Peripheral.describes_of_forall₂ hgranted.distinct ?_ ?_
    (forall₂_describes (fun slot hslot => ready_of_run hcalls hslot) h)
  · rw [← howned.entries]
    exact (hperm.pairwise_iff Region.Disjoint.symm).mp htiled.disjoint
  · rw [← howned.entries]
    intro region hregion
    exact htiled.bounds region (hperm.mem_iff.mpr hregion)

/-- **What the driver programs after a run.** There is a setup unless a slot is double-buffered, in which case
    the error says so. The setup describes the slots, and with them what each request was granted; no
    direction of an endpoint number is granted twice. -/
theorem run_toPeripheral {calls : List Call} (hcalls : ∀ call ∈ calls, call.Checked ∧ call.PlacesEndpoint) :
    let layout := empty.run calls
    let grants := (empty.receipts calls).flatMap Receipt.grants
    (grants.map fun grant => (grant.number, grant.direction)).Nodup
      ∧ ((∃ e, layout.toPeripheral = .error e) ↔ ∃ slot ∈ layout.slots, slot.doubleBuffered = true)
      ∧ (∀ e, layout.toPeripheral = .error e → e.kind = .doubleBuffering)
      ∧ ∀ peripheral, layout.toPeripheral = .ok peripheral → peripheral.Describes layout grants := by
  intro layout grants
  have hgranted : Granted layout (empty.receipts calls) := run_granted fun call hcall => (hcalls call hcall).2
  have hdouble {e : Error} (he : layout.toPeripheral = .error e) :
      ∃ slot ∈ layout.slots, slot.doubleBuffered = true ∧ e = .doubleBuffered slot.number :=
    double_of_toPeripheral_eq_error (fun slot hslot => ready_of_run hcalls hslot) he
  refine ⟨hgranted.nodup_grants, ⟨?_, ?_⟩, ?_, fun peripheral hok => describes_of_run hcalls hok⟩
  · rintro ⟨e, he⟩
    obtain ⟨slot, hslot, hdoubled, _⟩ := hdouble he
    exact ⟨slot, hslot, hdoubled⟩
  · rintro ⟨slot, hslot, hdoubled⟩
    cases hresult : layout.toPeripheral with
    | error e => exact ⟨e, rfl⟩
    | ok peripheral =>
      rw [single_of_toPeripheral_eq_ok hresult hslot] at hdoubled
      cases hdoubled
  · intro e he
    obtain ⟨slot, _, _, rfl⟩ := hdouble he
    rfl

/-- Endpoint 0 and two bulk endpoints whose packet sizes are no buffer sizes. -/
theorem run_toPeripheral_bulk :
    let calls := [.allocateControl 8,
      .allocate { direction := some 128, type := some 2, maxPacketSize := some 7 } false,
      .allocate { direction := some 0, type := some 2, maxPacketSize := some 63 } false]
    ∃ peripheral, (empty.run calls).toPeripheral = .ok peripheral
      ∧ peripheral.Describes (empty.run calls)
        [⟨⟨0, .control, .toHost, false, [⟨504, 8⟩]⟩, 8⟩, ⟨⟨0, .control, .toDevice, false, [⟨496, 8⟩]⟩, 8⟩,
          ⟨⟨1, .bulk, .toHost, false, [⟨488, 8⟩]⟩, 7⟩, ⟨⟨1, .bulk, .toDevice, false, [⟨424, 64⟩]⟩, 63⟩] := by
  intro calls
  have hcalls : ∀ call ∈ calls, call.Checked ∧ call.PlacesEndpoint := by
    simp only [calls, List.forall_mem_cons]
    exact ⟨⟨trivial, trivial⟩, ⟨Endpoint.Request.checked_open .toHost .bulk (by decide), trivial⟩,
      ⟨Endpoint.Request.checked_open .toDevice .bulk (by decide), trivial⟩, nofun⟩
  obtain ⟨_, hdouble, _, hdescribes⟩ := run_toPeripheral hcalls
  cases hresult : (empty.run calls).toPeripheral with
  | error e => exact absurd (hdouble.mp ⟨e, hresult⟩) (by decide)
  | ok peripheral => exact ⟨peripheral, rfl, hdescribes peripheral hresult⟩

end Layout

end UsbCompiler
