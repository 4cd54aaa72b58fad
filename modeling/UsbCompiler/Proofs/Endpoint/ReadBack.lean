import UsbCompiler.Proofs.Descriptor.Room
import UsbCompiler.Proofs.Endpoint.Settings

/-!
# `UsbCompiler.Proofs.Endpoint.ReadBack` — from settings to bytes and back

On the wire an endpoint is seven bytes, and its parts are found again by masking bits. Each part was checked on its own
when it was set, against a range of integers, long before anything was packed; these ranges are just those that the
bits can hold. So whatever settings a request has been through, its bytes tell what was accepted last.

## Contents
- `Address.bits` and `TransferType.bits`: the parts lie in separate bits.
- `Request.ofBytes?`: seven bytes as a request, with `ofBytes?_bytes_record`.
- `InRange.fits` and `InRange.exists_type`: the descriptor of a request whose parts passed their checks.
- `Request.run_reads_back`: settings, written and read back.
-/

namespace UsbCompiler

/-! ## Bits -/

/-- The number of an endpoint is in the four low bits of its address and the direction in bit 7. All other bits are
    zero. -/
theorem Endpoint.Address.bits (address : Address) :
    UInt8.ofNat address.value.toNat &&& 0x70 = 0
      ∧ ((UInt8.ofNat address.value.toNat &&& 0x0F).toNat : Int) = address.number
      ∧ ((UInt8.ofNat address.value.toNat &&& 0x80).toNat : Int) = address.direction.code := by
  obtain ⟨n, d, hn⟩ := address
  revert n
  cases d with
  | toDevice => decide
  | toHost => decide

/-- The type of an endpoint is in the two low bits of its attributes. -/
theorem TransferType.bits (t : TransferType) :
    UInt8.ofNat t.code.toNat &&& 0xFC = 0 ∧ ((UInt8.ofNat t.code.toNat &&& 0x03).toNat : Int) = t.code := by
  cases t <;> decide

namespace Endpoint

namespace Request

variable {request : Request} {descriptor : Descriptor} {settings : List Setting}

/-- **Seven bytes as a request**, if they are an endpoint descriptor with no bits set beyond those that a request can
    ask for. -/
def ofBytes? : Bytes → Option Request
  | [length, type, address, attributes, low, high, interval] =>
    if (length = 7 ∧ type = 5) ∧ address &&& 0x70 = 0 ∧ attributes &&& 0xFC = 0 then
      some {
        number := some (address &&& 0x0F).toNat
        direction := some (address &&& 0x80).toNat
        type := some (attributes &&& 0x03).toNat
        maxPacketSize := some (low.toNat + 0x100 * high.toNat : Nat)
        interval := interval.toNat }
    else none
  | _ => none

/-- The bytes of a descriptor with nothing but a type in its attributes tell the request back. -/
theorem ofBytes?_bytes_record (hfits : ∀ field ∈ descriptor.fields, field.Fits) {t : TransferType}
    (htype : descriptor.attributes = t.code) : ofBytes? descriptor.record.bytes = some descriptor.toRequest := by
  obtain ⟨address, attributes, size, interval⟩ := descriptor
  obtain ⟨_, hinterval, hsize⟩ := Descriptor.fits_iff.mp hfits
  have htype : attributes = t.code := htype
  subst htype
  obtain ⟨hreserved, hnumber, hdirection⟩ := address.bits
  obtain ⟨hother, hbits⟩ := t.bits
  have hbytes : (Descriptor.record ⟨address, t.code, size, interval⟩).bytes
      = [7, 5, UInt8.ofNat address.value.toNat, UInt8.ofNat t.code.toNat, UInt8.ofNat (size.toNat % 0x100),
        UInt8.ofNat (size.toNat / 0x100), UInt8.ofNat interval.toNat] := rfl
  have hword : (((UInt8.ofNat (size.toNat % 0x100)).toNat
      + 0x100 * (UInt8.ofNat (size.toNat / 0x100)).toNat : Nat) : Int) = size := by
    rw [UInt8.toNat_ofNat', UInt8.toNat_ofNat']
    simp only at hsize
    omega
  have hbyte : ((UInt8.ofNat interval.toNat).toNat : Int) = interval := by
    rw [UInt8.toNat_ofNat']
    simp only at hinterval
    omega
  rw [hbytes, ofBytes?, if_pos ⟨⟨rfl, rfl⟩, hreserved, hother⟩, hnumber, hdirection, hbits, hword, hbyte]
  rfl

/-! ## Descriptors of checked requests -/

/-- What passed the checks of the settings fits in the fields of the descriptor. -/
theorem InRange.fits (h : request.InRange) (hdescribe : request.describe = .ok descriptor) :
    ∀ field ∈ descriptor.fields, field.Fits := by
  cases describe_eq_ok_iff.mp hdescribe
  obtain ⟨t, ht⟩ := h.type descriptor.attributes rfl
  have hsize := h.maxPacketSize descriptor.maxPacketSize rfl
  have hinterval : 0 ≤ descriptor.interval ∧ descriptor.interval < 0x100 := h.interval
  have hcode : 0 ≤ t.code ∧ t.code ≤ 255 := by cases t <;> decide
  exact Descriptor.fits_iff.mpr ⟨ht ▸ hcode, by omega, by omega⟩

theorem InRange.exists_type (h : request.InRange) (hdescribe : request.describe = .ok descriptor) :
    ∃ t : TransferType, descriptor.attributes = t.code := by
  cases describe_eq_ok_iff.mp hdescribe
  exact h.type descriptor.attributes rfl

/-- **Written and read back.** Where there is room, a request with a descriptor becomes seven bytes at the end that tell
    it back. -/
theorem InRange.exists_written (h : request.InRange) (hdescribe : request.describe = .ok descriptor)
    {stream : Stream} (hroom : stream.HasRoom) :
    ∃ next, (stream.writeEndpoint descriptor).commit = .ok next ∧ next.size = stream.size + 7
      ∧ ofBytes? (next.bytes.drop stream.size) = some request := by
  have hfits := h.fits hdescribe
  obtain ⟨t, ht⟩ := h.exists_type hdescribe
  obtain ⟨place, count, _, _, hwrite⟩ := hroom.exists_writeEndpoint hfits
  refine ⟨_, hwrite, ?_, ?_⟩
  · rw [Stream.size, List.length_append, List.length_set]
    rfl
  · have hend : (stream.bytes.set place (count + 1) ++ descriptor.record.bytes).drop stream.size
        = descriptor.record.bytes := by
      rw [Stream.size, ← List.length_set, List.drop_left]
    rw [hend, ofBytes?_bytes_record hfits ht, describe_eq_ok_iff.mp hdescribe]

/-! ## Any settings -/

/-- **Settings read back.** Whatever settings a request has been through, some of them refused: its parts and its
    interval are what was accepted last, and the refused settings changed nothing. It has a descriptor exactly if each
    part was accepted at least once. In an interface that tells of fewer than 255 endpoints, as it does when fewer
    have been written since it began, this descriptor is always written, and the seven bytes that are added tell the
    request back. -/
theorem run_reads_back (settings : List Setting) :
    let request := run settings
    let taken := accepted settings
    ((∀ part, request.part part = lastGiven taken part) ∧ request.interval = lastInterval taken)
      ∧ ((∀ earlier setting e, (perform earlier setting).result = .error e → (perform earlier setting).state = earlier)
        ∧ run taken = request)
      ∧ ((∃ descriptor, request.describe = .ok descriptor)
        ↔ ∀ part, ∃ setting ∈ taken, ∃ value, setting.given? part = some value)
      ∧ ∀ descriptor, request.describe = .ok descriptor → ∀ stream : Stream,
        (stream.HasRoom ∨ ∃ n, stream.InInterface n ∧ n < 255) →
          ∃ next, (stream.writeEndpoint descriptor).commit = .ok next ∧ next.size = stream.size + 7
            ∧ ofBytes? (next.bytes.drop stream.size) = some request := by
  intro request taken
  have htold := run_told settings
  have hrange := htold.checked.inRange
  refine ⟨⟨htold.part, htold.interval⟩, ⟨?_, run_accepted_eq settings⟩, ?_, ?_⟩
  · intro earlier setting e herror
    exact Outcome.state_ofExcept_of_error herror
  · rw [hrange.exists_describe_iff]
    refine forall_congr' fun part => ?_
    rw [htold.part, lastGiven_ne_none_iff]
  · intro descriptor hdescribe stream hstream
    have hroom : stream.HasRoom := by
      rcases hstream with hroom | ⟨n, hinside, hn⟩
      · exact hroom
      · exact hinside.hasRoom hn
    exact hrange.exists_written hdescribe hroom

/-- Settings out of range in between, negative ones among them, and others that are made twice, in an interface whose
    first endpoint was refused when it had been counted. -/
theorem run_reads_back_mixed :
    let settings : List Setting := [.number (-1), .direction 128, .type 4, .number 3, .maxPacketSize 1025,
      .maxPacketSize 64, .type 2, .interval 256, .direction 1, .number 9, .number 16, .maxPacketSize 1024, .interval 7,
      .number (-8), .interval (-1), .direction (-128)]
    ∃ (descriptor : Descriptor) (stream next : Stream), (run settings).describe = .ok descriptor ∧ stream.InInterface 2
      ∧ (stream.writeEndpoint descriptor).commit = .ok next ∧ next.size = stream.size + 7
      ∧ ofBytes? (next.bytes.drop stream.size) = some {
        number := some 9, direction := some 128, type := some 2, maxPacketSize := some 1024, interval := 7 } := by
  intro settings
  let descriptor : Descriptor := ⟨⟨9, .toHost, by decide⟩, 2, 1024, 7⟩
  have hdescribe : (run settings).describe = .ok descriptor := by decide
  let earlier : List Stream.Call := [.languages [], .configuration {} .empty]
  obtain ⟨begun, hbegun⟩ :
      ∃ begun, ((Outcome.run Stream.attempt .empty earlier).beginInterface {} .empty).commit = .ok begun :=
    exists_ok_of_isOk (by decide +kernel)
  have hinside := (((Stream.InInterface.begun hbegun).endpoint { descriptor with attributes := 256 }).other
    (show (Stream.Call.record 0x24 [1, 2]).rank = 0 from rfl)).endpoint descriptor
  obtain ⟨next, hwrite, hsize, hbytes⟩ :=
    (run_reads_back settings).2.2.2 descriptor hdescribe _ (.inr ⟨2, hinside, by decide⟩)
  refine ⟨descriptor, _, next, hdescribe, hinside, hwrite, hsize, ?_⟩
  rw [hbytes]
  decide

end Request

end Endpoint

end UsbCompiler
