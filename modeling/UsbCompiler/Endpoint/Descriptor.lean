import UsbCompiler.Error
import UsbCompiler.Wire

/-!
# `UsbCompiler.Endpoint.Descriptor` — what the host is told about an endpoint

An endpoint address has the endpoint number in its four low bits and the direction in bit 7. The other bits
are zero. A descriptor has an address and three numbers.

## Contents
- `Endpoint.Address` with its packed `value`; `ofValue` unpacks a number, `make` packs a number with the code of
  a direction.
- `Address.ofValue_eq_ok_iff`: unpacking accepts exactly the packed addresses.
- `Endpoint.Descriptor`, its transfer `type` and its `fields` on the wire.
- `Descriptor.control`: the descriptors of endpoint 0, which never reach the wire.
-/

namespace UsbCompiler.Endpoint

/-! ## Addresses -/

/-- The address of an endpoint. -/
structure Address where
  number : Nat
  direction : Direction
  number_lt : number < 16
deriving DecidableEq

namespace Address

/-- The packed address. -/
def value (address : Address) : Int := address.number + address.direction.code

/-- The address that a number packs. -/
def ofValue (value : Int) : Except Error Address :=
  if low : 0 ≤ value ∧ value < 16 then .ok ⟨value.toNat, .toDevice, by omega⟩
  else if high : 128 ≤ value ∧ value < 144 then .ok ⟨(value - 128).toNat, .toHost, by omega⟩
  else .error (.invalidAddress value)

/-- The address with a number and the direction of a code. The number is looked at first. -/
def make (number directionCode : Int) : Except Error Address :=
  if range : 0 ≤ number ∧ number < 16 then
    match Direction.ofCode? directionCode with
    | some direction => .ok ⟨number.toNat, direction, by omega⟩
    | none => .error (.unknownDirection directionCode)
  else .error (.endpointNumberRange number)

/-- An address in messages. -/
def display (address : Address) : String :=
  "EndpointAddress(0x" ++ Hex.upper 2 address.value ++ ")"

/-- The value of an address to the device is its number, that of one to the host is higher by 128. -/
theorem value_eq (address : Address) :
    address.value = address.number ∧ address.direction = .toDevice
      ∨ address.value = address.number + 128 ∧ address.direction = .toHost := by
  obtain ⟨number, direction, bound⟩ := address
  cases direction
  · exact .inl ⟨Int.add_zero _, rfl⟩
  · exact .inr ⟨rfl, rfl⟩

theorem eq_iff {a b : Address} : a = b ↔ a.number = b.number ∧ a.direction = b.direction := by
  constructor
  · rintro rfl
    exact ⟨rfl, rfl⟩
  · obtain ⟨number, direction, bound⟩ := a
    rintro ⟨rfl, rfl⟩
    rfl

/-- A number unpacks to an address exactly if the address packs to the number. -/
theorem ofValue_eq_ok_iff {v : Int} {address : Address} : ofValue v = .ok address ↔ v = address.value := by
  have packed := address.value_eq
  have bound := address.number_lt
  unfold ofValue
  split
  · next low =>
    rw [Except.ok.injEq, eq_iff]
    constructor
    · rintro ⟨number, direction⟩
      have number : v.toNat = address.number := number
      simp only [← direction, reduceCtorEq, and_false, or_false, and_true] at packed
      omega
    · rintro rfl
      rcases packed with ⟨value, direction⟩ | ⟨value, direction⟩
      · exact ⟨by simp only; omega, direction.symm⟩
      · omega
  · next notLow =>
    split
    · next high =>
      rw [Except.ok.injEq, eq_iff]
      constructor
      · rintro ⟨number, direction⟩
        have number : (v - 128).toNat = address.number := number
        simp only [← direction, reduceCtorEq, and_false, false_or, and_true] at packed
        omega
      · rintro rfl
        rcases packed with ⟨value, direction⟩ | ⟨value, direction⟩
        · omega
        · exact ⟨by simp only; omega, direction.symm⟩
    · next notHigh =>
      constructor
      · exact nofun
      · rintro rfl
        omega

theorem ofValue_value (address : Address) : ofValue address.value = .ok address :=
  ofValue_eq_ok_iff.mpr rfl

end Address

/-! ## Descriptors -/

/-- The description of one endpoint. Only the address is known to be valid; the numbers are what a caller gave
    and may be too wide for their fields. -/
structure Descriptor where
  address : Address
  attributes : Int := 0
  maxPacketSize : Int := 0
  interval : Int := 0
deriving DecidableEq

namespace Descriptor

/-- The transfer type, in the two lowest bits of the attributes. -/
def type (descriptor : Descriptor) : TransferType := .ofBits descriptor.attributes

/-- The payload of the descriptor. -/
def fields (descriptor : Descriptor) : List Field :=
  [.byte descriptor.address.value, .byte descriptor.attributes, .word descriptor.maxPacketSize,
    .byte descriptor.interval]

/-- One half of endpoint 0. -/
def control (direction : Direction) (maxPacketSize : Int) : Descriptor :=
  { address := ⟨0, direction, by decide⟩, attributes := TransferType.control.code, maxPacketSize }

end Descriptor

end UsbCompiler.Endpoint
