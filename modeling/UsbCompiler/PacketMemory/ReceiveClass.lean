import UsbCompiler.Error

/-!
# `UsbCompiler.PacketMemory.ReceiveClass` — sizes that the receive count register can describe

The hardware knows the size of a receive buffer from its receive count register: bits 14 to 10 hold a number of
blocks, and bit 15 says whether a block has 2 bytes or 32. With small blocks the register holds their number,
with large ones their number less one. A packet size is therefore rounded up to the next size that the register
can describe.

## Contents
- `ReceiveClass` and `ReceiveClass.ofPacketSize`: rounding up.
- `blocks` and `describedSize`: what the hardware reads from a register value.
- `describedSize_ofPacketSize`: rounding and describing agree.
-/

namespace UsbCompiler

/-- A size of receive buffers, with the bits of the receive count register that describe it. -/
structure ReceiveClass where
  /-- The size in bytes. -/
  size : Nat
  /-- The bits of the register. -/
  count : Nat
deriving DecidableEq

namespace ReceiveClass

/-- The class of buffers of some blocks of 2 bytes. -/
def small (blocks : Nat) : ReceiveClass := ⟨2 * blocks, 0x400 * blocks⟩

/-- The class of buffers of some blocks of 32 bytes, at least one. -/
def large (blocks : Nat) : ReceiveClass := ⟨32 * blocks, 0x8000 + 0x400 * (blocks - 1)⟩

/-- The smallest class whose buffers hold packets of a size: small blocks up to 62 bytes, large ones up to
    1024. -/
def ofPacketSize (packetSize : Int) : Except Error ReceiveClass :=
  if packetSize < 0 then .error (.negativePacketSize packetSize)
  else if packetSize ≤ 62 then .ok (small ((packetSize.toNat + 1) / 2))
  else if packetSize ≤ 1024 then .ok (large ((packetSize.toNat + 31) / 32))
  else .error (.packetSizeTooBig packetSize)

/-- The number of blocks in a receive count register. -/
def blocks (count : Nat) : Nat := count / 0x400 % 32

/-- The size in bytes that the hardware reads from a receive count register. -/
def describedSize (count : Nat) : Nat :=
  if count / 0x8000 % 2 = 1 then 32 * (blocks count + 1) else 2 * blocks count

theorem describedSize_small {n : Nat} (h : n < 32) : describedSize (small n).count = (small n).size := by
  have count : (small n).count = 0x400 * n := rfl
  have size : (small n).size = 2 * n := rfl
  unfold describedSize blocks
  split <;> omega

theorem describedSize_large {n : Nat} (positive : 0 < n) (h : n ≤ 32) :
    describedSize (large n).count = (large n).size := by
  have count : (large n).count = 0x8000 + 0x400 * (n - 1) := rfl
  have size : (large n).size = 32 * n := rfl
  unfold describedSize blocks
  split <;> omega

/-- The register describes the size that a packet size is rounded up to. -/
theorem describedSize_ofPacketSize {packetSize : Int} {cls : ReceiveClass}
    (h : ofPacketSize packetSize = .ok cls) : describedSize cls.count = cls.size := by
  unfold ofPacketSize at h
  split at h
  · cases h
  · split at h
    · cases h
      exact describedSize_small (by omega)
    · split at h
      · cases h
        exact describedSize_large (by omega) (by omega)
      · cases h

end ReceiveClass

end UsbCompiler
