import Mathlib.Order.Bounds.Basic
import UsbCompiler.PacketMemory.ReceiveClass

/-!
# `UsbCompiler.Proofs.ReceiveClass` — rounding up to a receive buffer

Two regimes of rounding meet between 62 and 64 bytes. The two ways in which a packet size can get its class are
stated once; that classes are large enough, even and their own rounding follows from them by arithmetic.

## Contents
- `ReceiveClass.ofPacketSize_cases`: the class of a packet size, with the bounds of its regime.
- `le_size`, `size_emod_two`, `ofPacketSize_size`: what rounding does to sizes.
- `count_emod`, `count_lt`: which bits of the register are set.
- `Describable`, `describable_iff`: the sizes that some register value describes, and `exists_own_class_iff`: the
  sizes that rounding leaves alone are these.
- `Counts`, `counts_of_class`, `Counts.unique`: the one register value of such a size.
- `describable_iff_blocks`, `isLeast_size`, `size_mono`: no describable size lies between a packet size and its class.
- `Counts.bits`, `Counts.large_iff`: the bits of a register value.
- `ofPacketSize_tightest`: all of it about one packet size.
-/

namespace UsbCompiler.ReceiveClass

variable {packetSize : Int} {cls : ReceiveClass}

/-- A packet size gets blocks of 2 bytes up to 62 bytes and blocks of 32 bytes above, in both cases as few as
    hold it. -/
theorem ofPacketSize_cases (h : ofPacketSize packetSize = .ok cls) :
    (∃ n, n < 32 ∧ cls = small n ∧ 0 ≤ packetSize ∧ packetSize ≤ 2 * n ∧ 2 * n ≤ packetSize + 1)
      ∨ ∃ n, 2 ≤ n ∧ n ≤ 32 ∧ cls = large n ∧ 62 < packetSize ∧ packetSize ≤ 32 * n
          ∧ 32 * n ≤ packetSize + 31 := by
  unfold ofPacketSize at h
  split at h
  · cases h
  · split at h
    · cases h
      exact .inl ⟨_, by omega, rfl, by omega, by omega, by omega⟩
    · split at h
      · cases h
        exact .inr ⟨_, by omega, by omega, rfl, by omega, by omega, by omega⟩
      · cases h

theorem size_small (n : Nat) : (small n).size = 2 * n := rfl
theorem size_large (n : Nat) : (large n).size = 32 * n := rfl
theorem count_small (n : Nat) : (small n).count = 0x400 * n := rfl
theorem count_large (n : Nat) : (large n).count = 0x8000 + 0x400 * (n - 1) := rfl

theorem ofPacketSize_small {n : Nat} (h : n < 32) : ofPacketSize (2 * n : Nat) = .ok (small n) := by
  have hblocks : (((2 * n : Nat) : Int).toNat + 1) / 2 = n := by omega
  unfold ofPacketSize
  rw [if_neg (by omega), if_pos (by omega), hblocks]

theorem ofPacketSize_large {n : Nat} (hn : 2 ≤ n) (h : n ≤ 32) :
    ofPacketSize (32 * n : Nat) = .ok (large n) := by
  have hblocks : (((32 * n : Nat) : Int).toNat + 31) / 32 = n := by omega
  unfold ofPacketSize
  rw [if_neg (by omega), if_neg (by omega), if_pos (by omega), hblocks]

/-- A packet fits in the buffer of its class. -/
theorem le_size (h : ofPacketSize packetSize = .ok cls) : 0 ≤ packetSize ∧ packetSize ≤ cls.size := by
  rcases ofPacketSize_cases h with ⟨n, _, rfl, _, _, _⟩ | ⟨n, _, _, rfl, _, _, _⟩
  · rw [size_small]; omega
  · rw [size_large]; omega

theorem size_emod_two (h : ofPacketSize packetSize = .ok cls) : (cls.size : Int) % 2 = 0 := by
  rcases ofPacketSize_cases h with ⟨n, _, rfl, _⟩ | ⟨n, _, _, rfl, _⟩
  · rw [size_small]; omega
  · rw [size_large]; omega

/-- The size of a class rounds up to the same class: rounding a second time changes nothing. -/
theorem ofPacketSize_size (h : ofPacketSize packetSize = .ok cls) : ofPacketSize cls.size = .ok cls := by
  rcases ofPacketSize_cases h with ⟨n, hn, rfl, _⟩ | ⟨n, hn, hle, rfl, _⟩
  · exact ofPacketSize_small hn
  · exact ofPacketSize_large hn hle

/-- Nothing is set below bit 10 of the register. -/
theorem count_emod (h : ofPacketSize packetSize = .ok cls) : cls.count % 0x400 = 0 := by
  rcases ofPacketSize_cases h with ⟨n, _, rfl, _⟩ | ⟨n, _, _, rfl, _⟩
  · rw [count_small]; omega
  · rw [count_large]; omega

/-- Nothing is set above bit 15 of the register. -/
theorem count_lt (h : ofPacketSize packetSize = .ok cls) : cls.count < 0x10000 := by
  rcases ofPacketSize_cases h with ⟨n, _, rfl, _⟩ | ⟨n, _, _, rfl, _⟩
  · rw [count_small]; omega
  · rw [count_large]; omega

/-! ## Sizes that are left as they are -/

variable {size : Int} {count : Nat}

/-- **Describable sizes.** Even ones up to 62 bytes, and whole blocks of 32 bytes from 64 to 1024. -/
def Describable (size : Int) : Prop :=
  (0 ≤ size ∧ size ≤ 62 ∧ size % 2 = 0) ∨ (64 ≤ size ∧ size ≤ 1024 ∧ size % 32 = 0)

instance : DecidablePred Describable := fun _ => inferInstanceAs (Decidable (_ ∨ _))

/-- **The register value of a size.** The hardware reads the size from it, in small blocks exactly below 64
    bytes, and no bit is set outside of the two fields that it reads. -/
structure Counts (count : Nat) (size : Int) : Prop where
  described : (describedSize count : Int) = size
  small_iff : count / 0x8000 % 2 = 0 ↔ size < 64
  low : count % 0x400 = 0
  bound : count < 0x10000

/-- These are all the sizes that the hardware can read from the register. -/
theorem describable_iff : Describable size ↔ ∃ count, (describedSize count : Int) = size := by
  constructor
  · rintro (⟨hlow, hhigh, heven⟩ | ⟨hlow, hhigh, hblocks⟩)
    · refine ⟨(small (size.toNat / 2)).count, ?_⟩
      rw [describedSize_small (by omega), size_small]
      omega
    · refine ⟨(large (size.toNat / 32)).count, ?_⟩
      rw [describedSize_large (by omega) (by omega), size_large]
      omega
  · rintro ⟨count, rfl⟩
    unfold Describable describedSize blocks
    split <;> omega

/-- A size is its own class exactly if it is describable. -/
theorem exists_own_class_iff : (∃ cls, ofPacketSize size = .ok cls ∧ (cls.size : Int) = size) ↔ Describable size := by
  constructor
  · rintro ⟨cls, hcls, rfl⟩
    exact describable_iff.mpr ⟨cls.count, by rw [describedSize_ofPacketSize hcls]⟩
  · rintro (⟨hlow, hhigh, heven⟩ | ⟨hlow, hhigh, hblocks⟩)
    · have hsize : ((2 * (size.toNat / 2) : Nat) : Int) = size := by omega
      have hclass := ofPacketSize_small (n := size.toNat / 2) (by omega)
      rw [hsize] at hclass
      exact ⟨_, hclass, hsize⟩
    · have hsize : ((32 * (size.toNat / 32) : Nat) : Int) = size := by omega
      have hclass := ofPacketSize_large (n := size.toNat / 32) (by omega) (by omega)
      rw [hsize] at hclass
      exact ⟨_, hclass, hsize⟩

/-- The bits of a class are a register value of its size. -/
theorem counts_of_class (hcls : ofPacketSize packetSize = .ok cls) : Counts cls.count cls.size := by
  refine ⟨by rw [describedSize_ofPacketSize hcls], ?_, count_emod hcls, count_lt hcls⟩
  rcases ofPacketSize_cases hcls with ⟨n, hn, rfl, _⟩ | ⟨n, hn, hle, rfl, _⟩
  · rw [count_small, size_small]; omega
  · rw [count_large, size_large]; omega

/-- A size has one register value at most: the regime gives bit 15, and the size gives the number of blocks. -/
theorem Counts.unique {other : Nat} (h : Counts count size) (hother : Counts other size) : count = other := by
  obtain ⟨hsize, hsmall, hlow, hbound⟩ := h
  obtain ⟨hsize', hsmall', hlow', hbound'⟩ := hother
  unfold describedSize blocks at hsize hsize'
  by_cases hregime : size < 64
  · have hclear := hsmall.mpr hregime
    have hclear' := hsmall'.mpr hregime
    rw [if_neg (by omega)] at hsize hsize'
    omega
  · have hset : ¬count / 0x8000 % 2 = 0 := fun hclear => hregime (hsmall.mp hclear)
    have hset' : ¬other / 0x8000 % 2 = 0 := fun hclear => hregime (hsmall'.mp hclear)
    rw [if_pos (by omega)] at hsize hsize'
    omega

/-! ## The tightest class -/

/-- A class comes from every packet size up to the largest one. -/
theorem exists_ofPacketSize_iff :
    (∃ cls, ofPacketSize packetSize = .ok cls) ↔ 0 ≤ packetSize ∧ packetSize ≤ 1024 := by
  unfold ofPacketSize
  constructor
  · rintro ⟨cls, hcls⟩
    split at hcls
    · cases hcls
    · split at hcls
      · omega
      · split at hcls
        · omega
        · cases hcls
  · rintro ⟨hlow, hhigh⟩
    rw [if_neg (by omega), if_pos hhigh]
    split
    · exact ⟨_, rfl⟩
    · exact ⟨_, rfl⟩

/-- Describable sizes are those of up to 31 small blocks and those of 1 to 32 large ones. -/
theorem describable_iff_blocks :
    Describable size ↔ ∃ blocks : Nat, blocks < 32 ∧ (size = 2 * blocks ∨ size = 32 * (blocks + 1)) := by
  unfold Describable
  constructor
  · rintro (⟨hlow, hhigh, heven⟩ | ⟨hlow, hhigh, hblocks⟩)
    · exact ⟨(size / 2).toNat, by omega, .inl (by omega)⟩
    · exact ⟨(size / 32 - 1).toNat, by omega, .inr (by omega)⟩
  · rintro ⟨blocks, hblocks, rfl | rfl⟩
    · omega
    · omega

/-- No describable size that holds a packet is below the size of its class. -/
theorem isLeast_size (hcls : ofPacketSize packetSize = .ok cls) :
    IsLeast {size | packetSize ≤ size ∧ Describable size} (cls.size : Int) := by
  refine ⟨⟨(le_size hcls).2, exists_own_class_iff.mp ⟨cls, ofPacketSize_size hcls, rfl⟩⟩, ?_⟩
  rintro size ⟨hholds, hdescribable⟩
  unfold Describable at hdescribable
  rcases ofPacketSize_cases hcls with ⟨n, _, rfl, _, _, _⟩ | ⟨n, _, _, rfl, _, _, _⟩
  · rw [size_small]; omega
  · -- Behind 62 bytes, only whole large blocks are left to choose from.
    rw [size_large]; omega

/-- Larger packets get no smaller class: there are fewer sizes that hold them. -/
theorem size_mono {larger : Int} {other : ReceiveClass} (hle : packetSize ≤ larger)
    (hcls : ofPacketSize packetSize = .ok cls) (hother : ofPacketSize larger = .ok other) : cls.size ≤ other.size := by
  have hsizes : (cls.size : Int) ≤ other.size :=
    (isLeast_size hother).mono (isLeast_size hcls) fun _ h => ⟨hle.trans h.1, h.2⟩
  omega

/-- The bits of a register value lie in the two fields. -/
theorem Counts.bits (h : Counts count size) {i : Nat} (hbit : count.testBit i = true) : 10 ≤ i ∧ i ≤ 15 := by
  obtain ⟨_, _, hlow, hbound⟩ := h
  constructor
  · by_contra hsmall
    have hshifted : count = 2 ^ 10 * (count / 2 ^ 10) := by omega
    rw [hshifted, Nat.testBit_two_pow_mul, decide_eq_false hsmall, Bool.false_and] at hbit
    cases hbit
  · by_contra hlarge
    have hpower : 2 ^ 16 ≤ 2 ^ i := Nat.pow_le_pow_right (by decide) (by omega)
    rw [Nat.testBit_lt_two_pow (Nat.lt_of_lt_of_le hbound hpower)] at hbit
    cases hbit

/-- Bit 15 tells the large blocks. -/
theorem Counts.large_iff (h : Counts count size) : count.testBit 15 = true ↔ 64 ≤ size := by
  have hsmall := h.small_iff
  rw [Nat.testBit_eq_decide_div_mod_eq, decide_eq_true_eq]
  omega

/-- **The tightest class.** Packet sizes from 0 to 1024 have a class, and no others do. Its size is the least that holds
    the packet among all that the register can describe, in 0 to 31 small blocks or in 1 to 32 large ones. The register
    reads as exactly this size, in large blocks from 64 bytes on, and has no other bits. The size is its own class, and
    larger packets never get a smaller one. -/
theorem ofPacketSize_tightest (packetSize : Int) :
    ((∃ cls, ofPacketSize packetSize = .ok cls) ↔ 0 ≤ packetSize ∧ packetSize ≤ 1024)
      ∧ ∀ cls, ofPacketSize packetSize = .ok cls →
        IsLeast {size | packetSize ≤ size
            ∧ ∃ blocks : Nat, blocks < 32 ∧ (size = 2 * blocks ∨ size = 32 * (blocks + 1))} (cls.size : Int)
          ∧ describedSize cls.count = cls.size
          ∧ (∀ i, cls.count.testBit i = true → 10 ≤ i ∧ i ≤ 15)
          ∧ (cls.count.testBit 15 = true ↔ 64 ≤ cls.size)
          ∧ ofPacketSize cls.size = .ok cls
          ∧ ∀ larger other, packetSize ≤ larger → ofPacketSize larger = .ok other → cls.size ≤ other.size := by
  refine ⟨exists_ofPacketSize_iff, fun cls hcls => ?_⟩
  have hcounts := counts_of_class hcls
  refine ⟨?_, describedSize_ofPacketSize hcls, fun i hbit => hcounts.bits hbit, ?_, ofPacketSize_size hcls, ?_⟩
  · have hleast := isLeast_size hcls
    simp only [describable_iff_blocks] at hleast
    exact hleast
  · exact hcounts.large_iff.trans Int.ofNat_le
  · intro larger other hle hother
    exact size_mono hle hcls hother

/-- Between the two regimes: 63 bytes are too many for small blocks and get two large ones. -/
theorem ofPacketSize_tightest_between :
    ofPacketSize 63 = .ok ⟨64, 0x8400⟩
      ∧ (∀ size, Describable size → 63 ≤ size → 64 ≤ size)
      ∧ ofPacketSize 64 = .ok ⟨64, 0x8400⟩
      ∧ ∀ larger other, 63 ≤ larger → ofPacketSize larger = .ok other → 64 ≤ other.size := by
  have hcls : ofPacketSize 63 = .ok ⟨64, 0x8400⟩ := by decide
  obtain ⟨hleast, _, _, _, hown, hmono⟩ := (ofPacketSize_tightest 63).2 _ hcls
  refine ⟨hcls, fun size hsize hle => ?_, hown, hmono⟩
  exact hleast.2 ⟨hle, describable_iff_blocks.mp hsize⟩

end UsbCompiler.ReceiveClass
