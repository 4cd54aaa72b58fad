import UsbCompiler.Proofs.Endpoint.Checked
import UsbCompiler.Proofs.Lists
import UsbCompiler.Proofs.Runs

/-!
# `UsbCompiler.Proofs.Endpoint.Settings` — requests after any settings

A request is told its parts one by one, in any order, some of them again and some with values that are refused. A
setting gives a value to the part that it is about and to no other one, and one that is refused gives none. So a part
has the value of the last setting about it that was accepted, and a request has a descriptor once each part has one.
The descriptor then says no more and no less than the request.

## Contents
- `Request.part`, `Setting.given?` and `Setting.interval?`, with `Sets.part_eq` and `Sets.interval_eq`: one setting.
- `Request.run` and `accepted`: settings one after another, some of them refused.
- `lastGiven` and `lastInterval`, with `lastGiven_concat`, `lastInterval_concat` and `lastGiven_ne_none_iff`.
- `Request.Told`, `Told.set` and `run_told`: what a run of settings makes of an untouched request.
- `run_accepted_eq`: a run without its refused settings.
- `Address.make_eq_ok_iff`, `Descriptor.toRequest`, `describe_eq_ok_iff` and `InRange.exists_describe_iff`: requests
  that have a descriptor.
-/

namespace UsbCompiler.Endpoint

namespace Request

variable {request next : Request} {setting : Setting} {settings past : List Setting}

/-! ## One setting -/

/-- The value of a part, once it has one. -/
def part (request : Request) : RequestPart → Option Int
  | .number => request.number
  | .direction => request.direction
  | .type => request.type
  | .maxPacketSize => request.maxPacketSize

/-- The value that a setting gives to a part, if it is about this part. -/
def Setting.given? : Setting → RequestPart → Option Int
  | .number n, .number => some n
  | .direction code, .direction => some code
  | .type code, .type => some code
  | .maxPacketSize size, .maxPacketSize => some size
  | _, _ => none

/-- The interval that a setting gives. No descriptor waits for one. -/
def Setting.interval? : Setting → Option Int
  | .interval value => some value
  | _ => none

/-- **One setting.** The part that it is about gets its value, and the others keep theirs. -/
theorem Sets.part_eq (h : request.Sets setting next) (part : RequestPart) :
    next.part part = (setting.given? part).or (request.part part) := by
  cases h with
  | number hrange | direction d | type t | maxPacketSize hrange | interval hrange => cases part <;> rfl

theorem Sets.interval_eq (h : request.Sets setting next) :
    next.interval = setting.interval?.getD request.interval := by
  cases h with
  | number hrange | direction d | type t | maxPacketSize hrange | interval hrange => rfl

/-! ## Settings one after another -/

/-- A setting in a row of settings that goes on if it is refused. -/
def perform (request : Request) (setting : Setting) : Outcome Request Unit :=
  .ofExcept request (request.set setting)

/-- What settings one after another make of an untouched request. -/
def run (settings : List Setting) : Request := Outcome.run perform {} settings

/-- The settings of a run that were not refused. -/
def accepted (settings : List Setting) : List Setting := Outcome.accepted perform {} settings

/-- The value that settings give to a part last, if any of them does. -/
def lastGiven (settings : List Setting) (part : RequestPart) : Option Int :=
  (settings.filterMap (Setting.given? · part)).getLast?

/-- The interval that settings give last, or 0. -/
def lastInterval (settings : List Setting) : Int := (settings.filterMap Setting.interval?).getLastD 0

theorem lastGiven_concat (past : List Setting) (setting : Setting) (part : RequestPart) :
    lastGiven (past ++ [setting]) part = (setting.given? part).or (lastGiven past part) := by
  rw [lastGiven, filterMap_concat, List.getLast?_append, lastGiven]
  cases setting.given? part <;> rfl

theorem lastInterval_concat (past : List Setting) (setting : Setting) :
    lastInterval (past ++ [setting]) = setting.interval?.getD (lastInterval past) := by
  rw [lastInterval, filterMap_concat]
  cases setting.interval? with
  | none => rw [Option.toList_none, List.append_nil, Option.getD_none, lastInterval]
  | some interval => rw [Option.toList_some, List.getLastD_concat, Option.getD_some]

theorem lastGiven_ne_none_iff {part : RequestPart} :
    lastGiven settings part ≠ none ↔ ∃ setting ∈ settings, ∃ value, setting.given? part = some value := by
  rw [lastGiven, Ne, List.getLast?_eq_none_iff, List.filterMap_eq_nil_iff]
  simp only [not_forall, ← Option.ne_none_iff_exists', exists_prop, Ne]

/-- **Told requests.** All that is known of a request is what settings gave last. -/
structure Told (past : List Setting) (request : Request) : Prop where
  checked : request.Checked
  part : ∀ part, request.part part = lastGiven past part
  interval : request.interval = lastInterval past

theorem told_new : Told [] {} where
  checked := .new
  part := fun part => by cases part <;> rfl
  interval := rfl

theorem Told.set (h : Told past request) (hset : request.set setting = .ok next) : Told (past ++ [setting]) next := by
  have hsets := set_eq_ok_iff.mp hset
  refine ⟨.set h.checked hset, fun part => ?_, ?_⟩
  · rw [hsets.part_eq, h.part, lastGiven_concat]
  · rw [hsets.interval_eq, h.interval, lastInterval_concat]

/-- **All settings.** -/
theorem run_told (settings : List Setting) : Told (accepted settings) (run settings) :=
  Outcome.whole_induction told_new (fun _ _ _ _ htold hset => htold.set hset) settings

/-- The settings that were accepted make the same request alone. -/
theorem run_accepted_eq (settings : List Setting) : run (accepted settings) = run settings :=
  @Outcome.run_accepted_whole _ _ set {} settings

end Request

/-! ## Descriptors -/

/-- An address is made from its own parts and from no others. -/
theorem Address.make_eq_ok_iff {n code : Int} {address : Address} :
    make n code = .ok address ↔ n = address.number ∧ code = address.direction.code := by
  constructor
  · intro h
    unfold make at h
    split at h
    · next hrange =>
      split at h
      · next d hcode =>
        cases h
        exact ⟨(Int.toNat_of_nonneg hrange.1).symm, Direction.ofCode?_eq_some_iff.mp hcode⟩
      · cases h
    · cases h
  · rintro ⟨rfl, rfl⟩
    have hbound := address.number_lt
    unfold make
    rw [dif_pos (by omega)]
    simp only [Direction.ofCode?_code]
    rw [Except.ok.injEq, eq_iff]
    exact ⟨Int.toNat_natCast _, rfl⟩

/-- The request that asks for exactly this endpoint. -/
def Descriptor.toRequest (descriptor : Descriptor) : Request where
  number := some descriptor.address.number
  direction := some descriptor.address.direction.code
  type := some descriptor.attributes
  maxPacketSize := some descriptor.maxPacketSize
  interval := descriptor.interval

namespace Request

variable {request : Request} {descriptor : Descriptor}

/-- **Descriptors of requests.** A descriptor is the one of a request exactly if it says the same. -/
theorem describe_eq_ok_iff : request.describe = .ok descriptor ↔ request = descriptor.toRequest := by
  constructor
  · intro h
    obtain ⟨number, direction, type, maxPacketSize, interval⟩ := request
    unfold describe at h
    split at h
    · cases h
    · cases h
    · cases h
    · cases h
    · next n code bits size hnumber hdirection htype hsize =>
      obtain ⟨address, hmake, rfl⟩ := map_eq_ok_iff.mp h
      obtain ⟨rfl, rfl⟩ := Address.make_eq_ok_iff.mp hmake
      cases hnumber
      cases hdirection
      cases htype
      cases hsize
      rfl
  · rintro rfl
    exact map_eq_ok_iff.mpr ⟨descriptor.address, Address.make_eq_ok_iff.mpr ⟨rfl, rfl⟩, rfl⟩

/-- A request whose parts passed their checks has a descriptor exactly if none of them is missing. -/
theorem InRange.exists_describe_iff (h : request.InRange) :
    (∃ descriptor, request.describe = .ok descriptor) ↔ ∀ part, request.part part ≠ none := by
  constructor
  · rintro ⟨descriptor, hdescribe⟩ part
    rw [describe_eq_ok_iff.mp hdescribe]
    cases part <;> exact Option.some_ne_none _
  · intro hparts
    obtain ⟨number, direction, type, maxPacketSize, interval⟩ := request
    obtain ⟨n, rfl⟩ := Option.ne_none_iff_exists'.mp (hparts .number)
    obtain ⟨code, rfl⟩ := Option.ne_none_iff_exists'.mp (hparts .direction)
    obtain ⟨bits, rfl⟩ := Option.ne_none_iff_exists'.mp (hparts .type)
    obtain ⟨size, rfl⟩ := Option.ne_none_iff_exists'.mp (hparts .maxPacketSize)
    obtain ⟨d, rfl⟩ := h.direction code rfl
    obtain ⟨hnonneg, hbound⟩ := h.number n rfl
    refine ⟨⟨⟨n.toNat, d, by omega⟩, bits, size, interval⟩, describe_eq_ok_iff.mpr ?_⟩
    rw [Descriptor.toRequest, Int.toNat_of_nonneg hnonneg]

end Request

end UsbCompiler.Endpoint
