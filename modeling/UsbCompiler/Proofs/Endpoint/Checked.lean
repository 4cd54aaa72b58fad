import UsbCompiler.Endpoint.Request
import UsbCompiler.Proofs.Results

/-!
# `UsbCompiler.Proofs.Endpoint.Checked` — requests that were described setting by setting

A request that a caller puts together from an untouched one can only hold what the checks of its settings let
through. Everything later on that needs a number, a code or a packet size to make sense starts from here.

## Contents
- `Request.Sets` and `set_eq_ok_iff`: all that a setting can do.
- `Request.Checked` and `checked_open`: the requests that accepted settings lead to.
- `Request.InRange` and `Checked.inRange`: each part lies in the range of its setting.
-/

namespace UsbCompiler.Endpoint.Request

/-- **Settings that are taken.** Each gives one part of a request a value, after the check that it has to pass. -/
inductive Sets (request : Request) : Setting → Request → Prop where
  | number {n : Int} (hrange : 0 ≤ n ∧ n < 16) : Sets request (.number n) { request with number := some n }
  | direction (d : Direction) : Sets request (.direction d.code) { request with direction := some d.code }
  | type (t : TransferType) : Sets request (.type t.code) { request with type := some t.code }
  | maxPacketSize {size : Int} (hrange : 0 ≤ size ∧ size ≤ 1024) :
      Sets request (.maxPacketSize size) { request with maxPacketSize := some size }
  | interval {interval : Int} (hrange : 0 ≤ interval ∧ interval < 0x100) :
      Sets request (.interval interval) { request with interval }

theorem set_eq_ok_iff {request next : Request} {setting : Setting} :
    request.set setting = .ok next ↔ request.Sets setting next := by
  constructor
  · intro h
    cases setting with
    | number n | maxPacketSize size =>
      simp only [set] at h
      split at h
      · next hrange =>
        cases h
        constructor
        exact hrange
      · cases h
    | direction code =>
      simp only [set] at h
      split at h
      · next d hcode =>
        cases h
        rw [Direction.ofCode?_eq_some_iff.mp hcode]
        exact .direction d
      · cases h
    | type code =>
      simp only [set] at h
      split at h
      · next t hcode =>
        cases h
        rw [TransferType.ofCode?_eq_some_iff.mp hcode]
        exact .type t
      · cases h
    | interval interval =>
      obtain ⟨_, hcheck, rfl⟩ := map_eq_ok_iff.mp h
      obtain ⟨hrange, rfl⟩ := ByteSetting.check_eq_ok_iff.mp hcheck
      exact .interval hrange
  · intro h
    cases h with
    | number hrange | maxPacketSize hrange => exact if_pos hrange
    | direction d => simp only [set, Direction.ofCode?_code]
    | type t => simp only [set, TransferType.ofCode?_code]
    | interval hrange => exact map_eq_ok_iff.mpr ⟨_, ByteSetting.check_eq_ok_iff.mpr ⟨hrange, rfl⟩, rfl⟩

/-- **Checked requests.** What accepted settings make of an untouched request, in any order and number. A
    refused setting leaves a request as it is. -/
inductive Checked : Request → Prop where
  | new : Checked {}
  | set {request next : Request} {setting : Setting} :
      Checked request → request.set setting = .ok next → Checked next

/-- A request that has been given all but a number. -/
theorem checked_open (d : Direction) (t : TransferType) {size : Int} (hsize : 0 ≤ size ∧ size ≤ 1024) :
    Checked { direction := some d.code, type := some t.code, maxPacketSize := some size } := by
  have hdirection : Checked { direction := some d.code } := .set .new (set_eq_ok_iff.mpr (.direction d))
  have htype : Checked { direction := some d.code, type := some t.code } :=
    .set hdirection (set_eq_ok_iff.mpr (.type t))
  exact .set htype (set_eq_ok_iff.mpr (.maxPacketSize hsize))

/-- Every part that is there lies in the range of its setting. -/
structure InRange (request : Request) : Prop where
  number : ∀ n, request.number = some n → 0 ≤ n ∧ n < 16
  direction : ∀ code, request.direction = some code → ∃ d : Direction, code = d.code
  type : ∀ code, request.type = some code → ∃ t : TransferType, code = t.code
  maxPacketSize : ∀ size, request.maxPacketSize = some size → 0 ≤ size ∧ size ≤ 1024
  interval : 0 ≤ request.interval ∧ request.interval < 0x100

theorem inRange_new : InRange {} :=
  ⟨by simp, by simp, by simp, by simp, by decide⟩

/-- A number is stored exactly if it is one of 0 to 15. -/
theorem set_number_eq_ok_iff {request next : Request} {n : Int} :
    request.set (.number n) = .ok next
      ↔ (0 ≤ n ∧ n < 16) ∧ next = { request with number := some n } := by
  rw [set_eq_ok_iff]
  constructor
  · rintro ⟨hrange⟩
    exact ⟨hrange, rfl⟩
  · rintro ⟨hrange, rfl⟩
    exact .number hrange

/-- An accepted setting keeps every part in its range. -/
theorem inRange_set {request next : Request} {setting : Setting} (hr : request.InRange)
    (hset : request.set setting = .ok next) : next.InRange := by
  cases set_eq_ok_iff.mp hset with
  | number hrange =>
    refine { hr with number := ?_ }
    intro m hm
    cases hm
    exact hrange
  | direction d => exact { hr with direction := fun c hc => ⟨d, (Option.some.inj hc).symm⟩ }
  | type t => exact { hr with type := fun c hc => ⟨t, (Option.some.inj hc).symm⟩ }
  | maxPacketSize hrange =>
    refine { hr with maxPacketSize := ?_ }
    intro m hm
    cases hm
    exact hrange
  | interval hrange => exact { hr with interval := hrange }

theorem Checked.inRange {request : Request} (h : request.Checked) : request.InRange := by
  induction h with
  | new => exact inRange_new
  | set _ hset ih => exact inRange_set ih hset

end UsbCompiler.Endpoint.Request
