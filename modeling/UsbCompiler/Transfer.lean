/-!
# `UsbCompiler.Transfer` — directions and transfer types

The two one-of-a-few choices that every endpoint makes, with the codes by which descriptors and callers
spell them and the names by which messages do.

## Contents
- `Direction`, with `code`, `ofCode?` and `name`.
- `TransferType`, with `code`, `ofCode?`, `ofBits` and `name`.
- `ofCode?_eq_some_iff` for both: reading a code accepts exactly the written codes; `code_inj`: no two have one.
-/

namespace UsbCompiler

/-! ## Directions -/

/-- The way that the data of an endpoint travels. Names of directions take the host's side: what leaves the
    host is `OUT`. -/
inductive Direction where
  /-- Host to device (`OUT`), served by the receive half of a hardware endpoint. -/
  | toDevice
  /-- Device to host (`IN`), served by the transmit half of a hardware endpoint. -/
  | toHost
deriving DecidableEq

namespace Direction

/-- A direction as bit 7 of an endpoint address. -/
def code : Direction → Int
  | toDevice => 0
  | toHost => 128

/-- The name of a direction in messages. -/
def name : Direction → String
  | toDevice => "OUT"
  | toHost => "IN"

/-- The direction with a code, if the code has one. -/
def ofCode? (code : Int) : Option Direction :=
  if code = 0 then some toDevice else if code = 128 then some toHost else none

theorem ofCode?_code (d : Direction) : ofCode? d.code = some d := by
  cases d <;> rfl

/-- Every direction has one code, and no other number is a code. -/
theorem ofCode?_eq_some_iff {c : Int} {d : Direction} : ofCode? c = some d ↔ c = d.code := by
  constructor
  · intro h
    unfold ofCode? at h
    split at h
    · cases h; assumption
    · split at h
      · cases h; assumption
      · cases h
  · rintro rfl
    exact ofCode?_code d

theorem code_inj {d e : Direction} : d.code = e.code ↔ d = e := by
  rw [← ofCode?_eq_some_iff, ofCode?_code, Option.some.injEq]

end Direction

/-! ## Transfer types -/

/-- The four kinds of transfer that an endpoint can serve. -/
inductive TransferType where
  | control
  | isochronous
  | bulk
  | interrupt
deriving DecidableEq

namespace TransferType

/-- A transfer type as the two lowest bits of the attributes of an endpoint. -/
def code : TransferType → Int
  | control => 0
  | isochronous => 1
  | bulk => 2
  | interrupt => 3

/-- The name of a transfer type in messages. -/
def name : TransferType → String
  | control => "CONTROL"
  | isochronous => "ISOCHRONOUS"
  | bulk => "BULK"
  | interrupt => "INTERRUPT"

/-- The transfer type with a code, if the code has one. -/
def ofCode? (code : Int) : Option TransferType :=
  if code = 0 then some control
  else if code = 1 then some isochronous
  else if code = 2 then some bulk
  else if code = 3 then some interrupt
  else none

theorem ofCode?_code (t : TransferType) : ofCode? t.code = some t := by
  cases t <;> rfl

/-- Every transfer type has one code, and no other number is a code. -/
theorem ofCode?_eq_some_iff {c : Int} {t : TransferType} : ofCode? c = some t ↔ c = t.code := by
  constructor
  · intro h
    unfold ofCode? at h
    repeat' split at h
    all_goals cases h
    all_goals assumption
  · rintro rfl
    exact ofCode?_code t

theorem code_inj {t u : TransferType} : t.code = u.code ↔ t = u := by
  rw [← ofCode?_eq_some_iff, ofCode?_code, Option.some.injEq]

/-- The transfer type that the two lowest bits of a number name, whatever the other bits are. -/
def ofBits (attributes : Int) : TransferType :=
  if attributes % 4 = 0 then control
  else if attributes % 4 = 1 then isochronous
  else if attributes % 4 = 2 then bulk
  else interrupt

theorem ofBits_code (t : TransferType) : ofBits t.code = t := by
  cases t <;> rfl

end TransferType

end UsbCompiler
