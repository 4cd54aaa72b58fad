import UsbCompiler.PacketMemory.Layout
import UsbCompiler.Proofs.Endpoint.Checked
import UsbCompiler.Proofs.Runs

/-!
# `UsbCompiler.Proofs.Layout.Run` — calls on a layout, and what they hand out

A run is a list of calls, refused ones included, each starting from the layout that the one before it left. Next
to the layouts, a run has a history: for each call the receipt of what it handed out to its caller. Receipts
are read off the values that a call returns or stores in a slot, never off the ends of the free memory, so that
what they say about memory is a fact and not a definition.

## Contents
- `Layout.Call`, `Layout.Answer` and `Layout.perform`: single calls.
- `Layout.Holding`, `Layout.Grant`, `Layout.Receipt` and `Layout.receipt`: what a call handed out.
- `Layout.run` and `Layout.receipts`: runs and their histories, with `run_concat`, `run_append`
  and `receipts_concat`.
- `Layout.results` and `Layout.Accepts`: what the calls of a run return, and runs without refused calls.
- `Layout.run_induction`: what each call keeps, a run keeps.
-/

namespace UsbCompiler

/-- The buffers that a slot holds. -/
def Slot.buffers (slot : Slot) : List Region := slot.transmit.buffer.toList ++ slot.receive.buffer.toList

namespace Layout

/-! ## Calls -/

/-- A call on a layout. -/
inductive Call where
  /-- Places an endpoint, with two buffers if it is to be double-buffered. -/
  | allocate (request : Endpoint.Request) (doubled : Bool)
  /-- Places endpoint 0. -/
  | allocateControl (packetSize : Int)
  /-- Adds a slot without buffers. -/
  | addSlot (type : TransferType) (number : Option Int)
  /-- Reserves a table entry that belongs to no slot. -/
  | takeEntry
  /-- Reserves a buffer that belongs to no slot. -/
  | takeBuffer (size : Int)
deriving DecidableEq

namespace Call

/-- Calls whose requests were described setting by setting and whose sizes are not negative. -/
def Checked : Call → Prop
  | allocate request _ => request.Checked
  | takeBuffer size => 0 ≤ size
  | allocateControl _ | addSlot _ _ | takeEntry => True

/-- Calls that place endpoints. -/
def PlacesEndpoint : Call → Prop
  | allocate _ _ | allocateControl _ => True
  | addSlot _ _ | takeEntry | takeBuffer _ => False

/-- Calls that reserve memory which belongs to no slot. -/
def Reserves : Call → Prop
  | takeEntry | takeBuffer _ => True
  | allocate _ _ | allocateControl _ | addSlot _ _ => False

/-- Calls that ask for no second buffer. -/
def Single : Call → Prop
  | allocate _ doubled => doubled = false
  | allocateControl _ | addSlot _ _ | takeEntry | takeBuffer _ => True

theorem not_reserves {call : Call} (h : call.PlacesEndpoint) : ¬call.Reserves := by
  cases call with
  | allocate _ _ | allocateControl _ => exact id
  | addSlot _ _ | takeEntry | takeBuffer _ => exact absurd h id

end Call

/-- What a call returns. -/
inductive Answer where
  | request (request : Endpoint.Request)
  | slot (slot : Slot)
  | region (region : Region)

/-- The outcome of an operation that changes nothing when it is refused. -/
def attempt {α : Type} (layout : Layout) (answer : α → Answer) :
    Except Error (α × Layout) → Outcome Layout Answer
  | .ok (value, after) => .ok after (answer value)
  | .error error => .fail layout error

/-- The outcome of a call. -/
def perform (layout : Layout) : Call → Outcome Layout Answer
  | .allocate request doubled =>
    let outcome := layout.allocate request doubled
    ⟨outcome.state, outcome.result.map .request⟩
  | .allocateControl packetSize => layout.attempt .slot (layout.allocateControl packetSize)
  | .addSlot type number => layout.attempt .slot (layout.addSlot type number)
  | .takeEntry => layout.attempt .region layout.takeEntry
  | .takeBuffer size => layout.attempt .region (layout.takeBuffer size)

/-! ## Receipts -/

/-- A direction of an endpoint number, with the buffers that serve it: one, or two if it is double-buffered. -/
structure Holding where
  number : Int
  type : TransferType
  direction : Direction
  doubled : Bool
  buffers : List Region
deriving DecidableEq

/-- What an accepted request for an endpoint was given, and for which packet size. -/
structure Grant extends Holding where
  packetSize : Int
deriving DecidableEq

/-- What a call handed out: table entries and buffers in the order in which they were reserved, and the
    endpoints that were placed. -/
structure Receipt where
  entries : List Region := []
  buffers : List Region := []
  grants : List Grant := []
deriving DecidableEq

/-- The receipt of a slot for endpoint 0, both of whose directions have one packet size. -/
def controlReceipt (slot : Slot) (packetSize : Int) : Receipt where
  entries := [slot.entry]
  buffers := slot.buffers
  grants := [⟨⟨0, slot.type, .toHost, false, slot.transmit.buffer.toList⟩, packetSize⟩,
    ⟨⟨0, slot.type, .toDevice, false, slot.receive.buffer.toList⟩, packetSize⟩]

/-- The receipt of a request. An endpoint that was placed has the buffers that its slot now holds for it, and an
    entry if the slot is new. It is only granted if the request was accepted in the end. -/
def requestReceipt (layout : Layout) (request : Endpoint.Request) (doubled : Bool) : Receipt :=
  match Demand.ofRequest request doubled with
  | .error _ => {}
  | .ok demand =>
    match layout.place demand with
    | .error _ => {}
    | .ok (slot, after) =>
      let buffers := if doubled then slot.buffers else (slot.half demand.direction).buffer.toList
      { entries := if layout.slots.length < after.slots.length then [slot.entry] else []
        buffers
        grants :=
          match (layout.allocate request doubled).result with
          | .error _ => []
          | .ok answered =>
            match answered.number, answered.maxPacketSize with
            | some number, some packetSize =>
              [⟨⟨number, slot.type, demand.direction, doubled, buffers⟩, packetSize⟩]
            | _, _ => [] }

/-- The receipt of a call. -/
def receipt (layout : Layout) : Call → Receipt
  | .allocate request doubled => layout.requestReceipt request doubled
  | .allocateControl packetSize =>
    match layout.allocateControl packetSize with
    | .error _ => {}
    | .ok (slot, _) => controlReceipt slot packetSize
  | .addSlot type number =>
    match layout.addSlot type number with
    | .error _ => {}
    | .ok (slot, _) => { entries := [slot.entry] }
  | .takeEntry =>
    match layout.takeEntry with
    | .error _ => {}
    | .ok (region, _) => { entries := [region] }
  | .takeBuffer size =>
    match layout.takeBuffer size with
    | .error _ => {}
    | .ok (region, _) => { buffers := [region] }

/-! ## Runs -/

/-- The layout after a run of calls. -/
def run (layout : Layout) : List Call → Layout
  | [] => layout
  | call :: calls => (layout.perform call).state.run calls

/-- The receipts of a run, one for each call, in order. -/
def receipts (layout : Layout) : List Call → List Receipt
  | [] => []
  | call :: calls => layout.receipt call :: (layout.perform call).state.receipts calls

theorem run_concat (layout : Layout) (calls : List Call) (call : Call) :
    layout.run (calls ++ [call]) = ((layout.run calls).perform call).state := by
  induction calls generalizing layout with
  | nil => rfl
  | cons first rest ih => exact ih (layout.perform first).state

theorem run_append (layout : Layout) (earlier later : List Call) :
    layout.run (earlier ++ later) = (layout.run earlier).run later := by
  induction earlier generalizing layout with
  | nil => rfl
  | cons first rest ih => exact ih (layout.perform first).state

theorem receipts_concat (layout : Layout) (calls : List Call) (call : Call) :
    layout.receipts (calls ++ [call]) = layout.receipts calls ++ [(layout.run calls).receipt call] := by
  induction calls generalizing layout with
  | nil => rfl
  | cons first rest ih => exact congrArg (layout.receipt first :: ·) (ih (layout.perform first).state)

/-- The results of a run, one for each call, in order. -/
def results (layout : Layout) (calls : List Call) : List (Except Error Answer) :=
  Outcome.results perform layout calls

theorem results_cons (layout : Layout) (call : Call) (calls : List Call) :
    layout.results (call :: calls) = (layout.perform call).result :: (layout.perform call).state.results calls := rfl

/-- Whether every call of a run is accepted. -/
def Accepts (layout : Layout) (calls : List Call) : Prop := ∀ result ∈ layout.results calls, result.isOk = true

instance (layout : Layout) (calls : List Call) : Decidable (layout.Accepts calls) :=
  inferInstanceAs (Decidable (∀ result ∈ layout.results calls, _))

theorem accepts_nil (layout : Layout) : layout.Accepts [] := List.forall_mem_nil _

theorem accepts_cons {layout : Layout} {call : Call} {calls : List Call} :
    layout.Accepts (call :: calls)
      ↔ (layout.perform call).result.isOk = true ∧ (layout.perform call).state.Accepts calls :=
  List.forall_mem_cons

/-- **Induction over runs.** What holds of a layout and the receipts so far, and is kept by each call of a kind,
    holds after every run of such calls. -/
theorem run_induction (Inv : Layout → List Receipt → Prop) (Allowed : Call → Prop)
    (hstep : ∀ layout past call, Allowed call → Inv layout past →
      Inv (layout.perform call).state (past ++ [layout.receipt call]))
    {calls : List Call} (hcalls : ∀ call ∈ calls, Allowed call) {layout : Layout} (past : List Receipt)
    (h : Inv layout past) : Inv (layout.run calls) (past ++ layout.receipts calls) := by
  induction calls generalizing layout past with
  | nil =>
    rw [receipts, List.append_nil]
    exact h
  | cons call calls ih =>
    obtain ⟨hcall, hrest⟩ := List.forall_mem_cons.mp hcalls
    have hnext := ih hrest (past ++ [layout.receipt call]) (hstep layout past call hcall h)
    rw [List.append_assoc, List.singleton_append] at hnext
    exact hnext

end Layout

end UsbCompiler
