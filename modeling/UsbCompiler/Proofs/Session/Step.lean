import UsbCompiler.Device.Compiled

/-!
# `UsbCompiler.Proofs.Session.Step` — describing a device, step by step

A session describes one device with one packet memory. Device, interfaces and endpoints are described side by
side and in any order; what is fixed is the life of an endpoint, which is described, then placed in packet
memory once, then added to one interface, and which is left alone after that.

Steps that are refused and change nothing are not steps here, with one exception: an attempt to place an
endpoint that fails is one, since that it changes nothing is for a proof to say.

## Contents
- `Session.Stage` and `Session.Draft`: endpoints on their way.
- `Session`, `Session.Step` and `Session.Reachable`.
- `Session.Settled`: every endpoint that was placed has arrived.
-/

namespace UsbCompiler

namespace Session

/-- How far an endpoint has come. -/
inductive Stage where
  /-- It is being described. -/
  | described
  /-- It has its place in packet memory. -/
  | placed
  /-- It belongs to an interface. -/
  | added (handle : Interface.Handle)
deriving DecidableEq

theorem Stage.placed_ne_described : placed ≠ described := by decide

theorem Stage.added_ne_described (handle : Interface.Handle) : added handle ≠ described := by
  intro h
  cases h

theorem Stage.described_ne_added (handle : Interface.Handle) : described ≠ added handle := by
  intro h
  cases h

theorem Stage.placed_ne_added (handle : Interface.Handle) : placed ≠ added handle := by
  intro h
  cases h

/-- An endpoint on its way. -/
structure Draft where
  request : Endpoint.Request := {}
  stage : Stage := .described
deriving DecidableEq

end Session

/-- A device in the making. -/
structure Session where
  device : Device
  store : Interface.Store := .empty
  layout : Layout := .empty
  /-- The packet size that endpoint 0 was placed with. -/
  control : Option Int := none
  /-- The interfaces that the caller describes. -/
  handles : List Interface.Handle := []
  drafts : List Session.Draft := []

namespace Session

/-- **The steps of a session.** -/
inductive Step : Session → Session → Prop where
  /-- A property of the device. The packet size of endpoint 0 stays as it is once endpoint 0 is placed. -/
  | setDevice {session : Session} {setting : Device.Setting} {device : Device}
      (hset : session.device.set setting = .ok device)
      (hkeep : session.control ≠ none → ∀ size, setting ≠ .controlPacketSize size) :
      Step session { session with device }
  /-- Endpoint 0 is placed. -/
  | placeControl {session : Session} {layout : Layout}
      (hfirst : session.control = none)
      (hplace : session.device.allocateControl session.layout = .ok layout) :
      Step session { session with layout, control := some session.device.header.controlPacketSize }
  /-- An interface is begun under the next number of the device. -/
  | newInterface {session : Session} {handle : Interface.Handle} {device : Device} {store : Interface.Store}
      (hnew : session.device.newInterface session.store = (handle, device, store)) :
      Step session { session with device, store, handles := session.handles ++ [handle] }
  /-- An interface is begun under a number that the caller makes up. -/
  | makeInterface {session : Session} (number : Int) :
      Step session { session with
        store := session.store.add (.new number), handles := session.handles ++ [session.store.next] }
  /-- A property of an interface. -/
  | setInterface {session : Session} {handle : Interface.Handle} {setting : Interface.Setting}
      {interface : Interface} (hhandle : handle ∈ session.handles)
      (hset : (session.store.get handle).set setting = .ok interface) :
      Step session { session with store := session.store.put handle interface }
  /-- A descriptor of a class or a vendor. -/
  | addExtra {session : Session} {handle : Interface.Handle} {type : Int} {data : Bytes}
      {interface : Interface} (hhandle : handle ∈ session.handles)
      (hadd : (session.store.get handle).addExtra type data = .ok interface) :
      Step session { session with store := session.store.put handle interface }
  /-- The device adopts an interface. -/
  | save {session : Session} {handle : Interface.Handle} {device : Device}
      (hhandle : handle ∈ session.handles)
      (hadopt : session.device.adopt session.store handle = .ok device) :
      Step session { session with device }
  /-- An endpoint is begun. -/
  | newDraft {session : Session} :
      Step session { session with drafts := session.drafts ++ [⟨{}, .described⟩] }
  /-- A property of an endpoint that has not been placed. -/
  | setDraft {session : Session} {setting : Endpoint.Request.Setting} {request : Endpoint.Request}
      (position : Fin session.drafts.length)
      (hstage : (session.drafts.get position).stage = .described)
      (hset : (session.drafts.get position).request.set setting = .ok request) :
      Step session { session with drafts := session.drafts.set position ⟨request, .described⟩ }
  /-- An endpoint is placed, with one buffer. -/
  | place {session : Session} {layout : Layout} {request : Endpoint.Request}
      (position : Fin session.drafts.length)
      (hstage : (session.drafts.get position).stage = .described)
      (hplace : session.layout.allocate (session.drafts.get position).request false = .ok layout request) :
      Step session { session with layout, drafts := session.drafts.set position ⟨request, .placed⟩ }
  /-- An attempt to place an endpoint fails. -/
  | refuse {session : Session} {layout : Layout} {doubled : Bool} {error : Error}
      (position : Fin session.drafts.length)
      (hstage : (session.drafts.get position).stage = .described)
      (hplace : session.layout.allocate (session.drafts.get position).request doubled = .fail layout error) :
      Step session { session with layout }
  /-- An endpoint that has been placed is added to an interface. -/
  | addEndpoint {session : Session} {handle : Interface.Handle} {interface : Interface}
      (position : Fin session.drafts.length)
      (hstage : (session.drafts.get position).stage = .placed) (hhandle : handle ∈ session.handles)
      (hadd : (session.store.get handle).addEndpoint (.request (session.drafts.get position).request)
        = .ok interface) :
      Step session { session with
        store := session.store.put handle interface
        drafts := session.drafts.set position ⟨(session.drafts.get position).request, .added handle⟩ }

/-- The sessions that steps lead to from a new device. -/
inductive Reachable : Session → Prop where
  | start {vendor product : Int} {device : Device} (hnew : Device.new vendor product = .ok device) :
      Reachable { device }
  | step {session next : Session} : Reachable session → Step session next → Reachable next

/-- Whether an endpoint has arrived, if it was placed: it has been added to an interface that the device has
    adopted. -/
def Draft.Settled (interfaces : List Interface.Handle) (draft : Draft) : Prop :=
  match draft.stage with
  | .described => True
  | .placed => False
  | .added handle => handle ∈ interfaces

instance (interfaces : List Interface.Handle) (draft : Draft) : Decidable (draft.Settled interfaces) :=
  match h : draft.stage with
  | .described => isTrue (by simp only [Draft.Settled, h])
  | .placed => isFalse (by simp only [Draft.Settled, h, not_false_iff])
  | .added handle => decidable_of_iff (handle ∈ interfaces) (by simp only [Draft.Settled, h])

/-- **Settled sessions.** Endpoint 0 is placed, and every endpoint that was placed has arrived. -/
def Settled (session : Session) : Prop :=
  session.control ≠ none ∧ ∀ draft ∈ session.drafts, draft.Settled session.device.interfaces

instance (session : Session) : Decidable session.Settled := inferInstanceAs (Decidable (_ ∧ _))

end Session

end UsbCompiler
