import UsbCompiler.Descriptor.Header
import UsbCompiler.Endpoint.Request

/-!
# `UsbCompiler.Interface` — interfaces that are being described

An interface is described step by step, and others can hold on to it meanwhile: a device refers to its
interfaces, so that a change made after an interface has joined the device still counts. Interfaces therefore
have an identity, a handle, and their contents are kept in a store.

## Contents
- `Interface`, its `Setting`s, and `Interface.set`, `addExtra` and `addEndpoint`.
- `Interface.Handle` and `Interface.Store`, with `get`, `put` and `add`.
- `Interface.Store.get_add` and its companions: what a store holds after a change.
-/

namespace UsbCompiler

/-- The contents of an interface. -/
structure Interface where
  header : InterfaceHeader
  /-- Descriptors between the one of the interface and those of its endpoints. -/
  extras : List ExtraDescriptor := []
  endpoints : List Endpoint.Descriptor := []
deriving DecidableEq

namespace Interface

/-- An interface of which only the number is known. -/
def new (number : Int) : Interface := { header := { number } }

/-- The number of an interface. -/
def number (interface : Interface) : Int := interface.header.number

/-- One property and its value. -/
inductive Setting where
  | alternateSetting (value : Int)
  | classCode (value : Int)
  | subClass (value : Int)
  | protocol (value : Int)
  | string (source : StringSource)
deriving DecidableEq

/-- Stores a property after checking its value. -/
def set (interface : Interface) : Setting → Except Error Interface
  | .alternateSetting value => (ByteSetting.alternateSetting.check value).map fun alternateSetting =>
    { interface with header := { interface.header with alternateSetting } }
  | .classCode value => (ByteSetting.interfaceClass.check value).map fun classCode =>
    { interface with header := { interface.header with classCode } }
  | .subClass value => (ByteSetting.interfaceSubClass.check value).map fun subClass =>
    { interface with header := { interface.header with subClass } }
  | .protocol value => (ByteSetting.interfaceProtocol.check value).map fun protocol =>
    { interface with header := { interface.header with protocol } }
  | .string source => .ok { interface with header := { interface.header with string := source } }

/-- Adds a descriptor of a class or a vendor behind those that are there. -/
def addExtra (interface : Interface) (type : Int) (data : Bytes) : Except Error Interface :=
  (ByteSetting.descriptorType.check type).map fun type =>
    { interface with extras := interface.extras ++ [{ type, data }] }

/-- Adds an endpoint behind those that are there. -/
def addEndpoint (interface : Interface) (source : Endpoint.Source) : Except Error Interface :=
  source.describe.map fun endpoint => { interface with endpoints := interface.endpoints ++ [endpoint] }

/-- No setting changes the number. -/
theorem number_of_set {interface next : Interface} {setting : Setting} (h : interface.set setting = .ok next) :
    next.number = interface.number := by
  cases setting with
  | alternateSetting value | classCode value | subClass value | protocol value =>
    simp only [set, ByteSetting.check] at h
    split at h
    · cases h
      rfl
    · cases h
  | string source =>
    cases h
    rfl

/-! ## Handles and stores -/

/-- The identity of an interface in a store. -/
structure Handle where
  index : Nat
deriving DecidableEq

/-- The contents of all interfaces, in the order in which they were added. -/
structure Store where
  contents : List Interface
deriving DecidableEq

namespace Store

/-- A store without interfaces. -/
def empty : Store := ⟨[]⟩

/-- The contents of an interface. A handle that was never given out stands for an untouched interface 0. -/
def get (store : Store) (handle : Handle) : Interface :=
  store.contents.getD handle.index (.new 0)

/-- Replaces the contents of an interface. -/
def put (store : Store) (handle : Handle) (interface : Interface) : Store :=
  ⟨store.contents.set handle.index interface⟩

/-- The handle that the next interface gets. -/
def next (store : Store) : Handle := ⟨store.contents.length⟩

/-- Adds an interface under the next handle. -/
def add (store : Store) (interface : Interface) : Store :=
  ⟨store.contents ++ [interface]⟩

/-- Whether a handle has been given out. -/
def Knows (store : Store) (handle : Handle) : Prop := handle.index < store.contents.length

/-- A new interface is found under its handle. -/
@[simp] theorem get_add_next (store : Store) (interface : Interface) :
    (store.add interface).get store.next = interface := by
  simp only [get, add, next, List.getD_eq_getElem?_getD, List.getElem?_concat_length, Option.getD_some]

/-- A new interface changes no other. -/
theorem get_add {store : Store} {handle : Handle} (known : store.Knows handle) (interface : Interface) :
    (store.add interface).get handle = store.get handle := by
  simp only [get, add, List.getD_eq_getElem?_getD, List.getElem?_append_left known]

/-- Replaced contents are found again. -/
theorem get_put_self {store : Store} {handle : Handle} (known : store.Knows handle) (interface : Interface) :
    (store.put handle interface).get handle = interface := by
  simp only [get, put, List.getD_eq_getElem?_getD, List.getElem?_set_self known, Option.getD_some]

/-- Replacing contents changes no other interface. -/
theorem get_put_of_ne {store : Store} {handle other : Handle} (ne : other ≠ handle) (interface : Interface) :
    (store.put handle interface).get other = store.get other := by
  have index : handle.index ≠ other.index := fun same => ne (by cases handle; cases other; cases same; rfl)
  simp only [get, put, List.getD_eq_getElem?_getD, List.getElem?_set_ne index]

end Store

end Interface

end UsbCompiler
