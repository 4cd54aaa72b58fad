import UsbCompiler.Endpoint.Descriptor

/-!
# `UsbCompiler.Endpoint.Request` — an endpoint that is being described

A request collects the properties of an endpoint one by one. The number may stay open, for packet memory to
choose one.

## Contents
- `Endpoint.Request` and its `Setting`s; `Request.set` checks a setting and stores it.
- `Request.describe`: the descriptor of a complete request.
- `Endpoint.Source` and `Source.describe`: the ways in which a caller can name an endpoint.
- `Request.display`: a request in messages.
-/

namespace UsbCompiler

namespace Endpoint

/-! ## Requests and their settings -/

/-- The properties of an endpoint as far as they are known. Direction and type are kept as codes, which are
    looked up when they are used: a request that was not made by `set` can hold codes that mean nothing. -/
structure Request where
  number : Option Int := none
  direction : Option Int := none
  type : Option Int := none
  maxPacketSize : Option Int := none
  interval : Int := 0
deriving DecidableEq

namespace Request

/-- One property and its value. -/
inductive Setting where
  | number (number : Int)
  | direction (code : Int)
  | type (code : Int)
  | maxPacketSize (size : Int)
  | interval (interval : Int)
deriving DecidableEq

/-- Stores a property after checking its value. -/
def set (request : Request) : Setting → Except Error Request
  | .number number =>
    if 0 ≤ number ∧ number < 16 then .ok { request with number := some number }
    else .error (.endpointNumberRange number)
  | .direction code =>
    match Direction.ofCode? code with
    | some direction => .ok { request with direction := some direction.code }
    | none => .error (.unknownDirection code)
  | .type code =>
    match TransferType.ofCode? code with
    | some type => .ok { request with type := some type.code }
    | none => .error (.unknownTransferType code)
  | .maxPacketSize size =>
    if 0 ≤ size ∧ size ≤ 1024 then .ok { request with maxPacketSize := some size }
    else .error (.maxPacketSizeRange size)
  | .interval interval =>
    (ByteSetting.interval.check interval).map fun interval => { request with interval }

/-- The descriptor of a complete request. Parts are looked for in the order of the record, and only then are
    the number and the direction checked. The type is written as it is. -/
def describe (request : Request) : Except Error Descriptor :=
  match request.number, request.direction, request.type, request.maxPacketSize with
  | none, _, _, _ => .error (.incompleteDescriptor .number)
  | some _, none, _, _ => .error (.incompleteDescriptor .direction)
  | some _, some _, none, _ => .error (.incompleteDescriptor .type)
  | some _, some _, some _, none => .error (.incompleteDescriptor .maxPacketSize)
  | some number, some direction, some type, some maxPacketSize =>
    (Address.make number direction).map fun address =>
      { address, attributes := type, maxPacketSize, interval := request.interval }

/-! ## Requests in messages -/

/-- A number that may be open. -/
def displayNumber : Option Int → String
  | none => "None"
  | some n => toString n

/-- A code with its name, or the bare number if it is no code. -/
def displayDirection : Option Int → String
  | none => "None"
  | some code =>
    match Direction.ofCode? code with
    | some direction => "<Direction." ++ direction.name ++ s!": {code}>"
    | none => toString code

/-- A code with its name, or the bare number if it is no code. -/
def displayType : Option Int → String
  | none => "None"
  | some code =>
    match TransferType.ofCode? code with
    | some type => "<EndpointType." ++ type.name ++ s!": {code}>"
    | none => toString code

/-- A request in messages. -/
def display (request : Request) : String :=
  "EndpointBuilder(EndpointSpec(number=" ++ displayNumber request.number
    ++ ", direction=" ++ displayDirection request.direction
    ++ ", ep_type=" ++ displayType request.type
    ++ ", max_packet_size=" ++ displayNumber request.maxPacketSize
    ++ ", interval=" ++ toString request.interval ++ "))"

end Request

/-! ## Sources of endpoints -/

/-- What a caller can give where an endpoint is needed. -/
inductive Source where
  /-- A finished descriptor. -/
  | descriptor (descriptor : Descriptor)
  /-- A request, whose descriptor is made when it is needed. -/
  | request (request : Request)
  /-- A number, which is never an endpoint. -/
  | number (number : Int)
deriving DecidableEq

/-- The descriptor of what a caller gave. -/
def Source.describe : Source → Except Error Descriptor
  | .descriptor finished => .ok finished
  | .request pending => pending.describe
  | .number _ => .error .notAnEndpoint

end Endpoint

end UsbCompiler
