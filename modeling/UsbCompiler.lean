import UsbCompiler.Descriptor.Header
import UsbCompiler.Descriptor.Stream
import UsbCompiler.Device
import UsbCompiler.Device.Compiled
import UsbCompiler.Endpoint.Descriptor
import UsbCompiler.Endpoint.Request
import UsbCompiler.Error
import UsbCompiler.Interface
import UsbCompiler.PacketMemory
import UsbCompiler.PacketMemory.Demand
import UsbCompiler.PacketMemory.Layout
import UsbCompiler.PacketMemory.ReceiveClass
import UsbCompiler.PacketMemory.Slot
import UsbCompiler.Peripheral
import UsbCompiler.Proofs.Endpoint.Checked
import UsbCompiler.Proofs.Endpoint.Settings
import UsbCompiler.Proofs.Results
import UsbCompiler.Release
import UsbCompiler.SerialFunction
import UsbCompiler.StringPool
import UsbCompiler.Text
import UsbCompiler.Text.Pattern
import UsbCompiler.Text.Quoted
import UsbCompiler.Transfer
import UsbCompiler.Wire
import UsbCompiler.Proofs.Layout.Placement
import UsbCompiler.Proofs.Layout.Effect
import UsbCompiler.Proofs.Layout.Tiling
import UsbCompiler.Proofs.Layout.Ownership
import UsbCompiler.Proofs.Layout.Grants
import UsbCompiler.Proofs.Peripheral
import UsbCompiler.Proofs.Session.Step
import UsbCompiler.Proofs.Session.Frame
import UsbCompiler.Proofs.Session.Placed
import UsbCompiler.Proofs.Session.Linked
import UsbCompiler.Proofs.Session.Agreement
import UsbCompiler.Proofs.Descriptor.Records
import UsbCompiler.Proofs.Descriptor.Writing
import UsbCompiler.Proofs.Descriptor.Configuration
import UsbCompiler.Proofs.Layout.Slots
import UsbCompiler.Proofs.StringPool
import UsbCompiler.Proofs.Descriptor.Pieces
import UsbCompiler.Proofs.Descriptor.Steps
import UsbCompiler.Proofs.Descriptor.Run
import UsbCompiler.Proofs.Descriptor.Standalone
import UsbCompiler.Proofs.Descriptor.Described
import UsbCompiler.Proofs.Strings
import UsbCompiler.Proofs.Descriptor.Consistent
import UsbCompiler.Proofs.Workshop.Checked
import UsbCompiler.Proofs.Workshop.Compilable
import UsbCompiler.Proofs.Runs
import UsbCompiler.Proofs.Layout.Refused
import UsbCompiler.Proofs.Layout.Wishes
import UsbCompiler.Proofs.Layout.Balance
import UsbCompiler.Proofs.Layout.Pinned
import UsbCompiler.Proofs.Layout.Kept
import UsbCompiler.Proofs.Layout.Seats
import UsbCompiler.Proofs.Bench.Call
import UsbCompiler.Proofs.Bench.Tidy
import UsbCompiler.Proofs.Descriptor.Blocks
import UsbCompiler.Proofs.Bench.Places
import UsbCompiler.Proofs.Bench.Alternate
import UsbCompiler.Proofs.Bench.Foreign
import UsbCompiler.Proofs.SerialFunction
import UsbCompiler.Proofs.Bench.Job
import UsbCompiler.Proofs.Bench.Serial
import UsbCompiler.Proofs.Peripheral.Lookup
import UsbCompiler.Proofs.StringPool.Asked
import UsbCompiler.Proofs.Descriptor.Completing
import UsbCompiler.Proofs.Layout.Decision
import UsbCompiler.Proofs.Layout.Vacancy
import UsbCompiler.Proofs.Release.Decimal
import UsbCompiler.Proofs.Peripheral.Accepted
import UsbCompiler.Proofs.Descriptor.Texts
import UsbCompiler.Proofs.Bench.Headers
import UsbCompiler.Proofs.Descriptor.Room
import UsbCompiler.Proofs.Endpoint.ReadBack
