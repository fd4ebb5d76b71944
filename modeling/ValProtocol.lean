import ValProtocol.Lib.LittleEndian
import ValProtocol.Lib.Lts
import ValProtocol.Lib.Simulations
import ValProtocol.Lib.Termination
import ValProtocol.Lib.Uploads
import ValProtocol.Lib.Turns
import ValProtocol.Lib.ReflectedCrc
import ValProtocol.Lib.Memory
import ValProtocol.Lib.Layouts
import ValProtocol.Lib.Checkpoints
import ValProtocol.Lib.Flights
import ValProtocol.Lib.Ticks
import ValProtocol.Lib.Programs
import ValProtocol.Lib.Splitting
import ValProtocol.Lib.Scanners
import ValProtocol.Wire.Types
import ValProtocol.Wire.Crc32
import ValProtocol.Wire.Codec
import ValProtocol.Wire.Frame
import ValProtocol.Wire.Stream
import ValProtocol.Wire.ByteOrder
import ValProtocol.Wire.Layout
import ValProtocol.Wire.RoundTrip
import ValProtocol.Wire.Corruption
import ValProtocol.Wire.BitSerial
import ValProtocol.Wire.Timeouts
import ValProtocol.Wire.Reading
import ValProtocol.Session.Config
import ValProtocol.Data.Sender
import ValProtocol.Data.HighWater
import ValProtocol.Data.Receiver
import ValProtocol.Data.System
import ValProtocol.Data.Cursor
import ValProtocol.Data.Patience
import ValProtocol.Data.Karn
import ValProtocol.Data.Windowed
import ValProtocol.Data.StopAndWait
import ValProtocol.Data.Embedded
import ValProtocol.Data.Gaps
import ValProtocol.Data.Transfer
import ValProtocol.Session.Deadline
import ValProtocol.Files.Names
import ValProtocol.Files.CleanPath
import ValProtocol.Files.MetaStrings
import ValProtocol.Files.Region
import ValProtocol.Session.Handshake
import ValProtocol.Session.HelloBudget
import ValProtocol.Session.Resume
import ValProtocol.Session.Sender
import ValProtocol.Session.Receiver
import ValProtocol.Session.LoneReceiver
import ValProtocol.Session.Validation
import ValProtocol.Session.Containment
import ValProtocol.Session.Storage
import ValProtocol.Session.System
import ValProtocol.Session.Turns
import ValProtocol.Session.Agreement
import ValProtocol.Session.Batches
import ValProtocol.Session.Isolation
import ValProtocol.Session.Negotiation
import ValProtocol.Session.FileSteps
import ValProtocol.Session.Starts
import ValProtocol.Session.Calm
import ValProtocol.Session.Walk
import ValProtocol.Session.FaultFree
import ValProtocol.Session.StartZero
import ValProtocol.Session.Abort
import ValProtocol.Hooks.Calls
import ValProtocol.Hooks.Sender
import ValProtocol.Hooks.Receiver
import ValProtocol.Hooks.Footprint
import ValProtocol.Hooks.Handles
import ValProtocol.Hooks.Pairing
import ValProtocol.Hooks.SenderCallbacks
import ValProtocol.Hooks.ReceiverCallbacks
import ValProtocol.Hooks.Progress
import ValProtocol.Session.Capabilities
import ValProtocol.Session.Streams
import ValProtocol.Session.Transit
import ValProtocol.Session.NakFree
import ValProtocol.Session.Termination
import ValProtocol.Session.Delivery
import ValProtocol.Session.StaleMemory
import ValProtocol.Session.Cancellation
import ValProtocol.Session.Order
import ValProtocol.Session.GoodFaith
import ValProtocol.Session.Occupancy
import ValProtocol.Session.Aimd
import ValProtocol.Session.ControlWait
import ValProtocol.Session.NameAgreement
import ValProtocol.Session.Rtt
import ValProtocol.Lib.Budgets
import ValProtocol.Session.Alike
import ValProtocol.Session.FatalLosses
import ValProtocol.Session.OverStreams
import ValProtocol.Session.Reconnects
