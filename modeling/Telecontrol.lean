import Telecontrol.Apci.Apdu
import Telecontrol.Apci.Basic
import Telecontrol.Apci.Control
import Telecontrol.Apci.Window
import Telecontrol.Asdu.Basic
import Telecontrol.Asdu.Codec
import Telecontrol.Asdu.Command
import Telecontrol.Binary32.Basic
import Telecontrol.Binary32.Shortest
import Telecontrol.Calendar
import Telecontrol.Cause
import Telecontrol.Connection.Basic
import Telecontrol.Connection.Step
import Telecontrol.Element.Codec
import Telecontrol.Element.Kind
import Telecontrol.Element.Point
import Telecontrol.Element.Qualifier
import Telecontrol.Element.TimeTag
import Telecontrol.Element.Value
import Telecontrol.Event
import Telecontrol.Fault
import Telecontrol.Ft12.Codec
import Telecontrol.Ft12.Frame
import Telecontrol.Ft12.Payload
import Telecontrol.Inbox
import Telecontrol.Line.Session
import Telecontrol.Line.Station
import Telecontrol.Line.Terminal
import Telecontrol.Network.Basic
import Telecontrol.Network.Step
import Telecontrol.Octets
import Telecontrol.Parameters
import Telecontrol.Primary.Basic
import Telecontrol.Primary.Step
import Telecontrol.Secondary.Basic
import Telecontrol.Secondary.Step
import Telecontrol.Server.Action
import Telecontrol.Server.Basic
import Telecontrol.States
import Telecontrol.Stream
import Telecontrol.Turn
import Telecontrol.TypeId
import Telecontrol.Proofs.Calendar
import Telecontrol.Proofs.Binary32.Exact
import Telecontrol.Proofs.Binary32.Single
import Telecontrol.Proofs.Element.RoundTrip
import Telecontrol.Proofs.Element.TimeTag
import Telecontrol.Proofs.Element.Normalized
import Telecontrol.Proofs.Element.Fields
import Telecontrol.Proofs.Asdu.Header
import Telecontrol.Proofs.Asdu.Structure
import Telecontrol.Proofs.Asdu.Length
import Telecontrol.Proofs.Asdu.RoundTrip
import Telecontrol.Proofs.Asdu.Edits
import Telecontrol.Proofs.Asdu.Append
import Telecontrol.Proofs.Asdu.Grammar
import Telecontrol.Proofs.Channel
import Telecontrol.Proofs.Stream
import Telecontrol.Proofs.Apci.RoundTrip
import Telecontrol.Proofs.Apci.Patterns
import Telecontrol.Proofs.Apci.Stream
import Telecontrol.Proofs.Apci.Window
import Telecontrol.Proofs.Apci.SlidingWindow
import Telecontrol.Proofs.Connection.Transfer
import Telecontrol.Proofs.Connection.Turns
import Telecontrol.Proofs.Connection.Sendable
import Telecontrol.Proofs.Connection.Proceeds
import Telecontrol.Proofs.Connection.Fails
import Telecontrol.Proofs.Connection.Life
import Telecontrol.Proofs.Connection.Supervision
import Telecontrol.Proofs.Connection.Receipts
import Telecontrol.Proofs.Connection.Numbering
import Telecontrol.Proofs.Connection.Sending
import Telecontrol.Proofs.Connection.Handshake
import Telecontrol.Proofs.Connection.Answers
import Telecontrol.Proofs.Connection.Course
import Telecontrol.Proofs.Duplex.Flow
import Telecontrol.Proofs.Duplex.Phase
import Telecontrol.Proofs.Duplex.Basic
import Telecontrol.Proofs.Duplex.Invariant
import Telecontrol.Proofs.Duplex.Delivery
import Telecontrol.Proofs.Duplex.Receipts
import Telecontrol.Proofs.Duplex.Stale
import Telecontrol.Proofs.Cuts
import Telecontrol.Proofs.Ft12.Corruption
import Telecontrol.Proofs.Ft12.Exchange
import Telecontrol.Proofs.Ft12.Noise
import Telecontrol.Proofs.Writing.Writer
import Telecontrol.Proofs.Writing.Encoders
import Telecontrol.Proofs.Reading
import Telecontrol.Proofs.Running
import Telecontrol.Proofs.Secondary.Turns
import Telecontrol.Proofs.Secondary.Requests
import Telecontrol.Proofs.Secondary.Course
import Telecontrol.Proofs.Secondary.Memory
import Telecontrol.Proofs.Secondary.Ledger
import Telecontrol.Proofs.Secondary.Responses
import Telecontrol.Proofs.Secondary.Endurance
import Telecontrol.Proofs.Secondary.Announcements
import Telecontrol.Proofs.Primary.Turns
import Telecontrol.Proofs.Primary.Discipline
import Telecontrol.Proofs.Primary.Course
import Telecontrol.Proofs.Primary.Counting
import Telecontrol.Proofs.Primary.Reports
import Telecontrol.Proofs.Primary.Links
import Telecontrol.Proofs.Primary.Calls
import Telecontrol.Proofs.Primary.BringUp
import Telecontrol.Proofs.Primary.Windows
import Telecontrol.Proofs.Primary.Attention
import Telecontrol.Proofs.Primary.Endurance
import Telecontrol.Proofs.Unbalanced.Basic
import Telecontrol.Proofs.Unbalanced.Scene
import Telecontrol.Proofs.Unbalanced.Course
import Telecontrol.Proofs.Unbalanced.Balance
import Telecontrol.Proofs.Unbalanced.Order
import Telecontrol.Proofs.Unbalanced.Simulation
import Telecontrol.Proofs.Unbalanced.Run
import Telecontrol.Proofs.Unbalanced.ExactlyOnce
import Telecontrol.Proofs.Unbalanced.Matching
import Telecontrol.Proofs.Unbalanced.Polls
import Telecontrol.Proofs.Server.Actions
import Telecontrol.Proofs.Server.Registry
import Telecontrol.Proofs.Server.Shutdown
