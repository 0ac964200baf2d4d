import MeshProxy.Handshake.Exchange
import MeshProxy.Handshake.Preamble
import MeshProxy.Handshake.Rendezvous
import MeshProxy.Handshake.Target
import MeshProxy.Identity.Bundle
import MeshProxy.Identity.Source
import MeshProxy.Listening.AcceptLoop
import MeshProxy.Listening.Lineup
import MeshProxy.Listening.Role
import MeshProxy.Listening.Service
import MeshProxy.Log.Directive
import MeshProxy.Log.Filter
import MeshProxy.Log.Line
import MeshProxy.Log.Record
import MeshProxy.Main
import MeshProxy.Net.Address
import MeshProxy.Net.Destination
import MeshProxy.Net.Ipv4
import MeshProxy.Net.Ipv6
import MeshProxy.Net.Lookup
import MeshProxy.Net.Redirection
import MeshProxy.Persona.Inbound
import MeshProxy.Persona.Outbound
import MeshProxy.Persona.Reach
import MeshProxy.Pki.Base64
import MeshProxy.Pki.Certificate
import MeshProxy.Pki.Curve
import MeshProxy.Pki.Der
import MeshProxy.Pki.Edwards
import MeshProxy.Pki.Pem
import MeshProxy.Pki.PrivateKey
import MeshProxy.Pki.Sha512
import MeshProxy.Proofs.Handshake.Awaiting
import MeshProxy.Proofs.Handshake.Exchange
import MeshProxy.Proofs.Handshake.Grammar
import MeshProxy.Proofs.Handshake.Pieces
import MeshProxy.Proofs.Handshake.RoundTrip
import MeshProxy.Proofs.Handshake.Sending
import MeshProxy.Proofs.Handshake.Target
import MeshProxy.Proofs.Hop.Basic
import MeshProxy.Proofs.Hop.Carriage
import MeshProxy.Proofs.Hop.Ends
import MeshProxy.Proofs.Hop.Invariant
import MeshProxy.Proofs.Identity.Secrecy
import MeshProxy.Proofs.Identity.Sourcing
import MeshProxy.Proofs.Listening.Dispatch
import MeshProxy.Proofs.Net.Destination
import MeshProxy.Proofs.Net.Ipv6Text
import MeshProxy.Proofs.Net.Redirection
import MeshProxy.Proofs.Net.SocketText
import MeshProxy.Proofs.Net.Spelling
import MeshProxy.Proofs.Persona.Atomicity
import MeshProxy.Proofs.Persona.Course
import MeshProxy.Proofs.Persona.Inbound
import MeshProxy.Proofs.Persona.Inbound.FirstRead
import MeshProxy.Proofs.Persona.Inbound.LoopGuard
import MeshProxy.Proofs.Persona.Inbound.OwnAddress
import MeshProxy.Proofs.Persona.Inbound.Safety
import MeshProxy.Proofs.Persona.Outbound
import MeshProxy.Proofs.Persona.Outbound.FailClosed
import MeshProxy.Proofs.Persona.Outbound.Meeting
import MeshProxy.Proofs.Persona.Outbound.Safety
import MeshProxy.Proofs.Persona.Outbound.Securing
import MeshProxy.Proofs.Persona.Outbound.Transparency
import MeshProxy.Proofs.Relay.Conservation
import MeshProxy.Proofs.Relay.Counting
import MeshProxy.Proofs.Relay.Ending
import MeshProxy.Proofs.Relay.Flow
import MeshProxy.Proofs.Relay.Recut
import MeshProxy.Proofs.Relay.Step
import MeshProxy.Proofs.Relay.Symmetry
import MeshProxy.Proofs.Relay.Transparency
import MeshProxy.Proofs.Relay.Unhindered
import MeshProxy.Proofs.Routing.HopText
import MeshProxy.Proofs.Routing.NextHop
import MeshProxy.Proofs.Session.Accounting
import MeshProxy.Proofs.Settings.Acceptance
import MeshProxy.Proofs.Settings.Checking
import MeshProxy.Proofs.Settings.Given
import MeshProxy.Proofs.Settings.Lookup
import MeshProxy.Proofs.Settings.Spelling
import MeshProxy.Proofs.Stream.Sink
import MeshProxy.Proofs.Stream.Source
import MeshProxy.Proofs.Stream.Writing
import MeshProxy.Proofs.Text.Blank
import MeshProxy.Proofs.Text.Casing
import MeshProxy.Proofs.Text.Decimal
import MeshProxy.Proofs.Text.Fields
import MeshProxy.Proofs.Trace.Lines
import MeshProxy.Relay.Duplex
import MeshProxy.Relay.Flow
import MeshProxy.Routing.Dial
import MeshProxy.Routing.Plan
import MeshProxy.Session.Event
import MeshProxy.Session.Failure
import MeshProxy.Settings.Basic
import MeshProxy.Settings.Environment
import MeshProxy.Settings.Read
import MeshProxy.Startup.Chain
import MeshProxy.Startup.Planning
import MeshProxy.Startup.Program
import MeshProxy.Stream.Endpoint
import MeshProxy.Stream.ErrorNumber
import MeshProxy.Stream.Fault
import MeshProxy.Stream.Sink
import MeshProxy.Stream.Source
import MeshProxy.Text.Blank
import MeshProxy.Text.CaseTables
import MeshProxy.Text.Casing
import MeshProxy.Text.CharSet
import MeshProxy.Text.Decimal
import MeshProxy.Text.Duration
import MeshProxy.Text.Fields
import MeshProxy.Text.Letters
import MeshProxy.Text.Pattern
import MeshProxy.Text.Pattern.Reading
import MeshProxy.Text.Quoted
import MeshProxy.Text.Unprintable
import MeshProxy.Text.Utf8
import MeshProxy.Tls.Code
import MeshProxy.Tls.Extension
import MeshProxy.Tls.Fault
import MeshProxy.Tls.Handshake
import MeshProxy.Tls.Hearing
import MeshProxy.Tls.Message
import MeshProxy.Tls.Policy
import MeshProxy.Tls.Record
import MeshProxy.Tls.ServerName
import MeshProxy.Tls.Welcome
import MeshProxy.Tls.Wire
import MeshProxy.Trace.Tap
