import NetworkLayer.Main
import NetworkLayer.Proofs.Translation.Accounting
import NetworkLayer.Proofs.Translation.Isolation
import NetworkLayer.Proofs.Translation.RoundTrip
import NetworkLayer.Proofs.Translation.Symmetry
import NetworkLayer.Proofs.Translation.Uniqueness
import NetworkLayer.Proofs.Cascade
import NetworkLayer.Proofs.Access.Delivery
import NetworkLayer.Proofs.Translation.Admission
import NetworkLayer.Proofs.Resolution.Step
import NetworkLayer.Proofs.Resolution.Session
import NetworkLayer.Proofs.Resolution.Coherence
import NetworkLayer.Proofs.Resolution.Outcome
import NetworkLayer.Proofs.Resolution.Answers
import NetworkLayer.Proofs.Resolution.Turns
import NetworkLayer.Proofs.Ethernet.Card
import NetworkLayer.Proofs.Ethernet.Ledger
import NetworkLayer.Proofs.Frame
import NetworkLayer.Proofs.Ethernet.Tracking
import NetworkLayer.Proofs.Ethernet.Conservation
import NetworkLayer.Proofs.Ipv6.Edits
import NetworkLayer.Proofs.Ipv6.Draft
import NetworkLayer.Proofs.Arp
import NetworkLayer.Proofs.Neighbor
import NetworkLayer.Proofs.Resolution.Exchange
import NetworkLayer.Proofs.Route
import NetworkLayer.Proofs.Network
import NetworkLayer.Proofs.Assembly.Work
import NetworkLayer.Proofs.Assembly.Acceptance
import NetworkLayer.Proofs.Assembly.Stations
import NetworkLayer.Proofs.Assembly.Interfaces
import NetworkLayer.Proofs.Assembly.Routes
import NetworkLayer.Proofs.Assembly.Building
import NetworkLayer.Proofs.Ipv4.Edits
import NetworkLayer.Proofs.SegmentRouting
import NetworkLayer.Proofs.Ipv6.Contents
import NetworkLayer.Proofs.SegmentJourney
import NetworkLayer.Proofs.Addressing.Changes
import NetworkLayer.Proofs.Addressing.Consistency
import NetworkLayer.Proofs.Addressing.Conflicts
import NetworkLayer.Proofs.Addressing.Connected
import NetworkLayer.Proofs.Addressing.Groups
import NetworkLayer.Proofs.Addressing.Membership
import NetworkLayer.Proofs.Ethernet.Ownership
import NetworkLayer.Proofs.Ethernet.Questions
import NetworkLayer.Proofs.Translation.Custody
import NetworkLayer.Proofs.Translation.Expiry
import NetworkLayer.Proofs.Config.Lock
import NetworkLayer.Proofs.Translation.IndexedTable
import NetworkLayer.Proofs.Translation.Failure
import NetworkLayer.Proofs.Translation.Identifiers
import NetworkLayer.Proofs.Translation.Fidelity
import NetworkLayer.Proofs.Addressing.Sources
import NetworkLayer.Proofs.Reception.Answers
import NetworkLayer.Proofs.SegmentBounds
import NetworkLayer.Proofs.SegmentDescent
import NetworkLayer.Proofs.Checksum.Coverage
import NetworkLayer.Proofs.Reception.Echo
import NetworkLayer.Proofs.Mac
import NetworkLayer.Proofs.Mac.Text
import NetworkLayer.Proofs.Ethernet.Framing
import NetworkLayer.Proofs.Neighbor.Options
import NetworkLayer.Proofs.Metrics.Gauges
import NetworkLayer.Proofs.Metrics.Receptions
import NetworkLayer.Proofs.Metrics.Views
import NetworkLayer.Proofs.Metrics.Drift
import NetworkLayer.Proofs.Metrics.Elsewhere
import NetworkLayer.Proofs.Metrics.Assembly
import NetworkLayer.Proofs.Metrics.Course
import NetworkLayer.Proofs.Prefix.Text
import NetworkLayer.Proofs.Link
