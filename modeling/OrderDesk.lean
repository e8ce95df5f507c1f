import OrderDesk.Checkout.InFlight
import OrderDesk.Main
import OrderDesk.Publisher.Bus
import OrderDesk.Settings.Document
import OrderDesk.Store.Rows
import OrderDesk.Proofs.Demand
import OrderDesk.Proofs.Inventory
import OrderDesk.Proofs.Cluster
import OrderDesk.Proofs.Composition
import OrderDesk.Proofs.Store
import OrderDesk.Proofs.Relay
import OrderDesk.Proofs.Checkout
import OrderDesk.Proofs.Conservation
import OrderDesk.Proofs.Write
import OrderDesk.Proofs.Traffic
import OrderDesk.Proofs.Ledger
import OrderDesk.Proofs.Reading
import OrderDesk.Proofs.Snapshot
import OrderDesk.Proofs.History
import OrderDesk.Proofs.Agreement
import OrderDesk.Proofs.Settlement
import OrderDesk.Proofs.Outbox
import OrderDesk.Relay.InFlight
import OrderDesk.Proofs.Delivery
import OrderDesk.Proofs.AtLeastOnce
import OrderDesk.Proofs.Heard
import OrderDesk.Proofs.InsertionOrder
import OrderDesk.Proofs.NoTrace
import OrderDesk.Proofs.Backing
import OrderDesk.Proofs.Errands
import OrderDesk.Proofs.Placement
import OrderDesk.Proofs.Replicas
import OrderDesk.Proofs.Facts
import OrderDesk.Proofs.Account
import OrderDesk.Proofs.Books
import OrderDesk.Proofs.Transparency
import OrderDesk.Proofs.Grants
import OrderDesk.Proofs.Readable
import OrderDesk.Proofs.Listing
import OrderDesk.Proofs.Rows
import OrderDesk.Proofs.Grouping
import OrderDesk.Proofs.Frame
import OrderDesk.Proofs.InPlace
import OrderDesk.Proofs.SettlementOrder
import OrderDesk.Proofs.Aggregation
import OrderDesk.Proofs.Booking
import OrderDesk.Proofs.Creation
import OrderDesk.Proofs.Filing
import OrderDesk.Proofs.Queue
import OrderDesk.Proofs.Draining
import OrderDesk.Proofs.Independence
import OrderDesk.Proofs.RoundTrip
import OrderDesk.Proofs.Counters
import OrderDesk.Proofs.Staging
import OrderDesk.Proofs.Swap
import OrderDesk.Proofs.Stages
import OrderDesk.Proofs.Tick
import OrderDesk.Proofs.Payload
import OrderDesk.Proofs.Totals
import OrderDesk.Proofs.Retrying
import OrderDesk.Proofs.Routing
import OrderDesk.Proofs.Adjusting
import OrderDesk.Proofs.Logging
import OrderDesk.Proofs.Partitions
import OrderDesk.Proofs.Seeding
import OrderDesk.Proofs.Hashing
