import Rendezvous.Exit.Latch
import Rendezvous.Exit.Operation
import Rendezvous.Log.Filter
import Rendezvous.Main
import Rendezvous.Proofs.Connection.Intake
import Rendezvous.Proofs.Connection.Pong
import Rendezvous.Proofs.Exchange.Arrival
import Rendezvous.Proofs.Exit.Agreement
import Rendezvous.Proofs.Exit.Exclusive
import Rendezvous.Proofs.Http.Response
import Rendezvous.Proofs.Ice
import Rendezvous.Proofs.Json.RoundTrip
import Rendezvous.Proofs.Office.Account
import Rendezvous.Proofs.Pairing.History
import Rendezvous.Proofs.Program.Channel
import Rendezvous.Proofs.Reply.Faithful
import Rendezvous.Proofs.Request.Ids
import Rendezvous.Proofs.Room.Endpoints
import Rendezvous.Proofs.Room.Independence
import Rendezvous.Proofs.Room.Isolation
import Rendezvous.Proofs.Room.Neutral
import Rendezvous.Proofs.Room.Presence
import Rendezvous.Proofs.Room.Relay
import Rendezvous.Proofs.Room.Welcome
import Rendezvous.Proofs.Settings.Deadlines
import Rendezvous.Proofs.Settings.Scheme
import Rendezvous.Proofs.Tls.Blame
import Rendezvous.Proofs.Worker.Interleaving
import Rendezvous.Proofs.Worker.Lifecycle
import Rendezvous.Proofs.Office.Broadcast
import Rendezvous.Proofs.Peer.Search
import Rendezvous.Proofs.CommandLine.Order
import Rendezvous.Proofs.Listing
