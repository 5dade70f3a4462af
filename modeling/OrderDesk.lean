import OrderDesk.Main
import OrderDesk.Api.InMemory
import OrderDesk.Postgres.Stores
import OrderDesk.Startup
import OrderDesk.Proofs.Account.Grammar
import OrderDesk.Proofs.Api.Bodies
import OrderDesk.Proofs.Api.Discretion
import OrderDesk.Proofs.Api.Echo
import OrderDesk.Proofs.Api.Fetching
import OrderDesk.Proofs.Api.Frame
import OrderDesk.Proofs.Api.Gate
import OrderDesk.Proofs.Api.Isolation
import OrderDesk.Proofs.Api.Outages
import OrderDesk.Proofs.Api.RoundTrips
import OrderDesk.Proofs.Api.Shape
import OrderDesk.Proofs.Api.SignIn
import OrderDesk.Proofs.Api.Taxonomy
import OrderDesk.Proofs.Bearer.Lifetime
import OrderDesk.Proofs.Command.Tokens
import OrderDesk.Proofs.Postgres.Agreement
import OrderDesk.Proofs.Postgres.Users
import OrderDesk.Proofs.Service.Interleaving
import OrderDesk.Proofs.Service.Orders
import OrderDesk.Proofs.Service.Registration
import OrderDesk.Proofs.Service.SignIn
import OrderDesk.Proofs.Settings.Loaders
import OrderDesk.Proofs.Store.Books
import OrderDesk.Proofs.Store.Deadline
import OrderDesk.Proofs.Store.Halves
import OrderDesk.Proofs.Store.Numbers
import OrderDesk.Proofs.Store.Touches
import OrderDesk.Proofs.Store.Users
import OrderDesk.Proofs.Http.RequestId
import OrderDesk.Proofs.Api.Identified
import OrderDesk.Proofs.Api.Numerals
