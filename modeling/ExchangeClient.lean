import ExchangeClient.Catalog
import ExchangeClient.Main
import ExchangeClient.Order.Builders
import ExchangeClient.Proofs.Book.Checkpoint
import ExchangeClient.Proofs.Book.LastWrite
import ExchangeClient.Proofs.Book.Ordered
import ExchangeClient.Proofs.Connection.Budget
import ExchangeClient.Proofs.Connection.Limits
import ExchangeClient.Proofs.Connection.Reading
import ExchangeClient.Proofs.Connection.Teardown
import ExchangeClient.Proofs.Decimal.Written
import ExchangeClient.Proofs.Feed.Alternation
import ExchangeClient.Proofs.Feed.Farewell
import ExchangeClient.Proofs.Feed.HeaderFaults
import ExchangeClient.Proofs.Json.Keys
import ExchangeClient.Proofs.Json.Printing
import ExchangeClient.Proofs.Rest.Credentials
import ExchangeClient.Proofs.Rest.Query
import ExchangeClient.Proofs.Rest.SameReading
import ExchangeClient.Proofs.Rest.Signed
import ExchangeClient.Proofs.Rest.Unambiguous
import ExchangeClient.Proofs.Runner.FirstFailure
import ExchangeClient.Proofs.Runner.Summary
import ExchangeClient.Proofs.Schema.Encoding
import ExchangeClient.Proofs.Schema.Groups
import ExchangeClient.Proofs.Schema.Growth
import ExchangeClient.Proofs.Schema.Keyed
import ExchangeClient.Proofs.Schema.RoundTrip
import ExchangeClient.Proofs.Signing.KeyFile
import ExchangeClient.Proofs.Stream.AllOrNothing
import ExchangeClient.Proofs.Stream.ComingToRest
import ExchangeClient.Proofs.Stream.Naming
import ExchangeClient.Proofs.Stream.Parking
import ExchangeClient.Proofs.Stream.Posting
import ExchangeClient.Proofs.Stream.Skipped
import ExchangeClient.Proofs.Url.Plain
import ExchangeClient.Schema.Same
