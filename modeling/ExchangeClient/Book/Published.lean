import ExchangeClient.Book.Changes
import ExchangeClient.Stream.Notification
import ExchangeClient.Stream.Topic

/-!
# Published changes

How the changes of a product's book are published: under the snapshot topic of the product
as a board that the book is started from afresh, under its board topic as a difference.
Whatever else is sent on a connection, such as messages of other topics, messages that
write no board, and frames that carry no message, changes no book.
-/

namespace ExchangeClient
namespace BookChange

/-- The change of a product's book that a message publishes, if it publishes one. -/
def ofNotification? (product : ProductCode) (n : Notification) : Option BookChange :=
  match (Wire.ofJson n.message : Except Json.Mismatch Board) with
  | .ok board =>
    if n.channel = StreamKind.boardSnapshot.topic product then some (.snapshot board)
    else if n.channel = StreamKind.board.topic product then some (.difference board)
    else none
  | .error _ => none

/-- The change of a product's book that a frame publishes, if it publishes one. -/
def ofFrame? (product : ProductCode) (frame : String) : Option BookChange :=
  match Notification.ofFrame frame with
  | .ok (some n) => ofNotification? product n
  | _ => none

end BookChange
end ExchangeClient
