import ExchangeClient.Connection.Reading
import ExchangeClient.Stream.Control

/-!
# Transports

What a subscriber needs of a connection: to write a control frame and to read the next
data.  Either may succeed, fail, or be given up before it is finished, because a
stop was asked for or because what it waits for has not come.

`Transport` is abstract in the connection, so that what is said of a subscriber
holds whatever the other side does and however the connection answers.
-/

namespace ExchangeClient

/-- How far an action on a connection got. -/
inductive Attempt (α : Type) where
  | done (result : α)
  | failed (cause : ClientError)
  /-- The action was given up before it was finished. -/
  | unfinished
  deriving Repr

/-- What can be done with a connection of type `σ`. -/
structure Transport (σ : Type) where
  write : σ → ControlFrame → Attempt Unit × σ
  /-- Reads the next data within a deadline. -/
  read : σ → Duration → Attempt String × σ

/-- A connection that takes every frame and on which nothing is ever published. -/
def Transport.muted : Transport Unit where
  write link _ := (.done (), link)
  read link _ := (.unfinished, link)

end ExchangeClient
