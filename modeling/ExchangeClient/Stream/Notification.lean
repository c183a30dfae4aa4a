import ExchangeClient.Stream.Topic

/-!
# Notifications

What the exchange publishes comes in an envelope that names a method.  Only the
method `channelMessage` with parameters carries a message; every other envelope,
such as the answer to a subscription, is passed over.  The parameters are read
before the method is looked at, so an envelope with unsuitable parameters is an
error whatever its method.
-/

namespace ExchangeClient

/-- A published message, with the topic it was published under. -/
structure Notification where
  channel : String
  message : Json

instance : Wire Notification where
  shape := .record "NotificationParams" <|
    .cons "channel" .required .text <|
    .cons "message" .required .any <|
    .nil
  toValue x := (x.channel, x.message, ())
  ofValue := fun (channel, message, _) => ⟨channel, message⟩
  ofValue_toValue _ := rfl
  toValue_ofValue _ := rfl

/-- What a frame from the exchange is wrapped in. -/
structure Envelope where
  method : Option String
  params : Option Notification

instance : Wire Envelope where
  shape := .record "Envelope" <|
    .cons "method" .defaulted (.optional .text) <|
    .cons "params" .defaulted (.optional (Wire.shape Notification)) <|
    .nil
  toValue x := (x.method, x.params.map Wire.toValue, ())
  ofValue := fun (method, params, _) => ⟨method, params.map Wire.ofValue⟩
  ofValue_toValue x := by simp [Wire.ofValue_toValue, Function.comp_def]
  toValue_ofValue _ := by simp [Wire.toValue_ofValue, Function.comp_def]

/-- The method under which messages are published. -/
def Notification.method : String := "channelMessage"

/-- The message in an envelope, if it carries one. -/
def Envelope.notification? (e : Envelope) : Option Notification :=
  if e.method = some Notification.method then e.params else none

/-- The message in a frame, if it carries one. -/
def Notification.ofFrame (text : String) : Except Json.DecodeError (Option Notification) :=
  (Wire.ofText text).map Envelope.notification?

end ExchangeClient
