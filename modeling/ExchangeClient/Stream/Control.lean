import ExchangeClient.Stream.Topic

/-!
# Control frames

What the client tells the exchange on a stream's connection: to start or to stop
publishing a topic on it.
-/

namespace ExchangeClient

/-- What a control frame asks for. -/
inductive ControlMethod where
  | subscribe
  | unsubscribe
  deriving Repr, DecidableEq

/-- The name under which it is sent. -/
def ControlMethod.name : ControlMethod → String
  | .subscribe => "subscribe"
  | .unsubscribe => "unsubscribe"

instance : Wire ControlMethod where
  shape := .choice ["subscribe", "unsubscribe"]
  toValue
    | .subscribe => (⟨0, by decide⟩ : Fin 2)
    | .unsubscribe => (⟨1, by decide⟩ : Fin 2)
  ofValue := fun (i : Fin 2) =>
    match i with
    | ⟨0, _⟩ => .subscribe
    | ⟨1, _⟩ => .unsubscribe
  ofValue_toValue a := by cases a <;> rfl
  toValue_ofValue := fun (i : Fin 2) => by
    match i with
    | ⟨0, _⟩ => rfl
    | ⟨1, _⟩ => rfl

/-- The topic that a control frame is about. -/
structure ChannelParams where
  channel : String
  deriving Repr, DecidableEq

instance : Wire ChannelParams where
  shape := .record "ChannelParams" <|
    .cons "channel" .required .text <|
    .nil
  toValue x := (x.channel, ())
  ofValue := fun (channel, _) => ⟨channel⟩
  ofValue_toValue _ := rfl
  toValue_ofValue _ := rfl

/-- A control frame. -/
structure ControlFrame where
  /-- The version of the framing. -/
  jsonrpc : String
  method : ControlMethod
  params : ChannelParams
  deriving Repr, DecidableEq

instance : Wire ControlFrame where
  shape := .record "ControlFrame" <|
    .cons "jsonrpc" .required .text <|
    .cons "method" .required (Wire.shape ControlMethod) <|
    .cons "params" .required (Wire.shape ChannelParams) <|
    .nil
  toValue x := (x.jsonrpc, Wire.toValue x.method, Wire.toValue x.params, ())
  ofValue := fun (jsonrpc, method, params, _) =>
    ⟨jsonrpc, Wire.ofValue method, Wire.ofValue params⟩
  ofValue_toValue x := by simp [Wire.ofValue_toValue]
  toValue_ofValue _ := by simp [Wire.toValue_ofValue]

namespace ControlFrame

/-- The version that every frame names. -/
def version : String := "2.0"

/-- A frame about a topic. -/
def ofMethod (method : ControlMethod) (topic : String) : ControlFrame :=
  ⟨version, method, ⟨topic⟩⟩

/-- Asks for a topic. -/
def subscribe (topic : String) : ControlFrame := ofMethod .subscribe topic

/-- Declines a topic. -/
def unsubscribe (topic : String) : ControlFrame := ofMethod .unsubscribe topic

/-- The topic that a frame is about. -/
def channel (frame : ControlFrame) : String := frame.params.channel

@[simp] theorem channel_ofMethod (method : ControlMethod) (topic : String) :
    (ofMethod method topic).channel = topic := rfl

end ControlFrame

end ExchangeClient
