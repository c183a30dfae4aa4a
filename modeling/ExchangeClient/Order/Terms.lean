import ExchangeClient.Schema.Wire

/-!
# The terms of an order

The words that orders are made of: which side, at what kind of price, for how
long, in which state.  A parent order groups several orders by a method, and each
of its legs has a condition.
-/

namespace ExchangeClient

/-- A traded product, such as a currency pair. -/
abbrev ProductCode := String

/-- A currency. -/
abbrev CurrencyCode := String

/-- The side of an order. -/
inductive Side where
  | buy
  | sell
  deriving Repr, DecidableEq

/-- The name under which it is sent. -/
def Side.name : Side → String
  | .buy => "BUY"
  | .sell => "SELL"

instance : Wire Side where
  shape := .choice [Side.buy.name, Side.sell.name]
  toValue
    | .buy => (0 : Fin 2)
    | .sell => (1 : Fin 2)
  ofValue := fun (i : Fin 2) =>
    match i with
    | 0 => .buy
    | 1 => .sell
  ofValue_toValue a := by cases a <;> rfl
  toValue_ofValue := fun (i : Fin 2) => by
    match i with
    | 0 => rfl
    | 1 => rfl

/-- How the price of an order is set. -/
inductive OrderType where
  | limit
  | market
  deriving Repr, DecidableEq

/-- The name under which it is sent. -/
def OrderType.name : OrderType → String
  | .limit => "LIMIT"
  | .market => "MARKET"

instance : Wire OrderType where
  shape := .choice [OrderType.limit.name, OrderType.market.name]
  toValue
    | .limit => (0 : Fin 2)
    | .market => (1 : Fin 2)
  ofValue := fun (i : Fin 2) =>
    match i with
    | 0 => .limit
    | 1 => .market
  ofValue_toValue a := by cases a <;> rfl
  toValue_ofValue := fun (i : Fin 2) => by
    match i with
    | 0 => rfl
    | 1 => rfl

/-- How long an order stands. -/
inductive TimeInForce where
  | goodTillCancelled
  | immediateOrCancel
  | fillOrKill
  deriving Repr, DecidableEq

/-- The name under which it is sent. -/
def TimeInForce.name : TimeInForce → String
  | .goodTillCancelled => "GTC"
  | .immediateOrCancel => "IOC"
  | .fillOrKill => "FOK"

instance : Wire TimeInForce where
  shape := .choice
    [TimeInForce.goodTillCancelled.name, TimeInForce.immediateOrCancel.name,
      TimeInForce.fillOrKill.name]
  toValue
    | .goodTillCancelled => (0 : Fin 3)
    | .immediateOrCancel => (1 : Fin 3)
    | .fillOrKill => (2 : Fin 3)
  ofValue := fun (i : Fin 3) =>
    match i with
    | 0 => .goodTillCancelled
    | 1 => .immediateOrCancel
    | 2 => .fillOrKill
  ofValue_toValue a := by cases a <;> rfl
  toValue_ofValue := fun (i : Fin 3) => by
    match i with
    | 0 => rfl
    | 1 => rfl
    | 2 => rfl

/-- The state of an order, or the state that a listing is narrowed to. -/
inductive OrderState where
  | active
  | completed
  | canceled
  | expired
  | rejected
  deriving Repr, DecidableEq

/-- The name under which it is sent. -/
def OrderState.name : OrderState → String
  | .active => "ACTIVE"
  | .completed => "COMPLETED"
  | .canceled => "CANCELED"
  | .expired => "EXPIRED"
  | .rejected => "REJECTED"

instance : Wire OrderState where
  shape := .choice
    [OrderState.active.name, OrderState.completed.name, OrderState.canceled.name,
      OrderState.expired.name, OrderState.rejected.name]
  toValue
    | .active => (0 : Fin 5)
    | .completed => (1 : Fin 5)
    | .canceled => (2 : Fin 5)
    | .expired => (3 : Fin 5)
    | .rejected => (4 : Fin 5)
  ofValue := fun (i : Fin 5) =>
    match i with
    | 0 => .active
    | 1 => .completed
    | 2 => .canceled
    | 3 => .expired
    | 4 => .rejected
  ofValue_toValue a := by cases a <;> rfl
  toValue_ofValue := fun (i : Fin 5) => by
    match i with
    | 0 => rfl
    | 1 => rfl
    | 2 => rfl
    | 3 => rfl
    | 4 => rfl

/-- How the legs of a parent order depend on each other. -/
inductive OrderMethod where
  | simple
  | ifDone
  | oneCancelsOther
  | ifDoneOneCancelsOther
  deriving Repr, DecidableEq

/-- The name under which it is sent. -/
def OrderMethod.name : OrderMethod → String
  | .simple => "SIMPLE"
  | .ifDone => "IFD"
  | .oneCancelsOther => "OCO"
  | .ifDoneOneCancelsOther => "IFDOCO"

/-- How many legs a method takes. -/
def OrderMethod.legCount : OrderMethod → Nat
  | .simple => 1
  | .ifDone => 2
  | .oneCancelsOther => 2
  | .ifDoneOneCancelsOther => 3

/-- The name that a message shows. -/
def OrderMethod.label : OrderMethod → String
  | .simple => "Simple"
  | .ifDone => "Ifd"
  | .oneCancelsOther => "Oco"
  | .ifDoneOneCancelsOther => "Ifdoco"

instance : Wire OrderMethod where
  shape := .choice
    [OrderMethod.simple.name, OrderMethod.ifDone.name, OrderMethod.oneCancelsOther.name,
      OrderMethod.ifDoneOneCancelsOther.name]
  toValue
    | .simple => (0 : Fin 4)
    | .ifDone => (1 : Fin 4)
    | .oneCancelsOther => (2 : Fin 4)
    | .ifDoneOneCancelsOther => (3 : Fin 4)
  ofValue := fun (i : Fin 4) =>
    match i with
    | 0 => .simple
    | 1 => .ifDone
    | 2 => .oneCancelsOther
    | 3 => .ifDoneOneCancelsOther
  ofValue_toValue a := by cases a <;> rfl
  toValue_ofValue := fun (i : Fin 4) => by
    match i with
    | 0 => rfl
    | 1 => rfl
    | 2 => rfl
    | 3 => rfl

/-- What lets a leg of a parent order be executed. -/
inductive ConditionType where
  | limit
  | market
  | stop
  | stopLimit
  | trail
  deriving Repr, DecidableEq

/-- The name under which it is sent. -/
def ConditionType.name : ConditionType → String
  | .limit => "LIMIT"
  | .market => "MARKET"
  | .stop => "STOP"
  | .stopLimit => "STOP_LIMIT"
  | .trail => "TRAIL"

instance : Wire ConditionType where
  shape := .choice
    [ConditionType.limit.name, ConditionType.market.name, ConditionType.stop.name,
      ConditionType.stopLimit.name, ConditionType.trail.name]
  toValue
    | .limit => (0 : Fin 5)
    | .market => (1 : Fin 5)
    | .stop => (2 : Fin 5)
    | .stopLimit => (3 : Fin 5)
    | .trail => (4 : Fin 5)
  ofValue := fun (i : Fin 5) =>
    match i with
    | 0 => .limit
    | 1 => .market
    | 2 => .stop
    | 3 => .stopLimit
    | 4 => .trail
  ofValue_toValue a := by cases a <;> rfl
  toValue_ofValue := fun (i : Fin 5) => by
    match i with
    | 0 => rfl
    | 1 => rfl
    | 2 => rfl
    | 3 => rfl
    | 4 => rfl

/-- Which identifier a look-up or a cancellation goes by. -/
inductive IdType where
  | parentOrderId
  | parentOrderAcceptanceId
  | childOrderId
  | childOrderAcceptanceId
  deriving Repr, DecidableEq

/-- The name that a message shows. -/
def IdType.label : IdType → String
  | .parentOrderId => "ParentOrderId"
  | .parentOrderAcceptanceId => "ParentOrderAcceptanceId"
  | .childOrderId => "ChildOrderId"
  | .childOrderAcceptanceId => "ChildOrderAcceptanceId"

end ExchangeClient
