import ExchangeClient.Error
import ExchangeClient.Order.Request

/-!
# Building requests

Requests as traders ask for them.  A call that goes by an identifier accepts only
some kinds of identifier, and a parent order only as many legs as its method takes;
everything else is refused before anything is sent.
-/

namespace ExchangeClient

namespace SendChildOrderRequest

/-- An order at a price or better. -/
def limit (product : ProductCode) (side : Side) (price size : Decimal) : SendChildOrderRequest :=
  ⟨product, .limit, side, some price, size, none, none⟩

/-- An order at whatever price there is. -/
def market (product : ProductCode) (side : Side) (size : Decimal) : SendChildOrderRequest :=
  ⟨product, .market, side, none, size, none, none⟩

end SendChildOrderRequest

/-- Cancels the order with an identifier. -/
def CancelChildOrderRequest.byId (product : ProductCode) (type : IdType) (id : String) :
    Except RequestFault CancelChildOrderRequest :=
  match type with
  | .childOrderId => .ok ⟨product, some id, none⟩
  | .childOrderAcceptanceId => .ok ⟨product, none, some id⟩
  | other => .error (.cancelChildBy other)

/-- Looks up every order of a product. -/
def GetChildOrdersRequest.ofProduct (product : ProductCode) : GetChildOrdersRequest :=
  ⟨product, .all, none, none, none, none⟩

/-- Looks up the orders with an identifier. -/
def GetChildOrdersRequest.byId (product : ProductCode) (type : IdType) (id : String) :
    Except RequestFault GetChildOrdersRequest :=
  let request := ofProduct product
  match type with
  | .childOrderId => .ok { request with childOrderId := some id }
  | .childOrderAcceptanceId => .ok { request with childOrderAcceptanceId := some id }
  | .parentOrderId => .ok { request with parentOrderId := some id }
  | .parentOrderAcceptanceId => .error .childOrdersByParentAcceptance

/-- Looks up the account's executions of a product. -/
def GetMyExecutionsRequest.ofProduct (product : ProductCode) (page : Pagination) :
    GetMyExecutionsRequest :=
  ⟨product, page, none, none⟩

/-- Looks up the executions of the order with an identifier. -/
def GetMyExecutionsRequest.byId (product : ProductCode) (type : IdType) (id : String) :
    Except RequestFault GetMyExecutionsRequest :=
  let request := ofProduct product .all
  match type with
  | .childOrderId => .ok { request with childOrderId := some id }
  | .childOrderAcceptanceId => .ok { request with childOrderAcceptanceId := some id }
  | other => .error (.executionsBy other)

namespace ParentOrderParameter

/-- A leg with a condition and no prices. -/
def ofCondition (product : ProductCode) (condition : ConditionType) (side : Side)
    (size : Decimal) : ParentOrderParameter :=
  ⟨product, condition, side, none, size, none, none⟩

/-- A leg at a price or better. -/
def limit (product : ProductCode) (side : Side) (price size : Decimal) : ParentOrderParameter :=
  { ofCondition product .limit side size with price := some price }

/-- A leg at whatever price there is. -/
def market (product : ProductCode) (side : Side) (size : Decimal) : ParentOrderParameter :=
  ofCondition product .market side size

/-- A leg at whatever price there is, once the price crosses the trigger. -/
def stop (product : ProductCode) (side : Side) (trigger size : Decimal) : ParentOrderParameter :=
  { ofCondition product .stop side size with triggerPrice := some trigger }

/-- A leg at a price or better, once the price crosses the trigger. -/
def stopLimit (product : ProductCode) (side : Side) (price trigger size : Decimal) :
    ParentOrderParameter :=
  { ofCondition product .stopLimit side size with
    price := some price, triggerPrice := some trigger }

/-- A leg that follows the price at a distance. -/
def trail (product : ProductCode) (side : Side) (offset size : Decimal) : ParentOrderParameter :=
  { ofCondition product .trail side size with offset := some offset }

end ParentOrderParameter

/-- A parent order with the legs that its method takes. -/
def SendParentOrderRequest.ofLegs (method : OrderMethod) (legs : List ParentOrderParameter) :
    Except RequestFault SendParentOrderRequest :=
  if legs.length = method.legCount then .ok ⟨method, none, none, legs⟩
  else .error (.legCount method legs.length)

/-- The two identifiers of a parent order, one of them set. -/
def parentIds (type : IdType) (id : String) :
    Except RequestFault (Option String × Option String) :=
  match type with
  | .parentOrderId => .ok (some id, none)
  | .parentOrderAcceptanceId => .ok (none, some id)
  | other => .error (.parentBy other)

/-- Cancels the parent order with an identifier. -/
def CancelParentOrderRequest.byId (product : ProductCode) (type : IdType) (id : String) :
    Except RequestFault CancelParentOrderRequest :=
  (parentIds type id).map fun (orderId, acceptanceId) => ⟨product, orderId, acceptanceId⟩

/-- Looks up every parent order of a product. -/
def GetParentOrdersRequest.ofProduct (product : ProductCode) : GetParentOrdersRequest :=
  ⟨product, .all, none⟩

/-- Looks up the parent order with an identifier. -/
def GetParentOrderRequest.byId (type : IdType) (id : String) :
    Except RequestFault GetParentOrderRequest :=
  (parentIds type id).map fun (orderId, acceptanceId) => ⟨orderId, acceptanceId⟩

end ExchangeClient
