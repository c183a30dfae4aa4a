import ExchangeClient.Order.Pagination

/-!
# Requests for orders

What a trader sends: a single order, a parent order with its legs, the cancelling
of either, and the look-ups of what became of them.  Prices and sizes of orders
are sent as numbers.
-/

namespace ExchangeClient

/-- A single order. -/
structure SendChildOrderRequest where
  productCode : ProductCode
  childOrderType : OrderType
  side : Side
  /-- The limit; a market order has none. -/
  price : Option Decimal
  size : Decimal
  minuteToExpire : Option UInt32
  timeInForce : Option TimeInForce

instance : Wire SendChildOrderRequest where
  shape := .record "SendChildOrderRequest" <|
    .cons "product_code" .required .text <|
    .cons "child_order_type" .required (Wire.shape OrderType) <|
    .cons "side" .required (Wire.shape Side) <|
    .cons "price" .trailing (.optional .quantity) <|
    .cons "size" .required .quantity <|
    .cons "minute_to_expire" .optional (.optional (.integer .unsigned32)) <|
    .cons "time_in_force" .optional (.optional (Wire.shape TimeInForce)) <|
    .nil
  toValue x := (x.productCode, Wire.toValue x.childOrderType, Wire.toValue x.side, x.price,
    x.size, x.minuteToExpire, x.timeInForce.map Wire.toValue, ())
  ofValue := fun (productCode, childOrderType, side, price, size, minuteToExpire, timeInForce,
    _) =>
    ⟨productCode, Wire.ofValue childOrderType, Wire.ofValue side, price, size, minuteToExpire,
      timeInForce.map Wire.ofValue⟩
  ofValue_toValue x := by simp [Wire.ofValue_toValue, Function.comp_def]
  toValue_ofValue _ := by simp [Wire.toValue_ofValue, Function.comp_def]

/-- The receipt of a single order. -/
structure SendChildOrderResponse where
  childOrderAcceptanceId : String

instance : Wire SendChildOrderResponse where
  shape := .record "SendChildOrderResponse" <|
    .cons "child_order_acceptance_id" .required .text <|
    .nil
  toValue x := (x.childOrderAcceptanceId, ())
  ofValue := fun (childOrderAcceptanceId, _) =>
    ⟨childOrderAcceptanceId⟩
  ofValue_toValue _ := rfl
  toValue_ofValue _ := rfl

/-- The cancelling of one order. -/
structure CancelChildOrderRequest where
  productCode : ProductCode
  childOrderId : Option String
  childOrderAcceptanceId : Option String

instance : Wire CancelChildOrderRequest where
  shape := .record "CancelChildOrderRequest" <|
    .cons "product_code" .required .text <|
    .cons "child_order_id" .optional (.optional .text) <|
    .cons "child_order_acceptance_id" .optional (.optional .text) <|
    .nil
  toValue x := (x.productCode, x.childOrderId, x.childOrderAcceptanceId, ())
  ofValue := fun (productCode, childOrderId, childOrderAcceptanceId, _) =>
    ⟨productCode, childOrderId, childOrderAcceptanceId⟩
  ofValue_toValue _ := rfl
  toValue_ofValue _ := rfl

/-- The cancelling of every order of a product. -/
structure CancelAllChildOrdersRequest where
  productCode : ProductCode

instance : Wire CancelAllChildOrdersRequest where
  shape := .record "CancelAllChildOrdersRequest" <|
    .cons "product_code" .required .text <|
    .nil
  toValue x := (x.productCode, ())
  ofValue := fun (productCode, _) =>
    ⟨productCode⟩
  ofValue_toValue _ := rfl
  toValue_ofValue _ := rfl

/-- A look-up of orders. -/
structure GetChildOrdersRequest where
  productCode : ProductCode
  pagination : Pagination
  childOrderState : Option OrderState
  childOrderId : Option String
  childOrderAcceptanceId : Option String
  parentOrderId : Option String

instance : Wire GetChildOrdersRequest where
  shape := .record "GetChildOrdersRequest" <|
    .cons "product_code" .required .text <|
    .embed Pagination.fields <|
    .cons "child_order_state" .optional (.optional (Wire.shape OrderState)) <|
    .cons "child_order_id" .optional (.optional .text) <|
    .cons "child_order_acceptance_id" .optional (.optional .text) <|
    .cons "parent_order_id" .optional (.optional .text) <|
    .nil
  toValue x := (x.productCode, x.pagination.toGroup, x.childOrderState.map Wire.toValue,
    x.childOrderId, x.childOrderAcceptanceId, x.parentOrderId, ())
  ofValue := fun (productCode, pagination, childOrderState, childOrderId, childOrderAcceptanceId,
    parentOrderId, _) =>
    ⟨productCode, Pagination.ofGroup pagination, childOrderState.map Wire.ofValue, childOrderId,
      childOrderAcceptanceId, parentOrderId⟩
  ofValue_toValue x := by simp [Wire.ofValue_toValue, Function.comp_def]
  toValue_ofValue _ := by simp [Wire.toValue_ofValue, Function.comp_def]

/-- A look-up of the account's own executions. -/
structure GetMyExecutionsRequest where
  productCode : ProductCode
  pagination : Pagination
  childOrderId : Option String
  childOrderAcceptanceId : Option String

instance : Wire GetMyExecutionsRequest where
  shape := .record "GetMyExecutionsRequest" <|
    .cons "product_code" .required .text <|
    .embed Pagination.fields <|
    .cons "child_order_id" .optional (.optional .text) <|
    .cons "child_order_acceptance_id" .optional (.optional .text) <|
    .nil
  toValue x := (x.productCode, x.pagination.toGroup, x.childOrderId, x.childOrderAcceptanceId, ())
  ofValue := fun (productCode, pagination, childOrderId, childOrderAcceptanceId, _) =>
    ⟨productCode, Pagination.ofGroup pagination, childOrderId, childOrderAcceptanceId⟩
  ofValue_toValue x := by simp
  toValue_ofValue _ := by simp

/-- One leg of a parent order. -/
structure ParentOrderParameter where
  productCode : ProductCode
  conditionType : ConditionType
  side : Side
  price : Option Decimal
  size : Decimal
  triggerPrice : Option Decimal
  offset : Option Decimal

instance : Wire ParentOrderParameter where
  shape := .record "ParentOrderParameter" <|
    .cons "product_code" .required .text <|
    .cons "condition_type" .required (Wire.shape ConditionType) <|
    .cons "side" .required (Wire.shape Side) <|
    .cons "price" .trailing (.optional .quantity) <|
    .cons "size" .required .quantity <|
    .cons "trigger_price" .trailing (.optional .quantity) <|
    .cons "offset" .trailing (.optional .quantity) <|
    .nil
  toValue x := (x.productCode, Wire.toValue x.conditionType, Wire.toValue x.side, x.price,
    x.size, x.triggerPrice, x.offset, ())
  ofValue := fun (productCode, conditionType, side, price, size, triggerPrice, offset, _) =>
    ⟨productCode, Wire.ofValue conditionType, Wire.ofValue side, price, size, triggerPrice,
      offset⟩
  ofValue_toValue x := by simp [Wire.ofValue_toValue]
  toValue_ofValue _ := by simp [Wire.toValue_ofValue]

/-- A parent order with its legs. -/
structure SendParentOrderRequest where
  orderMethod : OrderMethod
  minuteToExpire : Option UInt32
  timeInForce : Option TimeInForce
  parameters : List ParentOrderParameter

instance : Wire SendParentOrderRequest where
  shape := .record "SendParentOrderRequest" <|
    .cons "order_method" .required (Wire.shape OrderMethod) <|
    .cons "minute_to_expire" .optional (.optional (.integer .unsigned32)) <|
    .cons "time_in_force" .optional (.optional (Wire.shape TimeInForce)) <|
    .cons "parameters" .required (.list (Wire.shape ParentOrderParameter)) <|
    .nil
  toValue x := (Wire.toValue x.orderMethod, x.minuteToExpire, x.timeInForce.map Wire.toValue,
    x.parameters.map Wire.toValue, ())
  ofValue := fun (orderMethod, minuteToExpire, timeInForce, parameters, _) =>
    ⟨Wire.ofValue orderMethod, minuteToExpire, timeInForce.map Wire.ofValue,
      parameters.map Wire.ofValue⟩
  ofValue_toValue x := by simp [Wire.ofValue_toValue, Function.comp_def]
  toValue_ofValue _ := by simp [Wire.toValue_ofValue, Function.comp_def]

/-- The receipt of a parent order. -/
structure SendParentOrderResponse where
  parentOrderAcceptanceId : String

instance : Wire SendParentOrderResponse where
  shape := .record "SendParentOrderResponse" <|
    .cons "parent_order_acceptance_id" .required .text <|
    .nil
  toValue x := (x.parentOrderAcceptanceId, ())
  ofValue := fun (parentOrderAcceptanceId, _) =>
    ⟨parentOrderAcceptanceId⟩
  ofValue_toValue _ := rfl
  toValue_ofValue _ := rfl

/-- The cancelling of a parent order. -/
structure CancelParentOrderRequest where
  productCode : ProductCode
  parentOrderId : Option String
  parentOrderAcceptanceId : Option String

instance : Wire CancelParentOrderRequest where
  shape := .record "CancelParentOrderRequest" <|
    .cons "product_code" .required .text <|
    .cons "parent_order_id" .optional (.optional .text) <|
    .cons "parent_order_acceptance_id" .optional (.optional .text) <|
    .nil
  toValue x := (x.productCode, x.parentOrderId, x.parentOrderAcceptanceId, ())
  ofValue := fun (productCode, parentOrderId, parentOrderAcceptanceId, _) =>
    ⟨productCode, parentOrderId, parentOrderAcceptanceId⟩
  ofValue_toValue _ := rfl
  toValue_ofValue _ := rfl

/-- A look-up of parent orders. -/
structure GetParentOrdersRequest where
  productCode : ProductCode
  pagination : Pagination
  parentOrderState : Option OrderState

instance : Wire GetParentOrdersRequest where
  shape := .record "GetParentOrdersRequest" <|
    .cons "product_code" .required .text <|
    .embed Pagination.fields <|
    .cons "parent_order_state" .optional (.optional (Wire.shape OrderState)) <|
    .nil
  toValue x := (x.productCode, x.pagination.toGroup, x.parentOrderState.map Wire.toValue, ())
  ofValue := fun (productCode, pagination, parentOrderState, _) =>
    ⟨productCode, Pagination.ofGroup pagination, parentOrderState.map Wire.ofValue⟩
  ofValue_toValue x := by simp [Wire.ofValue_toValue, Function.comp_def]
  toValue_ofValue _ := by simp [Wire.toValue_ofValue, Function.comp_def]

/-- The look-up of one parent order with its legs. -/
structure GetParentOrderRequest where
  parentOrderId : Option String
  parentOrderAcceptanceId : Option String

instance : Wire GetParentOrderRequest where
  shape := .record "GetParentOrderRequest" <|
    .cons "parent_order_id" .optional (.optional .text) <|
    .cons "parent_order_acceptance_id" .optional (.optional .text) <|
    .nil
  toValue x := (x.parentOrderId, x.parentOrderAcceptanceId, ())
  ofValue := fun (parentOrderId, parentOrderAcceptanceId, _) =>
    ⟨parentOrderId, parentOrderAcceptanceId⟩
  ofValue_toValue _ := rfl
  toValue_ofValue _ := rfl

end ExchangeClient
