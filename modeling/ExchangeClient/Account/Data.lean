import ExchangeClient.Order.Request

/-!
# Account data

What the exchange tells the owner of an account: balances and collateral with
their histories, open positions, orders and their executions.
-/

namespace ExchangeClient

/-- The balance of a currency. -/
structure Balance where
  currencyCode : String
  amount : Decimal
  available : Decimal

instance : Wire Balance where
  shape := .record "Balance" <|
    .cons "currency_code" .required .text <|
    .cons "amount" .required .decimal <|
    .cons "available" .required .decimal <|
    .nil
  toValue x := (x.currencyCode, x.amount, x.available, ())
  ofValue := fun (currencyCode, amount, available, _) =>
    ⟨currencyCode, amount, available⟩
  ofValue_toValue _ := rfl
  toValue_ofValue _ := rfl

/-- The collateral behind open positions. -/
structure Collateral where
  collateral : Decimal
  openPositionPnl : Decimal
  requireCollateral : Decimal
  keepRate : Decimal

instance : Wire Collateral where
  shape := .record "Collateral" <|
    .cons "collateral" .required .decimal <|
    .cons "open_position_pnl" .required .decimal <|
    .cons "require_collateral" .required .decimal <|
    .cons "keep_rate" .required .decimal <|
    .nil
  toValue x := (x.collateral, x.openPositionPnl, x.requireCollateral, x.keepRate, ())
  ofValue := fun (collateral, openPositionPnl, requireCollateral, keepRate, _) =>
    ⟨collateral, openPositionPnl, requireCollateral, keepRate⟩
  ofValue_toValue _ := rfl
  toValue_ofValue _ := rfl

/-- An open position. -/
structure Position where
  productCode : ProductCode
  side : Side
  price : Decimal
  size : Decimal
  commission : Decimal
  swapPointAccumulate : Decimal
  requireCollateral : Decimal
  openDate : String
  leverage : Decimal
  pnl : Decimal
  sfd : Decimal

instance : Wire Position where
  shape := .record "Position" <|
    .cons "product_code" .required .text <|
    .cons "side" .required (Wire.shape Side) <|
    .cons "price" .required .decimal <|
    .cons "size" .required .decimal <|
    .cons "commission" .required .decimal <|
    .cons "swap_point_accumulate" .required .decimal <|
    .cons "require_collateral" .required .decimal <|
    .cons "open_date" .required .text <|
    .cons "leverage" .required .decimal <|
    .cons "pnl" .required .decimal <|
    .cons "sfd" .defaulted .decimal <|
    .nil
  toValue x := (x.productCode, Wire.toValue x.side, x.price, x.size, x.commission,
    x.swapPointAccumulate, x.requireCollateral, x.openDate, x.leverage, x.pnl, x.sfd, ())
  ofValue := fun (productCode, side, price, size, commission, swapPointAccumulate,
    requireCollateral, openDate, leverage, pnl, sfd, _) =>
    ⟨productCode, Wire.ofValue side, price, size, commission, swapPointAccumulate,
      requireCollateral, openDate, leverage, pnl, sfd⟩
  ofValue_toValue x := by simp [Wire.ofValue_toValue]
  toValue_ofValue _ := by simp [Wire.toValue_ofValue]

/-- A single order as listed. -/
structure ChildOrder where
  id : Int64
  childOrderId : String
  productCode : ProductCode
  side : Side
  childOrderType : OrderType
  price : Decimal
  averagePrice : Decimal
  size : Decimal
  childOrderState : OrderState
  expireDate : String
  childOrderDate : String
  childOrderAcceptanceId : String
  outstandingSize : Decimal
  cancelSize : Decimal
  executedSize : Decimal
  totalCommission : Decimal

instance : Wire ChildOrder where
  shape := .record "ChildOrder" <|
    .cons "id" .required (.integer .signed64) <|
    .cons "child_order_id" .required .text <|
    .cons "product_code" .required .text <|
    .cons "side" .required (Wire.shape Side) <|
    .cons "child_order_type" .required (Wire.shape OrderType) <|
    .cons "price" .defaulted .decimal <|
    .cons "average_price" .defaulted .decimal <|
    .cons "size" .required .decimal <|
    .cons "child_order_state" .required (Wire.shape OrderState) <|
    .cons "expire_date" .required .text <|
    .cons "child_order_date" .required .text <|
    .cons "child_order_acceptance_id" .required .text <|
    .cons "outstanding_size" .required .decimal <|
    .cons "cancel_size" .required .decimal <|
    .cons "executed_size" .required .decimal <|
    .cons "total_commission" .required .decimal <|
    .nil
  toValue x := (x.id, x.childOrderId, x.productCode, Wire.toValue x.side,
    Wire.toValue x.childOrderType, x.price, x.averagePrice, x.size,
    Wire.toValue x.childOrderState, x.expireDate, x.childOrderDate, x.childOrderAcceptanceId,
    x.outstandingSize, x.cancelSize, x.executedSize, x.totalCommission, ())
  ofValue := fun (id, childOrderId, productCode, side, childOrderType, price, averagePrice, size,
    childOrderState, expireDate, childOrderDate, childOrderAcceptanceId, outstandingSize,
    cancelSize, executedSize, totalCommission, _) =>
    ⟨id, childOrderId, productCode, Wire.ofValue side, Wire.ofValue childOrderType, price,
      averagePrice, size, Wire.ofValue childOrderState, expireDate, childOrderDate,
      childOrderAcceptanceId, outstandingSize, cancelSize, executedSize, totalCommission⟩
  ofValue_toValue x := by simp [Wire.ofValue_toValue]
  toValue_ofValue _ := by simp [Wire.toValue_ofValue]

/-- One of the account's own executions. -/
structure MyExecution where
  id : Int64
  childOrderId : String
  side : Side
  price : Decimal
  size : Decimal
  commission : Decimal
  execDate : String
  childOrderAcceptanceId : String

instance : Wire MyExecution where
  shape := .record "MyExecution" <|
    .cons "id" .required (.integer .signed64) <|
    .cons "child_order_id" .required .text <|
    .cons "side" .required (Wire.shape Side) <|
    .cons "price" .required .decimal <|
    .cons "size" .required .decimal <|
    .cons "commission" .defaulted .decimal <|
    .cons "exec_date" .required .text <|
    .cons "child_order_acceptance_id" .required .text <|
    .nil
  toValue x := (x.id, x.childOrderId, Wire.toValue x.side, x.price, x.size, x.commission,
    x.execDate, x.childOrderAcceptanceId, ())
  ofValue := fun (id, childOrderId, side, price, size, commission, execDate,
    childOrderAcceptanceId, _) =>
    ⟨id, childOrderId, Wire.ofValue side, price, size, commission, execDate,
      childOrderAcceptanceId⟩
  ofValue_toValue x := by simp [Wire.ofValue_toValue]
  toValue_ofValue _ := by simp [Wire.toValue_ofValue]

/-- A change of a balance. -/
structure BalanceHistory where
  id : Int64
  tradeDate : String
  productCode : Option ProductCode
  currencyCode : CurrencyCode
  tradeType : String
  price : Decimal
  amount : Decimal
  quantity : Decimal
  commission : Decimal
  balance : Decimal
  orderId : String

instance : Wire BalanceHistory where
  shape := .record "BalanceHistory" <|
    .cons "id" .required (.integer .signed64) <|
    .cons "trade_date" .required .text <|
    .cons "product_code" .defaulted (.optional .text) <|
    .cons "currency_code" .required .text <|
    .cons "trade_type" .required .text <|
    .cons "price" .defaulted .decimal <|
    .cons "amount" .required .decimal <|
    .cons "quantity" .defaulted .decimal <|
    .cons "commission" .defaulted .decimal <|
    .cons "balance" .required .decimal <|
    .cons "order_id" .defaulted .text <|
    .nil
  toValue x := (x.id, x.tradeDate, x.productCode, x.currencyCode, x.tradeType, x.price, x.amount,
    x.quantity, x.commission, x.balance, x.orderId, ())
  ofValue := fun (id, tradeDate, productCode, currencyCode, tradeType, price, amount, quantity,
    commission, balance, orderId, _) =>
    ⟨id, tradeDate, productCode, currencyCode, tradeType, price, amount, quantity, commission,
      balance, orderId⟩
  ofValue_toValue _ := rfl
  toValue_ofValue _ := rfl

/-- A change of the collateral. -/
structure CollateralHistory where
  id : Int64
  currencyCode : CurrencyCode
  change : Decimal
  amount : Decimal
  reasonCode : String
  date : String

instance : Wire CollateralHistory where
  shape := .record "CollateralHistory" <|
    .cons "id" .required (.integer .signed64) <|
    .cons "currency_code" .required .text <|
    .cons "change" .required .decimal <|
    .cons "amount" .required .decimal <|
    .cons "reason_code" .required .text <|
    .cons "date" .required .text <|
    .nil
  toValue x := (x.id, x.currencyCode, x.change, x.amount, x.reasonCode, x.date, ())
  ofValue := fun (id, currencyCode, change, amount, reasonCode, date, _) =>
    ⟨id, currencyCode, change, amount, reasonCode, date⟩
  ofValue_toValue _ := rfl
  toValue_ofValue _ := rfl

/-- The collateral held in one currency. -/
structure CollateralAccount where
  currencyCode : CurrencyCode
  amount : Decimal

instance : Wire CollateralAccount where
  shape := .record "CollateralAccount" <|
    .cons "currency_code" .required .text <|
    .cons "amount" .required .decimal <|
    .nil
  toValue x := (x.currencyCode, x.amount, ())
  ofValue := fun (currencyCode, amount, _) =>
    ⟨currencyCode, amount⟩
  ofValue_toValue _ := rfl
  toValue_ofValue _ := rfl

/-- The rate of commission on a product. -/
structure TradingCommission where
  commissionRate : Decimal

instance : Wire TradingCommission where
  shape := .record "TradingCommission" <|
    .cons "commission_rate" .required .decimal <|
    .nil
  toValue x := (x.commissionRate, ())
  ofValue := fun (commissionRate, _) =>
    ⟨commissionRate⟩
  ofValue_toValue _ := rfl
  toValue_ofValue _ := rfl

/-- A parent order as listed. -/
structure ParentOrder where
  id : Int64
  parentOrderId : String
  productCode : ProductCode
  side : String
  parentOrderType : String
  price : Decimal
  averagePrice : Decimal
  size : Decimal
  parentOrderState : OrderState
  expireDate : String
  parentOrderDate : String
  parentOrderAcceptanceId : String
  outstandingSize : Decimal
  cancelSize : Decimal
  executedSize : Decimal
  totalCommission : Decimal

instance : Wire ParentOrder where
  shape := .record "ParentOrder" <|
    .cons "id" .required (.integer .signed64) <|
    .cons "parent_order_id" .required .text <|
    .cons "product_code" .required .text <|
    .cons "side" .required .text <|
    .cons "parent_order_type" .required .text <|
    .cons "price" .defaulted .decimal <|
    .cons "average_price" .defaulted .decimal <|
    .cons "size" .required .decimal <|
    .cons "parent_order_state" .required (Wire.shape OrderState) <|
    .cons "expire_date" .required .text <|
    .cons "parent_order_date" .required .text <|
    .cons "parent_order_acceptance_id" .required .text <|
    .cons "outstanding_size" .required .decimal <|
    .cons "cancel_size" .required .decimal <|
    .cons "executed_size" .required .decimal <|
    .cons "total_commission" .required .decimal <|
    .nil
  toValue x := (x.id, x.parentOrderId, x.productCode, x.side, x.parentOrderType, x.price,
    x.averagePrice, x.size, Wire.toValue x.parentOrderState, x.expireDate, x.parentOrderDate,
    x.parentOrderAcceptanceId, x.outstandingSize, x.cancelSize, x.executedSize,
    x.totalCommission, ())
  ofValue := fun (id, parentOrderId, productCode, side, parentOrderType, price, averagePrice,
    size, parentOrderState, expireDate, parentOrderDate, parentOrderAcceptanceId,
    outstandingSize, cancelSize, executedSize, totalCommission, _) =>
    ⟨id, parentOrderId, productCode, side, parentOrderType, price, averagePrice, size,
      Wire.ofValue parentOrderState, expireDate, parentOrderDate, parentOrderAcceptanceId,
      outstandingSize, cancelSize, executedSize, totalCommission⟩
  ofValue_toValue x := by simp [Wire.ofValue_toValue]
  toValue_ofValue _ := by simp [Wire.toValue_ofValue]

/-- A parent order with its legs. -/
structure ParentOrderDetail where
  id : Int64
  parentOrderId : String
  orderMethod : OrderMethod
  minuteToExpire : Option UInt32
  timeInForce : Option TimeInForce
  parameters : List ParentOrderParameter

instance : Wire ParentOrderDetail where
  shape := .record "ParentOrderDetail" <|
    .cons "id" .required (.integer .signed64) <|
    .cons "parent_order_id" .required .text <|
    .cons "order_method" .required (Wire.shape OrderMethod) <|
    .cons "minute_to_expire" .defaulted (.optional (.integer .unsigned32)) <|
    .cons "time_in_force" .defaulted (.optional (Wire.shape TimeInForce)) <|
    .cons "parameters" .required (.list (Wire.shape ParentOrderParameter)) <|
    .nil
  toValue x := (x.id, x.parentOrderId, Wire.toValue x.orderMethod, x.minuteToExpire,
    x.timeInForce.map Wire.toValue, x.parameters.map Wire.toValue, ())
  ofValue := fun (id, parentOrderId, orderMethod, minuteToExpire, timeInForce, parameters, _) =>
    ⟨id, parentOrderId, Wire.ofValue orderMethod, minuteToExpire, timeInForce.map Wire.ofValue,
      parameters.map Wire.ofValue⟩
  ofValue_toValue x := by simp [Wire.ofValue_toValue, Function.comp_def]
  toValue_ofValue _ := by simp [Wire.toValue_ofValue, Function.comp_def]

end ExchangeClient
