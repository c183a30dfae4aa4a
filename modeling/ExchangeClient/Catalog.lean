import ExchangeClient.Account.Data
import ExchangeClient.Market.Data
import ExchangeClient.Order.Request
import ExchangeClient.Stream.Control

/-!
# The catalogue

The shapes of everything that goes over the wire, by the names that messages about them
use.
-/

namespace ExchangeClient
namespace Catalog

/-- The named shapes. -/
def shapes : List (String × Shape) :=
  [("Decimal", Wire.shape Decimal), ("String", Wire.shape String),
   ("ProductCode", Wire.shape String), ("CurrencyCode", Wire.shape String),
   ("Market", Wire.shape Market), ("BoardLevel", Wire.shape BoardLevel),
   ("Board", Wire.shape Board), ("Ticker", Wire.shape Ticker),
   ("Execution", Wire.shape Execution), ("BoardState", Wire.shape BoardState),
   ("BoardStateData", Wire.shape BoardStateData),
   ("Health", Wire.shape Health), ("Balance", Wire.shape Balance),
   ("Collateral", Wire.shape Collateral), ("Position", Wire.shape Position),
   ("ChildOrder", Wire.shape ChildOrder), ("Chat", Wire.shape Chat),
   ("MyExecution", Wire.shape MyExecution), ("BalanceHistory", Wire.shape BalanceHistory),
   ("CollateralHistory", Wire.shape CollateralHistory),
   ("CollateralAccount", Wire.shape CollateralAccount),
   ("TradingCommission", Wire.shape TradingCommission),
   ("ParentOrder", Wire.shape ParentOrder), ("ParentOrderDetail", Wire.shape ParentOrderDetail),
   ("Pagination", Wire.shape Pagination),
   ("SendChildOrderRequest", Wire.shape SendChildOrderRequest),
   ("SendChildOrderResponse", Wire.shape SendChildOrderResponse),
   ("CancelChildOrderRequest", Wire.shape CancelChildOrderRequest),
   ("CancelAllChildOrdersRequest", Wire.shape CancelAllChildOrdersRequest),
   ("GetChildOrdersRequest", Wire.shape GetChildOrdersRequest),
   ("GetMyExecutionsRequest", Wire.shape GetMyExecutionsRequest),
   ("ParentOrderParameter", Wire.shape ParentOrderParameter),
   ("SendParentOrderRequest", Wire.shape SendParentOrderRequest),
   ("SendParentOrderResponse", Wire.shape SendParentOrderResponse),
   ("CancelParentOrderRequest", Wire.shape CancelParentOrderRequest),
   ("GetParentOrdersRequest", Wire.shape GetParentOrdersRequest),
   ("GetParentOrderRequest", Wire.shape GetParentOrderRequest),
   ("ControlFrame", Wire.shape ControlFrame), ("ChannelParams", Wire.shape ChannelParams),
   ("Side", Wire.shape Side), ("OrderType", Wire.shape OrderType),
   ("TimeInForce", Wire.shape TimeInForce), ("ChildOrderState", Wire.shape OrderState),
   ("OrderMethod", Wire.shape OrderMethod), ("ConditionType", Wire.shape ConditionType),
   ("ControlMethod", Wire.shape ControlMethod)]

/-- The shape with a name. -/
def shapeOf? (name : String) : Option Shape := shapes.lookup name

end Catalog
end ExchangeClient
