import ExchangeClient.Account.Data
import ExchangeClient.Market.Data
import ExchangeClient.Rest.Http

/-!
# Calls

What can be asked of the exchange.  `Call` has a constructor for each call with its
parameters; five functions say everything else about a call: whether it needs a
key, its method and path, the pairs of its query, its body, and the shape of its
answer.  Parameters go into the query of a `GET` and into the body of a `POST`.
-/

namespace ExchangeClient

/-- A call. -/
inductive Call where
  | markets
  | board (product : ProductCode)
  | ticker (product : ProductCode)
  | executions (product : ProductCode) (page : Pagination)
  | boardState (product : ProductCode)
  | health (product : ProductCode)
  /-- The public chat from a date on, or of the last days. -/
  | chats (fromDate : Option String)
  | permissions
  | balance
  | collateral
  | collateralAccounts
  | positions (product : ProductCode)
  | tradingCommission (product : ProductCode)
  | collateralHistory (page : Pagination)
  | balanceHistory (currency : CurrencyCode) (page : Pagination)
  | childOrders (request : GetChildOrdersRequest)
  | parentOrders (request : GetParentOrdersRequest)
  | parentOrder (request : GetParentOrderRequest)
  | myExecutions (request : GetMyExecutionsRequest)
  | sendChildOrder (request : SendChildOrderRequest)
  | cancelChildOrder (request : CancelChildOrderRequest)
  | cancelAllChildOrders (product : ProductCode)
  | sendParentOrder (request : SendParentOrderRequest)
  | cancelParentOrder (request : CancelParentOrderRequest)

namespace Call

/-- Whether a call is about the account that makes it. -/
def isPrivate : Call → Bool
  | .markets | .board _ | .ticker _ | .executions _ _ | .boardState _ | .health _
  | .chats _ => false
  | _ => true

/-- The method of a call. -/
def method : Call → HttpMethod
  | .sendChildOrder _ | .cancelChildOrder _ | .cancelAllChildOrders _ | .sendParentOrder _
  | .cancelParentOrder _ => .post
  | _ => .get

/-- The path of a call. -/
def path : Call → String
  | .markets => "/v1/getmarkets"
  | .board _ => "/v1/getboard"
  | .ticker _ => "/v1/getticker"
  | .executions _ _ => "/v1/getexecutions"
  | .boardState _ => "/v1/getboardstate"
  | .health _ => "/v1/gethealth"
  | .chats _ => "/v1/getchats"
  | .permissions => "/v1/me/getpermissions"
  | .balance => "/v1/me/getbalance"
  | .collateral => "/v1/me/getcollateral"
  | .collateralAccounts => "/v1/me/getcollateralaccounts"
  | .positions _ => "/v1/me/getpositions"
  | .tradingCommission _ => "/v1/me/gettradingcommission"
  | .collateralHistory _ => "/v1/me/getcollateralhistory"
  | .balanceHistory _ _ => "/v1/me/getbalancehistory"
  | .childOrders _ => "/v1/me/getchildorders"
  | .parentOrders _ => "/v1/me/getparentorders"
  | .parentOrder _ => "/v1/me/getparentorder"
  | .myExecutions _ => "/v1/me/getexecutions"
  | .sendChildOrder _ => "/v1/me/sendchildorder"
  | .cancelChildOrder _ => "/v1/me/cancelchildorder"
  | .cancelAllChildOrders _ => "/v1/me/cancelallchildorders"
  | .sendParentOrder _ => "/v1/me/sendparentorder"
  | .cancelParentOrder _ => "/v1/me/cancelparentorder"

/-- The pairs of a page. -/
def pagePairs (page : Pagination) : List (String × String) :=
  queryPairs (Pagination.fields.encode page.toGroup)

/-- The pairs of a request that is sent as a query. -/
def requestPairs {α : Type} [Wire α] (request : α) : List (String × String) :=
  match Wire.toJson request with
  | .object members => queryPairs members
  | _ => []

/-- The pairs of the query of a call. -/
def query : Call → List (String × String)
  | .board product | .ticker product | .boardState product | .health product
  | .positions product | .tradingCommission product => [("product_code", product)]
  | .executions product page => ("product_code", product) :: pagePairs page
  | .chats (some date) => [("from_date", date)]
  | .collateralHistory page => pagePairs page
  | .balanceHistory currency page => ("currency_code", currency) :: pagePairs page
  | .childOrders request => requestPairs request
  | .parentOrders request => requestPairs request
  | .parentOrder request => requestPairs request
  | .myExecutions request => requestPairs request
  | _ => []

/-- The body of a call. -/
def body : Call → Option String
  | .sendChildOrder request => some (Wire.toText request)
  | .cancelChildOrder request => some (Wire.toText request)
  | .cancelAllChildOrders product => some (Wire.toText (⟨product⟩ : CancelAllChildOrdersRequest))
  | .sendParentOrder request => some (Wire.toText request)
  | .cancelParentOrder request => some (Wire.toText request)
  | _ => none

/-- The shape of the answer to a call; the answer to a cancellation is not read. -/
def answerShape : Call → Option Shape
  | .markets => some (Wire.shape (List Market))
  | .board _ => some (Wire.shape Board)
  | .ticker _ => some (Wire.shape Ticker)
  | .executions _ _ => some (Wire.shape (List Execution))
  | .boardState _ => some (Wire.shape BoardState)
  | .health _ => some (Wire.shape Health)
  | .chats _ => some (Wire.shape (List Chat))
  | .permissions => some (Wire.shape (List String))
  | .balance => some (Wire.shape (List Balance))
  | .collateral => some (Wire.shape Collateral)
  | .collateralAccounts => some (Wire.shape (List CollateralAccount))
  | .positions _ => some (Wire.shape (List Position))
  | .tradingCommission _ => some (Wire.shape TradingCommission)
  | .collateralHistory _ => some (Wire.shape (List CollateralHistory))
  | .balanceHistory _ _ => some (Wire.shape (List BalanceHistory))
  | .childOrders _ => some (Wire.shape (List ChildOrder))
  | .parentOrders _ => some (Wire.shape (List ParentOrder))
  | .parentOrder _ => some (Wire.shape ParentOrderDetail)
  | .myExecutions _ => some (Wire.shape (List MyExecution))
  | .sendChildOrder _ => some (Wire.shape SendChildOrderResponse)
  | .sendParentOrder _ => some (Wire.shape SendParentOrderResponse)
  | .cancelChildOrder _ | .cancelAllChildOrders _ | .cancelParentOrder _ => none

end Call
end ExchangeClient
