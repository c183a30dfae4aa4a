import ExchangeClient.Proofs.Rest.Unambiguous
import ExchangeClient.Proofs.Url.Form

/-!
# A target says which call it is for

The parameters of a call that asks for something go into the query of its target.  What a reader
should find there is listed by `Call.queryFields`: the names of the fields in the order in which
they are declared, the three of a page where the page is declared, each with the text of its value
or with nothing.  The query is made in another way, from the members of an object; it has a pair for
each field that is set and for no other (`Call.query_eq`).

Since a query is read back as its pairs, whatever signs the texts in it contain, the target of a
request says what the call is: its path tells the kind of the call, which tells the names of the
fields, and from names and pairs the values can be told, for no two values are written as the same
text (`Client.query_read_back`).
-/

namespace ExchangeClient

/-! ## What a query should say -/

/-- The fields that are set, each with the text of its value. -/
def setPairs (fields : List (String × Option String)) : List (String × String) :=
  fields.filterMap fun (name, value) => value.map (name, ·)

/-- The fields of a page. -/
def Pagination.queryFields (page : Pagination) : List (String × Option String) :=
  [("count", page.count.map toString), ("before", page.before.map toString),
    ("after", page.after.map toString)]

/-- The fields of a look-up of orders. -/
def GetChildOrdersRequest.queryFields (request : GetChildOrdersRequest) :
    List (String × Option String) :=
  [("product_code", some request.productCode)] ++ request.pagination.queryFields ++
    [("child_order_state", request.childOrderState.map OrderState.name),
      ("child_order_id", request.childOrderId),
      ("child_order_acceptance_id", request.childOrderAcceptanceId),
      ("parent_order_id", request.parentOrderId)]

/-- The fields of a look-up of parent orders. -/
def GetParentOrdersRequest.queryFields (request : GetParentOrdersRequest) :
    List (String × Option String) :=
  [("product_code", some request.productCode)] ++ request.pagination.queryFields ++
    [("parent_order_state", request.parentOrderState.map OrderState.name)]

/-- The fields of the look-up of one parent order. -/
def GetParentOrderRequest.queryFields (request : GetParentOrderRequest) :
    List (String × Option String) :=
  [("parent_order_id", request.parentOrderId),
    ("parent_order_acceptance_id", request.parentOrderAcceptanceId)]

/-- The fields of a look-up of the account's own executions. -/
def GetMyExecutionsRequest.queryFields (request : GetMyExecutionsRequest) :
    List (String × Option String) :=
  [("product_code", some request.productCode)] ++ request.pagination.queryFields ++
    [("child_order_id", request.childOrderId),
      ("child_order_acceptance_id", request.childOrderAcceptanceId)]

/-- The fields of a call that go into its query. -/
def Call.queryFields : Call → List (String × Option String)
  | .board product | .ticker product | .boardState product | .health product
  | .positions product | .tradingCommission product => [("product_code", some product)]
  | .executions product page => ("product_code", some product) :: page.queryFields
  | .chats fromDate => [("from_date", fromDate)]
  | .collateralHistory page => page.queryFields
  | .balanceHistory currency page => ("currency_code", some currency) :: page.queryFields
  | .childOrders request => request.queryFields
  | .parentOrders request => request.queryFields
  | .parentOrder request => request.queryFields
  | .myExecutions request => request.queryFields
  | .markets | .permissions | .balance | .collateral | .collateralAccounts
  | .sendChildOrder _ | .cancelChildOrder _ | .cancelAllChildOrders _ | .sendParentOrder _
  | .cancelParentOrder _ => []

section SetPairs

variable {fields fields' : List (String × Option String)}

@[simp] theorem setPairs_cons_none (name : String) :
    setPairs ((name, none) :: fields) = setPairs fields := rfl

@[simp] theorem setPairs_cons_some (name text : String) :
    setPairs ((name, some text) :: fields) = (name, text) :: setPairs fields := rfl

theorem setPairs_append : setPairs (fields ++ fields') = setPairs fields ++ setPairs fields' :=
  List.filterMap_append

theorem setPairs_eq_nil_iff : setPairs fields = [] ↔ ∀ field ∈ fields, field.2 = none := by
  simp [setPairs]

theorem mem_names_of_mem_setPairs {pair : String × String} (h : pair ∈ setPairs fields) :
    pair.1 ∈ fields.map Prod.fst := by
  obtain ⟨field, hfield, heq⟩ := List.mem_filterMap.mp h
  obtain ⟨_, -, rfl⟩ := Option.map_eq_some_iff.mp heq
  exact List.mem_map_of_mem hfield

/-- The fields can be told from the pairs of those that are set, if the names of all are known and
none is given twice. -/
theorem setPairs_inj (hnames : fields.map Prod.fst = fields'.map Prod.fst)
    (hnodup : (fields.map Prod.fst).Nodup) (hpairs : setPairs fields = setPairs fields') :
    fields = fields' := by
  induction fields generalizing fields' with
  | nil => exact (List.map_eq_nil_iff.mp hnames.symm).symm
  | cons field fields ih =>
    obtain ⟨field', fields', rfl⟩ : ∃ field' others, fields' = field' :: others := by
      cases fields' with
      | nil => cases hnames
      | cons field' others => exact ⟨field', others, rfl⟩
    obtain ⟨name, value⟩ := field
    obtain ⟨name', value'⟩ := field'
    obtain ⟨rfl, hrest⟩ : name = name' ∧ fields.map Prod.fst = fields'.map Prod.fst :=
      List.cons.inj hnames
    obtain ⟨hnotMem, hothers⟩ : name ∉ fields.map Prod.fst ∧ (fields.map Prod.fst).Nodup :=
      List.nodup_cons.mp hnodup
    cases value with
    | none =>
      cases value' with
      | none => rw [ih hrest hothers hpairs]
      -- A pair of this name among those of the other fields would give the name twice.
      | some text' =>
        rw [setPairs_cons_none, setPairs_cons_some] at hpairs
        exact absurd (mem_names_of_mem_setPairs (hpairs ▸ List.mem_cons_self)) hnotMem
    | some text =>
      cases value' with
      | none =>
        rw [setPairs_cons_none, setPairs_cons_some] at hpairs
        exact absurd (mem_names_of_mem_setPairs (hpairs ▸ List.mem_cons_self)) (hrest ▸ hnotMem)
      | some text' =>
        obtain ⟨hpair, hpairs⟩ := List.cons.inj hpairs
        rw [ih hrest hothers hpairs, (Prod.mk.inj hpair).2]

end SetPairs

/-! ## What a query says -/

/-- What the value of a member is sent as in a query, if it is sent. -/
def Json.queryText? : Json → Option String
  | .string s => some s
  | .number n => some (String.ofList n.chars)
  | _ => none

theorem queryPairs_eq_setPairs (members : List (String × Json)) :
    queryPairs members = setPairs (members.map fun m => (m.1, m.2.queryText?)) := by
  fun_induction queryPairs members with
  | case1 => rfl
  | case2 key s rest ih => rw [ih]; rfl
  | case3 key n rest ih => rw [ih]; rfl
  | case4 member rest hstring hnumber ih =>
    obtain ⟨key, value⟩ := member
    rw [ih]
    cases value with
    | string s => exact absurd rfl (hstring key s)
    | number n => exact absurd rfl (hnumber key n)
    | null | bool | array | object => rfl

/-- The fields of a record, those of a group where the group is declared. -/
def Fields.queryFields : (fields : Fields) → fields.Value → List (String × Option String)
  | .nil, _ => []
  | .cons key _ shape rest, (v, vs) => (key, (shape.encode v).queryText?) :: rest.queryFields vs
  | .embed group rest, (v, vs) => group.queryFields v ++ rest.queryFields vs

/-- What is none is written as null. -/
theorem Shape.queryText?_of_isNone {s : Shape} {v : s.Value} (h : s.isNone v = true) :
    (s.encode v).queryText? = none := by
  cases s with
  | optional inner =>
    cases v with
    | none => rfl
    | some v => cases h
  | text | integer | decimal | quantity | choice | any | list | record => cases h

/-- A record has a pair for each field that is set: a member that is left out would not have been
sent. -/
theorem Fields.queryPairs_encode (fields : Fields) (v : fields.Value) :
    queryPairs (fields.encode v) = setPairs (fields.queryFields v) := by
  fun_induction Fields.queryFields fields v with
  | case1 => rfl
  | case2 key presence shape rest v vs ih =>
    rw [queryPairs_eq_setPairs] at ih ⊢
    rw [Fields.encode]
    split
    · rename_i hhidden
      rw [Shape.queryText?_of_isNone (Bool.and_eq_true _ _ ▸ hhidden).2, ih]
      rfl
    · rw [List.map_cons, ← List.singleton_append, setPairs_append, ih, ← setPairs_append]
      rfl
  | case3 group rest v vs ihgroup ih =>
    rw [queryPairs_eq_setPairs] at ihgroup ih ⊢
    rw [Fields.encode, List.map_append, setPairs_append, setPairs_append, ihgroup, ih]

/-! ## The texts of values -/

namespace Json

/-- A whole number is written in decimal notation. -/
theorem ofList_wholeChars (n : Int) : String.ofList (wholeChars n) = toString n := by
  rw [Int.toString_eq_repr, Int.repr_eq_if, wholeChars]
  by_cases h : n < 0
  · have habs : (-n).toNat = n.natAbs := by omega
    rw [if_pos h, if_neg (by omega), String.ofList_append, Nat.repr_eq_ofList_toDigits, habs]
  · have habs : n.toNat = n.natAbs := by omega
    rw [if_neg h, if_pos (by omega), List.nil_append, Nat.repr_eq_ofList_toDigits, habs]

/-- No two numbers are written alike. -/
theorem wholeChars_injective : Function.Injective wholeChars := by
  have hdigits {k l : Nat} (h : Nat.toDigits 10 k = Nat.toDigits 10 l) : k = l := by
    rw [← Nat.ofDigitChars_ten_toDigits (n := k), h, Nat.ofDigitChars_ten_toDigits]
  have hsign (k : Nat) : '-' ∉ Nat.toDigits 10 k := fun h =>
    absurd (Nat.isDigit_of_mem_toDigits (by decide) (by decide) h) (by decide)
  intro n m h
  unfold wholeChars at h
  by_cases hn : n < 0
  · by_cases hm : m < 0
    · rw [if_pos hn, if_pos hm] at h
      have := hdigits (List.append_cancel_left h)
      omega
    · rw [if_pos hn, if_neg hm, List.nil_append] at h
      exact absurd (h ▸ List.mem_cons_self) (hsign m.natAbs)
  · by_cases hm : m < 0
    · rw [if_neg hn, if_pos hm, List.nil_append] at h
      exact absurd (h ▸ List.mem_cons_self) (hsign n.natAbs)
    · rw [if_neg hn, if_neg hm] at h
      have := hdigits h
      omega

theorem toString_injective : Function.Injective (toString : Int → String) := by
  intro n m h
  rw [← ofList_wholeChars, ← ofList_wholeChars] at h
  exact wholeChars_injective (String.ofList_injective h)

end Json

theorem toString_unsigned32_injective : Function.Injective (toString : UInt32 → String) := by
  intro n m h
  exact UInt32.toNat_inj.mp (Int.ofNat.inj (Json.toString_injective h))

theorem toString_signed64_injective : Function.Injective (toString : Int64 → String) := by
  intro n m h
  exact Int64.toInt_inj.mp (Json.toString_injective h)

theorem OrderState.name_injective : Function.Injective OrderState.name := by
  intro s t h
  cases s <;> cases t <;> first | rfl | exact absurd h (by decide)

namespace Shape

@[simp] theorem queryText?_optional_text (s : Option String) :
    ((Shape.optional .text).encode s).queryText? = s := by
  cases s <;> rfl

@[simp] theorem queryText?_optional_unsigned32 (n : Option UInt32) :
    ((Shape.optional (.integer .unsigned32)).encode n).queryText? = n.map toString := by
  cases n with
  | none => rfl
  | some n => exact congrArg some (Json.ofList_wholeChars n.toNat)

@[simp] theorem queryText?_optional_signed64 (n : Option Int64) :
    ((Shape.optional (.integer .signed64)).encode n).queryText? = n.map toString := by
  cases n with
  | none => rfl
  | some n => exact congrArg some (Json.ofList_wholeChars n.toInt)

@[simp] theorem queryText?_optional_orderState (s : Option OrderState) :
    ((Shape.optional (Wire.shape OrderState)).encode (s.map Wire.toValue)).queryText? =
      s.map OrderState.name := by
  cases s with
  | none => rfl
  | some s => cases s <;> rfl

end Shape

/-! ## The query of a call -/

theorem Pagination.queryFields_toGroup (page : Pagination) :
    Pagination.fields.queryFields page.toGroup = page.queryFields := by
  simp [Fields.queryFields, Pagination.toGroup, Pagination.queryFields]

namespace Call

/-- **The query of a call has a pair for each field that is set**, and for no other. -/
theorem query_eq (call : Call) : call.query = setPairs call.queryFields := by
  have hpage (page : Pagination) : pagePairs page = setPairs page.queryFields := by
    rw [pagePairs, Fields.queryPairs_encode, Pagination.queryFields_toGroup]
  cases call with
  | executions product page => exact congrArg (("product_code", product) :: ·) (hpage page)
  | collateralHistory page => exact hpage page
  | balanceHistory currency page => exact congrArg (("currency_code", currency) :: ·) (hpage page)
  | chats fromDate => cases fromDate <;> rfl
  -- The fields of a request, each with the text that its shape gives it.
  | childOrders request =>
    rw [queryFields, GetChildOrdersRequest.queryFields, ← Pagination.queryFields_toGroup,
      ← Shape.queryText?_optional_orderState, ← Shape.queryText?_optional_text request.childOrderId,
      ← Shape.queryText?_optional_text request.childOrderAcceptanceId,
      ← Shape.queryText?_optional_text request.parentOrderId]
    exact Fields.queryPairs_encode _ _
  | parentOrders request =>
    rw [queryFields, GetParentOrdersRequest.queryFields, ← Pagination.queryFields_toGroup,
      ← Shape.queryText?_optional_orderState]
    exact Fields.queryPairs_encode _ _
  | parentOrder request =>
    rw [queryFields, GetParentOrderRequest.queryFields,
      ← Shape.queryText?_optional_text request.parentOrderId,
      ← Shape.queryText?_optional_text request.parentOrderAcceptanceId]
    exact Fields.queryPairs_encode _ _
  | myExecutions request =>
    rw [queryFields, GetMyExecutionsRequest.queryFields, ← Pagination.queryFields_toGroup,
      ← Shape.queryText?_optional_text request.childOrderId,
      ← Shape.queryText?_optional_text request.childOrderAcceptanceId]
    exact Fields.queryPairs_encode _ _
  | _ => rfl

end Call

/-! ## The call from its path and its query -/

/-- The texts of what is optional tell what it is. -/
theorem map_toString_unsigned32_inj {n m : Option UInt32} :
    n.map toString = m.map toString ↔ n = m :=
  (Option.map_injective toString_unsigned32_injective).eq_iff

theorem map_toString_signed64_inj {n m : Option Int64} :
    n.map toString = m.map toString ↔ n = m :=
  (Option.map_injective toString_signed64_injective).eq_iff

theorem OrderState.map_name_inj {s t : Option OrderState} :
    s.map OrderState.name = t.map OrderState.name ↔ s = t :=
  (Option.map_injective OrderState.name_injective).eq_iff

theorem Pagination.queryFields_injective : Function.Injective Pagination.queryFields := by
  rintro ⟨count, before, after⟩ ⟨count', before', after'⟩ h
  simpa [queryFields, map_toString_unsigned32_inj, map_toString_signed64_inj] using h

/-- A product, a page and what stands behind them can be told apart. -/
theorem product_page_inj {product product' : ProductCode} {page page' : Pagination}
    {fields fields' : List (String × Option String)}
    (h : [("product_code", some product)] ++ page.queryFields ++ fields =
      [("product_code", some product')] ++ page'.queryFields ++ fields')
    (hlength : fields.length = fields'.length) :
    product = product' ∧ page = page' ∧ fields = fields' := by
  obtain ⟨hfront, hfields⟩ := List.append_inj' h hlength
  obtain ⟨hproduct, hpage⟩ := List.append_inj hfront rfl
  exact ⟨by simpa using hproduct, Pagination.queryFields_injective hpage, hfields⟩

theorem GetChildOrdersRequest.queryFields_injective :
    Function.Injective GetChildOrdersRequest.queryFields := by
  rintro ⟨product, page, state, id, acceptance, parent⟩
    ⟨product', page', state', id', acceptance', parent'⟩ h
  obtain ⟨rfl, rfl, hrest⟩ := product_page_inj h rfl
  simpa [OrderState.map_name_inj] using hrest

theorem GetParentOrdersRequest.queryFields_injective :
    Function.Injective GetParentOrdersRequest.queryFields := by
  rintro ⟨product, page, state⟩ ⟨product', page', state'⟩ h
  obtain ⟨rfl, rfl, hrest⟩ := product_page_inj h rfl
  simpa [OrderState.map_name_inj] using hrest

theorem GetParentOrderRequest.queryFields_injective :
    Function.Injective GetParentOrderRequest.queryFields := by
  rintro ⟨id, acceptance⟩ ⟨id', acceptance'⟩ h
  simpa [queryFields] using h

theorem GetMyExecutionsRequest.queryFields_injective :
    Function.Injective GetMyExecutionsRequest.queryFields := by
  rintro ⟨product, page, id, acceptance⟩ ⟨product', page', id', acceptance'⟩ h
  obtain ⟨rfl, rfl, hrest⟩ := product_page_inj h rfl
  simpa using hrest

namespace Call

/-- No call has two fields of one name. -/
theorem nodup_queryFields (call : Call) : (call.queryFields.map Prod.fst).Nodup := by
  cases call <;> simp [queryFields, Pagination.queryFields, GetChildOrdersRequest.queryFields,
    GetParentOrdersRequest.queryFields, GetParentOrderRequest.queryFields,
    GetMyExecutionsRequest.queryFields]

/-- Calls of different kinds have different paths. -/
theorem ctorIdx_of_path {call call' : Call} (h : call.path = call'.path) :
    call.ctorIdx = call'.ctorIdx := by
  cases call <;> cases call' <;> first | rfl | simp [path] at h

/-- A call that is made with `GET` can be told from its path and the pairs of its query. -/
theorem eq_of_path_of_pairs {call call' : Call} (hmethod : call.method = .get)
    (hpath : call.path = call'.path)
    (hpairs : setPairs call.queryFields = setPairs call'.queryFields) : call = call' := by
  have hfields (hnames : call.queryFields.map Prod.fst = call'.queryFields.map Prod.fst) :
      call.queryFields = call'.queryFields :=
    setPairs_inj hnames call.nodup_queryFields hpairs
  have hkind := ctorIdx_of_path hpath
  cases call <;> cases call' <;> cases hkind
  case sendChildOrder.sendChildOrder | cancelChildOrder.cancelChildOrder
      | cancelAllChildOrders.cancelAllChildOrders | sendParentOrder.sendParentOrder
      | cancelParentOrder.cancelParentOrder => cases hmethod
  case markets.markets | permissions.permissions | balance.balance | collateral.collateral
      | collateralAccounts.collateralAccounts => rfl
  case board.board | ticker.ticker | boardState.boardState | health.health
      | positions.positions | tradingCommission.tradingCommission =>
    simpa [queryFields] using hfields rfl
  case executions.executions product page product' page' =>
    obtain ⟨hproduct, hpage⟩ := List.cons.inj (hfields rfl)
    rw [Pagination.queryFields_injective hpage, Option.some.inj (Prod.mk.inj hproduct).2]
  case chats.chats fromDate fromDate' => simpa [queryFields] using hfields rfl
  case collateralHistory.collateralHistory page page' =>
    rw [Pagination.queryFields_injective (hfields rfl)]
  case balanceHistory.balanceHistory currency page currency' page' =>
    obtain ⟨hcurrency, hpage⟩ := List.cons.inj (hfields rfl)
    rw [Pagination.queryFields_injective hpage, Option.some.inj (Prod.mk.inj hcurrency).2]
  case childOrders.childOrders request request' =>
    rw [GetChildOrdersRequest.queryFields_injective (hfields rfl)]
  case parentOrders.parentOrders request request' =>
    rw [GetParentOrdersRequest.queryFields_injective (hfields rfl)]
  case parentOrder.parentOrder request request' =>
    rw [GetParentOrderRequest.queryFields_injective (hfields rfl)]
  case myExecutions.myExecutions request request' =>
    rw [GetMyExecutionsRequest.queryFields_injective (hfields rfl)]

/-- No path contains a question mark. -/
theorem notMem_path (base : Url) (call : Call) : '?' ∉ base.driveOf ++ call.path.toList := by
  obtain ⟨pieces, -, hpieces, hpath⟩ := call.exists_plain_path
  rw [List.mem_append, not_or]
  constructor
  · rcases base.driveOf_cases with hdrive | ⟨letter, hletter, -, hdrive⟩
    · simp [hdrive]
    · have hne : '?' ≠ letter := by
        rintro rfl
        exact absurd hletter (by decide)
      simp [hdrive, hne]
  · rw [hpath, List.mem_cons, not_or]
    refine ⟨by decide, fun hmem => ?_⟩
    rcases Text.mem_of_mem_joinPieces hmem with h | ⟨piece, hpiece, hc⟩
    · exact absurd h (by decide)
    · exact absurd ((hpieces piece hpiece).isAlphanum _ hc) (by decide)

/-- A target is cut into the path and what says which fields are set. -/
theorem exists_cut_target (base : Url) (call : Call) :
    ∃ behind, Text.cut '?' (call.target base) = (base.driveOf ++ call.path.toList, behind)
      ∧ Form.decode (behind.getD []) = setPairs call.queryFields := by
  have hpath := call.notMem_path base
  rw [target, ← call.query_eq]
  by_cases hquery : call.query = []
  · rw [if_pos hquery, List.append_nil, hquery]
    exact ⟨none, Text.cut_of_notMem hpath, rfl⟩
  · rw [if_neg hquery]
    exact ⟨some (Form.encode call.query), Text.cut_append hpath _, Form.decode_encode _⟩

theorem mem_target_iff (base : Url) (call : Call) :
    '?' ∈ call.target base ↔ ∃ field ∈ call.queryFields, field.2 ≠ none := by
  have hset : (∃ field ∈ call.queryFields, field.2 ≠ none) ↔ call.query ≠ [] := by
    rw [call.query_eq, ne_eq, setPairs_eq_nil_iff]
    push Not
    rfl
  rw [hset, target, List.mem_append, or_iff_right (call.notMem_path base)]
  by_cases hquery : call.query = []
  · simp [hquery]
  · simp [hquery]

end Call

namespace Client

variable {c : Client} {timestamp : String} {call : Call} {r : HttpRequest}

/-- **A query is read back as the fields of its call.**  Behind the first question mark of a target
stand the fields that are set, each with its name and the text of its value, in the order in which
they are declared, and no others; and there is no question mark if none is set.  So no two calls
that ask for different things have the same target. -/
theorem query_read_back (h : c.prepare timestamp call = .ok r) :
    (∃ behind, Text.cut '?' r.target = (c.baseUrl.driveOf ++ call.path.toList, behind)
        ∧ Form.decode (behind.getD []) = setPairs call.queryFields)
      ∧ ('?' ∈ r.target ↔ ∃ field ∈ call.queryFields, field.2 ≠ none)
      ∧ ∀ timestamp' call' r', c.prepare timestamp' call' = .ok r' → call.method = .get →
          r.target = r'.target → call = call' := by
  obtain ⟨-, htarget, -⟩ := prepare_eq_ok h
  obtain ⟨behind, hcut, hpairs⟩ := call.exists_cut_target c.baseUrl
  rw [htarget]
  refine ⟨⟨behind, hcut, hpairs⟩, call.mem_target_iff c.baseUrl,
    fun timestamp' call' r' h' hget heq => ?_⟩
  obtain ⟨-, htarget', -⟩ := prepare_eq_ok h'
  obtain ⟨behind', hcut', hpairs'⟩ := call'.exists_cut_target c.baseUrl
  rw [heq, htarget', hcut'] at hcut
  obtain ⟨hpath, rfl⟩ := Prod.mk.inj hcut
  have hpath : call.path = call'.path :=
    String.toList_injective (List.append_cancel_left hpath).symm
  exact Call.eq_of_path_of_pairs hget hpath (hpairs.symm.trans hpairs')

/-- The history of a currency whose name has every sign that a query is made with, in two pages
that differ in the field alone that a number is given to. -/
theorem query_read_back_signs :
    ∃ r r', signing.prepare "1" (.balanceHistory "円&=+%41 ?" ⟨some 10, none, some (-7)⟩) = .ok r
      ∧ signing.prepare "1" (.balanceHistory "円&=+%41 ?" ⟨some 10, some (-7), none⟩) = .ok r'
      ∧ (∃ behind, Text.cut '?' r.target = ("/v1/me/getbalancehistory".toList, behind)
          ∧ Form.decode (behind.getD []) =
              [("currency_code", "円&=+%41 ?"), ("count", "10"), ("after", "-7")])
      ∧ r.target ≠ r'.target := by
  have hgoes (page : Pagination) :
      ∃ r, signing.prepare "1" (.balanceHistory "円&=+%41 ?" page) = .ok r :=
    (exists_prepare_iff rfl).mpr
      ⟨rfl, ⟨"key", "secret"⟩, rfl, by decide +kernel, by decide +kernel⟩
  obtain ⟨r, hr⟩ := hgoes ⟨some 10, none, some (-7)⟩
  obtain ⟨r', hr'⟩ := hgoes ⟨some 10, some (-7), none⟩
  obtain ⟨hfields, -, htargets⟩ := query_read_back hr
  refine ⟨r, r', hr, hr', hfields, fun heq => ?_⟩
  have hcalls := htargets _ _ _ hr' rfl heq
  simp at hcalls

end Client

end ExchangeClient
