import ExchangeClient.Catalog
import ExchangeClient.Proofs.Schema.Covered
import ExchangeClient.Proofs.Schema.Revision
import ExchangeClient.Proofs.Text.Utf8
import ExchangeClient.Rest.Client

/-!
# Answers outlast revisions

An exchange may rearrange what it answers and notifies with, and add to it what it likes, and
every program that knew the answer before still reads the same (`answers_outlast_revisions`).
Revisions are of documents, and every text that is read is the text of one.

It may also leave out what says nothing, which is `Shape.IsIdle`: a null, an empty list or
string, a zero.  All that is lost then is how a zero was written.

Whatever is added is passed over without a look at what it says, but its key is looked at, so a
key that spells no string is refused.
-/

namespace ExchangeClient

open Json (Source Member Quoted Space Document)

/-! ## What may be left out -/

/-- Whether a value says nothing: a null, an empty list or string, or a zero. -/
def Shape.IsIdle : Shape → Source → Prop
  | .optional _, t => t = .null
  | .list _, .array items _ => items = []
  | .text, .string q => q.text? = some ""
  | .decimal, t => ∃ d, Schema.decimalOfJson t.seen = .ok d ∧ d.isZero = true
  | .quantity, t => ∃ d, Schema.decimalOfJson t.seen = .ok d ∧ d.isZero = true
  | _, _ => False

/-- Whether a decimal is still as it was, unless it was a zero and is now the zero without places
and without a sign. -/
def Decimal.FadesTo (d e : Decimal) : Prop :=
  e = d ∨ d.isZero = true ∧ e = .zero

theorem Decimal.fadesTo_trans (c d e : Decimal) (hcd : c.FadesTo d) (hde : d.FadesTo e) :
    c.FadesTo e := by
  rcases hcd with rfl | ⟨hc, rfl⟩
  · exact hde
  · rcases hde with rfl | ⟨-, rfl⟩ <;> exact .inr ⟨hc, rfl⟩

/-- What says nothing says what its absence says. -/
theorem hasStandIns_isIdle : HasStandIns Decimal.FadesTo Shape.IsIdle := by
  have hdecimal (t : Source) (d : Decimal)
      (h : ∃ d, Schema.decimalOfJson t.seen = .ok d ∧ d.isZero = true)
      (hd : Schema.decimalOfJson t.seen = .ok d) : d.FadesTo .zero := by
    obtain ⟨d', hd', hzero⟩ := h
    rw [hd] at hd'
    cases hd'
    exact .inr ⟨hzero, rfl⟩
  intro s t h depth v hv
  cases s with
  | optional inner =>
    cases (show t = .null from h)
    rw [Shape.seen_null] at hv
    cases hv
    exact ⟨none, rfl, .none⟩
  | list item =>
    cases t with
    | array items space =>
      cases (show items = [] from h)
      cases depth with
      | zero => cases hv
      | succ depth =>
        cases hv
        exact ⟨[], rfl, .nil⟩
    | null | bool | string | number | object => exact h.elim
  | text =>
    cases t with
    | string q =>
      rw [Shape.seen, Source.seen, show q.text? = some "" from h] at hv
      · cases hv
        exact ⟨"", rfl, rfl⟩
      all_goals simp
    | null | bool | number | array | object => exact h.elim
  | decimal => exact ⟨.zero, rfl, hdecimal t v h hv⟩
  | quantity => exact ⟨.zero, rfl, hdecimal t v h hv⟩
  | integer | choice | any | record => exact h.elim

/-! ## Many revisions -/

/-- Whether a value has been rearranged and added to. -/
def Shape.Grown (s : Shape) : Source → Source → Prop :=
  Relation.ReflTransGen (s.Revised fun _ _ => False)

/-- Whether a value has been rearranged and added to, and been relieved of what says nothing. -/
def Shape.Thinned (s : Shape) : Source → Source → Prop :=
  Relation.ReflTransGen (s.Revised Shape.IsIdle)

section

variable {s : Shape} {t t' : Source} {depth : Nat} {v : s.Value}

/-- A value that has grown is what it was. -/
theorem Shape.Grown.decode_ok (h : s.Grown t t') (hs : s.isPlain = true)
    (hv : s.decode (s.seen depth t) = .ok v) : s.decode (s.seen depth t') = .ok v := by
  have hnone : HasStandIns Eq fun _ _ => False := fun _ _ h => h.elim
  induction h with
  | refl => exact hv
  | tail _ hrevised ih =>
    obtain ⟨v', hv', hresembles⟩ := hrevised.decode_ok (fun _ => rfl) hnone hs ih
    rwa [s.eq_of_resembles hresembles]

/-- A value that has been thinned out is what it was but for how its zeros are written. -/
theorem Shape.Thinned.decode_ok (h : s.Thinned t t') (hs : s.isPlain = true)
    (hv : s.decode (s.seen depth t) = .ok v) :
    ∃ v', s.decode (s.seen depth t') = .ok v' ∧ s.Resembles Decimal.FadesTo v v' := by
  have hself (d : Decimal) : d.FadesTo d := .inl rfl
  induction h with
  | refl => exact ⟨v, hv, s.resembles_self hself v⟩
  | tail _ hrevised ih =>
    obtain ⟨v₁, hv₁, hresembles₁⟩ := ih
    obtain ⟨v₂, hv₂, hresembles₂⟩ := hrevised.decode_ok hself hasStandIns_isIdle hs hv₁
    exact ⟨v₂, hv₂, s.resembles_trans Decimal.fadesTo_trans hresembles₁ hresembles₂⟩

end

/-! ## Answers -/

/-- Whether a shape is one that an exchange answers or notifies with: one of the catalogue
without an embedded group, or a list of one. -/
def Catalog.IsAnswer (s : Shape) : Prop :=
  ∃ p ∈ shapes, p.2.isGroupFree = true ∧ (s = p.2 ∨ s = .list p.2)

theorem Catalog.isPlain_of_catalogued :
    ∀ p ∈ shapes, p.2.isGroupFree = true → p.2.isPlain = true := by
  decide

theorem Catalog.IsAnswer.isPlain {s : Shape} (h : IsAnswer s) : s.isPlain = true := by
  obtain ⟨p, hp, hfree, rfl | rfl⟩ := h
  · exact isPlain_of_catalogued p hp hfree
  · exact isPlain_of_catalogued p hp hfree

section

variable {α : Type} [Wire α]

/-- Whether a text is read as a value, as it stands and from its octets. -/
def Wire.Reads (text : String) (a : α) : Prop :=
  Wire.ofText text = .ok a ∧
    readAnswer (some (Wire.shape α)) (Text.Utf8.encode text.toList) = .ok (Wire.toValue a)

/-- Both readings are those of the shape. -/
theorem Wire.reads_iff {text : String} {a : α} :
    Wire.Reads text a ↔ (Wire.shape α).ofText text = .ok (Wire.toValue a) := by
  have hbody : readAnswer (some (Wire.shape α)) (Text.Utf8.encode text.toList) =
      (Wire.shape α).ofText text := by
    rw [readAnswer, Text.Utf8.decode_eq_ok_iff.mpr rfl]
    dsimp only
    rw [String.ofList_toList]
  rw [Wire.Reads, hbody]
  refine ⟨And.right, fun h => ⟨?_, h⟩⟩
  rw [Wire.ofText, h]
  exact congrArg Except.ok (Wire.ofValue_toValue a)

/-- A document is read as what its shape sees of it is converted to. -/
theorem Wire.reads_document_iff (hs : (Wire.shape α).isPlain = true) {doc : Document} {a : α} :
    Wire.Reads doc.text a ↔
      (Wire.shape α).decode ((Wire.shape α).seen Json.maxDepth doc.value) =
        .ok (Wire.toValue a) := by
  rw [Wire.reads_iff, Shape.ofText_document hs]

/-- **Answers outlast revisions.**  A text that is read as what an exchange answers or notifies
with is the text of a document, and is read the same after any number of rearrangements and
additions anywhere in it.  If members that say nothing are left out as well, it is read the same
but for the places and the sign of a zero. -/
theorem answers_outlast_revisions (hα : Catalog.IsAnswer (Wire.shape α)) {text : String} {a : α}
    (ha : Wire.Reads text a) :
    (∃ doc : Document, doc.text = text) ∧ ∀ doc : Document, doc.text = text →
      (∀ t, (Wire.shape α).Grown doc.value t →
        Wire.Reads (Document.text { doc with value := t }) a) ∧
      ∀ t, (Wire.shape α).Thinned doc.value t →
        ∃ a' : α, Wire.Reads (Document.text { doc with value := t }) a' ∧
          (Wire.shape α).Resembles Decimal.FadesTo (Wire.toValue a) (Wire.toValue a') := by
  refine ⟨Shape.exists_document hα.isPlain (Wire.reads_iff.mp ha), ?_⟩
  rintro doc rfl
  rw [Wire.reads_document_iff hα.isPlain] at ha
  refine ⟨fun t ht => (Wire.reads_document_iff hα.isPlain).mpr (ht.decode_ok hα.isPlain ha),
    fun t ht => ?_⟩
  obtain ⟨v, hv, hresembles⟩ := ht.decode_ok hα.isPlain ha
  refine ⟨Wire.ofValue v, (Wire.reads_document_iff hα.isPlain).mpr ?_, ?_⟩
  · rw [Wire.toValue_ofValue]
    exact hv
  · rw [Wire.toValue_ofValue]
    exact hresembles

end

/-! ## Texts of a few members -/

/-- Whether a character of a string need not be escaped. -/
def Json.isUnescaped (c : Char) : Bool :=
  c ≠ '"' ∧ c ≠ '\\' ∧ ¬c.toNat < 0x20

theorem Json.isUnescaped_iff {c : Char} :
    isUnescaped c = true ↔ c ≠ '"' ∧ c ≠ '\\' ∧ ¬c.toNat < 0x20 :=
  decide_eq_true_iff

/-- A string with nothing in it that has to be escaped. -/
def Json.Quoted.plain (s : String) (h : s.toList.all Json.isUnescaped = true) : Quoted :=
  ⟨s.toList.attach.map fun c => .plain c.1 (isUnescaped_iff.mp (List.all_eq_true.mp h c.1 c.2))⟩

/-- Half of a surrogate pair. -/
def Json.Quoted.half : Quoted := ⟨[.code 'd' '8' '0' '0' rfl]⟩

/-- A number of one digit. -/
def Json.Source.digit (c : Char) (h : c.isDigit = true) : Source :=
  .number ⟨false, ⟨[c], by simp [h], by simp⟩, by simp, none, none⟩

/-- A member without space in it. -/
def Json.Member.tight (key : Quoted) (value : Source) : Member Source :=
  ⟨.none, key, .none, ⟨.none, value, .none⟩⟩

/-- An object without space in it. -/
def Json.Document.tight (members : List (Member Source)) : Document :=
  ⟨.none, .object members .none, .none⟩

/-- The price of a board, which is one. -/
def priceMember : Member Source := .tight (.plain "mid_price" (by decide)) (.digit '1' rfl)

/-- The bids of a board, of which there are none. -/
def bidsMember : Member Source := .tight (.plain "bids" (by decide)) (.array [] .none)

/-- The asks of a board, which are one level. -/
def asksMember (level : List (Member Source)) : Member Source :=
  .tight (.plain "asks" (by decide)) (.array [⟨.none, .object level .none, .none⟩] .none)

/-- The members of a level at two. -/
def levelMembers : List (Member Source) :=
  [.tight (.plain "price" (by decide)) (.digit '2' rfl),
    .tight (.plain "size" (by decide)) (.digit '3' rfl)]

/-- A member that no level has. -/
def noteMember : Member Source :=
  .tight (.plain "note" (by decide)) (.array [⟨.none, .string .half, .none⟩] .none)

/-- A board is read the same with its members in another order, with a member more in its ask that
holds half of a surrogate pair, and without its bids, of which there are none. -/
theorem askBoard_outlasts :
    ((Document.tight [priceMember, bidsMember, asksMember levelMembers]).text =
        "\x7b\"mid_price\":1,\"bids\":[],\"asks\":[\x7b\"price\":2,\"size\":3\x7d]\x7d" ∧
      (Document.tight [asksMember (noteMember :: levelMembers), bidsMember, priceMember]).text =
        "\x7b\"asks\":[\x7b\"note\":[\"\\ud800\"],\"price\":2,\"size\":3\x7d],\"bids\":[]," ++
          "\"mid_price\":1\x7d" ∧
      (Document.tight [priceMember, asksMember levelMembers]).text =
        "\x7b\"mid_price\":1,\"asks\":[\x7b\"price\":2,\"size\":3\x7d]\x7d") ∧
    ∃ a : Board,
      Wire.Reads (Document.tight [priceMember, bidsMember, asksMember levelMembers]).text a ∧
      Wire.Reads
        (Document.tight [asksMember (noteMember :: levelMembers), bidsMember, priceMember]).text a ∧
      ∃ a' : Board, Wire.Reads (Document.tight [priceMember, asksMember levelMembers]).text a' ∧
        (Wire.shape Board).Resembles Decimal.FadesTo (Wire.toValue a) (Wire.toValue a') := by
  have hanswer : Catalog.IsAnswer (Wire.shape Board) :=
    ⟨("Board", Wire.shape Board),
      List.mem_of_getElem? (show Catalog.shapes[6]? = some ("Board", _) from rfl), rfl, .inl rfl⟩
  have hread : Wire.Reads
      (Document.tight [priceMember, bidsMember, asksMember levelMembers]).text
      (⟨⟨false, 1, 0, by decide, by decide⟩, [],
        [⟨⟨false, 2, 0, by decide, by decide⟩, ⟨false, 3, 0, by decide, by decide⟩⟩]⟩ : Board) :=
    (Wire.reads_document_iff rfl).mpr rfl
  have hgrown : (Wire.shape Board).Grown
      (.object [priceMember, bidsMember, asksMember levelMembers] .none)
      (.object [asksMember (noteMember :: levelMembers), bidsMember, priceMember] .none) := by
    refine .tail (.single (.permuted (List.reverse_perm _).symm)) ?_
    exact @Shape.Revised.member _ _ _ [] [bidsMember, priceMember] .none (asksMember levelMembers)
      "asks" .defaulted (.list (Wire.shape BoardLevel)) _ (by decide) rfl
      (@Shape.Revised.item _ _ [] [] .none _ _
        (@Shape.Revised.added _ _ _ [] levelMembers .none noteMember "note" (by decide)
          (by decide)))
  have hthinned : (Wire.shape Board).Thinned
      (.object [priceMember, bidsMember, asksMember levelMembers] .none)
      (.object [priceMember, asksMember levelMembers] .none) :=
    .single (@Shape.Revised.dropped _ _ _ [priceMember] [asksMember levelMembers] .none bidsMember
      "bids" .defaulted (.list (Wire.shape BoardLevel)) (by decide) rfl rfl rfl)
  obtain ⟨hgrow, hthin⟩ := (answers_outlast_revisions hanswer hread).2 _ rfl
  exact ⟨by decide +kernel, _, hread, hgrow _ hgrown, hthin _ hthinned⟩

/-- A member with a string for its value. -/
def worded (key value : String) (hkey : key.toList.all Json.isUnescaped = true)
    (hvalue : value.toList.all Json.isUnescaped = true) : Member Source :=
  .tight (.plain key hkey) (.string (.plain value hvalue))

/-- The members of an execution of one's own, with some more among them. -/
def executionMembers (more : List (Member Source)) : List (Member Source) :=
  [.tight (.plain "id" (by decide)) (.digit '1' rfl),
    worded "child_order_id" "" (by decide) (by decide),
    worded "side" "BUY" (by decide) (by decide),
    .tight (.plain "price" (by decide)) (.digit '2' rfl),
    .tight (.plain "size" (by decide)) (.digit '3' rfl)] ++ more ++
  [worded "exec_date" "" (by decide) (by decide),
    worded "child_order_acceptance_id" "" (by decide) (by decide)]

/-- The execution that they say, with its commission. -/
def execution (commission : Decimal) : MyExecution where
  id := 1
  childOrderId := ""
  side := .buy
  price := (Decimal.ofInt? 2).getD .zero
  size := (Decimal.ofInt? 3).getD .zero
  commission := commission
  execDate := ""
  childOrderAcceptanceId := ""

/-- A key that spells no string is the key of no field, and yet no board is read with it.  And a
commission that is zero and has a sign, once it is left out, has none. -/
theorem half_key_refused_and_sign_lost :
    (Json.Quoted.half.text? = none ∧
      (Document.tight [priceMember]).text = "\x7b\"mid_price\":1\x7d" ∧
      Wire.Reads (Document.tight [priceMember]).text
        (⟨⟨false, 1, 0, by decide, by decide⟩, [], []⟩ : Board) ∧
      (Document.tight [priceMember, .tight .half (.digit '2' rfl)]).text =
        "\x7b\"mid_price\":1,\"\\ud800\":2\x7d" ∧
      ∀ a : Board, ¬Wire.Reads
        (Document.tight [priceMember, .tight .half (.digit '2' rfl)]).text a) ∧
    Wire.Reads (Document.tight (executionMembers
        [worded "commission" "-0.4e-28" (by decide) (by decide)])).text
      (execution ⟨true, 0, 28, by decide, by decide⟩) ∧
    Wire.Reads (Document.tight (executionMembers [])).text
      (execution ⟨false, 0, 0, by decide, by decide⟩) := by
  have hrefused : (Wire.shape Board).ofText
      (Document.tight [priceMember, .tight .half (.digit '2' rfl)]).text = .error .malformed := by
    cbv
  refine ⟨⟨by decide, by decide +kernel, (Wire.reads_document_iff rfl).mpr rfl, by decide +kernel,
    fun a ha => ?_⟩, (Wire.reads_document_iff rfl).mpr rfl, (Wire.reads_document_iff rfl).mpr rfl⟩
  rw [Wire.reads_iff, hrefused] at ha
  cases ha

end ExchangeClient
