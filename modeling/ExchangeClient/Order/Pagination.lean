import ExchangeClient.Order.Terms

/-!
# Paging

Listings are cut into pages by a count and by the identifiers before and after
which to look.  The three fields are sent among the fields of the request that
they belong to.
-/

namespace ExchangeClient

/-- Which part of a listing to send. -/
structure Pagination where
  /-- At most so many entries. -/
  count : Option UInt32
  /-- Only entries with a smaller identifier. -/
  before : Option Int64
  /-- Only entries with a greater identifier. -/
  after : Option Int64

/-- The fields of paging. -/
@[reducible] def Pagination.fields : Fields :=
  .cons "count" .optional (.optional (.integer .unsigned32)) <|
  .cons "before" .optional (.optional (.integer .signed64)) <|
  .cons "after" .optional (.optional (.integer .signed64)) <|
  .nil

/-- Paging as the fields that a request embeds. -/
def Pagination.toGroup (x : Pagination) : Pagination.fields.Value :=
  (x.count, x.before, x.after, ())

/-- Paging from the fields that a request embeds. -/
def Pagination.ofGroup (v : Pagination.fields.Value) : Pagination :=
  ⟨v.1, v.2.1, v.2.2.1⟩

@[simp] theorem Pagination.ofGroup_toGroup (x : Pagination) : ofGroup x.toGroup = x := rfl

@[simp] theorem Pagination.toGroup_ofGroup (v : Pagination.fields.Value) :
    (ofGroup v).toGroup = v := rfl

/-- Everything there is. -/
def Pagination.all : Pagination := ⟨none, none, none⟩

instance : Wire Pagination where
  shape := .record "Pagination" Pagination.fields
  toValue x := x.toGroup
  ofValue v := Pagination.ofGroup v
  ofValue_toValue _ := rfl
  toValue_ofValue _ := rfl

end ExchangeClient
