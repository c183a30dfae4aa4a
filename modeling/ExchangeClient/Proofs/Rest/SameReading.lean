import ExchangeClient.Proofs.Json.Printing
import ExchangeClient.Proofs.Schema.Keyed
import ExchangeClient.Proofs.Text.Utf8
import ExchangeClient.Rest.Client
import ExchangeClient.Stream.Handler

/-!
# Calls and streams read alike

The body of a reply is read straight into the type of the answer; the message of a stream is
read as any JSON value first and then converted.  Boards, tickers and executions come both
ways, and a merged board is put together from both: its seed is a reply, what changes it are
messages.  From the same text both ways come to the same, as long as no object in it repeats
a key (`sameReading_of_written`).
-/

namespace ExchangeClient

open Json (IsKeyed writtenOfText)

/-- Whether a body read as a reply and its text read as a message come to the same values. -/
def SameReading (α : Type) [Wire α] (body : List UInt8) (text : String) : Prop :=
  ∀ a : α, readAnswer (some (Wire.shape α)) body = .ok (Wire.toValue a) ↔
    ∃ message, Json.ofText text = .ok message ∧ Handler.payload message = .ok a

variable {body : List UInt8} {text : String} {j : Json}

/-- The body of a reply is read as its text is. -/
theorem readAnswer_of_decode (s : Shape) (h : Text.Utf8.decode body = .ok text.toList)
    (v : s.Value) : readAnswer (some s) body = .ok v ↔ s.ofText text = .ok v := by
  rw [readAnswer, h]
  dsimp only
  rw [String.ofList_toList]

theorem payload_eq_ok_iff {α : Type} [Wire α] (message : Json) (a : α) :
    Handler.payload message = .ok a ↔ (Wire.shape α).decode message = .ok (Wire.toValue a) := by
  rw [Handler.payload, Wire.ofJson]
  cases (Wire.shape α).decode message with
  | error m => exact ⟨nofun, nofun⟩
  | ok v =>
    show Except.ok (Wire.ofValue v) = Except.ok a ↔ Except.ok v = _
    rw [Except.ok.injEq, Except.ok.injEq]
    constructor
    · rintro rfl
      exact (Wire.toValue_ofValue v).symm
    · rintro rfl
      exact Wire.ofValue_toValue a

/-- A type without embedded groups is read alike both ways. -/
theorem sameReading_of_isGroupFree (α : Type) [Wire α] (hs : (Wire.shape α).isGroupFree = true)
    (hbody : Text.Utf8.decode body = .ok text.toList) (hwritten : writtenOfText text = .ok j)
    (hkeyed : j.IsKeyed) : SameReading α body text := by
  intro a
  rw [readAnswer_of_decode _ hbody, Shape.ofText_eq_ok_iff _ hs hwritten hkeyed]
  simp only [payload_eq_ok_iff]

/-- **Calls and streams read alike** what both bring: boards, tickers and lists of executions,
down to the mantissa and the scale of each decimal. -/
theorem sameReading_of_written (hbody : Text.Utf8.decode body = .ok text.toList)
    (hwritten : writtenOfText text = .ok j) (hkeyed : j.IsKeyed) :
    SameReading Board body text ∧ SameReading Ticker body text ∧
      SameReading (List Execution) body text :=
  ⟨sameReading_of_isGroupFree Board rfl hbody hwritten hkeyed,
    sameReading_of_isGroupFree Ticker rfl hbody hwritten hkeyed,
    sameReading_of_isGroupFree (List Execution) rfl hbody hwritten hkeyed⟩

/-- A board of one level whose members are not in the usual order, with a member that no
board has. -/
def askText : String :=
  "\x7b\"asks\":[\x7b\"size\":\"0.50\",\"price\":100\x7d],\"id\":[null],\"mid_price\":99\x7d"

/-- The value that the text writes. -/
def askValue : Json :=
  .object
    [("asks", .array [.object [("size", .string "0.50"), ("price", .number (.whole 100))]]),
      ("id", .array [.null]), ("mid_price", .number (.whole 99))]

theorem askText_sameReading :
    SameReading Board (Text.Utf8.encode askText.toList) askText ∧
      Wire.ofText askText = .ok (⟨⟨false, 99, 0, by decide, by decide⟩, [],
        [⟨⟨false, 100, 0, by decide, by decide⟩,
          ⟨false, 50, 2, by decide, by decide⟩⟩]⟩ : Board) := by
  have hwritten : writtenOfText askText = .ok askValue := by
    rw [show askText = askValue.toText by decide +kernel]
    exact Json.writtenOfText_toText
      (by simp [askValue, Json.FitsIn, Json.maxDepth, Json.IsWhole])
  have hkeyed : askValue.IsKeyed := by
    simp [askValue, Json.IsKeyed, Json.MembersKeyed, Json.ItemsKeyed]
  have hread := ((Wire.shape Board).ofText_of_written rfl hwritten).1 _ rfl
  have hbody : Text.Utf8.decode (Text.Utf8.encode askText.toList) = .ok askText.toList :=
    Text.Utf8.decodeFrom_encode 0 askText.toList
  refine ⟨(sameReading_of_written hbody hwritten hkeyed).1, ?_⟩
  rw [Wire.ofText, hread]
  rfl

end ExchangeClient
