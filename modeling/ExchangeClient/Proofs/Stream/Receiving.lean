import ExchangeClient.Book.Changes
import ExchangeClient.Proofs.Stream.Declining

/-!
# Receiving a frame

What a handler makes of a frame depends on the frame and on the topics of the handler, and not
on what the handler remembers.

* A frame may carry a message under one of the handler's topics (`Hears`).  If the message writes
  a value of the topic's kind, the handler takes the value and delivers something for it: a merged
  board its book with the value folded in, every other handler the value as it is written (`take`).
* A frame that cannot be read is refused, and so is one whose message under one of the handler's
  topics writes no value of its kind (`Refuses`).
* All else is passed over: frames without a message, and messages under foreign topics, whatever
  they are (`PassesOver`).

`receiveCase` says that this is all that can happen.
-/

namespace ExchangeClient

/-- The update that a message of some kind writes, just as it is written. -/
def StreamKind.decode (kind : StreamKind) (message : Json) : Except Json.DecodeError Update :=
  match kind with
  | .ticker => (Handler.payload message).map .ticker
  | .boardSnapshot | .board => (Handler.payload message).map .board
  | .executions => (Handler.payload message).map .executions

namespace Handler

/-- The kinds of feed whose messages a handler reads. -/
def kinds : Handler → List StreamKind
  | .merged _ => [.board, .boardSnapshot]
  | h => [h.kind]

/-- The handler after an update of some kind was read, and what it delivers.  A merged board
folds the update into its book. -/
def take (h : Handler) (kind : StreamKind) (update : Update) : Handler × Update :=
  match h, update with
  | .merged book, .board levels =>
    let after := book.change
      (if kind = .boardSnapshot then .snapshot levels else .difference levels)
    (.merged after, .board after.view)
  | h, update => (h, update)

/-- Whether a frame carries a message under the handler's topic of some kind. -/
def Hears (h : Handler) (product : ProductCode) (frame : String) (kind : StreamKind)
    (message : Json) : Prop :=
  kind ∈ h.kinds ∧ Notification.ofFrame frame = .ok (some ⟨kind.topic product, message⟩)

/-- Whether a frame cannot be read, or carries a message under one of the handler's topics that
writes no value of its kind. -/
def Refuses (h : Handler) (product : ProductCode) (frame : String) : Prop :=
  (∃ cause, Notification.ofFrame frame = .error cause) ∨
    ∃ kind message cause, h.Hears product frame kind message ∧ kind.decode message = .error cause

/-- Whether a frame is none of the handler's business: it carries no message, or one under a
foreign topic. -/
def PassesOver (h : Handler) (product : ProductCode) (frame : String) : Prop :=
  Notification.ofFrame frame = .ok none ∨
    ∃ n, Notification.ofFrame frame = .ok (some n) ∧ n.channel ∉ h.topics product

variable {h h' : Handler} {product : ProductCode} {n : Notification} {frame : String}
  {kind : StreamKind} {message : Json}

theorem topics_eq_map_kinds (h : Handler) (product : ProductCode) :
    h.topics product = h.kinds.map fun kind => kind.topic product := by
  cases h <;> rfl

theorem SameButBook.kinds_eq (hsame : h.SameButBook h') : h'.kinds = h.kinds := by
  cases h <;> cases h' <;> first | rfl | cases hsame

/-! ## One message -/

/-- Reading a value and delivering it are one thing after the other. -/
theorem return_payload {α : Type} [Wire α] (h : Handler) (message : Json) (make : α → Update) :
    (do return (h, some (make (← payload message)))) =
      ((payload message).map make).map fun update => (h, some update) := by
  cases (payload message : Except Json.DecodeError α) <;> rfl

theorem accept_own (hmem : kind ∈ h.kinds) (hown : n.channel = kind.topic product) :
    h.accept product n = (kind.decode n.message).map fun update =>
      ((h.take kind update).1, some (h.take kind update).2) := by
  cases h with
  | merged book =>
    unfold accept StreamKind.decode payload
    dsimp only
    obtain rfl | rfl : kind = .board ∨ kind = .boardSnapshot := by simpa [kinds] using hmem
    · have hother : n.channel ≠ StreamKind.boardSnapshot.topic product := by
        rw [hown]
        exact boardTopic_ne_snapshotTopic product
      rw [if_neg hother, if_pos hown]
      cases (Wire.ofJson n.message : Except Json.Mismatch Board) <;> rfl
    · rw [if_pos hown]
      cases (Wire.ofJson n.message : Except Json.Mismatch Board) <;> rfl
  | ticker | boardSnapshot | board | executions =>
    obtain rfl := List.mem_singleton.mp hmem
    exact (if_pos hown).trans (return_payload _ n.message _)

theorem accept_foreign (hforeign : n.channel ∉ h.topics product) :
    h.accept product n = .ok (h, none) := by
  cases h with
  | merged book =>
    obtain ⟨hboard, hsnapshot⟩ := List.ne_and_not_mem_of_not_mem_cons hforeign
    rw [List.mem_singleton] at hsnapshot
    exact (if_neg hsnapshot).trans (if_neg hboard)
  | ticker | boardSnapshot | board | executions =>
    exact if_neg fun hown => hforeign (List.mem_singleton.mpr hown)

/-! ## One frame -/

theorem receive_of_hears (hhears : h.Hears product frame kind message) :
    h.receive product frame = (kind.decode message).map fun update =>
      ((h.take kind update).1, some (h.take kind update).2) := by
  rw [receive, hhears.2]
  exact accept_own hhears.1 rfl

/-- No executions at all are delivered like any others. -/
example : Handler.executions.receive "BTC_JPY"
      ("\x7b\"method\":\"channelMessage\",\"params\":\x7b" ++
      "\"channel\":\"lightning_executions_BTC_JPY\",\"message\":[]\x7d\x7d") =
    .ok (.executions, some (.executions [])) := by
  cbv

theorem receive_of_passesOver (hpasses : h.PassesOver product frame) :
    h.receive product frame = .ok (h, none) := by
  rcases hpasses with hnone | ⟨n, hn, hforeign⟩
  · exact receive_of_ofFrame_none hnone
  · rw [receive, hn]
    exact accept_foreign hforeign

/-- A frame cannot be read, or is heard, or is passed over. -/
theorem unreadable_or_hears_or_passesOver (h : Handler) (product : ProductCode)
    (frame : String) :
    (∃ cause, Notification.ofFrame frame = .error cause) ∨
      (∃ kind message, h.Hears product frame kind message) ∨ h.PassesOver product frame := by
  cases hframe : Notification.ofFrame frame with
  | error cause => exact .inl ⟨cause, rfl⟩
  | ok n? =>
    cases n? with
    | none => exact .inr (.inr (.inl hframe))
    | some n =>
      by_cases hown : n.channel ∈ h.topics product
      · rw [topics_eq_map_kinds] at hown
        obtain ⟨kind, hmem, hkind⟩ := List.mem_map.mp hown
        refine .inr (.inl ⟨kind, n.message, hmem, ?_⟩)
        rw [hframe, hkind]
      · exact .inr (.inr (.inr ⟨n, hframe, hown⟩))

/-- What receiving a frame can do. -/
inductive ReceiveCase (h : Handler) (product : ProductCode) (frame : String) :
    Except Json.DecodeError (Handler × Option Update) → Prop
  | delivered (kind : StreamKind) (message : Json) (update : Update)
    (hhears : h.Hears product frame kind message) (hdecode : kind.decode message = .ok update) :
    ReceiveCase h product frame (.ok ((h.take kind update).1, some (h.take kind update).2))
  | refused (cause : Json.DecodeError) (hrefuses : h.Refuses product frame) :
    ReceiveCase h product frame (.error cause)
  | passedOver (hpasses : h.PassesOver product frame) : ReceiveCase h product frame (.ok (h, none))

theorem receiveCase (h : Handler) (product : ProductCode) (frame : String) :
    ReceiveCase h product frame (h.receive product frame) := by
  rcases h.unreadable_or_hears_or_passesOver product frame with
    ⟨cause, hcause⟩ | ⟨kind, message, hhears⟩ | hpasses
  · rw [receive, hcause]
    exact .refused cause (.inl ⟨cause, hcause⟩)
  · rw [receive_of_hears hhears]
    cases hdecode : kind.decode message with
    | ok update => exact .delivered kind message update hhears hdecode
    | error cause => exact .refused cause (.inr ⟨kind, message, cause, hhears, hdecode⟩)
  · rw [receive_of_passesOver hpasses]
    exact .passedOver hpasses

/-- What is refused is an error. -/
theorem Refuses.receive (hrefuses : h.Refuses product frame) :
    ∃ cause, h.receive product frame = .error cause := by
  rcases hrefuses with ⟨cause, hcause⟩ | ⟨kind, message, cause, hhears, hdecode⟩
  · refine ⟨cause, ?_⟩
    rw [Handler.receive, hcause]
    rfl
  · refine ⟨cause, ?_⟩
    rw [receive_of_hears hhears, hdecode]
    rfl

theorem isOk_receive_iff : (h.receive product frame).isOk = false ↔ h.Refuses product frame := by
  constructor
  · intro hfails
    have hcase := h.receiveCase product frame
    generalize h.receive product frame = result at hcase hfails
    cases hcase with
    | refused cause hrefuses => exact hrefuses
    | delivered | passedOver => cases hfails
  · intro hrefuses
    obtain ⟨cause, hcause⟩ := hrefuses.receive
    rw [hcause]
    rfl

/-- Whether a frame is refused does not depend on the book. -/
theorem SameButBook.isOk_receive_eq (hsame : h.SameButBook h') (product : ProductCode)
    (frame : String) : (h'.receive product frame).isOk = (h.receive product frame).isOk := by
  have hiff : h'.Refuses product frame ↔ h.Refuses product frame := by
    unfold Refuses Hears
    rw [hsame.kinds_eq]
  rw [← isOk_receive_iff, ← isOk_receive_iff] at hiff
  exact Bool.eq_iff_iff.mpr (by simpa using not_congr hiff)

end Handler
end ExchangeClient
