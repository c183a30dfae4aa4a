import ExchangeClient.Stream.Subscriber
import Mathlib.Logic.Basic

/-!
# What a step can do

Sending a frame, reading one and making a step each do one of a few things.  `SendCase`,
`ReadCase` and `StepCase` list them, with what must hold for each and the whole turn that
it makes; `sendCase`, `readCase` and `stepCase` say that the lists are complete.  What is
said of a subscriber is proved along these cases, without opening the definitions again.

Asking for topics and sending what is in the mailbox are several sendings, one after the other as
long as they are done.  What holds of each of them and passes from two turns to both together
holds of the whole (`subscribe_induction`, `sendAll_induction`).
-/

namespace ExchangeClient
namespace Subscriber

variable {σ : Type}

/-- What sending a frame can do. -/
inductive SendCase (t : Transport σ) (s : Subscriber) (link : σ) (frame : ControlFrame) :
    Turn σ → Prop
  | dropped (hmethod : frame.method = .unsubscribe) (hheld : frame.channel ∉ s.held) :
    SendCase t s link frame ⟨s, link, [.dropped frame], .done⟩
  | sent (hworth : frame.method = .unsubscribe → frame.channel ∈ s.held) (link' : σ)
    (hwrite : t.write link frame = (.done (), link')) :
    SendCase t s link frame ⟨s.noteSent frame, link', [.sent frame], .done⟩
  | unsent (cause : ClientError) (link' : σ)
    (hwrite : t.write link frame = (.failed cause, link')) :
    SendCase t s link frame ⟨s.disconnected, link', [.unsent frame cause], .failed cause⟩
  | unfinished (link' : σ) (hwrite : t.write link frame = (.unfinished, link')) :
    SendCase t s link frame ⟨s, link', [], .waiting⟩

theorem sendCase (t : Transport σ) (s : Subscriber) (link : σ) (frame : ControlFrame) :
    SendCase t s link frame (s.send t link frame) := by
  unfold send
  split
  · next h => exact .dropped h.1 h.2
  · next h =>
    have hworth : frame.method = .unsubscribe → frame.channel ∈ s.held := by
      intro hmethod
      exact not_not.mp fun hheld => h ⟨hmethod, hheld⟩
    split
    · next link' hwrite => exact .sent hworth link' hwrite
    · next cause link' hwrite => exact .unsent cause link' hwrite
    · next link' hwrite => exact .unfinished link' hwrite

/-- What reading a frame and handing it on can do. -/
inductive ReadCase (t : Transport σ) (s : Subscriber) (link : σ) : Turn σ → Prop
  | accepted (frame : String) (link' : σ) (handler : Handler) (update : Option Update)
    (hread : t.read link s.readTimeout = (.done frame, link'))
    (haccept : s.handler.receive s.product frame = .ok (handler, update)) :
    ReadCase t s link
      ⟨{ s with handler }, link',
        .received frame :: (update.map StreamEvent.delivered).toList, .done⟩
  | refused (frame : String) (link' : σ) (cause : Json.DecodeError)
    (hread : t.read link s.readTimeout = (.done frame, link'))
    (hrefuse : s.handler.receive s.product frame = .error cause) :
    ReadCase t s link ⟨s.disconnected, link', [.received frame], .failed (.json cause)⟩
  | unread (cause : ClientError) (link' : σ)
    (hread : t.read link s.readTimeout = (.failed cause, link')) :
    ReadCase t s link ⟨s.disconnected, link', [.unread cause], .failed cause⟩
  | unfinished (link' : σ) (hread : t.read link s.readTimeout = (.unfinished, link')) :
    ReadCase t s link ⟨s, link', [], .waiting⟩

theorem readCase (t : Transport σ) (s : Subscriber) (link : σ) :
    ReadCase t s link (s.read t link) := by
  unfold read
  split
  · next frame link' hread =>
    unfold receive
    split
    · next handler update haccept =>
      exact .accepted frame link' handler update hread haccept
    · next cause hrefuse => exact .refused frame link' cause hread hrefuse
  · next cause link' hread => exact .unread cause link' hread
  · next link' hread => exact .unfinished link' hread

/-- What a step can do. -/
inductive StepCase (t : Transport σ) (s : Subscriber) (link : σ) : Turn σ → Prop
  | control (frame : ControlFrame) (rest : List ControlFrame)
    (hmailbox : s.mailbox = frame :: rest) :
    StepCase t s link (s.sendNext t link frame rest)
  | subscribing (hmailbox : s.mailbox = []) (hheld : s.held = []) (hparked : s.parked = false) :
    StepCase t s link (subscribe t s.topics s link)
  /-- The subscriber notices that its mailbox will stay empty. -/
  | noticing (hmailbox : s.mailbox = []) (horphaned : s.orphaned = true)
    (hlistening : s.listening = true) (hbusy : s.held ≠ [] ∨ s.parked = true) :
    StepCase t s link ⟨{ s with listening := false }, link, [], .done⟩
  | reading (hmailbox : s.mailbox = []) (hheld : s.held ≠ []) :
    StepCase t s link (s.read t link)
  | idling (hmailbox : s.mailbox = []) (hheld : s.held = []) (hparked : s.parked = true) :
    StepCase t s link ⟨s, link, [], .waiting⟩

theorem stepCase (t : Transport σ) (s : Subscriber) (link : σ) :
    StepCase t s link (s.step t link) := by
  unfold step
  split
  · next frame rest hmailbox => exact .control frame rest hmailbox
  · next hmailbox =>
    have hsubscribed : s.isSubscribed = true ↔ s.held ≠ [] := by
      cases hheld : s.held <;> simp [isSubscribed, hheld]
    split
    · next h =>
      rw [Bool.and_eq_true, Bool.not_eq_true', Bool.not_eq_true', ← Bool.not_eq_true,
        hsubscribed, not_not] at h
      exact .subscribing hmailbox h.1 h.2
    · next h =>
      have hbusy : s.held ≠ [] ∨ s.parked = true := by
        rw [← hsubscribed]
        cases hs : s.isSubscribed <;> cases hp : s.parked <;> simp_all
      split
      · next h =>
        rw [Bool.and_eq_true] at h
        exact .noticing hmailbox h.1 h.2 hbusy
      · split
        · next h => exact .reading hmailbox (hsubscribed.mp h)
        · next h =>
          rw [hsubscribed, not_not] at h
          exact .idling hmailbox h (hbusy.resolve_left (not_not.mpr h))

/-! ## One sending after the other -/

section Sequence

variable {t : Transport σ} {motive : Subscriber → σ → Turn σ → Prop}
  (idle : ∀ s link, motive s link ⟨s, link, [], .done⟩)
  (trans : ∀ s link (first next : Turn σ), first.ending = .done → motive s link first →
    motive first.subscriber first.link next →
    motive s link { next with events := first.events ++ next.events })

include idle trans

theorem subscribe_induction
    (send : ∀ s link topic, motive s link (s.send t link (.subscribe topic)))
    (topics : List String) (s : Subscriber) (link : σ) :
    motive s link (subscribe t topics s link) := by
  induction topics generalizing s link with
  | nil => exact idle s link
  | cons topic topics ih =>
    unfold subscribe
    split
    · exact ih s link
    · dsimp only
      split
      · next hdone => exact trans s link _ _ hdone (send s link topic) (ih _ _)
      · exact send s link topic

theorem sendAll_induction
    (sendNext : ∀ s link frame rest, motive s link (s.sendNext t link frame rest))
    (frames : List ControlFrame) (s : Subscriber) (link : σ) :
    motive s link (sendAll t frames s link) := by
  induction frames generalizing s link with
  | nil => exact idle s link
  | cons frame rest ih =>
    unfold sendAll
    dsimp only
    split
    · next hdone => exact trans s link _ _ hdone (sendNext s link frame rest) (ih _ _)
    · exact sendNext s link frame rest

end Sequence

end Subscriber
end ExchangeClient
