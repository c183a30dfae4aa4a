import ExchangeClient.Proofs.Stream.Cases

/-!
# What is taken from the mailbox

Whatever a subscriber does, the frames that it has taken and those that are left in the
mailbox are, in order, those that were there: none is skipped and none is taken twice, even
when its sending fails.
-/

namespace ExchangeClient

open StreamEvent

theorem StreamEvent.takenFrames_append (events more : List StreamEvent) :
    takenFrames (events ++ more) = takenFrames events ++ takenFrames more :=
  List.filterMap_append

namespace Subscriber

variable {σ : Type}

/-- A turn that takes frames only from the front of the mailbox. -/
def TakesInOrder (s : Subscriber) (turn : Turn σ) : Prop :=
  takenFrames turn.events ++ turn.subscriber.mailbox = s.mailbox

theorem takenFrames_send (t : Transport σ) (s : Subscriber) (link : σ) (frame : ControlFrame) :
    takenFrames (s.send t link frame).events = [] := by
  have hcase := sendCase t s link frame
  generalize s.send t link frame = turn at hcase
  cases hcase <;> rfl

theorem takenFrames_subscribe (t : Transport σ) (topics : List String) (s : Subscriber)
    (link : σ) : takenFrames (subscribe t topics s link).events = [] := by
  refine subscribe_induction (motive := fun _ _ turn => takenFrames turn.events = [])
    (fun _ _ => rfl) (fun _ _ first next _ hfirst hnext => ?_)
    (fun s link topic => takenFrames_send t s link (.subscribe topic)) topics s link
  rw [takenFrames_append, hfirst, hnext]
  rfl

theorem takesInOrder_sendNext (t : Transport σ) (s : Subscriber) (link : σ)
    {frame : ControlFrame} {rest : List ControlFrame} (hmailbox : s.mailbox = frame :: rest) :
    TakesInOrder s (s.sendNext t link frame rest) := by
  unfold TakesInOrder sendNext
  dsimp only
  rw [send_mailbox, hmailbox]
  show frame :: takenFrames (send t { s with mailbox := rest } link frame).events ++ rest = _
  rw [takenFrames_send]
  rfl

theorem takesInOrder_read (t : Transport σ) (s : Subscriber) (link : σ) :
    TakesInOrder s (s.read t link) := by
  have hcase := readCase t s link
  generalize s.read t link = turn at hcase
  cases hcase with
  | accepted frame link' handler update => cases update <;> rfl
  | refused => rfl
  | unread => rfl
  | unfinished => rfl

/-- **A step takes frames in order.** -/
theorem takesInOrder_step (t : Transport σ) (s : Subscriber) (link : σ) :
    TakesInOrder s (s.step t link) := by
  have hcase := stepCase t s link
  generalize s.step t link = turn at hcase
  cases hcase with
  | control frame rest hmailbox => exact takesInOrder_sendNext t s link hmailbox
  | subscribing =>
    unfold TakesInOrder
    rw [takenFrames_subscribe, subscribe_mailbox]
    rfl
  | noticing => rfl
  | reading => exact takesInOrder_read t s link
  | idling => rfl

theorem takesInOrder_flush (t : Transport σ) (s : Subscriber) (link : σ) :
    TakesInOrder s (s.flush t link) := by
  unfold flush
  generalize hmailbox : s.mailbox = frames
  induction frames generalizing s link with
  | nil => rfl
  | cons frame rest ih =>
    have hfirst := takesInOrder_sendNext t s link hmailbox
    unfold sendAll
    dsimp only
    split
    · have hrest : (s.sendNext t link frame rest).subscriber.mailbox = rest :=
        send_mailbox t _ link frame
      have hnext := ih (s.sendNext t link frame rest).subscriber
        (s.sendNext t link frame rest).link hrest
      unfold TakesInOrder at hfirst hnext ⊢
      dsimp only
      rw [takenFrames_append, List.append_assoc, hnext, hfirst]
    · exact hfirst

end Subscriber
end ExchangeClient
