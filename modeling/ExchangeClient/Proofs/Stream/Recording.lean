import ExchangeClient.Proofs.Stream.Cases
import ExchangeClient.Proofs.Stream.Declining
import ExchangeClient.Stream.Course

/-!
# What is recorded is what was sent

The other end of a recorded connection keeps the control frames that were written on it, and a
subscriber tells which frames it has sent.  The two agree: whatever a subscriber does in one
turn, the record grows by exactly the frames that it tells of, in order.
-/

namespace ExchangeClient
namespace Subscriber

open StreamEvent

variable {σ : Type} {t : Transport σ} {s : Subscriber} {link : Recorded σ}

/-- A turn whose sent frames are recorded at the other end. -/
def Records (link : Recorded σ) (turn : Turn (Recorded σ)) : Prop :=
  turn.link.written = link.written ++ sentFrames turn.events

/-- A turn that sends nothing. -/
theorem Records.of_silent {turn : Turn (Recorded σ)} (hwritten : turn.link.written = link.written)
    (hsent : sentFrames turn.events = []) : Records link turn := by
  rw [Records, hwritten, hsent, List.append_nil]

theorem Records.trans {first next : Turn (Recorded σ)} (hfirst : Records link first)
    (hnext : Records first.link next) :
    Records link { next with events := first.events ++ next.events } := by
  show next.link.written = _
  rw [sentFrames_append, hnext, hfirst, List.append_assoc]

theorem SendCase.records {frame : ControlFrame} {turn : Turn (Recorded σ)}
    (h : SendCase t.recorded s link frame turn) : Records link turn := by
  have hrecord := t.written_recorded_write link frame
  cases h with
  | dropped => exact .of_silent rfl rfl
  | sent hworth link' hwrite =>
    rw [hwrite] at hrecord
    exact hrecord
  | unsent cause link' hwrite =>
    rw [hwrite] at hrecord
    exact .of_silent hrecord rfl
  | unfinished link' hwrite =>
    rw [hwrite] at hrecord
    exact .of_silent hrecord rfl

theorem records_subscribe (t : Transport σ) (topics : List String) (s : Subscriber)
    (link : Recorded σ) : Records link (subscribe t.recorded topics s link) :=
  subscribe_induction (motive := fun _ link turn => Records link turn)
    (fun _ _ => .of_silent rfl rfl) (fun _ _ _ _ _ hfirst hnext => hfirst.trans hnext)
    (fun s link topic => (sendCase t.recorded s link (.subscribe topic)).records) topics s link

theorem records_sendNext (t : Transport σ) (s : Subscriber) (link : Recorded σ)
    (frame : ControlFrame) (rest : List ControlFrame) :
    Records link (s.sendNext t.recorded link frame rest) :=
  (sendCase t.recorded { s with mailbox := rest } link frame).records

theorem records_flush (t : Transport σ) (s : Subscriber) (link : Recorded σ) :
    Records link (s.flush t.recorded link) :=
  sendAll_induction (motive := fun _ link turn => Records link turn)
    (fun _ _ => .of_silent rfl rfl) (fun _ _ _ _ _ hfirst hnext => hfirst.trans hnext)
    (records_sendNext t) s.mailbox s link

/-- Reading sends nothing. -/
theorem ReadCase.sentFrames_eq {link : σ} {turn : Turn σ} (h : ReadCase t s link turn) :
    sentFrames turn.events = [] := by
  cases h with
  | accepted frame link' handler update => cases update <;> rfl
  | refused | unread | unfinished => rfl

theorem ReadCase.records {turn : Turn (Recorded σ)} (h : ReadCase t.recorded s link turn) :
    Records link turn := by
  have hrecord := t.written_recorded_read link s.readTimeout
  refine .of_silent ?_ h.sentFrames_eq
  cases h with
  | accepted frame link' handler update hread =>
    rw [hread] at hrecord
    exact hrecord
  | refused frame link' cause hread =>
    rw [hread] at hrecord
    exact hrecord
  | unread cause link' hread =>
    rw [hread] at hrecord
    exact hrecord
  | unfinished link' hread =>
    rw [hread] at hrecord
    exact hrecord

/-- **A step records what it sends.** -/
theorem records_step (t : Transport σ) (s : Subscriber) (link : Recorded σ) :
    Records link (s.step t.recorded link) := by
  have hcase := stepCase t.recorded s link
  generalize s.step t.recorded link = turn at hcase
  cases hcase with
  | control frame rest => exact records_sendNext t s link frame rest
  | subscribing => exact records_subscribe t s.topics s link
  | noticing => exact .of_silent rfl rfl
  | reading => exact (readCase t.recorded s link).records
  | idling => exact .of_silent rfl rfl

end Subscriber
end ExchangeClient
