import ExchangeClient.Proofs.Stream.Asking
import ExchangeClient.Stream.Waiting

/-!
# The mailbox comes first

Control frames are taken from the mailbox in several places: where a step begins, where a parked
subscriber waits for nothing else, where a reading one waits for the connection as well, and
where the rest is sent before a stop.  Wherever that is, the frame at the front of the mailbox is
taken, and nothing else happens in that turn: no data is read and no topic is asked for.

So the frames that a subscriber has taken, on whatever connections, and those that are left are
together the frames that were posted (`taken_append_mailbox`).

A subscriber that has stopped looking at its mailbox would be an exception, if anything could
come into it.  It stops only when the mailbox is empty and its last sender is gone, and then it
stays empty (`Attentive`).
-/

namespace ExchangeClient

open StreamEvent

namespace Subscriber

variable {σ : Type} {t : Transport σ} {s : Subscriber} {link : σ}

/-! ## Looking at the mailbox -/

/-- A subscriber that looks at its mailbox as long as anything can be in it. -/
def Attentive (s : Subscriber) : Prop :=
  s.listening = false → s.orphaned = true ∧ s.mailbox = []

theorem Attentive.listening_of_mailbox {frame : ControlFrame} {rest : List ControlFrame}
    (h : s.Attentive) (hmailbox : s.mailbox = frame :: rest) : s.listening = true := by
  by_contra hdeaf
  have hempty := (h (Bool.eq_false_iff.mpr hdeaf)).2
  rw [hmailbox] at hempty
  cases hempty

/-- A turn that leaves alone who sends to the mailbox and whether the subscriber looks at it. -/
structure KeepsWatch (s : Subscriber) (turn : Turn σ) : Prop where
  orphaned : turn.subscriber.orphaned = s.orphaned
  listening : turn.subscriber.listening = s.listening

theorem KeepsWatch.trans {first next : Turn σ} (hfirst : KeepsWatch s first)
    (hnext : KeepsWatch first.subscriber next) :
    KeepsWatch s { next with events := first.events ++ next.events } :=
  ⟨hnext.orphaned.trans hfirst.orphaned, hnext.listening.trans hfirst.listening⟩

theorem SendCase.keepsWatch {frame : ControlFrame} {turn : Turn σ}
    (h : SendCase t s link frame turn) : KeepsWatch s turn := by
  cases h with
  | dropped | unsent | unfinished => exact ⟨rfl, rfl⟩
  | sent =>
    show KeepsWatch s ⟨s.noteSent frame, _, _, _⟩
    unfold noteSent
    split <;> exact ⟨rfl, rfl⟩

theorem keepsWatch_subscribe (t : Transport σ) (topics : List String) (s : Subscriber)
    (link : σ) : KeepsWatch s (subscribe t topics s link) :=
  subscribe_induction (motive := fun s _ turn => KeepsWatch s turn) (fun _ _ => ⟨rfl, rfl⟩)
    (fun _ _ _ _ _ hfirst hnext => hfirst.trans hnext)
    (fun s link topic => (sendCase t s link (.subscribe topic)).keepsWatch) topics s link

theorem keepsWatch_sendNext (t : Transport σ) (s : Subscriber) (link : σ) (frame : ControlFrame)
    (rest : List ControlFrame) : KeepsWatch s (s.sendNext t link frame rest) := by
  have hsend := (sendCase t { s with mailbox := rest } link frame).keepsWatch
  exact ⟨hsend.orphaned, hsend.listening⟩

theorem keepsWatch_flush (t : Transport σ) (s : Subscriber) (link : σ) :
    KeepsWatch s (s.flush t link) :=
  sendAll_induction (motive := fun s _ turn => KeepsWatch s turn) (fun _ _ => ⟨rfl, rfl⟩)
    (fun _ _ _ _ _ hfirst hnext => hfirst.trans hnext) (keepsWatch_sendNext t) s.mailbox s link

theorem ReadCase.keepsWatch {turn : Turn σ} (h : ReadCase t s link turn) : KeepsWatch s turn := by
  cases h with
  | accepted | refused | unread | unfinished => exact ⟨rfl, rfl⟩

/-- A turn that takes frames in order leaves nothing in a mailbox that was empty. -/
theorem Attentive.of_keepsWatch {turn : Turn σ} (h : s.Attentive) (hwatch : KeepsWatch s turn)
    (htakes : TakesInOrder s turn) : turn.subscriber.Attentive := by
  intro hdeaf
  rw [hwatch.listening] at hdeaf
  obtain ⟨horphaned, hempty⟩ := h hdeaf
  unfold TakesInOrder at htakes
  rw [hempty] at htakes
  exact ⟨hwatch.orphaned.trans horphaned, (List.append_eq_nil_iff.mp htakes).2⟩

/-- A step stops looking at the mailbox only when nothing can come any more. -/
theorem keepsWatch_or_notices (t : Transport σ) (s : Subscriber) (link : σ) :
    KeepsWatch s (s.step t link) ∨
      s.mailbox = [] ∧ s.orphaned = true ∧
        s.step t link = ⟨{ s with listening := false }, link, [], .done⟩ := by
  have hcase := stepCase t s link
  generalize s.step t link = turn at hcase
  cases hcase with
  | control frame rest => exact .inl (keepsWatch_sendNext t s link frame rest)
  | subscribing => exact .inl (keepsWatch_subscribe t s.topics s link)
  | noticing hmailbox horphaned => exact .inr ⟨hmailbox, horphaned, rfl⟩
  | reading => exact .inl (readCase t s link).keepsWatch
  | idling => exact .inl ⟨rfl, rfl⟩

theorem orphaned_step (t : Transport σ) (s : Subscriber) (link : σ) :
    (s.step t link).subscriber.orphaned = s.orphaned := by
  rcases keepsWatch_or_notices t s link with hwatch | ⟨-, -, hstep⟩
  · exact hwatch.orphaned
  · rw [hstep]

theorem Attentive.step (h : s.Attentive) (t : Transport σ) (link : σ) :
    (s.step t link).subscriber.Attentive := by
  rcases keepsWatch_or_notices t s link with hwatch | ⟨hmailbox, horphaned, hstep⟩
  · exact h.of_keepsWatch hwatch (takesInOrder_step t s link)
  · rw [hstep]
    exact fun _ => ⟨horphaned, hmailbox⟩

/-! ## Steps that wait -/

theorem resume_of_mailbox (h : s.Attentive) {frame : ControlFrame} {rest : List ControlFrame}
    (hmailbox : s.mailbox = frame :: rest) (t : Transport σ) (link : σ) :
    s.resume t link = s.sendNext t link frame rest := by
  rw [resume, if_pos (h.listening_of_mailbox hmailbox), hmailbox]

theorem step_of_mailbox {frame : ControlFrame} {rest : List ControlFrame}
    (hmailbox : s.mailbox = frame :: rest) (t : Transport σ) (link : σ) :
    s.step t link = s.sendNext t link frame rest := by
  rw [Subscriber.step, hmailbox]

/-- **A step that has waited does what it would do if it began now.** -/
theorem resume_eq_step (h : s.Attentive) (hawaits : s.awaits = true) (t : Transport σ) (link : σ) :
    s.resume t link = s.step t link := by
  match hmailbox : s.mailbox with
  | frame :: rest => rw [resume_of_mailbox h hmailbox, step_of_mailbox hmailbox]
  | [] =>
    have hbusy : (!s.isSubscribed && !s.parked) = false := by
      rw [← Bool.not_or, Bool.not_eq_false']
      exact hawaits
    rw [resume, Subscriber.step, hmailbox]
    dsimp only
    rw [hbusy]
    cases s.listening <;> cases s.orphaned <;> rfl

/-! ## The oldest frame alone -/

/-- A turn that does nothing but take the oldest frame and send it, if it is worth it. -/
structure TakesOne (link : Recorded σ) (frame : ControlFrame) (rest : List ControlFrame)
    (turn : Turn (Recorded σ)) : Prop where
  mailbox : turn.subscriber.mailbox = rest
  taken : takenFrames turn.events = [frame]
  unread : ∀ e ∈ turn.events, e.isRead = false
  written : turn.link.written = link.written ∨ turn.link.written = link.written ++ [frame]

theorem SendCase.written {link : Recorded σ} {frame : ControlFrame} {turn : Turn (Recorded σ)}
    (h : SendCase t.recorded s link frame turn) :
    turn.link.written = link.written ∨ turn.link.written = link.written ++ [frame] := by
  have hrecords : turn.link.written = _ := h.records
  rw [hrecords]
  cases h with
  | dropped | unsent | unfinished => exact .inl (List.append_nil _)
  | sent => exact .inr rfl

theorem takesOne_sendNext (t : Transport σ) (s : Subscriber) (link : Recorded σ)
    (frame : ControlFrame) (rest : List ControlFrame) :
    TakesOne link frame rest (s.sendNext t.recorded link frame rest) := by
  have hcase := sendCase t.recorded { s with mailbox := rest } link frame
  refine ⟨send_mailbox t.recorded _ link frame, ?_, ?_, hcase.written⟩
  · show frame :: takenFrames (send t.recorded { s with mailbox := rest } link frame).events = _
    rw [takenFrames_send]
  · exact List.forall_mem_cons.mpr ⟨rfl, hcase.unread⟩

/-- What could be read meanwhile has no part in sending the oldest frame. -/
theorem sendNext_congr {t t' : Transport σ} (hwrite : t'.write = t.write) (s : Subscriber)
    (link : σ) (frame : ControlFrame) (rest : List ControlFrame) :
    s.sendNext t' link frame rest = s.sendNext t link frame rest := by
  unfold sendNext send
  rw [hwrite]

end Subscriber

namespace Course

open Subscriber SubscriberMove

variable {σ : Type} {c : Course σ}

/-! ## One move -/

/-- A move takes frames from the front of the mailbox, and puts what is posted at its end. -/
theorem taken_append_mailbox_turn (t : Transport σ) (c : Course σ) (m : SubscriberMove σ) :
    takenFrames (c.turn t m).events ++ (c.turn t m).subscriber.mailbox =
      c.subscriber.mailbox ++ if c.subscriber.orphaned then [] else m.frame?.toList := by
  have hquiet {turn : Turn (Recorded σ)} (htakes : TakesInOrder c.subscriber turn) :
      takenFrames turn.events ++ turn.subscriber.mailbox =
        c.subscriber.mailbox ++ if c.subscriber.orphaned then [] else [] := by
    rw [ite_self, List.append_nil]
    exact htakes
  cases m with
  | enqueue frame =>
    rw [turn]
    cases horphaned : c.subscriber.orphaned with
    | true => exact (List.append_nil _).symm
    | false => rfl
  | orphan => exact hquiet rfl
  | stirred change => exact hquiet rfl
  | stepped => exact hquiet (takesInOrder_step t.recorded c.subscriber c.link)
  | flushed => exact hquiet (takesInOrder_flush t.recorded c.subscriber c.link)
  | replaced link => exact hquiet rfl

/-- A move keeps the subscriber attentive. -/
theorem attentive_turn (h : c.subscriber.Attentive) (t : Transport σ) (m : SubscriberMove σ) :
    (c.turn t m).subscriber.Attentive := by
  cases m with
  | enqueue frame =>
    rw [turn]
    cases horphaned : c.subscriber.orphaned with
    | true => exact h
    | false =>
      intro hdeaf
      rw [(h hdeaf).1] at horphaned
      cases horphaned
  | orphan => exact fun hdeaf => ⟨rfl, (h hdeaf).2⟩
  | stirred change => exact h
  | stepped => exact h.step t.recorded c.link
  | flushed =>
    exact h.of_keepsWatch (keepsWatch_flush t.recorded c.subscriber c.link)
      (takesInOrder_flush t.recorded c.subscriber c.link)
  | replaced link => exact h

/-- The mailbox is an orphan from the moment when its last sender goes away. -/
theorem orphaned_turn (t : Transport σ) (c : Course σ) {m : SubscriberMove σ} (hm : m ≠ .orphan) :
    (c.turn t m).subscriber.orphaned = c.subscriber.orphaned := by
  cases m with
  | enqueue frame =>
    rw [turn]
    dsimp only
    split <;> rfl
  | orphan => exact absurd rfl hm
  | stirred change => rfl
  | stepped => exact orphaned_step t.recorded c.subscriber c.link
  | flushed => exact (keepsWatch_flush t.recorded c.subscriber c.link).orphaned
  | replaced link => rfl

/-! ## A whole course -/

theorem posted_cons {m : SubscriberMove σ} (hm : m ≠ .orphan) (ms : List (SubscriberMove σ)) :
    posted (m :: ms) = m.frame?.toList ++ posted ms := by
  cases m with
  | orphan => exact absurd rfl hm
  | enqueue | stirred | stepped | flushed | replaced => rfl

/-- The frames that were taken and those that are left are those that were there, and those that
were posted, in order. -/
theorem taken_append_mailbox (t : Transport σ) (c : Course σ) (ms : List (SubscriberMove σ)) :
    takenFrames (c.history t ms) ++ (c.run t ms).subscriber.mailbox =
      c.subscriber.mailbox ++ if c.subscriber.orphaned then [] else posted ms := by
  induction ms generalizing c with
  | nil =>
    rw [posted, ite_self, List.append_nil]
    rfl
  | cons m ms ih =>
    have hturn := taken_append_mailbox_turn t c m
    have hrest := ih (c.move t m)
    rw [history_cons, run_cons, takenFrames_append, List.append_assoc, hrest, ← List.append_assoc]
    show takenFrames (c.turn t m).events ++ (c.turn t m).subscriber.mailbox ++ _ = _
    rw [hturn, List.append_assoc]
    by_cases hm : m = .orphan
    · subst hm
      exact congrArg _ (by split <;> rfl)
    · rw [show (c.move t m).subscriber.orphaned = _ from orphaned_turn t c hm, posted_cons hm]
      exact congrArg _ (by split <;> rfl)

theorem attentive_run (h : c.subscriber.Attentive) (t : Transport σ)
    (ms : List (SubscriberMove σ)) : (c.run t ms).subscriber.Attentive := by
  induction ms generalizing c with
  | nil => exact h
  | cons m ms ih => exact ih (attentive_turn h t m)

/-- **Frames are taken in the order in which they were posted, before anything else.**  Whatever
befalls a new subscriber, on any number of connections:

* the frames that it has taken, and those that are in the mailbox behind them, are the frames
  that were posted; so those that it has taken are at any moment the first of them, none is
  skipped and none is taken twice;
* a step that has waited does what it would do if it began now;
* while there is a frame in the mailbox, a step that begins and a step that has waited both do
  nothing but take the oldest one: whatever could be read, they read nothing, and they write no
  other frame. -/
theorem taken_in_order_and_first (t : Transport σ) (product : ProductCode) (handler : Handler)
    (config : ConnectionConfig) (link : σ) (ms : List (SubscriberMove σ)) :
    let new := start product handler config link
    let c := new.run t ms
    takenFrames (new.history t ms) ++ c.subscriber.mailbox = posted ms ∧
      (c.subscriber.awaits = true → ∀ t' : Transport (Recorded σ),
        c.subscriber.resume t' c.link = c.subscriber.step t' c.link) ∧
      ∀ frame rest, c.subscriber.mailbox = frame :: rest →
        ∃ turn, TakesOne c.link frame rest turn ∧
          ∀ t' : Transport (Recorded σ), t'.write = t.recorded.write →
            c.subscriber.step t' c.link = turn ∧ c.subscriber.resume t' c.link = turn := by
  intro new c
  have hattentive : c.subscriber.Attentive :=
    attentive_run (c := new) (fun hdeaf => by cases hdeaf) t ms
  refine ⟨taken_append_mailbox t new ms, fun hawaits t' => resume_eq_step hattentive hawaits t' _,
    fun frame rest hmailbox => ?_⟩
  refine ⟨_, takesOne_sendNext t c.subscriber c.link frame rest, fun t' hwrite => ?_⟩
  rw [step_of_mailbox hmailbox, resume_of_mailbox hattentive hmailbox, sendNext_congr hwrite]
  exact ⟨rfl, rfl⟩

/-- A connection on which there is always something to read. -/
def flooded : Transport Unit where
  write link _ := (.done (), link)
  read link _ := (.done "", link)

/-- A subscriber waits for data, and as they come, so does an unsubscription: it goes first. -/
theorem unsubscription_before_data :
    let ticker := StreamKind.ticker.topic "BTC_JPY"
    let c := (start "BTC_JPY" .ticker .usual ()).run flooded
      [.stepped, .enqueue (.unsubscribe ticker)]
    let turn := c.subscriber.resume flooded.recorded c.link
    turn.subscriber.mailbox = [] ∧ (∀ e ∈ turn.events, e.isRead = false) ∧
      turn.link.written = [.subscribe ticker, .unsubscribe ticker] := by
  intro ticker c turn
  obtain ⟨-, -, hfirst⟩ := taken_in_order_and_first flooded "BTC_JPY" .ticker .usual ()
    [.stepped, .enqueue (.unsubscribe ticker)]
  obtain ⟨taking, htakes, hturns⟩ := hfirst (.unsubscribe ticker) [] rfl
  obtain ⟨-, hturn⟩ := hturns flooded.recorded rfl
  rw [show turn = taking from hturn]
  refine ⟨htakes.mailbox, htakes.unread, ?_⟩
  rw [← hturn]
  rfl

end Course
end ExchangeClient
