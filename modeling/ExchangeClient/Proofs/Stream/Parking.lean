import ExchangeClient.Proofs.Stream.Cases
import ExchangeClient.Stream.Course

/-!
# A topic is not asked for again after an unsubscription

Once a subscriber has written an unsubscription it is parked, and it stays parked when its
connection is lost, although it then forgets all else.  What ends this is a subscription from
the mailbox, and only after it was written.

Whether the subscriber is parked can be read off what it has sent: the last frame that was sent
tells it (`parksAll`).  So the whole matter is one about events.  In `AsksUnparked` a
subscription is sent while nothing is parked, or right after it was taken from the mailbox;
each turn keeps to this and moves the flag as the events tell (`MindsParking`), and both
properties go over to whole courses by appending, over however many connections.
-/

namespace ExchangeClient

namespace StreamEvent

/-- Whether a subscriber is parked after an event, if it is known whether it was before. -/
def parks (parked : Bool) : StreamEvent → Bool
  | .sent frame => frame.method = .unsubscribe
  | _ => parked

/-- Whether a subscriber is parked after some events. -/
def parksAll (parked : Bool) (events : List StreamEvent) : Bool := events.foldl parks parked

/-- Whether an event tells that a subscription was sent. -/
def isAsk : StreamEvent → Bool
  | .sent frame => frame.method = .subscribe
  | _ => false

/-- Whether each subscription was sent by a subscriber that was not parked, or right after it
was taken from the mailbox. -/
def AsksUnparked (parked : Bool) (events : List StreamEvent) : Prop :=
  ∀ before frame after, events = before ++ .sent frame :: after → frame.method = .subscribe →
    parksAll parked before = true → ∃ earlier, before = earlier ++ [.took frame]

variable {parked : Bool} {events more : List StreamEvent}

theorem parksAll_append (parked : Bool) (events more : List StreamEvent) :
    parksAll parked (events ++ more) = parksAll (parksAll parked events) more :=
  List.foldl_append

/-- What is parked stays so as long as no subscription is sent. -/
theorem parksAll_of_not_isAsk (h : ∀ e ∈ events, e.isAsk = false) :
    parksAll true events = true := by
  induction events with
  | nil => rfl
  | cons e events ih =>
    have hstill : parks true e = true := by
      have he := h e List.mem_cons_self
      cases e with
      | sent frame =>
        cases hmethod : frame.method with
        | subscribe => simp [isAsk, hmethod] at he
        | unsubscribe => simp [parks, hmethod]
      | took | dropped | unsent | received | unread | delivered => rfl
    show parksAll (parks true e) events = true
    rw [hstill]
    exact ih fun e' he' => h e' (List.mem_cons_of_mem e he')

/-- Where a subscription is sent, there is a first that is sent. -/
theorem exists_first_ask {asked : ControlFrame} (hasked : asked.method = .subscribe)
    (middle : List StreamEvent) :
    ∃ first before after, ControlFrame.method first = .subscribe ∧
      middle ++ [.sent asked] = before ++ .sent first :: after ∧
        ∀ e ∈ before, e.isAsk = false := by
  have hlast : (sent asked).isAsk = true := by simp [isAsk, hasked]
  have hsome : ((middle ++ [sent asked]).find? isAsk).isSome :=
    List.find?_isSome.mpr ⟨sent asked, by simp, hlast⟩
  obtain ⟨e, hfind⟩ := Option.isSome_iff_exists.mp hsome
  obtain ⟨hask, before, after, hsplit, hnone⟩ := List.find?_eq_some_iff_append.mp hfind
  cases e with
  | sent first =>
    exact ⟨first, before, after, of_decide_eq_true hask, hsplit,
      fun e he => by simpa using hnone e he⟩
  | took | dropped | unsent | received | unread | delivered => cases hask

theorem asksUnparked_of_not_sent (h : ∀ frame, .sent frame ∉ events) :
    AsksUnparked parked events := by
  intro before frame after hsplit
  refine absurd ?_ (h frame)
  rw [hsplit]
  exact List.mem_append_right before List.mem_cons_self

theorem AsksUnparked.append (hfirst : AsksUnparked parked events)
    (hmore : AsksUnparked (parksAll parked events) more) :
    AsksUnparked parked (events ++ more) := by
  intro before frame after hsplit hmethod hparked
  rcases List.append_eq_append_iff.mp hsplit with ⟨rest, rfl, hrest⟩ | ⟨rest, hevents, hafter⟩
  · rw [parksAll_append] at hparked
    obtain ⟨earlier, rfl⟩ := hmore rest frame after hrest hmethod hparked
    exact ⟨events ++ earlier, (List.append_assoc events earlier _).symm⟩
  · cases rest with
    | nil =>
      obtain rfl : events = before := by rw [hevents, List.append_nil]
      -- A subscription at the very beginning of `more` has nothing taken before it there.
      obtain ⟨earlier, hearlier⟩ := hmore [] frame after hafter.symm hmethod hparked
      simp at hearlier
    | cons e rest =>
      obtain ⟨rfl, -⟩ := List.cons.inj hafter
      exact hfirst before frame rest hevents hmethod hparked

end StreamEvent

namespace Subscriber

open StreamEvent

variable {σ : Type} {s : Subscriber}

@[simp] theorem noteSent_parked (frame : ControlFrame) :
    (s.noteSent frame).parked = decide (frame.method = .unsubscribe) := by
  unfold noteSent
  cases hmethod : frame.method <;> simp

/-! ## One turn -/

/-- A turn that asks for nothing while the subscriber is parked. -/
structure MindsParking (s : Subscriber) (turn : Turn σ) : Prop where
  parked : turn.subscriber.parked = parksAll s.parked turn.events
  asked : AsksUnparked s.parked turn.events

/-- A turn that sends nothing. -/
theorem MindsParking.of_not_sent {turn : Turn σ} (hparked : turn.subscriber.parked = s.parked)
    (hsent : ∀ e ∈ turn.events, ∀ frame, e ≠ .sent frame) : MindsParking s turn := by
  refine ⟨?_, asksUnparked_of_not_sent fun frame hframe => hsent _ hframe frame rfl⟩
  have hstill : parksAll s.parked turn.events = s.parked := by
    generalize turn.events = events at hsent
    induction events with
    | nil => rfl
    | cons e events ih =>
      have hrest := ih fun e' he' => hsent e' (List.mem_cons_of_mem e he')
      have he := hsent e List.mem_cons_self
      cases e with
      | sent frame => exact absurd rfl (he frame)
      | took | dropped | unsent | received | unread | delivered => exact hrest
  rw [hparked, hstill]

theorem MindsParking.trans {first next : Turn σ} (hfirst : MindsParking s first)
    (hnext : MindsParking first.subscriber next) :
    MindsParking s { next with events := first.events ++ next.events } where
  parked := by
    show next.subscriber.parked = _
    rw [parksAll_append, ← hfirst.parked, hnext.parked]
  asked := by
    refine hfirst.asked.append ?_
    rw [← hfirst.parked]
    exact hnext.asked

variable (t : Transport σ) (link : σ)

/-- A subscriber that is not parked may ask for a topic, and is not parked afterwards. -/
theorem mindsParking_send_subscribe (s : Subscriber) (topic : String) (hparked : s.parked = false) :
    MindsParking s (s.send t link (.subscribe topic)) ∧
      (s.send t link (.subscribe topic)).subscriber.parked = false := by
  have hcase := sendCase t s link (.subscribe topic)
  generalize s.send t link (.subscribe topic) = turn at hcase
  cases hcase with
  | dropped hmethod => cases hmethod
  | sent =>
    have hafter : (s.noteSent (.subscribe topic)).parked = false := noteSent_parked _
    refine ⟨⟨hafter, fun before frame after hsplit _ hbefore => ?_⟩, hafter⟩
    obtain rfl : before = [] := by
      cases before with
      | nil => rfl
      | cons e before => simp at hsplit
    rw [hparked] at hbefore
    cases hbefore
  | unsent => exact ⟨.of_not_sent rfl (by simp), hparked⟩
  | unfinished => exact ⟨.of_not_sent rfl (by simp), hparked⟩

theorem mindsParking_subscribe (topics : List String) (s : Subscriber)
    (hparked : s.parked = false) : MindsParking s (subscribe t topics s link) := by
  induction topics generalizing s link with
  | nil => exact .of_not_sent rfl (by simp [subscribe])
  | cons topic topics ih =>
    obtain ⟨hfirst, hstill⟩ := mindsParking_send_subscribe t link s topic hparked
    unfold subscribe
    split
    · exact ih link s hparked
    · dsimp only
      split
      · exact hfirst.trans (ih _ _ hstill)
      · exact hfirst

/-- A frame from the mailbox may be sent whatever it asks for. -/
theorem mindsParking_sendNext (s : Subscriber) (frame : ControlFrame)
    (rest : List ControlFrame) : MindsParking s (s.sendNext t link frame rest) := by
  unfold sendNext
  have hcase := sendCase t { s with mailbox := rest } link frame
  generalize send t { s with mailbox := rest } link frame = turn at hcase
  cases hcase with
  | dropped => exact .of_not_sent rfl (by simp)
  | sent =>
    refine ⟨noteSent_parked frame, fun before frame' after hsplit _ _ => ⟨[], ?_⟩⟩
    obtain ⟨rfl, hrest⟩ | ⟨before', rfl, hrest⟩ := List.cons_eq_append_iff.mp hsplit
    · cases hrest
    · cases before' with
      | nil =>
        obtain ⟨hframe, -⟩ := List.cons.inj hrest
        rw [StreamEvent.sent.inj hframe]
        rfl
      | cons e before' => simp at hrest
  | unsent => exact .of_not_sent rfl (by simp)
  | unfinished => exact .of_not_sent rfl (by simp)

theorem mindsParking_sendAll (frames : List ControlFrame) (s : Subscriber) :
    MindsParking s (sendAll t frames s link) :=
  sendAll_induction (motive := fun s _ turn => MindsParking s turn)
    (fun _ _ => .of_not_sent rfl (List.forall_mem_nil _))
    (fun _ _ _ _ _ hfirst hnext => hfirst.trans hnext)
    (fun s link frame rest => mindsParking_sendNext t link s frame rest) frames s link

theorem ReadCase.mindsParking {turn : Turn σ} (h : ReadCase t s link turn) :
    MindsParking s turn := by
  cases h with
  | accepted frame link' handler update =>
    refine .of_not_sent rfl fun e he frame' => ?_
    rcases List.mem_cons.mp he with rfl | he
    · exact nofun
    · cases update with
      | none => cases he
      | some update =>
        rw [List.mem_singleton.mp he]
        exact nofun
  | refused => exact .of_not_sent rfl (by simp)
  | unread => exact .of_not_sent rfl (by simp)
  | unfinished => exact .of_not_sent rfl (by simp)

/-- **A step asks for nothing by itself while the subscriber is parked.** -/
theorem mindsParking_step (s : Subscriber) : MindsParking s (s.step t link) := by
  have hcase := stepCase t s link
  generalize s.step t link = turn at hcase
  cases hcase with
  | control frame rest => exact mindsParking_sendNext t link s frame rest
  | subscribing _ _ hparked => exact mindsParking_subscribe t link s.topics s hparked
  | noticing => exact .of_not_sent rfl (by simp)
  | reading => exact (readCase t s link).mindsParking
  | idling => exact .of_not_sent rfl (by simp)

end Subscriber

namespace Course

open StreamEvent

variable {σ : Type} (t : Transport σ)

theorem mindsParking_turn (c : Course σ) (m : SubscriberMove σ) :
    Subscriber.MindsParking c.subscriber (c.turn t m) := by
  cases m with
  | enqueue frame =>
    rw [turn]
    refine .of_not_sent ?_ (by simp)
    dsimp only
    split <;> rfl
  | orphan => exact .of_not_sent rfl (by simp [turn])
  | stirred change => exact .of_not_sent rfl (by simp [turn])
  | stepped => exact Subscriber.mindsParking_step t.recorded c.link c.subscriber
  | flushed => exact Subscriber.mindsParking_sendAll t.recorded c.link _ c.subscriber
  | replaced link => exact .of_not_sent rfl (by simp [turn])

/-- A course asks for nothing by itself while the subscriber is parked. -/
theorem asksUnparked_history (c : Course σ) (ms : List (SubscriberMove σ)) :
    AsksUnparked c.subscriber.parked (c.history t ms) := by
  induction ms generalizing c with
  | nil => exact asksUnparked_of_not_sent fun _ => List.not_mem_nil
  | cons m ms ih =>
    have hturn := mindsParking_turn t c m
    have hrest := ih (c.move t m)
    rw [show (c.move t m).subscriber.parked = _ from hturn.parked] at hrest
    exact hturn.asked.append hrest

/-- **A topic is not asked for again after an unsubscription.**  Whatever befalls a subscriber,
with any control frames in its mailbox and over any number of connections: if a subscription is
sent some time after an unsubscription, then some subscription was taken from the mailbox after
the unsubscription was sent, and it was sent at once; it is the one in question or an earlier
one. -/
theorem subscribe_taken_of_sent_after (product : ProductCode) (handler : Handler)
    (config : ConnectionConfig) (link : σ) (ms : List (SubscriberMove σ))
    {early middle late : List StreamEvent} {declined asked : ControlFrame}
    (hdeclined : declined.method = .unsubscribe) (hasked : asked.method = .subscribe)
    (hhistory : (start product handler config link).history t ms =
      early ++ .sent declined :: (middle ++ .sent asked :: late)) :
    ∃ frame before after, frame.method = .subscribe ∧
      middle ++ [.sent asked] = before ++ .took frame :: .sent frame :: after := by
  -- The first subscription that is sent after the unsubscription is the one to look at.
  obtain ⟨first, before, after, hfirst, hsplit, hnone⟩ := exists_first_ask hasked middle
  have hparked : parksAll false (early ++ .sent declined :: before) = true := by
    have hdeclines : parks (parksAll false early) (.sent declined) = true := by
      simp [parks, hdeclined]
    rw [parksAll_append]
    show parksAll (parks (parksAll false early) (.sent declined)) before = true
    rw [hdeclines]
    exact parksAll_of_not_isAsk hnone
  have hevents : (start product handler config link).history t ms =
      (early ++ .sent declined :: before) ++ .sent first :: (after ++ late) := by
    rw [hhistory, List.append_cons middle, hsplit, List.append_assoc early, List.cons_append,
      List.append_assoc before, List.cons_append]
  obtain ⟨earlier, htaken⟩ :=
    asksUnparked_history t (start product handler config link) ms _ first _ hevents hfirst hparked
  rcases List.eq_nil_or_concat before with rfl | ⟨before', e, rfl⟩
  · obtain ⟨-, hlast⟩ := List.append_inj' htaken rfl
    simp at hlast
  · rw [List.concat_eq_append, ← List.cons_append, ← List.append_assoc] at htaken
    obtain ⟨-, hlast⟩ := List.append_inj' htaken rfl
    obtain rfl : e = .took first := by simpa using hlast
    refine ⟨first, before', after, hfirst, ?_⟩
    rw [hsplit, List.concat_eq_append, List.append_assoc]
    rfl

/-- An unsubscription is sent on the first connection, and nothing is asked for on the second
until a subscription from the mailbox is sent; the third connection is subscribed at once. -/
theorem parked_till_subscribe_taken :
    let ticker := StreamKind.ticker.topic "BTC_JPY"
    ∃ early middle,
      (start "BTC_JPY" .ticker .usual ()).history .muted
          [.stepped, .enqueue (.unsubscribe ticker), .stepped, .replaced (), .stepped,
            .enqueue (.subscribe ticker), .stepped, .replaced (), .stepped] =
        early ++ .sent (.unsubscribe ticker) :: (middle ++ [.sent (.subscribe ticker)]) ∧
      ∃ frame before after, ControlFrame.method frame = .subscribe ∧
        middle ++ [.sent (.subscribe ticker)] =
          before ++ .took frame :: .sent frame :: after := by
  intro ticker
  have hhistory : (start "BTC_JPY" .ticker .usual ()).history .muted
      [.stepped, .enqueue (.unsubscribe ticker), .stepped, .replaced (), .stepped,
        .enqueue (.subscribe ticker), .stepped, .replaced (), .stepped] =
      [.sent (.subscribe ticker), .took (.unsubscribe ticker)] ++
        .sent (.unsubscribe ticker) ::
          ([.took (.subscribe ticker), .sent (.subscribe ticker)] ++
            .sent (.subscribe ticker) :: []) := by
    rfl
  exact ⟨_, _, hhistory, subscribe_taken_of_sent_after .muted "BTC_JPY" .ticker .usual () _ rfl rfl
    hhistory⟩

end Course
end ExchangeClient
