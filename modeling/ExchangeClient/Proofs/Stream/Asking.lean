import ExchangeClient.Proofs.Stream.Mailbox
import ExchangeClient.Proofs.Stream.Recording
import ExchangeClient.Stream.Session

/-!
# Asking and declining

What a turn of a subscriber does to the topics, if its mailbox brings nothing but unsubscriptions
and however the connection answers.  A turn that takes frames from the mailbox sends unsubscriptions
and asks for nothing, and where nothing is held it sends nothing at all (`Declines`).  A turn that
asks for the topics asks for them in order; only when it is done are all of them held (`Asks`).
Either way a subscriber that was parked stays so, and one that sends an unsubscription is parked
(`StaysParked`).
-/

namespace ExchangeClient

namespace StreamEvent

variable {events more : List StreamEvent}

theorem askedFrames_append (events more : List StreamEvent) :
    askedFrames (events ++ more) = askedFrames events ++ askedFrames more := by
  rw [askedFrames, sentFrames_append, List.filter_append]
  rfl

theorem sentFrames_of_isOffline (h : ∀ e ∈ events, e.isOffline = true) :
    sentFrames events = [] := by
  refine List.filterMap_eq_nil_iff.mpr fun e he => ?_
  have hoffline := h e he
  cases e with
  | took | dropped => rfl
  | sent | unsent | received | unread | delivered => cases hoffline

theorem askedFrames_of_isOffline (h : ∀ e ∈ events, e.isOffline = true) :
    askedFrames events = [] := by
  rw [askedFrames, sentFrames_of_isOffline h]
  rfl

theorem isRead_of_isOffline {e : StreamEvent} (h : e.isOffline = true) : e.isRead = false := by
  cases e with
  | took | dropped => rfl
  | sent | unsent | received | unread | delivered => cases h

end StreamEvent

namespace Subscriber

open StreamEvent

variable {σ : Type} {t : Transport σ} {s : Subscriber} {link : σ}

/-- Sending reads nothing. -/
theorem SendCase.unread {frame : ControlFrame} {turn : Turn σ}
    (h : SendCase t s link frame turn) : ∀ e ∈ turn.events, e.isRead = false := by
  cases h with
  | dropped | sent | unsent => exact List.forall_mem_singleton.mpr rfl
  | unfinished => exact List.forall_mem_nil _

/-! ## Unsubscriptions from the mailbox -/

/-- A turn that sends unsubscriptions, as far as they are worth it. -/
structure Declines (s : Subscriber) (turn : Turn σ) : Prop where
  unasked : askedFrames turn.events = []
  unread : ∀ e ∈ turn.events, e.isRead = false
  parked : (s.parked = true ∨ sentFrames turn.events ≠ []) → turn.subscriber.parked = true
  settled : turn.ending = .done →
    turn.subscriber.parked = true ∨ turn.subscriber.held = s.held
  /-- Where nothing is held, nothing is worth sending. -/
  offline : s.held = [] → turn.ending = .done ∧ turn.subscriber.held = [] ∧
    ∀ e ∈ turn.events, e.isOffline = true

/-- A turn that sends nothing. -/
theorem Declines.of_unsent {turn : Turn σ} (hsent : sentFrames turn.events = [])
    (hunread : ∀ e ∈ turn.events, e.isRead = false)
    (hparked : turn.subscriber.parked = s.parked)
    (hheld : turn.ending = .done → turn.subscriber.held = s.held)
    (hoffline : s.held = [] → turn.ending = .done ∧ ∀ e ∈ turn.events, e.isOffline = true) :
    Declines s turn where
  unasked := by
    rw [askedFrames, hsent]
    rfl
  unread := hunread
  parked h := hparked.trans (h.resolve_right fun hne => hne hsent)
  settled hdone := .inr (hheld hdone)
  offline hnone := by
    obtain ⟨hdone, hevents⟩ := hoffline hnone
    exact ⟨hdone, (hheld hdone).trans hnone, hevents⟩

theorem Declines.trans {first next : Turn σ} (hfirst : Declines s first)
    (hdone : first.ending = .done) (hnext : Declines first.subscriber next) :
    Declines s { next with events := first.events ++ next.events } where
  unasked := by
    show askedFrames (first.events ++ next.events) = []
    rw [askedFrames_append, hfirst.unasked, hnext.unasked]
    rfl
  unread e he := (List.mem_append.mp he).elim (hfirst.unread e) (hnext.unread e)
  parked h := by
    refine hnext.parked ?_
    rcases h with hparked | hsent
    · exact .inl (hfirst.parked (.inl hparked))
    · by_cases hmore : sentFrames next.events = []
      · refine .inl (hfirst.parked (.inr fun hnone => hsent ?_))
        show sentFrames (first.events ++ next.events) = []
        rw [sentFrames_append, hnone, hmore]
        rfl
      · exact .inr hmore
  settled h := by
    rcases hnext.settled h with hparked | hheld
    · exact .inl hparked
    · rcases hfirst.settled hdone with hparked | hsame
      · exact .inl (hnext.parked (.inl hparked))
      · exact .inr (hheld.trans hsame)
  offline h := by
    obtain ⟨-, hheld, hoffline⟩ := hfirst.offline h
    obtain ⟨hending, hheld', hoffline'⟩ := hnext.offline hheld
    exact ⟨hending, hheld', fun e he => (List.mem_append.mp he).elim (hoffline e) (hoffline' e)⟩

theorem declines_sendNext (t : Transport σ) (s : Subscriber) (link : σ) {frame : ControlFrame}
    (rest : List ControlFrame) (hmethod : frame.method = .unsubscribe) :
    Declines s (s.sendNext t link frame rest) := by
  unfold sendNext
  by_cases hheld : s.held = []
  · -- Nothing is held, so the frame is dropped.
    have hunheld : frame.channel ∉ ({ s with mailbox := rest } : Subscriber).held := by
      rw [hheld]
      exact List.not_mem_nil
    rw [send, if_pos ⟨hmethod, hunheld⟩]
    have hoffline : ∀ e ∈ [took frame, dropped frame], e.isOffline = true := by
      simp [isOffline]
    exact .of_unsent rfl (fun e he => isRead_of_isOffline (hoffline e he)) rfl (fun _ => rfl)
      fun _ => ⟨rfl, hoffline⟩
  · have hcase := sendCase t { s with mailbox := rest } link frame
    generalize send t { s with mailbox := rest } link frame = turn at hcase
    have hunread : ∀ e ∈ took frame :: turn.events, e.isRead = false :=
      List.forall_mem_cons.mpr ⟨rfl, hcase.unread⟩
    cases hcase with
    | dropped hmethod hunheld =>
      exact .of_unsent rfl hunread rfl (fun _ => rfl) fun hnone => absurd hnone hheld
    | sent =>
      have hparked : (noteSent { s with mailbox := rest } frame).parked = true := by
        rw [noteSent, hmethod]
      refine ⟨?_, hunread, fun _ => hparked, fun _ => .inl hparked,
        fun hnone => absurd hnone hheld⟩
      show [frame].filter _ = []
      simp [hmethod]
    | unsent | unfinished =>
      exact .of_unsent rfl hunread rfl (fun hdone => by cases hdone)
        fun hnone => absurd hnone hheld

theorem declines_flush (t : Transport σ) (s : Subscriber) (link : σ)
    (hmailbox : ∀ frame ∈ s.mailbox, frame.method = .unsubscribe) :
    Declines s (s.flush t link) := by
  unfold flush
  generalize s.mailbox = frames at hmailbox
  induction frames generalizing s link with
  | nil =>
    exact .of_unsent rfl (List.forall_mem_nil _) rfl (fun _ => rfl)
      fun _ => ⟨rfl, List.forall_mem_nil _⟩
  | cons frame rest ih =>
    have hfirst := declines_sendNext t s link rest (hmailbox frame List.mem_cons_self)
    unfold sendAll
    dsimp only
    split
    · next hdone =>
      exact hfirst.trans hdone
        (ih _ _ fun frame' hframe => hmailbox frame' (List.mem_cons_of_mem frame hframe))
    · exact hfirst

/-! ## Asking for the topics -/

/-- A turn that asks for some of the topics that were to be asked for, in order. -/
structure Asks (topics : List String) (s : Subscriber) (turn : Turn σ) (asked : List String) :
    Prop where
  front : asked <+: topics
  sent : sentFrames turn.events = asked.map .subscribe
  unread : ∀ e ∈ turn.events, e.isRead = false
  done : turn.ending = .done →
    asked = topics ∧ ∀ x, x ∈ turn.subscriber.held ↔ x ∈ topics ∨ x ∈ s.held
  /-- Only a subscription that cannot be written makes it fail. -/
  failed : ∀ cause, turn.ending = .failed cause →
    ∃ front topic, turn.events = front ++ [.unsent (.subscribe topic) cause]

theorem asks_subscribe (t : Transport σ) {topics : List String} (hnodup : topics.Nodup)
    (s : Subscriber) (link : σ) (hfresh : ∀ x ∈ topics, x ∉ s.held) :
    ∃ asked, Asks topics s (subscribe t topics s link) asked := by
  induction topics generalizing s link with
  | nil =>
    exact ⟨[], List.nil_prefix, rfl, List.forall_mem_nil _,
      fun _ => ⟨rfl, fun x => by simp [subscribe]⟩, fun _ hfailed => (by cases hfailed)⟩
  | cons topic topics ih =>
    obtain ⟨hnew, hnodup⟩ := List.nodup_cons.mp hnodup
    have hcase := sendCase t s link (.subscribe topic)
    unfold subscribe
    rw [if_neg (hfresh topic List.mem_cons_self)]
    dsimp only
    generalize s.send t link (.subscribe topic) = turn at hcase
    cases hcase with
    | dropped hmethod => cases hmethod
    | sent hworth link' =>
      obtain ⟨asked, hrest⟩ :=
        ih hnodup (s.noteSent (.subscribe topic)) link' (fresh_noteSent hnew hfresh)
      refine ⟨topic :: asked, List.cons_prefix_cons.mpr ⟨rfl, hrest.front⟩, ?_, ?_, ?_, ?_⟩
      · exact congrArg (List.cons (.subscribe topic)) hrest.sent
      · intro e he
        rcases List.mem_cons.mp he with rfl | he
        · rfl
        · exact hrest.unread e he
      · intro hdone
        obtain ⟨rfl, hmem⟩ := hrest.done hdone
        refine ⟨rfl, fun x => ?_⟩
        rw [hmem, mem_held_noteSent_subscribe, List.mem_cons]
        tauto
      · intro cause hfailed
        obtain ⟨front, topic', hevents⟩ := hrest.failed cause hfailed
        exact ⟨_ :: front, topic', congrArg (List.cons _) hevents⟩
    | unsent cause =>
      refine ⟨[], List.nil_prefix, rfl, ?_, fun hdone => (by cases hdone),
        fun cause' hfailed => ?_⟩
      · intro e he
        rw [List.mem_singleton.mp he]
        rfl
      · rw [StepEnd.failed.inj hfailed]
        exact ⟨[], topic, rfl⟩
    | unfinished =>
      exact ⟨[], List.nil_prefix, rfl, List.forall_mem_nil _, fun hdone => (by cases hdone),
        fun _ hfailed => (by cases hfailed)⟩

/-- A subscriber that holds nothing asks for all of its topics afresh. -/
theorem asks_topics (t : Transport σ) (s : Subscriber) (link : σ) (hnone : s.held = []) :
    ∃ asked, Asks s.topics s (subscribe t s.topics s link) asked := by
  refine asks_subscribe t (s.handler.topics_nodup s.product) s link fun x _ => ?_
  rw [hnone]
  exact List.not_mem_nil

/-! ## What a turn leaves behind -/

/-- A turn after which the subscriber is parked if it was before or has sent an
unsubscription. -/
def StaysParked (s : Subscriber) (turn : Turn σ) : Prop :=
  (s.parked = true ∨ ∃ frame ∈ sentFrames turn.events, frame.method = .unsubscribe) →
    turn.subscriber.parked = true

theorem Declines.staysParked {turn : Turn σ} (h : Declines s turn) : StaysParked s turn := by
  rintro (hparked | ⟨frame, hframe, -⟩)
  · exact h.parked (.inl hparked)
  · exact h.parked (.inr (List.ne_nil_of_mem hframe))

theorem staysParked_step (t : Transport σ) (s : Subscriber) (link : σ)
    (hmailbox : ∀ frame ∈ s.mailbox, frame.method = .unsubscribe) :
    StaysParked s (s.step t link) := by
  have hcase := stepCase t s link
  generalize s.step t link = turn at hcase
  cases hcase with
  | control frame rest hnext =>
    have hmethod : frame.method = .unsubscribe := by
      refine hmailbox frame ?_
      rw [hnext]
      exact List.mem_cons_self
    exact (declines_sendNext t s link rest hmethod).staysParked
  | subscribing _ hnone hunparked =>
    -- Nothing but subscriptions is sent.
    obtain ⟨asked, hturn⟩ := asks_topics t s link hnone
    rintro (hparked | ⟨frame, hframe, hmethod⟩)
    · rw [hparked] at hunparked
      cases hunparked
    · rw [hturn.sent] at hframe
      obtain ⟨topic, -, rfl⟩ := List.mem_map.mp hframe
      cases hmethod
  | noticing | idling =>
    rintro (hparked | ⟨_, hframe, -⟩)
    · exact hparked
    · cases hframe
  | reading =>
    have hcase := readCase t s link
    generalize s.read t link = turn at hcase
    have hsent : ¬ ∃ frame ∈ sentFrames turn.events, frame.method = .unsubscribe := by
      rw [hcase.sentFrames_eq]
      rintro ⟨_, hframe, -⟩
      cases hframe
    intro h
    have hparked := h.resolve_right hsent
    cases hcase <;> exact hparked

/-- What is left in the mailbox was there before. -/
theorem TakesInOrder.mem_mailbox {turn : Turn σ} (h : TakesInOrder s turn) {frame : ControlFrame}
    (hframe : frame ∈ turn.subscriber.mailbox) : frame ∈ s.mailbox := by
  rw [← h]
  exact List.mem_append_right _ hframe

end Subscriber
end ExchangeClient
