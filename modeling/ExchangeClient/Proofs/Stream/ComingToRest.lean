import ExchangeClient.Proofs.Stream.Posting
import ExchangeClient.Stream.Steps

/-!
# A subscriber comes to rest

A mailbox whose last sender is gone answers at once and for ever that nothing is there, and a
subscriber that kept asking it would go round in a loop.  It does not: a step that is done and has
got nothing done is the one in which the subscriber notices that its mailbox will stay empty, and
with it the subscriber stops looking (`listening_of_isIdle`).  Since it never looks again, its whole
life holds at most one such step, whatever connections come and go.

The steps that do get something done are paid for.  Apart from those that consume a frame of the
other side, a step takes a frame from the mailbox, or notices that none will come, or asks for the
topics, or fails.  `reserve` counts how often this can still happen on a connection as long as
nothing fails: a done step that consumes nothing lowers it (`reserve_step`), because a subscriber
that has asked for its topics holds them until it is parked, and asks for nothing then.  A step that
fails ends the session, and only another connection brings the asking and the failing back.
-/

namespace ExchangeClient

open StreamEvent

/-- A step that is done is idle if none of its events gets anything done. -/
theorem Turn.isIdle_iff {σ : Type} {turn : Turn σ} :
    turn.isIdle = true ↔ turn.ending = .done ∧ ∀ e ∈ turn.events, e.isProgress = false := by
  unfold isIdle
  cases turn.ending with
  | done => simp
  | failed cause => simp
  | waiting => simp

theorem countP_singleton_eq_toNat {α : Type} (p : α → Bool) (a : α) :
    [a].countP p = (p a).toNat := by
  rw [List.countP_singleton]
  cases p a <;> rfl

namespace Subscriber

variable {σ : Type} {t : Transport σ} {s : Subscriber} {link : σ}

/-! ## Idle steps -/

/-- A subscriber that was done with asking for some topics has got something done. -/
theorem exists_isProgress_of_asks {topics asked : List String} {turn : Turn σ}
    (h : Asks topics s turn asked) (hne : topics ≠ []) (hdone : turn.ending = .done) :
    ∃ e ∈ turn.events, e.isProgress = true := by
  obtain ⟨topic, hmem⟩ := List.exists_mem_of_ne_nil topics hne
  have hsent : ControlFrame.subscribe topic ∈ sentFrames turn.events := by
    rw [h.sent, (h.done hdone).1]
    exact List.mem_map_of_mem hmem
  obtain ⟨e, he, hframe⟩ := List.mem_filterMap.mp hsent
  refine ⟨e, he, ?_⟩
  cases e with
  | sent => rfl
  | took | dropped | unsent | received | unread | delivered => cases hframe

/-- **In an idle step the subscriber stops looking at its mailbox.** -/
theorem listening_of_isIdle (hidle : (s.step t link).isIdle = true) :
    s.listening = true ∧ (s.step t link).subscriber.listening = false := by
  have hcase := stepCase t s link
  generalize s.step t link = turn at hcase hidle
  obtain ⟨hdone, hnothing⟩ := Turn.isIdle_iff.mp hidle
  cases hcase with
  | control frame rest => cases hnothing (.took frame) List.mem_cons_self
  | subscribing _ hnone =>
    obtain ⟨asked, hasks⟩ := asks_topics t s link hnone
    obtain ⟨e, he, hprogress⟩ :=
      exists_isProgress_of_asks hasks (s.handler.topics_ne_nil s.product) hdone
    rw [hnothing e he] at hprogress
    cases hprogress
  | noticing _ _ hlistening => exact ⟨hlistening, rfl⟩
  | reading =>
    have hcase := readCase t s link
    generalize s.read t link = turn at hcase hdone hnothing
    cases hcase with
    | accepted frame => cases hnothing (.received frame) List.mem_cons_self
    | refused | unread | unfinished => cases hdone
  | idling => cases hdone

/-- A subscriber that has stopped looking at its mailbox does not begin again. -/
theorem toNat_listening_step_le (t : Transport σ) (s : Subscriber) (link : σ) :
    (s.step t link).subscriber.listening.toNat ≤ s.listening.toNat := by
  rcases keepsWatch_or_notices t s link with hwatch | ⟨-, -, hstep⟩
  · exact Nat.le_of_eq (congrArg Bool.toNat hwatch.listening)
  · rw [hstep]
    exact Nat.zero_le _

/-! ## What is left to do -/

theorem awaits_iff : s.awaits = true ↔ s.held ≠ [] ∨ s.parked = true := by
  rw [awaits, Bool.or_eq_true, isSubscribed, Bool.not_eq_true', List.isEmpty_eq_false_iff]

theorem awaits_noteSent (s : Subscriber) (frame : ControlFrame) :
    (s.noteSent frame).awaits = true := by
  unfold noteSent
  cases frame.method with
  | subscribe => exact awaits_iff.mpr (.inl (List.ne_nil_of_mem List.mem_insert_self))
  | unsubscribe => exact awaits_iff.mpr (.inr rfl)

/-- A subscriber that has nothing to ask for has nothing to ask for after it has sent a frame. -/
theorem SendCase.awaits {frame : ControlFrame} {turn : Turn σ}
    (h : SendCase t s link frame turn) (hdone : turn.ending = .done)
    (hawaits : s.awaits = true) : turn.subscriber.awaits = true := by
  cases h with
  | dropped => exact hawaits
  | sent => exact awaits_noteSent s frame
  | unsent | unfinished => cases hdone

/-- The steps that can still be made whatever fails: one for each frame in the mailbox, and one
to notice that no more will come. -/
def stock (s : Subscriber) : Nat := s.mailbox.length + s.listening.toNat

/-- The steps that can still be made if nothing fails: those, and one to ask for the topics. -/
def reserve (s : Subscriber) : Nat := s.stock + (!s.awaits).toNat

theorem stock_step_le (t : Transport σ) (s : Subscriber) (link : σ) :
    (s.step t link).subscriber.stock ≤ s.stock := by
  have htaken := congrArg List.length (takesInOrder_step t s link)
  rw [List.length_append] at htaken
  have hlistening := toNat_listening_step_le t s link
  unfold stock
  omega

theorem stock_flush_le (t : Transport σ) (s : Subscriber) (link : σ) :
    (s.flush t link).subscriber.stock ≤ s.stock := by
  have htaken := congrArg List.length (takesInOrder_flush t s link)
  rw [List.length_append] at htaken
  rw [stock, stock, (keepsWatch_flush t s link).listening]
  omega

/-- Taking a frame from the mailbox lowers the reserve. -/
theorem reserve_sendNext_lt {frame : ControlFrame} {rest : List ControlFrame}
    (hmailbox : s.mailbox = frame :: rest) (hdone : (s.sendNext t link frame rest).ending = .done) :
    (s.sendNext t link frame rest).subscriber.reserve < s.reserve := by
  have hleft : (s.sendNext t link frame rest).subscriber.mailbox = rest :=
    send_mailbox t { s with mailbox := rest } link frame
  have hawaits : (!(s.sendNext t link frame rest).subscriber.awaits).toNat ≤ (!s.awaits).toNat := by
    cases hbefore : s.awaits with
    | true =>
      have hafter : (s.sendNext t link frame rest).subscriber.awaits = true :=
        (sendCase t { s with mailbox := rest } link frame).awaits hdone hbefore
      exact Nat.le_of_eq (by rw [hafter])
    | false => exact Bool.toNat_le _
  rw [reserve, reserve, stock, stock, hleft, hmailbox, List.length_cons,
    (keepsWatch_sendNext t s link frame rest).listening]
  omega

/-- Asking for the topics lowers the reserve. -/
theorem reserve_subscribe_lt (hnone : s.held = []) (hunparked : s.parked = false)
    (hdone : (subscribe t s.topics s link).ending = .done) :
    (subscribe t s.topics s link).subscriber.reserve < s.reserve := by
  have hbefore : s.awaits = false := by
    rw [awaits, isSubscribed, hnone, hunparked]
    rfl
  have hafter : (subscribe t s.topics s link).subscriber.awaits = true := by
    obtain ⟨asked, hasks⟩ := asks_topics t s link hnone
    obtain ⟨topic, hmem⟩ := List.exists_mem_of_ne_nil _ (s.handler.topics_ne_nil s.product)
    exact awaits_iff.mpr (.inl (List.ne_nil_of_mem (((hasks.done hdone).2 topic).mpr (.inl hmem))))
  rw [reserve, reserve, stock, stock, subscribe_mailbox, hbefore, hafter,
    (keepsWatch_subscribe t s.topics s link).listening]
  exact Nat.lt_succ_self _

/-- **A step that is done and consumes nothing lowers the reserve**, and one that consumes
something does not raise it. -/
theorem reserve_step (hdone : (s.step t link).ending = .done) :
    (!(s.step t link).consumes).toNat + (s.step t link).subscriber.reserve ≤ s.reserve := by
  have hcase := stepCase t s link
  generalize s.step t link = turn at hcase hdone
  have hone : (!turn.consumes).toNat ≤ 1 := Bool.toNat_le _
  cases hcase with
  | control frame rest hmailbox =>
    have hless := reserve_sendNext_lt hmailbox hdone
    omega
  | subscribing _ hnone hunparked =>
    have hless := reserve_subscribe_lt hnone hunparked hdone
    omega
  | noticing hmailbox _ hlistening =>
    show 1 + (s.mailbox.length + 0 + (!s.awaits).toNat) ≤ _
    rw [reserve, stock, hlistening, Bool.toNat_true]
    omega
  | reading =>
    have hcase := readCase t s link
    generalize s.read t link = turn at hcase hdone
    cases hcase with
    | accepted frame link' handler update => exact Nat.le_of_eq (Nat.zero_add _)
    | refused | unread | unfinished => cases hdone
  | idling => cases hdone

end Subscriber

/-! ## A whole life -/

namespace Course

variable {σ : Type}

/-- An idle step ends the looking at the mailbox, and no move begins it again. -/
theorem countP_isIdle_step? (t : Transport σ) (c : Course σ) (m : SubscriberMove σ) :
    (c.step? t m).toList.countP Turn.isIdle + (c.move t m).subscriber.listening.toNat ≤
      c.subscriber.listening.toNat := by
  cases m with
  | stepped =>
    show [c.subscriber.step t.recorded c.link].countP Turn.isIdle +
      (c.subscriber.step t.recorded c.link).subscriber.listening.toNat ≤ _
    rw [countP_singleton_eq_toNat]
    cases hidle : (c.subscriber.step t.recorded c.link).isIdle with
    | true =>
      obtain ⟨hbefore, hafter⟩ := Subscriber.listening_of_isIdle hidle
      rw [hbefore, hafter]
      exact Nat.le_refl 1
    | false =>
      rw [Bool.toNat_false, Nat.zero_add]
      exact Subscriber.toNat_listening_step_le t.recorded c.subscriber c.link
  | enqueue frame =>
    show 0 + Bool.toNat (ite _ _ _ : Subscriber).listening ≤ _
    rw [Nat.zero_add]
    split <;> exact Nat.le_refl _
  | flushed =>
    have hwatch := Subscriber.keepsWatch_flush t.recorded c.subscriber c.link
    show 0 + (c.subscriber.flush t.recorded c.link).subscriber.listening.toNat ≤ _
    exact Nat.le_of_eq (by rw [Nat.zero_add, hwatch.listening])
  | orphan | stirred | replaced => exact Nat.le_of_eq (Nat.zero_add _)

/-- **There is an idle step only while the subscriber looks at its mailbox, and no other after
it.** -/
theorem countP_isIdle_steps (t : Transport σ) (c : Course σ) (ms : List (SubscriberMove σ)) :
    (c.steps t ms).countP Turn.isIdle ≤ c.subscriber.listening.toNat := by
  -- Along the moves: the idle steps so far and the looking that is left are together at most one.
  induction ms generalizing c with
  | nil => exact Nat.zero_le _
  | cons m ms ih =>
    have hmove := countP_isIdle_step? t c m
    have hrest := ih (c.move t m)
    rw [steps, List.countP_append]
    omega

end Course

namespace Session

variable {σ : Type} {t : Transport σ} {s : Session σ}

/-! ## Sessions -/

/-- The steps that can still be made in a session without a frame of the other side: those of the
subscriber, and one that fails.  A session that has ended makes none, but what the subscriber has in
stock it keeps for the next. -/
def credit (s : Session σ) : Nat :=
  s.subscriber.stock + if s.ending = none then (!s.subscriber.awaits).toNat + 1 else 0

theorem credit_of_ending (hending : s.ending ≠ none) :
    s.credit = s.subscriber.stock := by
  rw [credit, if_neg hending, Nat.add_zero]

theorem credit_of_live (hlive : s.ending = none) :
    s.credit = s.subscriber.reserve + 1 := by
  rw [credit, if_pos hlive, Subscriber.reserve, Nat.add_assoc]

theorem credit_le (s : Session σ) : s.credit ≤ s.subscriber.mailbox.length + 3 := by
  have hlistening := Bool.toNat_le s.subscriber.listening
  have hawaits := Bool.toNat_le (!s.subscriber.awaits)
  rw [credit, Subscriber.stock]
  split <;> omega

/-- A session makes a step that is done or has failed, if it has not ended; otherwise it stays. -/
inductive MadeCase (t : Transport σ) (s : Session σ) : Prop
  | done (hlive : s.ending = none)
    (hdone : (s.subscriber.step t.recorded s.link).ending = .done)
    (hmade : s.made? t .stepped = some (s.subscriber.step t.recorded s.link))
    (hmove : s.move t .stepped = s.after (s.subscriber.step t.recorded s.link) none)
  | failed (hlive : s.ending = none)
    (hmade : s.made? t .stepped = some (s.subscriber.step t.recorded s.link))
    (hmove : s.move t .stepped = s.after (s.subscriber.step t.recorded s.link) (some .failed))
  | unmade (hmade : s.made? t .stepped = none) (hmove : s.move t .stepped = s)

theorem madeCase (t : Transport σ) (s : Session σ) : MadeCase t s := by
  cases hlive : s.ending with
  | some ending =>
    refine .unmade ?_ ?_
    · rw [made?, hlive]
    · rw [move, hlive]
      rfl
  | none =>
    cases hend : (s.subscriber.step t.recorded s.link).ending with
    | done =>
      refine .done hlive hend ?_ ?_
      · rw [made?, hlive, hend]
      · rw [move, if_pos hlive, step, hend]
    | failed cause =>
      refine .failed hlive ?_ ?_
      · rw [made?, hlive, hend]
      · rw [move, if_pos hlive, step, hend]
    | waiting =>
      refine .unmade ?_ ?_
      · rw [made?, hlive, hend]
      · rw [move, if_pos hlive, step, hend]

/-- A session that has ended has no more to its credit than its subscriber has in stock. -/
theorem credit_ended (turn : Turn (Recorded σ)) (ending : SessionEnd) :
    (s.after turn (some ending)).credit = turn.subscriber.stock :=
  credit_of_ending (Option.some_ne_none ending)

theorem stock_le_credit (s : Session σ) : s.subscriber.stock ≤ s.credit := Nat.le_add_right _ _

/-- A step that a session makes without a frame of the other side is paid for. -/
theorem credit_step (t : Transport σ) (s : Session σ) :
    (s.made? t .stepped).toList.countP (!·.consumes) + (s.move t .stepped).credit ≤ s.credit := by
  cases madeCase t s with
  | done hlive hdone hmade hmove =>
    have hless := Subscriber.reserve_step hdone
    have hafter : (s.after (s.subscriber.step t.recorded s.link) none).credit =
        (s.subscriber.step t.recorded s.link).subscriber.reserve + 1 := credit_of_live rfl
    rw [hmade, hmove, hafter, credit_of_live hlive, Option.toList_some, countP_singleton_eq_toNat]
    omega
  | failed hlive hmade hmove =>
    -- The subscriber may have its topics to ask for again, but not in this session.
    have hless := Subscriber.stock_step_le t.recorded s.subscriber s.link
    have hone := Bool.toNat_le (!(s.subscriber.step t.recorded s.link).consumes)
    rw [hmade, hmove, credit_ended, credit_of_live hlive, Option.toList_some,
      countP_singleton_eq_toNat, Subscriber.reserve]
    omega
  | unmade hmade hmove =>
    rw [hmade, hmove]
    exact Nat.le_of_eq (Nat.zero_add _)

/-- The last sending of what is in the mailbox costs nothing. -/
theorem credit_dismiss_le (t : Transport σ) (s : Session σ) :
    (s.dismiss t).credit ≤ s.subscriber.stock := by
  rw [dismiss, credit_ended]
  exact Subscriber.stock_flush_le t.recorded s.subscriber s.link

/-- Another connection allows a subscriber to ask for its topics and to fail once more. -/
theorem credit_reconnect_le (s : Session σ) (link : σ) :
    (s.reconnect link).credit ≤ s.credit + 2 := by
  have hawaits := Bool.toNat_le (!s.subscriber.disconnected.awaits)
  have hcredit := s.stock_le_credit
  have hlive : (s.reconnect link).credit = s.subscriber.disconnected.reserve + 1 :=
    credit_of_live rfl
  have hstock : s.subscriber.disconnected.stock = s.subscriber.stock := rfl
  rw [hlive, Subscriber.reserve, hstock]
  omega

/-- What is posted is paid for. -/
theorem credit_post_le (s : Session σ) (frame : ControlFrame) :
    (s.post frame).credit ≤ s.credit + 1 := by
  unfold post
  split
  · exact Nat.le_succ _
  · have hawaits : (s.subscriber.enqueue frame).awaits = s.subscriber.awaits := rfl
    have hstock : (s.subscriber.enqueue frame).stock = s.subscriber.stock + 1 := by
      show (s.subscriber.mailbox ++ [frame]).length + s.subscriber.listening.toNat = _
      rw [List.length_append, Subscriber.stock, List.length_singleton]
      omega
    rw [credit, credit, hstock, hawaits]
    exact Nat.le_of_eq (Nat.add_right_comm _ 1 _)

theorem credit_posts_le (s : Session σ) (posted : List ControlFrame) :
    (posted.foldl post s).credit ≤ s.credit + posted.length := by
  induction posted generalizing s with
  | nil => exact Nat.le_refl _
  | cons frame posted ih =>
    have hone := credit_post_le s frame
    have hrest := ih (s.post frame)
    rw [List.foldl_cons, List.length_cons]
    omega

/-- A step that is given up costs nothing, and what was posted meanwhile is paid for. -/
theorem credit_cutShort_le (t : Transport σ) (s : Session σ) (posted : List ControlFrame) :
    (s.cutShort t posted).credit ≤ s.credit + posted.length := by
  have hstep := Subscriber.stock_step_le t.recorded s.subscriber s.link
  have hcredit := s.stock_le_credit
  have hended := credit_ended (s := s) (s.subscriber.step t.recorded s.link) .stopped
  have hposts := credit_posts_le (s.after (s.subscriber.step t.recorded s.link) (some .stopped))
    posted
  unfold cutShort
  dsimp only
  split
  · have hflush := credit_dismiss_le t
      (posted.foldl post (s.after (s.subscriber.step t.recorded s.link) (some .stopped)))
    have hstock := stock_le_credit
      (posted.foldl post (s.after (s.subscriber.step t.recorded s.link) (some .stopped)))
    omega
  · exact Nat.le_add_right _ _
  · exact Nat.le_add_right _ _

/-- **Every step of a session without a frame of the other side is paid for**: out of what the
session has to its credit, by a frame that is posted, or by another connection. -/
theorem credit_move (t : Transport σ) (s : Session σ) (m : SessionMove σ) :
    (s.made? t m).toList.countP (!·.consumes) + (s.move t m).credit ≤
      s.credit + m.posted.length + 2 * m.isReconnected.toNat := by
  have hstay : 0 + s.credit ≤ s.credit + 0 + 2 * 0 := Nat.le_of_eq (Nat.zero_add _)
  cases m with
  | stepped => exact credit_step t s
  | enqueue frame =>
    show 0 + (s.post frame).credit ≤ s.credit + 1 + 2 * 0
    have hless := credit_post_le s frame
    omega
  | orphan | stirred => exact hstay
  | cancelled =>
    show 0 + (s.move t .cancelled).credit ≤ s.credit + 0 + 2 * 0
    rw [move]
    split
    · have hless := credit_dismiss_le t s
      have hcredit := s.stock_le_credit
      omega
    · exact hstay
  | cutShort posted =>
    show 0 + (s.move t (.cutShort posted)).credit ≤ s.credit + posted.length + 2 * 0
    rw [move]
    split
    · have hless := credit_cutShort_le t s posted
      omega
    · omega
  | reconnected link =>
    show 0 + (s.move t (.reconnected link)).credit ≤ s.credit + 0 + 2 * 1
    rw [move]
    split
    · have hless := credit_reconnect_le s link
      omega
    · omega

/-- The steps of a session without a frame of the other side, all together. -/
theorem countP_made_le (t : Transport σ) (s : Session σ) (ms : List (SessionMove σ)) :
    (s.made t ms).countP (!·.consumes) ≤
      s.credit + (ms.flatMap SessionMove.posted).length +
        2 * ms.countP SessionMove.isReconnected := by
  induction ms generalizing s with
  | nil => exact Nat.zero_le _
  | cons m ms ih =>
    have hmove := credit_move t s m
    have hrest := ih (s.move t m)
    have hframes : ((m :: ms).flatMap SessionMove.posted).length =
        m.posted.length + (ms.flatMap SessionMove.posted).length := by
      rw [List.flatMap_cons, List.length_append]
    have hreconnected : (m :: ms).countP SessionMove.isReconnected =
        m.isReconnected.toNat + ms.countP SessionMove.isReconnected := by
      rw [← List.singleton_append, List.countP_append, countP_singleton_eq_toNat]
    rw [made, List.countP_append, hframes, hreconnected]
    omega

end Session

/-- **A subscriber cannot spin.**

* Whatever befalls a new subscriber, on any number of connections, and whenever the last sender of
  its mailbox goes away: at most one of the steps of its whole life is done without having taken a
  control frame from the mailbox, written one, or consumed a frame of the other side.
* From any point of its life on, the steps that are made are no more than the frames of the other
  side that are consumed, the control frames that are in the mailbox and those that are posted
  later, two for each further connection, and three.  So on a connection on which nothing arrives
  and for which nothing is posted, a session makes three steps at most besides those for the frames
  that are in the mailbox already. -/
theorem cannot_spin {σ : Type} (t : Transport σ) (product : ProductCode) (handler : Handler)
    (config : ConnectionConfig) (link : σ) :
    (∀ ms : List (SubscriberMove σ),
      ((Course.start product handler config link).steps t ms).countP Turn.isIdle ≤ 1) ∧
    ∀ early ms : List (SessionMove σ),
      let s := (Session.start product handler config link).run t early
      (s.made t ms).length ≤
        (s.made t ms).countP Turn.consumes + s.subscriber.mailbox.length +
          (ms.flatMap SessionMove.posted).length +
          2 * ms.countP SessionMove.isReconnected + 3 := by
  refine ⟨fun ms => ?_, fun early ms => ?_⟩
  · exact (Course.start product handler config link).countP_isIdle_steps t ms
  · intro s
    have hmade := s.countP_made_le t ms
    have hcredit := s.credit_le
    have hlength : (s.made t ms).length =
        (s.made t ms).countP Turn.consumes + (s.made t ms).countP (!·.consumes) := by
      simpa using @List.length_eq_countP_add_countP _ Turn.consumes (s.made t ms)
    omega

/-- On a connection that closes the three are made: the subscriber asks for its topic, notices that
nothing will come into its mailbox, and fails to read. -/
example :
    let t : Transport Unit :=
      { write := fun link _ => (.done (), link)
        read := fun link _ => (.failed .connectionClosed, link) }
    ((Session.start "BTC_JPY" .ticker .usual ()).made t
      [.orphan, .stepped, .stepped, .stepped, .stepped]).length = 3 := by
  rfl

end ExchangeClient
