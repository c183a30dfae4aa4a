import ExchangeClient.Proofs.Feed.Progress
import ExchangeClient.Proofs.Stream.Declining

/-!
# What a stop leaves subscribed

A stop and the worker act on one feed in any order: the stop declines the topics one after the
other and then asks the worker to stop; the worker makes its steps, and when it sees the
request it sends what is in the mailbox and closes the connection.

Suppose that on one connection every write goes through and that it stands until the worker
sees the request.  Then a topic that was asked for on the connection has been declined before
it is closed, unless its unsubscription was taken before the subscriber asked for its topics.
Such an unsubscription is dropped, and the subscriber, whose mailbox may be empty for a
moment, asks for the topic later and never declines it.

From the moment a connection is made (`Progress.dialed`) every move on it keeps to `Accounts`,
which says what became of the unsubscriptions that were left.
-/

namespace ExchangeClient

open StreamEvent

/-- Whether every topic that was asked for was declined afterwards. -/
def ControlFrame.DeclinesAll (frames : List ControlFrame) : Prop :=
  ∀ topic before after, frames = before ++ .subscribe topic :: after →
    .unsubscribe topic ∈ after

namespace StoppableFeed

variable {σ : Type} {t : Transport σ} {f : StoppableFeed σ} {topics early : List String}
  {events : List StreamEvent}

/-! ## Moves on a connection -/

/-- Where a stop stands in a session: it asks the worker to stop only when no topic is
pending, and as long as the connection stands the unsubscriptions are accounted for. -/
structure Accounts (topics early : List String) (events : List StreamEvent)
    (f : StoppableFeed σ) : Prop where
  cancelled : f.isCancelled = true → f.pending = []
  subscriber : f.feed.link = none ∨
    f.feed.subscriber.topics = topics ∧
      Subscriber.Declining topics early f.feed.subscriber f.pending events

namespace Accounts

theorem declineNext (h : Accounts topics early events f) :
    Accounts topics early events f.declineNext := by
  unfold StoppableFeed.declineNext
  split
  · exact h
  · next topic rest hpending =>
    refine ⟨fun hcancelled => ?_, ?_⟩
    · rw [h.cancelled hcancelled] at hpending
      cases hpending
    · rcases h.subscriber with hlink | ⟨htopics, hdeclining⟩
      · exact Or.inl hlink
      · rw [hpending] at hdeclining
        exact Or.inr ⟨htopics, hdeclining.enqueue⟩

theorem cancel (h : Accounts topics early events f) : Accounts topics early events f.cancel := by
  unfold StoppableFeed.cancel
  split
  · next hpending => exact ⟨fun _ => hpending, h.subscriber⟩
  · exact h

theorem stirred (change : σ → σ) (h : Accounts topics early events f) :
    Accounts topics early events (f.work t (.stirred change)).1 := by
  refine ⟨h.cancelled, ?_⟩
  rcases h.subscriber with hlink | hdeclining
  · refine Or.inl ?_
    show f.feed.link.map change = none
    rw [hlink]
    rfl
  · exact Or.inr hdeclining

theorem stepped (hwrites : t.AlwaysWrites) (hnodup : topics.Nodup) (hne : topics ≠ [])
    (h : Accounts topics early events f) :
    Accounts topics early (events ++ (f.work t .stepped).2) (f.work t .stepped).1 := by
  refine ⟨h.cancelled, ?_⟩
  show (f.feed.step t).1.link = none ∨
    (f.feed.step t).1.subscriber.topics = topics ∧
      Subscriber.Declining topics early (f.feed.step t).1.subscriber f.pending
        (events ++ (f.feed.step t).2.1)
  unfold Feed.step
  cases hlink : f.feed.link with
  | none => exact Or.inl hlink
  | some link =>
    obtain ⟨htopics, hdeclining⟩ := h.subscriber.resolve_left (by rw [hlink]; simp)
    have hafter := (Subscriber.handsOn_step t f.feed.subscriber link).topics_eq.trans htopics
    dsimp only
    rcases hdeclining.step hwrites hnodup hne htopics link with ⟨cause, hfailed⟩ | hstep
    · rw [hfailed]
      exact Or.inl rfl
    · split
      · exact Or.inr ⟨hafter, hstep⟩
      · exact Or.inr ⟨hafter, hstep⟩
      · exact Or.inl rfl

theorem move (hwrites : t.AlwaysWrites) (hnodup : topics.Nodup) (hne : topics ≠ [])
    (h : Accounts topics early events f) {m : StopMove σ} (hm : m.isWithinSession = true) :
    Accounts topics early (events ++ (f.move t m).2) (f.move t m).1 := by
  cases m with
  | declined =>
    rw [StoppableFeed.move, List.append_nil]
    exact h.declineNext
  | cancelled =>
    rw [StoppableFeed.move, List.append_nil]
    exact h.cancel
  | worked m =>
    cases m with
    | stirred change =>
      rw [StoppableFeed.move, show (f.work t (.stirred change)).2 = [] from rfl,
        List.append_nil]
      exact h.stirred change
    | stepped => exact h.stepped hwrites hnodup hne
    | enqueue | orphan | dialAnswered | woken | halted => cases hm

theorem run (hwrites : t.AlwaysWrites) (hnodup : topics.Nodup) (hne : topics ≠ [])
    (h : Accounts topics early events f) {ms : List (StopMove σ)}
    (hms : ∀ m ∈ ms, m.isWithinSession = true) :
    Accounts topics early (events ++ (f.run t ms).2) (f.run t ms).1 := by
  induction ms generalizing f events with
  | nil =>
    rw [run_nil, List.append_nil]
    exact h
  | cons m ms ih =>
    rw [run_cons, ← List.append_assoc]
    exact ih (h.move hwrites hnodup hne (hms m List.mem_cons_self))
      fun m' hm' => hms m' (List.mem_cons_of_mem m hm')

/-- When the worker sees the request on a standing connection, the mailbox is emptied and every
unsubscription is accounted for. -/
theorem halted (hwrites : t.AlwaysWrites) (hnodup : topics.Nodup)
    (h : Accounts topics early events f) (hstands : f.feed.link.isSome)
    (hcancelled : f.isCancelled = true) :
    ∃ s : Subscriber, s.mailbox = [] ∧
      Subscriber.Declining topics early s [] (events ++ (f.work t .halted).2) := by
  obtain ⟨link, hlink⟩ := Option.isSome_iff_exists.mp hstands
  obtain ⟨-, hdeclining⟩ := h.subscriber.resolve_left (by rw [hlink]; simp)
  rw [h.cancelled hcancelled] at hdeclining
  obtain ⟨hmailbox, hflush⟩ := hdeclining.flush hwrites hnodup link
  have hevents : (f.work t .halted).2 = (f.feed.subscriber.flush t link).events := by
    rw [StoppableFeed.work, if_pos (show f.allows .halted = true from hcancelled)]
    show (f.feed.halt t).2.1 = _
    rw [Feed.halt, hlink]
  rw [hevents]
  exact ⟨_, hmailbox, hflush⟩

end Accounts

/-! ## From the dial to the end -/

/-- When a connection is made, the unsubscriptions that were taken are spent, and the others
are accounted for on it. -/
theorem Progress.dialed (t : Transport σ) (link : σ) (h : Progress events f)
    (hlink : f.feed.link = none) :
    ∃ early, takenFrames events = early.map .unsubscribe ∧
      Accounts f.feed.subscriber.topics early [] (f.work t (.dialAnswered (.ok link))).1 := by
  obtain ⟨early, left, htopics, hearly, hleft⟩ :=
    List.map_eq_append_iff.mp h.unsubscriptions.symm
  obtain ⟨waiting, pending, rfl, hwaiting, hpending⟩ := List.map_eq_append_iff.mp hleft
  obtain rfl : pending = f.pending :=
    List.map_injective_iff.mpr ControlFrame.unsubscribe_injective hpending
  have hdeclining : Subscriber.Declining f.feed.subscriber.topics early f.feed.subscriber
      f.pending [] :=
    .unasked [] waiting htopics (h.unheld hlink) hwaiting.symm rfl rfl
  have hafter : (f.work t (.dialAnswered (.ok link))).1 =
      { f with feed := if f.feed.wantsDial then f.feed.answerDial (.ok link) else f.feed } := by
    show ({ f with feed := (f.feed.move t (.dialAnswered (.ok link))).1 } : StoppableFeed σ) = _
    rw [Feed.move]
  refine ⟨early, hearly.symm, ?_⟩
  rw [hafter]
  refine ⟨h.cancelled, ?_⟩
  dsimp only
  split
  · exact Or.inr ⟨rfl, hdeclining⟩
  · exact Or.inl hlink

/-- **What a stop leaves subscribed.**  Take a feed at any point of its life at which it has no
connection; a stop may be under way by then.  Let a connection be made that takes every frame
and stands till the worker sees the request to stop, whatever order the stop and the worker
act in meanwhile.  Then every topic that was asked for on the connection is declined on it
before it is closed if and only if the unsubscription of no such topic was taken before the
connection was made or dropped on it. -/
theorem declinesAll_iff (earlier t : Transport σ) (hwrites : t.AlwaysWrites) (manager : Manager)
    (product : ProductCode) (handler : Handler) (config : ConnectionConfig)
    (past : List (StopMove σ)) (link : σ) (ms : List (StopMove σ)) :
    let feed : Feed σ := ⟨manager, .ofHandler product handler config, none⟩
    let before := (ofFeed feed).run earlier past
    let session := (before.1.work t (.dialAnswered (.ok link))).1.run t ms
    let events := session.2 ++ (session.1.work t .halted).2
    before.1.feed.link = none → (∀ m ∈ ms, m.isWithinSession = true) →
      session.1.feed.link.isSome → session.1.isCancelled = true →
        (ControlFrame.DeclinesAll (sentFrames events) ↔
          ∀ topic, .subscribe topic ∈ sentFrames events →
            .unsubscribe topic ∉ takenFrames before.2 ∧
              .unsubscribe topic ∉ droppedFrames events) := by
  intro feed before session events hunlinked hms hstands hcancelled
  have hprogress : Progress before.2 before.1 :=
    (progress_ofHandler manager product handler config).run earlier past
  obtain ⟨early, htaken, hdialed⟩ := hprogress.dialed t link hunlinked
  have hnodup : before.1.feed.subscriber.topics.Nodup := Handler.topics_nodup _ _
  have haccounts := hdialed.run hwrites hnodup (Handler.topics_ne_nil _ _) hms
  obtain ⟨s, hempty, hdeclining⟩ := haccounts.halted hwrites hnodup hstands hcancelled
  rw [List.nil_append] at hdeclining
  rw [htaken]
  constructor
  · intro hall topic hmem
    obtain ⟨front, back, hsplit⟩ := List.append_of_mem hmem
    rw [List.mem_map_of_injective ControlFrame.unsubscribe_injective]
    exact (hdeclining.unsubscribe_mem_iff hnodup hempty hsplit).mp (hall topic front back hsplit)
  · intro hkept topic front back hsplit
    have hmem : .subscribe topic ∈ sentFrames events := by
      rw [hsplit]
      exact List.mem_append_right front List.mem_cons_self
    have hleft := hkept topic hmem
    rw [List.mem_map_of_injective ControlFrame.unsubscribe_injective] at hleft
    exact (hdeclining.unsubscribe_mem_iff hnodup hempty hsplit).mpr hleft

/-! ## One stop with either outcome -/

theorem alwaysWrites_muted : Transport.muted.AlwaysWrites := fun _ _ => rfl

/-- A feed that is about to be dialled for the first time. -/
def newFeed (handler : Handler) : Feed Unit :=
  ⟨⟨10, .connecting, some .fresh⟩, .ofHandler "BTC_JPY" handler .usual, none⟩

/-- A stop that comes after a merged board was asked for declines both of its topics, the
second when the worker has seen the request. -/
theorem late_stop_declines_all :
    let session := ((ofFeed (newFeed (.merged .empty))).work .muted
      (.dialAnswered (.ok ()))).1.run .muted
        [.worked .stepped, .declined, .worked .stepped, .declined, .cancelled]
    let events := session.2 ++ (session.1.work .muted .halted).2
    session.1.feed.link.isSome ∧ session.1.isCancelled = true ∧
      sentFrames events =
        [.subscribe "lightning_board_BTC_JPY", .subscribe "lightning_board_snapshot_BTC_JPY",
          .unsubscribe "lightning_board_BTC_JPY",
          .unsubscribe "lightning_board_snapshot_BTC_JPY"] ∧
      ControlFrame.DeclinesAll (sentFrames events) := by
  intro session events
  have hstands : session.1.feed.link.isSome := by decide
  have hcancelled : session.1.isCancelled = true := by decide
  have hsent : sentFrames events =
      [.subscribe "lightning_board_BTC_JPY", .subscribe "lightning_board_snapshot_BTC_JPY",
        .unsubscribe "lightning_board_BTC_JPY",
        .unsubscribe "lightning_board_snapshot_BTC_JPY"] := by
    decide
  have hnone : droppedFrames events = [] := by decide
  refine ⟨hstands, hcancelled, hsent, ?_⟩
  refine (declinesAll_iff .muted .muted alwaysWrites_muted ⟨10, .connecting, some .fresh⟩
    "BTC_JPY" (.merged .empty) .usual [] () _ rfl (by simp [StopMove.isWithinSession]) hstands
    hcancelled).mpr fun topic _ => ⟨List.not_mem_nil, ?_⟩
  show _ ∉ droppedFrames events
  rw [hnone]
  exact List.not_mem_nil

/-- A stop that declines the ticker just before it is asked for leaves it subscribed: the
unsubscription is dropped, and none is sent after the subscription. -/
theorem hasty_stop_leaves_subscribed :
    let session := ((ofFeed (newFeed .ticker)).work .muted (.dialAnswered (.ok ()))).1.run .muted
      [.declined, .worked .stepped, .worked .stepped, .cancelled]
    (∀ link frame, (Transport.muted.write link frame).1 = .done ()) ∧
      session.1.feed.link.isSome ∧ session.1.isCancelled = true ∧
      sentFrames (session.2 ++ (session.1.work .muted .halted).2) =
        [.subscribe "lightning_ticker_BTC_JPY"] ∧
      ¬ ControlFrame.DeclinesAll
        (sentFrames (session.2 ++ (session.1.work .muted .halted).2)) := by
  intro session
  have hsent : sentFrames (session.2 ++ (session.1.work .muted .halted).2) =
      [.subscribe "lightning_ticker_BTC_JPY"] := by
    decide
  refine ⟨fun _ _ => rfl, rfl, rfl, hsent, fun hall => ?_⟩
  rw [hsent] at hall
  exact List.not_mem_nil (hall "lightning_ticker_BTC_JPY" [] [] rfl)

end StoppableFeed
end ExchangeClient
