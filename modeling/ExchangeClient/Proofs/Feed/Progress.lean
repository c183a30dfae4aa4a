import ExchangeClient.Feed.Stopping
import ExchangeClient.Proofs.Feed.Handling
import ExchangeClient.Proofs.Stream.Mailbox

/-!
# How far a stop has come

Only a stop puts anything into the mailbox of a feed, and it puts in one unsubscription for
each topic, in order.  So at every point of the life of a feed each unsubscription was taken
by the subscriber, waits in the mailbox, or is still to come (`Progress`), on however many
connections the subscriber has worked meanwhile.  And a feed without a connection holds no
topic.
-/

namespace ExchangeClient

open StreamEvent

namespace StoppableFeed

variable {σ : Type} {t : Transport σ} {f : StoppableFeed σ} {events : List StreamEvent}

/-- How far a stop has come with a feed in the course of some events: the unsubscriptions that
were taken, those in the mailbox and those to come are those of the topics, in order. -/
structure Progress (events : List StreamEvent) (f : StoppableFeed σ) : Prop where
  unsubscriptions :
    takenFrames events ++ (f.feed.subscriber.mailbox ++ f.pending.map .unsubscribe) =
      f.feed.subscriber.topics.map .unsubscribe
  cancelled : f.isCancelled = true → f.pending = []
  unheld : f.feed.link = none → f.feed.subscriber.held = []

/-- A move of the worker that takes frames in order and, if it leaves the connection, holds
nothing afterwards. -/
structure Proceeds (f after : Feed σ) (events : List StreamEvent) : Prop where
  topics : after.subscriber.topics = f.subscriber.topics
  mailbox : takenFrames events ++ after.subscriber.mailbox = f.subscriber.mailbox
  unheld : (f.link = none → f.subscriber.held = []) → after.link = none →
    after.subscriber.held = []

theorem proceeds_step (t : Transport σ) (f : Feed σ) : Proceeds f (f.step t).1 (f.step t).2.1 := by
  unfold Feed.step
  cases hlink : f.link with
  | none => exact ⟨rfl, rfl, fun h _ => h hlink⟩
  | some link =>
    have htopics := (Subscriber.handsOn_step t f.subscriber link).topics_eq
    have hmailbox := Subscriber.takesInOrder_step t f.subscriber link
    dsimp only
    split
    · exact ⟨htopics, hmailbox, fun _ hnone => by cases hnone⟩
    · exact ⟨htopics, hmailbox, fun _ hnone => by cases hnone⟩
    · exact ⟨htopics, hmailbox, fun _ _ => rfl⟩

theorem proceeds_halt (t : Transport σ) (f : Feed σ) : Proceeds f (f.halt t).1 (f.halt t).2.1 := by
  unfold Feed.halt
  dsimp only
  cases hlink : f.link with
  | none => exact ⟨rfl, rfl, fun h _ => h hlink⟩
  | some link =>
    have htopics := (Subscriber.handsOn_flush t f.subscriber link).topics_eq
    exact ⟨htopics, Subscriber.takesInOrder_flush t f.subscriber link, fun _ _ => rfl⟩

theorem proceeds_work (t : Transport σ) (f : StoppableFeed σ) (m : FeedMove σ) :
    Proceeds f.feed (f.work t m).1.feed (f.work t m).2 := by
  unfold work
  split
  · next hallowed =>
    cases m with
    | enqueue frame => cases hallowed
    | orphan => cases hallowed
    | dialAnswered answer =>
      rw [Feed.move]
      split
      · cases answer with
        | ok link => exact ⟨rfl, rfl, fun _ hnone => by cases hnone⟩
        | error cause => exact ⟨rfl, rfl, fun h => h⟩
      · exact ⟨rfl, rfl, fun h => h⟩
    | woken => exact ⟨rfl, rfl, fun h => h⟩
    | stirred change => exact ⟨rfl, rfl, fun h hnone => h (Option.map_eq_none_iff.mp hnone)⟩
    | stepped => exact proceeds_step t f.feed
    | halted => exact proceeds_halt t f.feed
  · exact ⟨rfl, rfl, fun h => h⟩

namespace Progress

theorem work (t : Transport σ) (h : Progress events f) (m : FeedMove σ) :
    Progress (events ++ (f.work t m).2) (f.work t m).1 := by
  have hproceeds := proceeds_work t f m
  have hstop : (f.work t m).1.pending = f.pending ∧
      (f.work t m).1.isCancelled = f.isCancelled := by
    unfold StoppableFeed.work
    split <;> exact ⟨rfl, rfl⟩
  refine ⟨?_, ?_, hproceeds.unheld h.unheld⟩
  · rw [takenFrames_append, hproceeds.topics, hstop.1, ← h.unsubscriptions,
      ← hproceeds.mailbox, List.append_assoc, List.append_assoc]
  · rw [hstop.1, hstop.2]
    exact h.cancelled

theorem declineNext (h : Progress events f) : Progress events f.declineNext := by
  unfold StoppableFeed.declineNext
  split
  · exact h
  · next topic rest hpending =>
    refine ⟨?_, fun hcancelled => ?_, h.unheld⟩
    · have hall := h.unsubscriptions
      rw [hpending, List.map_cons, List.append_cons] at hall
      exact hall
    · rw [h.cancelled hcancelled] at hpending
      cases hpending

theorem cancel (h : Progress events f) : Progress events f.cancel := by
  unfold StoppableFeed.cancel
  split
  · next hpending => exact ⟨h.unsubscriptions, fun _ => hpending, h.unheld⟩
  · exact h

theorem move (t : Transport σ) (h : Progress events f) (m : StopMove σ) :
    Progress (events ++ (f.move t m).2) (f.move t m).1 := by
  cases m with
  | declined =>
    rw [StoppableFeed.move, List.append_nil]
    exact h.declineNext
  | cancelled =>
    rw [StoppableFeed.move, List.append_nil]
    exact h.cancel
  | worked m => exact h.work t m

theorem run (t : Transport σ) (h : Progress events f) (ms : List (StopMove σ)) :
    Progress (events ++ (f.run t ms).2) (f.run t ms).1 := by
  induction ms generalizing f events with
  | nil =>
    rw [run_nil, List.append_nil]
    exact h
  | cons m ms ih =>
    rw [run_cons, ← List.append_assoc]
    exact ih (h.move t m)

end Progress

/-- A new feed has everything before it. -/
theorem progress_ofHandler (manager : Manager) (product : ProductCode) (handler : Handler)
    (config : ConnectionConfig) :
    Progress [] (ofFeed (⟨manager, .ofHandler product handler config, none⟩ : Feed σ)) where
  unsubscriptions := rfl
  cancelled h := by cases h
  unheld _ := rfl

end StoppableFeed
end ExchangeClient
