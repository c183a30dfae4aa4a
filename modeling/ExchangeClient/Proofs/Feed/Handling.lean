import ExchangeClient.Feed.Move
import ExchangeClient.Proofs.Stream.Handling

/-!
# What reaches the handler of a feed

Dials, waits, failing sessions and requests to stop leave the handler of a feed alone; only
the steps of the subscriber come near it, and they hand on what they read.  So over any run
of a feed, through any number of connections, every frame that was received went to the
handler once and in order (`handled_run`).
-/

namespace ExchangeClient
namespace Feed

variable {σ : Type}

/-- What a feed did hands what was read to the handler. -/
structure HandsOn (f : Feed σ) (after : Feed σ) (events : List StreamEvent) : Prop where
  product : after.subscriber.product = f.subscriber.product
  handled :
    Handled f.subscriber.product f.subscriber.handler events after.subscriber.handler

/-- What leaves product and handler alone and tells nothing hands nothing on. -/
theorem HandsOn.of_silent {f after : Feed σ}
    (hproduct : after.subscriber.product = f.subscriber.product)
    (hhandler : after.subscriber.handler = f.subscriber.handler) : HandsOn f after [] := by
  refine ⟨hproduct, ?_⟩
  rw [hhandler]
  exact Handled.nil _

theorem HandsOn.trans {f g k : Feed σ} {events more : List StreamEvent}
    (hfirst : HandsOn f g events) (hmore : HandsOn g k more) : HandsOn f k (events ++ more) := by
  refine ⟨hmore.product.trans hfirst.product, hfirst.handled.append ?_⟩
  rw [← hfirst.product]
  exact hmore.handled

/-- Handing on what was read leaves the key of the feed alone. -/
theorem HandsOn.key_eq {f after : Feed σ} {events : List StreamEvent}
    (h : HandsOn f after events) : after.key = f.key := by
  rw [key, key, Subscriber.key, Subscriber.key, h.product, h.handled.kind_eq]

theorem handsOn_step (t : Transport σ) (f : Feed σ) :
    HandsOn f (f.step t).1 (f.step t).2.1 := by
  unfold step
  cases f.link with
  | none => exact .of_silent rfl rfl
  | some link =>
    have hstep := Subscriber.handsOn_step t f.subscriber link
    dsimp only
    split
    · exact ⟨hstep.product, hstep.handled⟩
    · exact ⟨hstep.product, hstep.handled⟩
    · exact ⟨hstep.product, hstep.handled⟩

theorem handsOn_halt (t : Transport σ) (f : Feed σ) :
    HandsOn f (f.halt t).1 (f.halt t).2.1 := by
  unfold halt
  dsimp only
  cases f.link with
  | none => exact .of_silent rfl rfl
  | some link =>
    have hflush := Subscriber.handsOn_flush t f.subscriber link
    exact ⟨hflush.product, hflush.handled⟩

theorem handsOn_move (t : Transport σ) (f : Feed σ) (m : FeedMove σ) :
    HandsOn f (f.move t m).1 (f.move t m).2 := by
  cases m with
  | enqueue frame =>
    rw [move]
    split
    · exact .of_silent rfl rfl
    · exact .of_silent rfl rfl
  | orphan => exact .of_silent rfl rfl
  | dialAnswered answer =>
    rw [move]
    split
    · cases answer with
      | ok link => exact .of_silent rfl rfl
      | error cause => exact .of_silent rfl rfl
    · exact .of_silent rfl rfl
  | woken => exact .of_silent rfl rfl
  | stirred change => exact .of_silent rfl rfl
  | stepped => exact handsOn_step t f
  | halted => exact handsOn_halt t f

theorem handsOn_run (t : Transport σ) (f : Feed σ) (ms : List (FeedMove σ)) :
    HandsOn f (f.run t ms).1 (f.run t ms).2 := by
  induction ms generalizing f with
  | nil => exact .of_silent rfl rfl
  | cons m ms ih => exact (handsOn_move t f m).trans (ih _)

/-- **A run hands what it reads to the handler**, once and in order. -/
theorem handled_run (t : Transport σ) (f : Feed σ) (ms : List (FeedMove σ)) :
    Handled f.subscriber.product f.subscriber.handler (f.run t ms).2
      (f.run t ms).1.subscriber.handler :=
  (handsOn_run t f ms).handled

end Feed
end ExchangeClient
