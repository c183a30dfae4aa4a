import ExchangeClient.Feed.Stopping
import ExchangeClient.Proofs.Feed.Handling

/-!
# A worker that has exited stays so

Nothing happens to a worker that has exited, and neither a move of its feed nor a stop puts
another in its place: all that moves do to it is to let events happen
(`exists_reacts_move`).  So a worker that runs after some move ran before it
(`isRunning_of_move`), and the key of its feed is the same.
-/

namespace ExchangeClient

namespace Manager

variable {m : Manager}

theorem isRunning_of_react {event : WorkerEvent} (h : (m.react event).isRunning = true) :
    m.isRunning = true := by
  unfold react at h
  cases hworker : m.worker with
  | none =>
    rw [hworker] at h
    exact h
  | some w =>
    rw [hworker] at h
    cases hexited : w.hasExited with
    | true =>
      rw [Option.bind_some, Worker.react_eq_none_of_exited hexited] at h
      exact h
    | false =>
      rw [isRunning, hworker, Option.any_some, hexited]
      rfl

theorem isRunning_of_reacts {events : List WorkerEvent}
    (h : (m.reacts events).isRunning = true) : m.isRunning = true := by
  induction events generalizing m with
  | nil => exact h
  | cons event events ih => exact isRunning_of_react (ih h)

/-- No worker is left after a stop. -/
theorem isRunning_finish (m : Manager) : m.finish.isRunning = false := by
  unfold finish
  split
  · rfl
  · next hnone =>
    rw [isRunning, Option.not_isSome_iff_eq_none.mp hnone]
    rfl

end Manager

namespace Feed

variable {σ : Type} {t : Transport σ} {f : Feed σ}

/-- A feed that was started works with the subscriber that it was given. -/
theorem subscriber_of_start {config : RealtimeConfig} {s : Subscriber}
    (h : start config s = .ok f) : f.subscriber = s := by
  unfold start at h
  cases hmanager : (Manager.ofConfig config.connection).start config.endpoint with
  | error cause =>
    rw [hmanager] at h
    cases h
  | ok manager =>
    rw [hmanager] at h
    cases h
    rfl

/-! ## What a move does to the manager -/

/-- A step lets nothing but events happen to the worker. -/
theorem exists_reacts_step (t : Transport σ) (f : Feed σ) :
    ∃ events, (f.step t).1.manager = f.manager.reacts events := by
  unfold step
  cases f.link with
  | none => exact ⟨[], rfl⟩
  | some link =>
    dsimp only
    split
    · exact ⟨[], rfl⟩
    · exact ⟨[], rfl⟩
    · exact ⟨[.sessionFailed, .joined, .closed], rfl⟩

theorem exists_reacts_halt (t : Transport σ) (f : Feed σ) :
    ∃ events, (f.halt t).1.manager = f.manager.reacts events := by
  unfold halt
  dsimp only
  cases f.link with
  | none => exact ⟨[.stopSeen], rfl⟩
  | some link => exact ⟨[.stopSeen, .joined, .closed], rfl⟩

/-- **A move of a feed lets nothing but events happen to the worker.** -/
theorem exists_reacts_move (t : Transport σ) (f : Feed σ) (m : FeedMove σ) :
    ∃ events, (f.move t m).1.manager = f.manager.reacts events := by
  cases m with
  | enqueue frame =>
    rw [move]
    split
    · exact ⟨[], rfl⟩
    · exact ⟨[], rfl⟩
  | orphan => exact ⟨[], rfl⟩
  | dialAnswered answer =>
    rw [move]
    split
    · cases answer with
      | ok link => exact ⟨[.dialed], rfl⟩
      | error cause => exact ⟨[.dialFailed], rfl⟩
    · exact ⟨[], rfl⟩
  | woken => exact ⟨[.waited], rfl⟩
  | stirred change => exact ⟨[], rfl⟩
  | stepped => exact exists_reacts_step t f
  | halted => exact exists_reacts_halt t f

/-- A run of a feed lets nothing but events happen to the worker. -/
theorem exists_reacts_run (t : Transport σ) (f : Feed σ) (ms : List (FeedMove σ)) :
    ∃ events, (f.run t ms).1.manager = f.manager.reacts events := by
  induction ms generalizing f with
  | nil => exact ⟨[], rfl⟩
  | cons m ms ih =>
    obtain ⟨first, hfirst⟩ := exists_reacts_move t f m
    obtain ⟨rest, hrest⟩ := ih (f.move t m).1
    refine ⟨first ++ rest, ?_⟩
    rw [run_cons, hrest, hfirst, Manager.reacts, Manager.reacts, Manager.reacts, List.foldl_append]

/-- **A worker that runs after a move ran before it.** -/
theorem isRunning_of_move {m : FeedMove σ} (h : (f.move t m).1.manager.isRunning = true) :
    f.manager.isRunning = true := by
  obtain ⟨events, hevents⟩ := exists_reacts_move t f m
  rw [hevents] at h
  exact Manager.isRunning_of_reacts h

/-- A worker that runs after a run ran before it. -/
theorem isRunning_of_run {ms : List (FeedMove σ)} (h : (f.run t ms).1.manager.isRunning = true) :
    f.manager.isRunning = true := by
  obtain ⟨events, hevents⟩ := exists_reacts_run t f ms
  rw [hevents] at h
  exact Manager.isRunning_of_reacts h

end Feed

namespace StoppableFeed

variable {σ : Type}

/-- Whether a feed after some change has the key that it had, and runs only if it ran. -/
structure Outlives (f after : StoppableFeed σ) : Prop where
  key : after.feed.key = f.feed.key
  running : after.feed.manager.isRunning = true → f.feed.manager.isRunning = true

theorem outlives_work (t : Transport σ) (f : StoppableFeed σ) (m : FeedMove σ) :
    Outlives f (f.work t m).1 := by
  unfold work
  split
  · exact ⟨(Feed.handsOn_move t f.feed m).key_eq, Feed.isRunning_of_move⟩
  · exact ⟨rfl, id⟩

theorem outlives_stopNext (f : StoppableFeed σ) : Outlives f f.stopNext := by
  unfold stopNext cancel declineNext
  split
  · exact ⟨rfl, id⟩
  · split
    · exact ⟨rfl, id⟩
    · exact ⟨rfl, id⟩

theorem outlives_finish (f : StoppableFeed σ) : Outlives f f.finish where
  key := rfl
  running h := by
    rw [finish, Manager.isRunning_finish] at h
    cases h

end StoppableFeed
end ExchangeClient
