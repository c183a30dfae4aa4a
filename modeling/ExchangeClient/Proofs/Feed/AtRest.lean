import ExchangeClient.Proofs.Feed.OneWorker
import ExchangeClient.Proofs.Json.Words

/-!
# Feeds at rest

A feed has a connection only while its worker is in a session (`Feed.IsSeated`), whatever moves it
and however far a stop of it has come.  So a feed whose worker has exited has no connection, and
without a connection its subscriber does nothing: nothing is delivered on it any more
(`work_eq_nil_of_not_isRunning`).
-/

namespace ExchangeClient

namespace Manager

variable {m : Manager}

/-- The end of a wait is nothing to a session. -/
theorem react_waited_of_inSession (h : m.phase? = some .inSession) : m.react .waited = m := by
  obtain ⟨⟨phase, failures⟩, hworker, rfl⟩ := Option.map_eq_some_iff.mp h
  rw [react, hworker]
  rfl

theorem phase?_react_dialed (h : m.phase? = some .dialing) :
    (m.react .dialed).phase? = some .inSession := by
  obtain ⟨⟨phase, failures⟩, hworker, rfl⟩ := Option.map_eq_some_iff.mp h
  rw [react, hworker]
  rfl

theorem isRunning_of_inSession (h : m.phase? = some .inSession) : m.isRunning = true := by
  obtain ⟨⟨phase, failures⟩, hworker, rfl⟩ := Option.map_eq_some_iff.mp h
  rw [isRunning, hworker]
  rfl

end Manager

namespace Feed

variable {σ : Type} {t : Transport σ} {f : Feed σ}

/-- Whether there is a connection only in a session. -/
def IsSeated (f : Feed σ) : Prop :=
  f.link.isSome = true → f.manager.phase? = some .inSession

theorem isSeated_of_link_eq_none (h : f.link = none) : f.IsSeated := by
  intro hlink
  rw [h] at hlink
  cases hlink

/-- A feed that was just started has no connection. -/
theorem link_of_start {config : RealtimeConfig} {s : Subscriber} (h : start config s = .ok f) :
    f.link = none := by
  unfold start at h
  cases hmanager : (Manager.ofConfig config.connection).start config.endpoint with
  | error cause =>
    rw [hmanager] at h
    cases h
  | ok manager =>
    rw [hmanager] at h
    cases h
    rfl

theorem IsSeated.answerDial (h : f.IsSeated) (hwants : f.wantsDial = true)
    (answer : Except ClientError σ) : (f.answerDial answer).IsSeated := by
  have hdialing : f.manager.phase? = some .dialing := beq_iff_eq.mp hwants
  cases answer with
  | ok link => exact fun _ => Manager.phase?_react_dialed hdialing
  | error cause =>
    -- A worker that dials has no connection, and a dial that fails makes none.
    intro hlink
    have hsession := h hlink
    rw [hdialing] at hsession
    cases hsession

theorem IsSeated.step (h : f.IsSeated) (t : Transport σ) : (f.step t).1.IsSeated := by
  unfold Feed.step
  cases hlink : f.link with
  | none => exact h
  | some link =>
    have hsession := h (by rw [hlink]; rfl)
    dsimp only
    split
    · exact fun _ => hsession
    · exact fun _ => hsession
    · exact isSeated_of_link_eq_none rfl

theorem isSeated_halt (t : Transport σ) (f : Feed σ) : (f.halt t).1.IsSeated := by
  unfold halt
  dsimp only
  cases hlink : f.link with
  | none => exact isSeated_of_link_eq_none rfl
  | some link => exact isSeated_of_link_eq_none rfl

/-- **A move leaves a connection only in a session.** -/
theorem IsSeated.move (h : f.IsSeated) (t : Transport σ) (m : FeedMove σ) :
    (f.move t m).1.IsSeated := by
  cases m with
  | enqueue frame =>
    rw [Feed.move]
    split
    · exact h
    · exact h
  | orphan => exact h
  | dialAnswered answer =>
    rw [Feed.move]
    split
    · next hwants => exact h.answerDial hwants answer
    · exact h
  | woken =>
    intro hlink
    have hsession := h hlink
    exact (congrArg Manager.phase? (Manager.react_waited_of_inSession hsession)).trans hsession
  | stirred change => exact fun hlink => h (Option.isSome_map.symm.trans hlink)
  | stepped => exact h.step t
  | halted => exact isSeated_halt t f

/-- Without a connection the subscriber does nothing. -/
theorem move_eq_nil_of_link_eq_none (h : f.link = none) (t : Transport σ) (m : FeedMove σ) :
    (f.move t m).2 = [] := by
  cases m with
  | enqueue frame => rw [move]; split <;> rfl
  | stepped => rw [move, step, h]
  | halted => simp only [move, halt, h]
  | orphan | dialAnswered | woken | stirred => rfl

end Feed

namespace StoppableFeed

variable {σ : Type} {t : Transport σ} {f : StoppableFeed σ}

theorem isSeated_work (h : f.feed.IsSeated) (t : Transport σ) (m : FeedMove σ) :
    (f.work t m).1.feed.IsSeated := by
  unfold work
  split
  · exact h.move t m
  · exact h

theorem isSeated_stopNext (h : f.feed.IsSeated) : f.stopNext.feed.IsSeated := by
  unfold stopNext cancel declineNext
  split
  · exact h
  · split
    · exact h
    · exact h

theorem link_eq_none_of_not_isRunning (h : f.feed.IsSeated)
    (hexited : f.feed.manager.isRunning = false) : f.feed.link = none := by
  cases hlink : f.feed.link with
  | none => rfl
  | some link =>
    have hsession := h (by rw [hlink]; rfl)
    rw [Manager.isRunning_of_inSession hsession] at hexited
    cases hexited

/-- A stop that has nothing to wait for finds no connection. -/
theorem isSeated_finish (h : f.feed.IsSeated) (hsettled : f.isSettled = true) :
    f.finish.feed.IsSeated := by
  rw [isSettled, Bool.and_eq_true, Bool.not_eq_true'] at hsettled
  have hlink : f.feed.link = none := link_eq_none_of_not_isRunning h hsettled.2
  exact Feed.isSeated_of_link_eq_none hlink

/-- **Nothing is done on a feed whose worker has exited.** -/
theorem work_eq_nil_of_not_isRunning (h : f.feed.IsSeated)
    (hexited : f.feed.manager.isRunning = false) (t : Transport σ) (m : FeedMove σ) :
    (f.work t m).2 = [] := by
  unfold work
  split
  · exact Feed.move_eq_nil_of_link_eq_none (link_eq_none_of_not_isRunning h hexited) t m
  · rfl

end StoppableFeed

namespace Traffic

variable {σ : Type} {t : Transport σ} {tr : Traffic σ} {i n : Nat}

/-- Whether every feed has a connection only in a session. -/
def IsSeated (tr : Traffic σ) : Prop := ∀ f ∈ tr.feeds, f.feed.IsSeated

theorem isSeated_idle (config : RealtimeConfig) (calls : Option Client) :
    (idle config calls : Traffic σ).IsSeated :=
  List.forall_mem_nil _

/-- A change of a feed keeps it, if the feed does. -/
theorem IsSeated.changeFeed (h : tr.IsSeated) {change : StoppableFeed σ → StoppableFeed σ}
    (hchange : ∀ f, tr.feeds[n]? = some f → f.feed.IsSeated → (change f).feed.IsSeated) :
    (tr.changeFeed n change).IsSeated := by
  intro after hafter
  obtain ⟨m, hm⟩ := List.mem_iff_getElem?.mp hafter
  rw [Traffic.changeFeed, List.getElem?_modify] at hm
  obtain ⟨f, hf, rfl⟩ := Option.map_eq_some_iff.mp hm
  have hseated := h f (List.mem_of_getElem? hf)
  split
  · next heq =>
    subst heq
    exact hchange f hf hseated
  · exact hseated

/-- A stream that is entered has no connection yet. -/
theorem IsSeated.launch (h : tr.IsSeated) {tr' : Traffic σ} {product : ProductCode}
    {handler : Handler} (hlaunch : tr.launch product handler = .ok tr') : tr'.IsSeated := by
  unfold Traffic.launch at hlaunch
  dsimp only at hlaunch
  obtain ⟨client, henter, hlaunch⟩ := Json.ok_of_bind hlaunch
  obtain ⟨feed, hstart, hlaunch⟩ := Json.ok_of_bind hlaunch
  obtain rfl := Except.ok.inj hlaunch
  intro f hf
  rcases List.mem_append.mp hf with hf | hf
  · exact h f hf
  · rw [List.mem_singleton.mp hf]
    exact Feed.isSeated_of_link_eq_none (Feed.link_of_start hstart)

theorem IsSeated.launchCall (h : tr.IsSeated) (product : ProductCode) (handler : Handler) :
    (tr.launchCall i product handler).IsSeated := by
  unfold Traffic.launchCall
  cases hlaunch : tr.launch product handler with
  | error cause => exact h
  | ok tr' =>
    have hlaunched : tr'.IsSeated := h.launch hlaunch
    exact hlaunched

theorem IsSeated.startCall (h : tr.IsSeated) (spec : StreamSpec) :
    (tr.startCall i spec).IsSeated := by
  unfold Traffic.startCall
  split
  · split
    · exact h
    · exact h
  · exact h.launchCall spec.productCode _

theorem IsSeated.stopCall (h : tr.IsSeated) (key : ChannelKey) : (tr.stopCall i key).IsSeated := by
  unfold Traffic.stopCall
  split
  · exact h
  · exact h

theorem IsSeated.closeCall (h : tr.IsSeated) (i n : Nat) : (tr.closeCall i n).IsSeated := by
  unfold Traffic.closeCall
  split
  · next hsettled =>
    refine IsSeated.changeFeed h fun f hf hseated => ?_
    rw [hf] at hsettled
    exact StoppableFeed.isSeated_finish hseated hsettled
  · exact h.changeFeed fun f _ => StoppableFeed.isSeated_stopNext

theorem IsSeated.advance (h : tr.IsSeated) (i : Nat) : (tr.advance i).IsSeated := by
  unfold Traffic.advance
  split
  · next spec _ => exact h.startCall spec
  · next spec seed _ => exact h.launchCall spec.productCode _
  · next key _ => exact h.stopCall key
  · next n _ => exact h.closeCall i n
  · exact h
  · exact h
  · exact h

theorem IsSeated.answer (h : tr.IsSeated) (i : Nat) (reply : Except ClientError Board) :
    (tr.answer i reply).IsSeated := by
  unfold Traffic.answer
  split
  · split
    · exact h
    · exact h
  · exact h

/-- **Every move keeps to it.** -/
theorem IsSeated.move (h : tr.IsSeated) (t : Transport σ) (m : TrafficMove σ) :
    (tr.move t m).IsSeated := by
  cases m with
  | startCalled spec => exact h
  | stopCalled key => exact h
  | advanced i => exact h.advance i
  | answered i reply => exact h.answer i reply
  | worked n m => exact h.changeFeed fun f _ hseated => StoppableFeed.isSeated_work hseated t m

end Traffic
end ExchangeClient
