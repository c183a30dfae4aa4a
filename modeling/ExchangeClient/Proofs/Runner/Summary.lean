import ExchangeClient.Proofs.Runner.Counters
import ExchangeClient.Proofs.Runner.Record

/-!
# The runner's accounts

The accounts of a runner are right at every moment of every run (`accounts_are_sound`), however its
starts, its monitors, the workers of its streams and its shutdown interleave, and whether the starts
come through or fail.  The record has no key twice and none that was not given up; the number of
streams alive is never taken below zero, and fits the record but for deeds that are half done; and a
run that is summed up reports the streams that were started, each with the number of updates that it
has delivered, and the record.

The summary is taken when all streams were stopped.  By then every worker has exited, so what is
summed up does not change any more (`SummedUp`).
-/

namespace ExchangeClient

/-- The streams that were started, when an event tells of them. -/
def RunnerEvent.started : RunnerEvent → List StreamSpec
  | .startsReturned specs _ => specs
  | _ => []

/-- The keys of the streams that were started, the oldest first. -/
def RunnerEvent.startedKeys (events : List RunnerEvent) : List ChannelKey :=
  events.flatMap fun e => e.started.map StreamSpec.key

/-- The streams with a monitor that a start under way has started. -/
def RunnerPhase.posted : RunnerPhase → List StreamSpec
  | .starting begun _ | .awaiting _ begun _ _ | .counting begun _ _ | .posting _ begun _ _ => begun
  | _ => []

namespace Runner

open RunnerEvent

variable {σ : Type} {t : Transport σ} {r after : Runner σ} {past events : List RunnerEvent}

/-! ## What was started -/

theorem startedKeys_append (events more : List RunnerEvent) :
    startedKeys (events ++ more) = startedKeys events ++ startedKeys more :=
  List.flatMap_append

theorem startedKeys_eq_nil (h : ∀ specs result, .startsReturned specs result ∉ events) :
    startedKeys events = [] := by
  refine List.flatMap_eq_nil_iff.mpr fun e he => ?_
  cases e with
  | startsReturned specs result => exact absurd he (h specs result)
  | _ => rfl

/-- Whether the monitors are those of the streams whose start has returned, and of the start under
way. -/
def Listed (r : Runner σ) (past : List RunnerEvent) : Prop :=
  r.monitorKeys = startedKeys past ++ r.phase.posted.map StreamSpec.key

theorem Listed.quiet (h : r.Listed past) (hkeys : after.monitorKeys = r.monitorKeys)
    (hposted : after.phase.posted = r.phase.posted)
    (hsilent : ∀ specs result, .startsReturned specs result ∉ events) :
    after.Listed (past ++ events) := by
  rw [Listed, hkeys, hposted, startedKeys_append, startedKeys_eq_nil hsilent, List.append_nil]
  exact h

theorem Listed.returned (h : r.Listed past) (hmonitors : after.monitors = r.monitors)
    (hphase : after.phase.posted = []) (result : Except RunFailure Unit) :
    after.Listed (past ++ [.startsReturned r.phase.posted result]) := by
  have hnew : startedKeys [.startsReturned r.phase.posted result] =
      r.phase.posted.map StreamSpec.key := List.flatMap_singleton _ _
  rw [Listed, monitorKeys, hmonitors, hphase, startedKeys_append, hnew, List.map_nil,
    List.append_nil]
  exact h

theorem Listed.phased (h : r.Listed past) (hnumbered : r.Numbered)
    (hcase : PhaseCase r after events) : after.Listed (past ++ events) := by
  cases hcase with
  | startsReturned begun hphase =>
    obtain rfl : r.phase.posted = begun := by rw [hphase]; rfl
    refine h.returned ?_ ?_ (.ok ())
    · rfl
    · rfl
  | refused i begun spec rest cause hphase hcall =>
    obtain rfl : r.phase.posted = begun := by rw [hphase]; rfl
    refine h.returned ?_ ?_ (.error ⟨.startStream spec.key, cause⟩)
    · rfl
    · rfl
  | missed begun spec rest hphase hfind =>
    rw [hnumbered.find?_of_counting hphase] at hfind
    cases hfind
  | _ => exact h.quiet rfl (by simp [RunnerPhase.posted, call, *]) (by simp)

theorem Listed.move (h : r.Listed past) (hnumbered : r.Numbered)
    (hcase : MoveCase t r after events) : after.Listed (past ++ events) := by
  cases hcase with
  | rested => exact h.quiet rfl rfl (by simp)
  | carried m hm =>
    refine h.quiet rfl rfl fun specs result hnew => ?_
    cases Traffic.isPublished_of_mem_news hnew
  | phased hphase => exact h.phased hnumbered hphase
  | counted n begun spec rest hphase hfind =>
    exact h.quiet rfl (by rw [hphase]; rfl) (by simp)
  | posted n begun spec rest hphase =>
    rw [List.append_nil]
    have hold : r.monitorKeys = startedKeys past ++ begun.map StreamSpec.key := by
      rw [h, hphase]
      rfl
    show (r.monitors ++ [Monitor.mk spec.key n .fresh]).map Monitor.key =
      startedKeys past ++ (begun ++ [spec]).map StreamSpec.key
    rw [List.map_append, List.map_append, ← List.append_assoc, ← hold]
    rfl
  | attended j mon hmon hcase =>
    exact h.quiet (map_set_of_eq hmon rfl) rfl hcase.ne_startsReturned
  | signalled => exact h.quiet rfl rfl (by simp)

/-- When the streams are stopped, the feeds are those of the streams that were started. -/
theorem Listed.feedKeys_eq (h : r.Listed past) (hnumbered : r.Numbered) {summary : RunSummary}
    (hended : r.phase = .ended summary) : r.traffic.feedKeys = startedKeys past := by
  have hfits := hnumbered.fits
  rw [hended] at hfits
  rw [show r.traffic.feedKeys = r.monitorKeys from hfits, h, hended]
  exact List.append_nil _

/-! ## What is summed up -/

/-- Whether a summary has the counters as they are. -/
def SummedUp (r : Runner σ) : Prop :=
  ∀ summary, r.phase = .ended summary → summary.updates = r.accounts.counters

theorem MonitorCase.counters {mon : Monitor} {stage : MonitorStage} {accounts : Accounts}
    (h : MonitorCase r mon stage accounts events) :
    accounts.counters = r.accounts.counters := by
  cases h <;> rfl

/-- What is delivered when no worker runs is nothing. -/
theorem Winding.accounts_carry (h : r.Winding) {summary : RunSummary}
    (hended : r.phase = .ended summary) {m : TrafficMove σ} (hm : r.Carries m) :
    (r.carry t m).1.accounts = r.accounts := by
  cases hm with
  | advanced i hcall | answered i _ hcall =>
    rw [hended] at hcall
    cases hcall
  | worked n m =>
    rw [accounts_carry_worked]
    cases hfeed : r.traffic.feeds[n]? with
    | none => rfl
    | some f =>
      have hf : f ∈ r.traffic.feeds := List.mem_of_getElem? hfeed
      have hnothing := StoppableFeed.work_eq_nil_of_not_isRunning (h.seated f hf)
        (h.not_isRunning (.inr ⟨summary, hended⟩) hf) t m
      rw [Option.elim_some, hnothing]
      exact if_neg (by simp [StreamEvent.updates])

theorem SummedUp.move (h : r.SummedUp) (hwinding : r.Winding)
    (hcase : MoveCase t r after events) : after.SummedUp := by
  cases hcase with
  | rested => exact h
  | carried m hm =>
    intro summary hended
    rw [hwinding.accounts_carry hended hm]
    exact h summary hended
  | phased hphase =>
    cases hphase with
    | joined =>
      intro summary hended
      obtain rfl := RunnerPhase.ended.inj hended
      rfl
    | _ => exact nofun
  | counted | posted => exact nofun
  | attended j mon hmon hcase =>
    intro summary hended
    exact (h summary hended).trans hcase.counters.symm
  | signalled => exact h

/-! ## The accounts -/

/-- Whether the accounts are right, when the `n`-th feed has delivered `updates n` updates. -/
structure AreSound (r : Runner σ) (past : List RunnerEvent) (updates : Nat → Nat) : Prop where
  /-- No key is on record twice. -/
  nodup : r.accounts.exhausted.Nodup
  /-- What is on record was given up by the worker of its own feed. -/
  published : ∀ key ∈ r.accounts.exhausted, ∃ n retries,
    r.traffic.feedKeys[n]? = some key ∧ .published n key (.exhausted retries) ∈ past
  /-- Whenever a stream was counted out, there was one alive. -/
  countsOut : ∀ n live, .countedOut n live ∈ past → 0 < live
  /-- The streams alive are those with a monitor that are not on record, but for monitors between
  their two deeds and for a stream between its counting and its monitor. -/
  live : r.accounts.live + r.accounts.exhausted.length =
    r.monitors.length + r.monitors.countP (fun mon => mon.stage == .retiring) + r.phase.unposted
  /-- What is summed up is the record, and for each stream that was started, the `n`-th of which
  has the `n`-th feed, the updates of its feed. -/
  summary : ∀ summary, r.phase = .ended summary →
    summary.exhausted = r.accounts.exhausted ∧
      r.traffic.feedKeys = startedKeys past ∧ (startedKeys past).Nodup ∧
      summary.updates.Perm ((startedKeys past).mapIdx fun n key => (key, updates n))

/-- **The accounts of a runner are right, at every moment of every run.** -/
theorem accounts_are_sound (t : Transport σ) (config : RealtimeConfig) (calls : Option Client)
    (ms : List (RunnerMove σ)) :
    AreSound ((idle config calls : Runner σ).run t ms).1 ((idle config calls).run t ms).2
      ((idle config calls).updatesOf t ms) := by
  have hkeeps := keepsRecord_run t config calls ms
  have hcounts := (counts_idle config calls).run (t := t) (numbered_idle config calls) ms
  obtain ⟨-, hlisted, -, hsummed⟩ := run_induction
    (P := fun r past => r.Numbered ∧ r.Listed past ∧ r.Winding ∧ r.SummedUp)
    (fun r past after events h hcase =>
      ⟨h.1.move hcase, h.2.1.move h.1 hcase, h.2.2.1.move h.1 hcase, h.2.2.2.move h.2.2.1 hcase⟩)
    [] ⟨numbered_idle config calls, rfl, winding_idle config calls, nofun⟩ ms
  refine ⟨hkeeps.recorded.nodup hkeeps.counted.numbered,
    fun key hkey => ?_, hkeeps.countsOut,
    hkeeps.counted.tallied.live_add_length hkeeps.recorded, fun summary hended => ?_⟩
  · obtain ⟨n, retries, hpublished⟩ := hkeeps.reported.published hkeeps.counted.heard hkey
    exact ⟨n, retries, hkeeps.counted.heard.keyed n key _ hpublished, hpublished⟩
  · have hkeys := hlisted.feedKeys_eq hkeeps.counted.numbered hended
    rw [List.nil_append] at hkeys
    have hnodup := hkeeps.counted.numbered.nodup
    refine ⟨(hkeeps.reported.ended summary hended).1, hkeys, hkeys ▸ hnodup, ?_⟩
    rw [hsummed summary hended, ← hkeys]
    simpa only [Nat.zero_add] using hcounts.balanced.perm hnodup

/-- A stream that is started twice has one counter and one monitor, and is on record once: the
second start is refused. -/
example :
    ((idle impatientConfig none).run .muted
      (.startsCalled (List.replicate 2 ⟨"BTC_JPY", .ticker, false⟩) :: startNext ++
        [.proceeded, .advanced, .proceeded] ++ giveUp 0 ++
        [.attended 0, .shutdownCalled, .listed [⟨"BTC_JPY", .ticker⟩]] ++ stopNext ++
        [.proceeded, .proceeded])).1.phase =
      .ended ⟨[(⟨"BTC_JPY", .ticker⟩, 0)], [⟨"BTC_JPY", .ticker⟩]⟩ := by
  rfl

end Runner
end ExchangeClient
