import ExchangeClient.Proofs.Runner.LastOut

/-!
# What the summary tells

A stream is on record exactly if its monitor has seen that the connection was given up
(`Reported.onRecord`).  A monitor that has left otherwise was excused by a shutdown, or it found
the stream stopped (`Reported.dismissed`); and once a run is summed up each monitor has left in
one way or the other.

So an exhausted stream may be missing in the summary.  The monitor sees only what was published
last, and a stop publishes over what the worker has published; and when a shutdown was asked for,
the monitor may leave without looking again.  A stream that was given up is in the summary
exactly if neither has happened (`exhausted_mem_summary_iff`).
-/

namespace ExchangeClient
namespace Runner

variable {σ : Type} {t : Transport σ} {r after : Runner σ} {past events : List RunnerEvent}

/-- Whether a monitor has left with nothing to report. -/
def LeftSilently (events : List RunnerEvent) (n : Nat) : Prop :=
  .excused n ∈ events ∨ .saw n .stopped ∈ events

/-- Whether the record and the events so far tell how the monitors have left. -/
structure Reported (r : Runner σ) (past : List RunnerEvent) : Prop where
  onRecord : ∀ key, key ∈ r.accounts.exhausted ↔
    ∃ (j : Nat) (mon : Monitor), r.monitors[j]? = some mon ∧ mon.key = key ∧
      mon.stage.isOnRecord = true
  dismissed : ∀ n, LeftSilently past n ↔
    ∃ mon, r.monitors[n]? = some mon ∧ mon.stage = .dismissed
  ended : ∀ summary, r.phase = .ended summary → summary.exhausted = r.accounts.exhausted ∧
    ∀ mon ∈ r.monitors, mon.stage.hasReturned = true

theorem reported_idle (config : RealtimeConfig) (calls : Option Client) :
    (idle config calls : Runner σ).Reported [] where
  onRecord key := by simp [idle, Accounts.empty]
  dismissed n := by simp [idle, LeftSilently]
  ended summary h := by cases h

/-- What neither touches a monitor nor the record leaves the report as it is. -/
theorem Reported.quiet (h : r.Reported past) (hmonitors : after.monitors = r.monitors)
    (hexhausted : after.accounts.exhausted = r.accounts.exhausted)
    (hended : ∀ summary, after.phase = .ended summary →
      r.phase = .ended summary ∨ summary.exhausted = r.accounts.exhausted ∧
        ∀ mon ∈ r.monitors, mon.stage.hasReturned = true)
    (hsilent : ∀ n, ¬ LeftSilently events n) : after.Reported (past ++ events) where
  onRecord key := by
    rw [hmonitors, hexhausted]
    exact h.onRecord key
  dismissed n := by
    rw [hmonitors, ← h.dismissed n]
    refine ⟨fun hleft => ?_, fun hleft => ?_⟩
    · rcases hleft with hleft | hleft
      · exact .inl ((List.mem_append.mp hleft).resolve_right fun hnew => hsilent n (.inl hnew))
      · exact .inr ((List.mem_append.mp hleft).resolve_right fun hnew => hsilent n (.inr hnew))
    · exact hleft.imp (List.mem_append_left _) (List.mem_append_left _)
  ended summary hphase := by
    rw [hmonitors, hexhausted]
    rcases hended summary hphase with hbefore | hjoined
    · exact h.ended summary hbefore
    · exact hjoined

/-! ## Monitors -/

/-- A monitor puts its stream on record once, and keeps it there. -/
theorem MonitorCase.onRecord {mon : Monitor} {stage : MonitorStage} {accounts : Accounts}
    (h : MonitorCase r mon stage accounts events) :
    (stage.isOnRecord = mon.stage.isOnRecord ∧ accounts.exhausted = r.accounts.exhausted) ∨
      (mon.stage.isOnRecord = false ∧ stage.isOnRecord = true ∧
        accounts.exhausted = r.accounts.exhausted ++ [mon.key]) := by
  cases h with
  | sawEnd _ _ hstage | sawStop hstage | sawOther _ hstage =>
    rcases hstage with hstage | hstage
    · exact .inl ⟨(congrArg MonitorStage.isOnRecord hstage).symm, rfl⟩
    · exact .inl ⟨(congrArg MonitorStage.isOnRecord hstage).symm, rfl⟩
  | recorded hstage => exact .inr ⟨congrArg MonitorStage.isOnRecord hstage, rfl, rfl⟩
  | countedOut hstage | lastOut hstage | closedDown hstage | excused hstage =>
    exact .inl ⟨(congrArg MonitorStage.isOnRecord hstage).symm, rfl⟩

/-- What tells that a monitor has left silently is that it is dismissed. -/
theorem MonitorCase.leftSilently_iff {mon : Monitor} {stage : MonitorStage} {accounts : Accounts}
    (h : MonitorCase r mon stage accounts events) (n : Nat) :
    LeftSilently events n ↔ n = mon.feed ∧ stage = .dismissed := by
  cases h with
  | sawOther state hstage hstate =>
    cases state with
    | stopped => cases hstate
    | exhausted retries => cases hstate
    | _ => simp [LeftSilently]
  | _ => simp [LeftSilently]

/-- What does not hold of a monitor that is posted holds of the monitors that it held of. -/
theorem posted_iff_of_not {monitors : List Monitor} {n : Nat} {mon mon' : Monitor}
    {p : Monitor → Prop} (hmon : ¬ p mon) :
    (monitors ++ [mon])[n]? = some mon' ∧ p mon' ↔ monitors[n]? = some mon' ∧ p mon' := by
  rw [getElem?_concat_iff]
  constructor
  · rintro ⟨hmon' | ⟨-, rfl⟩, hp⟩
    · exact ⟨hmon', hp⟩
    · exact absurd hp hmon
  · rintro ⟨hmon', hp⟩
    exact ⟨.inl hmon', hp⟩

/-- One of the monitors and the others. -/
theorem exists_monitor_iff {j : Nat} {mon : Monitor} (hmon : r.monitors[j]? = some mon)
    (p : Monitor → Prop) :
    (∃ (n : Nat) (mon' : Monitor), r.monitors[n]? = some mon' ∧ p mon') ↔
      p mon ∨ ∃ (n : Nat) (mon' : Monitor), n ≠ j ∧ r.monitors[n]? = some mon' ∧ p mon' := by
  constructor
  · rintro ⟨n, mon', hmon', hp⟩
    by_cases hn : n = j
    · subst hn
      obtain rfl := Option.some.inj (hmon.symm.trans hmon')
      exact .inl hp
    · exact .inr ⟨n, mon', hn, hmon', hp⟩
  · rintro (hp | ⟨n, mon', -, hmon', hp⟩)
    · exact ⟨j, mon, hmon, hp⟩
    · exact ⟨n, mon', hmon', hp⟩

/-- One of the monitors after it has come to a stage, and the others. -/
theorem exists_monitor_bring_iff {j : Nat} {mon : Monitor} (hmon : r.monitors[j]? = some mon)
    (stage : MonitorStage) (accounts : Accounts) (p : Monitor → Prop) :
    (∃ (n : Nat) (mon' : Monitor),
        (r.bring j mon stage accounts).monitors[n]? = some mon' ∧ p mon') ↔
      p { mon with stage } ∨
        ∃ (n : Nat) (mon' : Monitor), n ≠ j ∧ r.monitors[n]? = some mon' ∧ p mon' := by
  rw [exists_monitor_iff ((getElem?_bring hmon).mpr (.inl ⟨rfl, rfl⟩)) p]
  refine or_congr Iff.rfl (exists_congr fun n => exists_congr fun mon' => ?_)
  refine and_congr_right fun hn => ?_
  rw [getElem?_bring hmon]
  simp [hn]

theorem Reported.attended (h : r.Reported past) (hnumbered : r.Numbered) {j : Nat}
    {mon : Monitor} {stage : MonitorStage} {accounts : Accounts}
    (hmon : r.monitors[j]? = some mon) (hcase : MonitorCase r mon stage accounts events) :
    (r.bring j mon stage accounts).Reported (past ++ events) where
  onRecord key := by
    have hold := h.onRecord key
    rw [exists_monitor_iff hmon fun mon => mon.key = key ∧ mon.stage.isOnRecord = true] at hold
    rw [exists_monitor_bring_iff hmon stage accounts fun mon =>
      mon.key = key ∧ mon.stage.isOnRecord = true]
    show key ∈ accounts.exhausted ↔ (mon.key = key ∧ stage.isOnRecord = true) ∨ _
    rcases hcase.onRecord with ⟨hstage, haccounts⟩ | ⟨hbefore, hafter, haccounts⟩
    · rw [haccounts, hstage]
      exact hold
    · rw [haccounts, List.mem_append, List.mem_singleton, hold, hbefore, hafter]
      simp only [Bool.false_eq_true, and_false, false_or, and_true]
      exact or_comm.trans (or_congr eq_comm Iff.rfl)
  dismissed n := by
    have hbefore : mon.stage ≠ .dismissed := by
      intro hstage
      have hreturned := hcase.hasReturned_eq_false
      rw [hstage] at hreturned
      cases hreturned
    have hsplit : LeftSilently (past ++ events) n ↔
        LeftSilently past n ∨ LeftSilently events n := by
      simp only [LeftSilently, List.mem_append]
      exact or_or_or_comm
    rw [hsplit, h.dismissed n, hcase.leftSilently_iff, hnumbered.feed_eq hmon]
    by_cases hn : n = j
    · subst hn
      simp [getElem?_bring hmon, hmon, hbefore]
    · simp [getElem?_bring hmon, hn]
  ended summary hphase := by
    -- The run was not summed up before this monitor has left.
    have hreturned := (h.ended summary hphase).2 mon (List.mem_of_getElem? hmon)
    rw [hcase.hasReturned_eq_false] at hreturned
    cases hreturned

/-! ## Moves and runs -/

/-- A run is summed up when all monitors have returned. -/
theorem PhaseCase.ended (h : PhaseCase r after events) {summary : RunSummary}
    (hphase : after.phase = .ended summary) :
    summary.exhausted = r.accounts.exhausted ∧
      ∀ mon ∈ r.monitors, mon.stage.hasReturned = true := by
  cases h with
  | joined _ hreturned =>
    obtain rfl := RunnerPhase.ended.inj hphase
    exact ⟨rfl, hreturned⟩
  | _ => cases hphase

theorem Reported.move (h : r.Reported past) (hnumbered : r.Numbered)
    (hcase : MoveCase t r after events) : after.Reported (past ++ events) := by
  cases hcase with
  | rested => exact h.quiet rfl rfl (fun _ hphase => .inl hphase) (by simp [LeftSilently])
  | carried m hm =>
    obtain ⟨counters, hcounters⟩ := carry_accounts t r m
    refine h.quiet rfl (by rw [hcounters]) (fun _ hphase => .inl hphase) fun n hleft => ?_
    rcases hleft with hnew | hnew
    · cases Traffic.isPublished_of_mem_news hnew
    · cases Traffic.isPublished_of_mem_news hnew
  | phased hphase =>
    have hunmoved := hphase.unmoved
    refine h.quiet hunmoved.monitors hunmoved.exhausted
      (fun _ hended => .inr (hphase.ended hended)) fun n hleft => ?_
    rcases hleft with hnew | hnew
    · exact hunmoved.not_mem (by simp) (by simp) hnew
    · exact hunmoved.not_mem (by simp) (by simp) hnew
  | counted n begun spec rest hphase hfind =>
    exact h.quiet rfl rfl nofun (by simp [LeftSilently])
  | posted n begun spec rest hphase =>
    rw [List.append_nil]
    refine ⟨fun key => (h.onRecord key).trans ?_, fun n' => (h.dismissed n').trans ?_, nofun⟩
    · refine exists_congr fun j => exists_congr fun mon => Iff.symm ?_
      exact posted_iff_of_not (p := fun mon => mon.key = key ∧ mon.stage.isOnRecord = true)
        (by simp [MonitorStage.isOnRecord])
    · refine exists_congr fun mon => Iff.symm ?_
      exact posted_iff_of_not (p := fun mon => mon.stage = .dismissed) (by simp)
  | attended j mon hmon hcase => exact h.attended hnumbered hmon hcase
  | signalled =>
    exact h.quiet rfl rfl (fun _ hphase => .inl hphase) (by simp [LeftSilently])

theorem reported_run (t : Transport σ) (config : RealtimeConfig) (calls : Option Client)
    (ms : List (RunnerMove σ)) :
    Reported ((idle config calls : Runner σ).run t ms).1 ((idle config calls).run t ms).2 := by
  refine (run_induction (P := fun r past => r.Numbered ∧ r.Reported past)
    (fun r past after events h hcase => ?_) [] ?_ ms).2
  · exact ⟨h.1.move hcase, h.2.move h.1 hcase⟩
  · exact ⟨numbered_idle config calls, reported_idle config calls⟩

/-- **An exhausted stream is in the summary unless its monitor has left silently.**  When a run
is summed up, the key of a stream that was given up, before or after the shutdown was called, is
among the exhausted exactly if its monitor neither was excused by a shutdown nor saw the stream
stopped. -/
theorem exhausted_mem_summary_iff (t : Transport σ) (config : RealtimeConfig)
    (calls : Option Client) (ms : List (RunnerMove σ)) (summary : RunSummary) (n : Nat)
    (key : ChannelKey) (retries : UInt32)
    (hended : ((idle config calls : Runner σ).run t ms).1.phase = .ended summary)
    (hpublished : .published n key (.exhausted retries) ∈
      ((idle config calls : Runner σ).run t ms).2) :
    key ∈ summary.exhausted ↔
      .excused n ∉ ((idle config calls : Runner σ).run t ms).2 ∧
        .saw n .stopped ∉ ((idle config calls : Runner σ).run t ms).2 := by
  have hreported := reported_run t config calls ms
  obtain ⟨hnumbered, hheard, -, -, -⟩ := keepsCount_run t config calls ms
  generalize (idle config calls : Runner σ).run t ms = after at *
  obtain ⟨r, events⟩ := after
  dsimp only at *
  obtain ⟨hsummary, hreturned⟩ := hreported.ended summary hended
  have hfeed : r.traffic.feedKeys[n]? = some key := hheard.keyed n key _ hpublished
  obtain ⟨mon, hmon, rfl⟩ : ∃ mon, r.monitors[n]? = some mon ∧ mon.key = key := by
    have hfits := hnumbered.fits
    rw [hended] at hfits
    rw [show r.traffic.feedKeys = r.monitorKeys from hfits, monitorKeys, List.getElem?_map,
      Option.map_eq_some_iff] at hfeed
    exact hfeed
  have hstage := hreturned mon (List.mem_of_getElem? hmon)
  rw [hsummary, hreported.onRecord, ← not_or]
  refine Iff.trans ?_ (not_congr (hreported.dismissed n)).symm
  constructor
  · rintro ⟨j, mon', hmon', hkey, hrecord⟩ ⟨mon'', hmon'', hdismissed⟩
    -- No other feed has this key, so it is this monitor that has put it on record.
    have hn : n < r.traffic.feedKeys.length := (List.getElem?_eq_some_iff.mp hfeed).1
    have hother := hnumbered.getElem?_feedKeys hmon'
    rw [hkey, ← hfeed] at hother
    obtain rfl := (List.getElem?_inj hn hnumbered.nodup).mp hother.symm
    obtain rfl := Option.some.inj (hmon''.symm.trans hmon')
    rw [hdismissed] at hrecord
    cases hrecord
  · intro hdismissed
    refine ⟨n, mon, hmon, rfl, ?_⟩
    cases hmonStage : mon.stage with
    | retired => rfl
    | dismissed => exact absurd ⟨mon, hmon, hmonStage⟩ hdismissed
    | _ =>
      rw [hmonStage] at hstage
      cases hstage

/-! ## An exhausted stream that is missing -/

/-- A shutdown takes the next stream out and brings it to its end; its worker has exited. -/
def stopNext : List (RunnerMove Unit) :=
  [.proceeded, .advanced, .advanced, .advanced, .advanced, .proceeded]

/-- The first stream is given up before the second is started, and its monitor asks for the
shutdown.  The monitor of the second finds it connecting and is excused; then the second stream
is given up too, and after that the run is shut down. -/
def hastyEnd : Runner Unit × List RunnerEvent :=
  (idle impatientConfig none).run .muted
    (.startsCalled twoTickers :: startNext ++ giveUp 0 ++ [.attended 0] ++ startNext ++
      [.proceeded, .attended 1, .excused 1,
        .worked 1 (.dialAnswered (.error (.webSocket .refused))),
        .shutdownCalled, .listed (twoTickers.map StreamSpec.key)] ++
      stopNext ++ stopNext ++ [.proceeded, .proceeded])

/-- The summary of that run. -/
def hastySummary : RunSummary :=
  ⟨[(⟨"BTC_JPY", .ticker⟩, 0), (⟨"X", .ticker⟩, 0)], [⟨"BTC_JPY", .ticker⟩]⟩

/-- The first stream is in the summary. -/
theorem hastyEnd_reports_first :
    hastyEnd.1.phase = .ended hastySummary ∧
      .published 0 ⟨"BTC_JPY", .ticker⟩ (.exhausted 0) ∈ hastyEnd.2 ∧
      (⟨"BTC_JPY", .ticker⟩ ∈ hastySummary.exhausted ↔
        .excused 0 ∉ hastyEnd.2 ∧ .saw 0 .stopped ∉ hastyEnd.2) := by
  have hended : hastyEnd.1.phase = .ended hastySummary := by rfl
  have hpublished : .published 0 ⟨"BTC_JPY", .ticker⟩ (.exhausted 0) ∈ hastyEnd.2 :=
    List.mem_of_getElem? (i := 2) (by rfl)
  exact ⟨hended, hpublished, exhausted_mem_summary_iff .muted impatientConfig none _ hastySummary
    0 ⟨"BTC_JPY", .ticker⟩ 0 hended hpublished⟩

/-- The second stream was given up before the shutdown was called, and is missing. -/
theorem hastyEnd_misses_second :
    ∃ early late, hastyEnd.2 = early ++ .shutdownCalled :: late ∧
      .published 1 ⟨"X", .ticker⟩ (.exhausted 0) ∈ early ∧
      hastyEnd.1.phase = .ended hastySummary ∧
      (⟨"X", .ticker⟩ : ChannelKey) ∉ hastySummary.exhausted := by
  refine ⟨hastyEnd.2.take 12, hastyEnd.2.drop 13, by rfl, ?_, by rfl, by decide⟩
  exact List.mem_of_getElem? (i := 11) (by rfl)

/-- No haste is needed: a stop may publish over what the monitor has not seen yet. -/
example :
    ((idle impatientConfig none).run .muted
      (.startsCalled (twoTickers.take 1) :: startNext ++
        [.proceeded, .attended 0, .worked 0 (.dialAnswered (.error (.webSocket .refused))),
          .shutdownCalled, .listed [⟨"BTC_JPY", .ticker⟩]] ++
        stopNext ++ [.proceeded, .attended 0, .proceeded])).1.phase =
      .ended ⟨[(⟨"BTC_JPY", .ticker⟩, 0)], []⟩ := by
  rfl

end Runner
end ExchangeClient
