import ExchangeClient.Runner.Watching

/-!
# What a move can do

`MonitorCase` lists what a monitor can do next, `PhaseCase` what the runner can do that leaves
its monitors and the number of streams alive as they are, and `MoveCase` puts them together
with what else a move can do; `moveCase` says that the list is complete.  What is said of every
run is proved along these cases.
-/

namespace ExchangeClient
namespace Runner

variable {σ : Type}

/-! ## Monitors -/

/-- What a monitor can do: the stage that it comes to, the accounts as it leaves them, and what
it tells. -/
inductive MonitorCase (r : Runner σ) (mon : Monitor) :
    MonitorStage → Accounts → List RunnerEvent → Prop
  | sawEnd (f : StoppableFeed σ) (retries : UInt32)
    (hstage : mon.stage = .fresh ∨ mon.stage = .waiting)
    (hfeed : r.traffic.feeds[mon.feed]? = some f)
    (hstate : f.feed.manager.state = .exhausted retries) :
    MonitorCase r mon .recording r.accounts [.saw mon.feed (.exhausted retries)]
  | sawStop (hstage : mon.stage = .fresh ∨ mon.stage = .waiting) :
    MonitorCase r mon .dismissed (r.accounts.dismiss mon.key) [.saw mon.feed .stopped]
  | sawOther (state : ConnectionState) (hstage : mon.stage = .fresh ∨ mon.stage = .waiting)
    (hstate : state.isTerminal = false) :
    MonitorCase r mon .waiting r.accounts [.saw mon.feed state]
  | recorded (hstage : mon.stage = .recording) :
    MonitorCase r mon .retiring (r.accounts.record mon.key) []
  | countedOut (hstage : mon.stage = .retiring) (hlive : r.accounts.live ≠ 1) :
    MonitorCase r mon .retired (r.accounts.countOut.dismiss mon.key)
      [.countedOut mon.feed r.accounts.live]
  | lastOut (hstage : mon.stage = .retiring) (hlive : r.accounts.live = 1) :
    MonitorCase r mon .closing r.accounts.countOut [.countedOut mon.feed 1]
  | closedDown (hstage : mon.stage = .closing) :
    MonitorCase r mon .retired (r.accounts.shutdown.dismiss mon.key) [.closedDown mon.feed]
  | excused (hstage : mon.stage = .waiting) :
    MonitorCase r mon .dismissed (r.accounts.dismiss mon.key) [.excused mon.feed]

/-- A monitor that has returned does nothing any more. -/
theorem MonitorCase.hasReturned_eq_false {r : Runner σ} {mon : Monitor} {stage : MonitorStage}
    {accounts : Accounts} {events : List RunnerEvent}
    (h : MonitorCase r mon stage accounts events) : mon.stage.hasReturned = false := by
  cases h with
  | sawEnd _ _ hstage | sawStop hstage | sawOther _ hstage =>
    rcases hstage with hstage | hstage
    · rw [hstage]; rfl
    · rw [hstage]; rfl
  | recorded hstage | countedOut hstage | lastOut hstage | closedDown hstage | excused hstage =>
    rw [hstage]; rfl

/-! ## The runner -/

/-- What the runner can do besides counting a stream and posting its monitor. -/
inductive PhaseCase (r : Runner σ) : Runner σ → List RunnerEvent → Prop
  | startsCalled (specs : List StreamSpec) (hphase : r.phase = .ready) :
    PhaseCase r { r with phase := .starting [] specs } []
  | startsReturned (begun : List StreamSpec) (hphase : r.phase = .starting begun []) :
    PhaseCase r { r with phase := .ready } [.startsReturned begun (.ok ())]
  | startCalled (begun : List StreamSpec) (spec : StreamSpec) (rest : List StreamSpec)
    (hphase : r.phase = .starting begun (spec :: rest)) :
    PhaseCase r (r.call (.starting spec) (.awaiting r.traffic.calls.length begun spec rest)) []
  | started (i : Nat) (begun : List StreamSpec) (spec : StreamSpec) (rest : List StreamSpec)
    (hphase : r.phase = .awaiting i begun spec rest)
    (hcall : r.traffic.calls[i]? = some (.returned (.ok ()))) :
    PhaseCase r { r with phase := .counting begun spec rest } []
  | refused (i : Nat) (begun : List StreamSpec) (spec : StreamSpec) (rest : List StreamSpec)
    (cause : ClientError) (hphase : r.phase = .awaiting i begun spec rest)
    (hcall : r.traffic.calls[i]? = some (.returned (.error cause))) :
    PhaseCase r { r with phase := .ready }
      [.startsReturned begun (.error ⟨.startStream spec.key, cause⟩)]
  | missed (begun : List StreamSpec) (spec : StreamSpec) (rest : List StreamSpec)
    (hphase : r.phase = .counting begun spec rest)
    (hfind : r.traffic.client.find? spec.key = none) :
    PhaseCase r { r with phase := .starting (begun ++ [spec]) rest } []
  | shutdownCalled (hphase : r.phase = .ready) :
    PhaseCase r { r with accounts := r.accounts.shutdown, phase := .listing } [.shutdownCalled]
  | listed (keys : List ChannelKey) (hphase : r.phase = .listing)
    (hkeys : keys.Perm r.traffic.client.keys) :
    PhaseCase r { r with phase := .stopping keys } []
  | stopCalled (key : ChannelKey) (keys : List ChannelKey)
    (hphase : r.phase = .stopping (key :: keys)) :
    PhaseCase r (r.call (.stopping key) (.closing r.traffic.calls.length keys)) []
  | stopReturned (i : Nat) (keys : List ChannelKey) (hphase : r.phase = .closing i keys)
    (result : Except ClientError Unit) (hcall : r.traffic.calls[i]? = some (.returned result)) :
    PhaseCase r { r with phase := .stopping keys } []
  | stopsReturned (hphase : r.phase = .stopping []) :
    PhaseCase r { r with phase := .joining } []
  | joined (hphase : r.phase = .joining)
    (hreturned : ∀ mon ∈ r.monitors, mon.stage.hasReturned = true) :
    PhaseCase r { r with phase := .ended ⟨r.accounts.counters, r.accounts.exhausted⟩ } []

/-- What such a deed leaves as it was, and what it tells. -/
structure Unmoved (r after : Runner σ) (events : List RunnerEvent) : Prop where
  feeds : after.traffic.feeds = r.traffic.feeds
  monitors : after.monitors = r.monitors
  live : after.accounts.live = r.accounts.live
  exhausted : after.accounts.exhausted = r.accounts.exhausted
  unposted : r.phase.unposted = 0 ∧ after.phase.unposted = 0
  silent : ∀ e ∈ events, (∃ specs result, e = .startsReturned specs result) ∨ e = .shutdownCalled

theorem PhaseCase.unmoved {r after : Runner σ} {events : List RunnerEvent}
    (h : PhaseCase r after events) : Unmoved r after events := by
  cases h
  all_goals refine ⟨rfl, rfl, rfl, rfl, ⟨?_, rfl⟩, by simp⟩
  all_goals simp [RunnerPhase.unposted, *]

/-- Such a deed tells nothing else. -/
theorem Unmoved.not_mem {r after : Runner σ} {events : List RunnerEvent} {e : RunnerEvent}
    (h : Unmoved r after events) (hreturned : ∀ specs result, e ≠ .startsReturned specs result)
    (hcalled : e ≠ .shutdownCalled) : e ∉ events := by
  intro he
  rcases h.silent e he with ⟨specs, result, heq⟩ | heq
  · exact hreturned specs result heq
  · exact hcalled heq

/-- The moves of the traffic that a runner lets happen: the workers go on, and so does the call
that the runner waits for. -/
inductive Carries (r : Runner σ) : TrafficMove σ → Prop
  | advanced (i : Nat) (hcall : r.phase.call? = some i) : Carries r (.advanced i)
  | answered (i : Nat) (reply : Except ClientError Board) (hcall : r.phase.call? = some i) :
    Carries r (.answered i reply)
  | worked (n : Nat) (m : FeedMove σ) : Carries r (.worked n m)

/-- Of the accounts a move of the traffic changes the counters only. -/
theorem carry_accounts (t : Transport σ) (r : Runner σ) (m : TrafficMove σ) :
    ∃ counters, (r.carry t m).1.accounts = { r.accounts with counters } := by
  have hentered (feeds : List (StoppableFeed σ)) (a : Accounts) :
      ∃ counters, feeds.foldl (fun a f => a.setCounter f.feed.key 0) a = { a with counters } := by
    induction feeds generalizing a with
    | nil => exact ⟨a.counters, rfl⟩
    | cons f feeds ih => exact ih (a.setCounter f.feed.key 0)
  obtain ⟨counters, hcounters⟩ :=
    hentered ((r.traffic.move t m).feeds.drop r.traffic.feeds.length) r.accounts
  unfold carry
  dsimp only
  rw [hcounters]
  split
  · unfold Accounts.deliver
    split
    · exact ⟨_, rfl⟩
    · exact ⟨_, rfl⟩
  · exact ⟨_, rfl⟩

/-- What a move can do. -/
inductive MoveCase (t : Transport σ) (r : Runner σ) : Runner σ → List RunnerEvent → Prop
  | rested : MoveCase t r r []
  | carried (m : TrafficMove σ) (hm : r.Carries m) :
    MoveCase t r (r.carry t m).1 (r.carry t m).2
  | phased {after : Runner σ} {events : List RunnerEvent} (h : PhaseCase r after events) :
    MoveCase t r after events
  | counted (n : Nat) (begun : List StreamSpec) (spec : StreamSpec) (rest : List StreamSpec)
    (hphase : r.phase = .counting begun spec rest)
    (hfind : r.traffic.client.find? spec.key = some n) :
    MoveCase t r
      { r with accounts := r.accounts.countIn, phase := .posting n begun spec rest }
      [.counted n spec.key]
  | posted (n : Nat) (begun : List StreamSpec) (spec : StreamSpec) (rest : List StreamSpec)
    (hphase : r.phase = .posting n begun spec rest) :
    MoveCase t r
      { r with
        monitors := r.monitors ++ [⟨spec.key, n, .fresh⟩]
        accounts := r.accounts.watch spec.key
        phase := .starting (begun ++ [spec]) rest } []
  | attended {stage : MonitorStage} {accounts : Accounts} {events : List RunnerEvent} (j : Nat)
    (mon : Monitor) (hmon : r.monitors[j]? = some mon)
    (h : MonitorCase r mon stage accounts events) :
    MoveCase t r (r.bring j mon stage accounts) events
  | signalled : MoveCase t r { r with accounts := r.accounts.shutdown } []

/-- What the monitors can do: nothing, or one of them does what it can do. -/
inductive Attends (r : Runner σ) : Runner σ → List RunnerEvent → Prop
  | rested : Attends r r []
  | attended {stage : MonitorStage} {accounts : Accounts} {events : List RunnerEvent} (j : Nat)
    (mon : Monitor) (hmon : r.monitors[j]? = some mon)
    (h : MonitorCase r mon stage accounts events) :
    Attends r (r.bring j mon stage accounts) events

theorem Attends.moveCase {r after : Runner σ} {events : List RunnerEvent}
    (h : Attends r after events) (t : Transport σ) : MoveCase t r after events := by
  cases h with
  | rested => exact .rested
  | attended j mon hmon hcase => exact .attended j mon hmon hcase

theorem attends_look (r : Runner σ) {j : Nat} {mon : Monitor}
    (hmon : r.monitors[j]? = some mon) (hstage : mon.stage = .fresh ∨ mon.stage = .waiting) :
    Attends r (r.look j mon).1 (r.look j mon).2 := by
  unfold look
  split
  · exact .rested
  · next f hfeed =>
    dsimp only
    cases hstate : f.feed.manager.state with
    | exhausted retries => exact .attended j mon hmon (.sawEnd f retries hstage hfeed hstate)
    | stopped => exact .attended j mon hmon (.sawStop hstage)
    | connecting => exact .attended j mon hmon (.sawOther .connecting hstage rfl)
    | connected => exact .attended j mon hmon (.sawOther .connected hstage rfl)
    | reconnecting => exact .attended j mon hmon (.sawOther .reconnecting hstage rfl)

theorem attends_attend (r : Runner σ) (j : Nat) : Attends r (r.attend j).1 (r.attend j).2 := by
  unfold attend
  split
  · exact .rested
  · next mon hmon =>
    cases hstage : mon.stage with
    | fresh => exact attends_look r hmon (.inl hstage)
    | waiting => exact attends_look r hmon (.inr hstage)
    | recording => exact .attended j mon hmon (.recorded hstage)
    | retiring =>
      dsimp only [countOut]
      split
      · next hlive =>
        rw [hlive]
        exact .attended j mon hmon (.lastOut hstage hlive)
      · next hlive => exact .attended j mon hmon (.countedOut hstage hlive)
    | closing => exact .attended j mon hmon (.closedDown hstage)
    | retired => exact .rested
    | dismissed => exact .rested

theorem attends_excuse (r : Runner σ) (j : Nat) : Attends r (r.excuse j).1 (r.excuse j).2 := by
  unfold excuse
  split
  · exact .rested
  · next mon hmon =>
    split
    · next h =>
      have hstage : mon.stage = .waiting := by
        rw [Bool.and_eq_true, beq_iff_eq] at h
        exact h.2
      exact .attended j mon hmon (.excused hstage)
    · exact .rested

theorem moveCase_proceed (t : Transport σ) (r : Runner σ) :
    MoveCase t r r.proceed.1 r.proceed.2 := by
  unfold proceed
  split
  · exact .rested
  · exact .rested
  · exact .rested
  · next begun hphase => exact .phased (.startsReturned begun hphase)
  · next begun spec rest hphase => exact .phased (.startCalled begun spec rest hphase)
  · next i begun spec rest hphase =>
    split
    · next hcall => exact .phased (.started i begun spec rest hphase hcall)
    · next cause hcall => exact .phased (.refused i begun spec rest cause hphase hcall)
    · exact .rested
  · next begun spec rest hphase =>
    split
    · next n hfind => exact .counted n begun spec rest hphase hfind
    · next hfind => exact .phased (.missed begun spec rest hphase hfind)
  · next n begun spec rest hphase => exact .posted n begun spec rest hphase
  · next hphase => exact .phased (.stopsReturned hphase)
  · next key keys hphase => exact .phased (.stopCalled key keys hphase)
  · next i keys hphase =>
    split
    · next result hcall => exact .phased (.stopReturned i keys hphase result hcall)
    · exact .rested
  · next hphase =>
    split
    · next hreturned => exact .phased (.joined hphase (List.all_eq_true.mp hreturned))
    · exact .rested

/-- **The list is complete.** -/
theorem moveCase (t : Transport σ) (r : Runner σ) (m : RunnerMove σ) :
    MoveCase t r (r.move t m).1 (r.move t m).2 := by
  cases m with
  | startsCalled specs =>
    unfold move
    dsimp only
    split
    · next hphase => exact .phased (.startsCalled specs hphase)
    · exact .rested
  | shutdownCalled =>
    unfold move
    dsimp only
    split
    · next hphase => exact .phased (.shutdownCalled hphase)
    · exact .rested
  | proceeded => exact moveCase_proceed t r
  | listed keys =>
    unfold move
    dsimp only
    split
    · next hphase =>
      split
      · next hkeys => exact .phased (.listed keys hphase (List.isPerm_iff.mp hkeys))
      · exact .rested
    · exact .rested
  | advanced =>
    unfold move
    dsimp only
    split
    · next i hcall => exact .carried _ (.advanced i hcall)
    · exact .rested
  | answered reply =>
    unfold move
    dsimp only
    split
    · next i hcall => exact .carried _ (.answered i reply hcall)
    · exact .rested
  | worked n m => exact .carried _ (.worked n m)
  | attended j => exact (attends_attend r j).moveCase t
  | excused j => exact (attends_excuse r j).moveCase t
  | signalled => exact .signalled

/-! ## Runs -/

/-- What every move keeps, beside the events so far, a run keeps. -/
theorem run_induction {t : Transport σ} {P : Runner σ → List RunnerEvent → Prop}
    (hmove : ∀ r past after events, P r past → MoveCase t r after events →
      P after (past ++ events))
    (past : List RunnerEvent) {r : Runner σ} (h : P r past) (ms : List (RunnerMove σ)) :
    P (r.run t ms).1 (past ++ (r.run t ms).2) := by
  induction ms generalizing r past with
  | nil => simpa using h
  | cons m ms ih =>
    rw [run_cons, ← List.append_assoc]
    exact ih _ (hmove r past _ _ h (moveCase t r m))

end Runner
end ExchangeClient
