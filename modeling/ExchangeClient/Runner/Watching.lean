import ExchangeClient.Feed.Traffic
import ExchangeClient.Runner.Run

/-!
# Runners at work

The runner starts its streams one after the other, and each has a monitor of its own, which
goes on beside the runner, beside the other monitors and beside the workers of the streams.
Here all of them are put together, and each move lets one of them do one thing.

A monitor looks at the state that its stream has published last, and sees nothing of what was
published in between.  A connection that was given up it puts on record, and counts its stream
out; if no other was alive it asks for the shutdown.  A stopped stream it leaves.  Otherwise it
waits for news or for a shutdown, whichever it notices first: where there are both it may take
either.  (A monitor that looks again without news sees what it saw, and waits on.)

The runner counts a stream in only when its start has returned, and posts its monitor after
that.  By then the stream is running, and so are the streams before it, with their monitors.

A shutdown asks all monitors to leave, stops the streams one by one, waits for the monitors and
reads the accounts.

What the events of a run tell is what the moves do; nothing in a run looks at them.
-/

namespace ExchangeClient

/-- What a monitor does next. -/
inductive MonitorStage where
  /-- It has not looked yet. -/
  | fresh
  | waiting
  /-- It has seen that the connection was given up. -/
  | recording
  /-- It has put its stream on record, and is about to count it out. -/
  | retiring
  /-- It has counted out the last stream, and is about to ask for the shutdown. -/
  | closing
  | retired
  /-- It has left without anything to report. -/
  | dismissed
  deriving Repr, DecidableEq

namespace MonitorStage

/-- Whether the monitor is done. -/
def hasReturned : MonitorStage → Bool
  | .retired | .dismissed => true
  | _ => false

/-- Whether the monitor has counted its stream out. -/
def hasCountedOut : MonitorStage → Bool
  | .closing | .retired => true
  | _ => false

/-- Whether the monitor has put its stream on record. -/
def isOnRecord : MonitorStage → Bool
  | .retiring | .closing | .retired => true
  | _ => false

/-- Whether the monitor has seen that the connection was given up. -/
def hasSeenEnd : MonitorStage → Bool
  | .recording | .retiring | .closing | .retired => true
  | _ => false

end MonitorStage

/-- The monitor of a stream. -/
structure Monitor where
  key : ChannelKey
  /-- The number of the feed that it watches. -/
  feed : Nat
  stage : MonitorStage
  deriving Repr, DecidableEq

/-- What a runner does next. -/
inductive RunnerPhase where
  | ready
  /-- Of the streams to start some have been started, and some are left. -/
  | starting (begun rest : List StreamSpec)
  /-- The `i`-th call of the client, the start of a stream, is under way. -/
  | awaiting (i : Nat) (begun : List StreamSpec) (spec : StreamSpec) (rest : List StreamSpec)
  /-- A stream was started, and is not counted yet. -/
  | counting (begun : List StreamSpec) (spec : StreamSpec) (rest : List StreamSpec)
  /-- The `n`-th feed is counted, and has no monitor yet. -/
  | posting (n : Nat) (begun : List StreamSpec) (spec : StreamSpec) (rest : List StreamSpec)
  /-- All streams are to be stopped. -/
  | listing
  | stopping (keys : List ChannelKey)
  /-- The `i`-th call of the client, the stop of a stream, is under way. -/
  | closing (i : Nat) (keys : List ChannelKey)
  /-- It waits for the monitors. -/
  | joining
  | ended (summary : RunSummary)

namespace RunnerPhase

/-- The call that the runner waits for. -/
def call? : RunnerPhase → Option Nat
  | .awaiting i _ _ _ | .closing i _ => some i
  | _ => none

/-- How many streams are counted and have no monitor yet. -/
def unposted : RunnerPhase → Nat
  | .posting .. => 1
  | _ => 0

end RunnerPhase

/-- What happens on a run. -/
inductive RunnerEvent where
  /-- The `n`-th feed has published a state. -/
  | published (n : Nat) (key : ChannelKey) (state : ConnectionState)
  /-- The streams that were started, when their starting has ended. -/
  | startsReturned (specs : List StreamSpec) (result : Except RunFailure Unit)
  /-- The `n`-th feed is one stream more alive. -/
  | counted (n : Nat) (key : ChannelKey)
  /-- The monitor of the `n`-th feed has looked. -/
  | saw (n : Nat) (state : ConnectionState)
  /-- The monitor of the `n`-th feed has left because of a shutdown. -/
  | excused (n : Nat)
  /-- The `n`-th feed was counted out; so many streams were alive till then. -/
  | countedOut (n live : Nat)
  /-- The monitor of the `n`-th feed has asked for the shutdown. -/
  | closedDown (n : Nat)
  | shutdownCalled

/-- A runner with its monitors and with the traffic on its client. -/
structure Runner (σ : Type) where
  traffic : Traffic σ
  accounts : Accounts
  /-- Every monitor that was posted, the oldest first. -/
  monitors : List Monitor
  phase : RunnerPhase

/-- What happens to a runner. -/
inductive RunnerMove (σ : Type) where
  | startsCalled (specs : List StreamSpec)
  | shutdownCalled
  /-- The runner does what it does next. -/
  | proceeded
  /-- The runner lists the streams to stop, in some order. -/
  | listed (keys : List ChannelKey)
  /-- The call that the runner waits for does what it does next. -/
  | advanced
  /-- The request for a seed, which the runner waits for, is answered. -/
  | answered (reply : Except ClientError Board)
  /-- The worker of a feed makes a move. -/
  | worked (n : Nat) (m : FeedMove σ)
  /-- The `j`-th monitor does what it does next. -/
  | attended (j : Nat)
  /-- The `j`-th monitor notices the shutdown. -/
  | excused (j : Nat)
  /-- Somebody else asks for the shutdown. -/
  | signalled

namespace Traffic

variable {σ : Type}

/-- What can be watched of each feed: its key, and what it has published last. -/
def shown (tr : Traffic σ) : List (ChannelKey × ConnectionState) :=
  tr.feeds.map fun f => (f.feed.key, f.feed.manager.state)

/-- The feeds that show something else than before. -/
def news (before after : Traffic σ) : List RunnerEvent :=
  (after.shown.zipIdx.filter fun (entry, n) => before.shown[n]? ≠ some entry).map
    fun ((key, state), n) => .published n key state

/-- The key of the stream that a move delivers on, and how many updates it delivers. -/
def delivered? (t : Transport σ) (tr : Traffic σ) : TrafficMove σ → Option (ChannelKey × Nat)
  | .worked n m => tr.feeds[n]?.map fun f =>
    (f.feed.key, (StreamEvent.updates (f.work t m).2).length)
  | _ => none

end Traffic

namespace Runner

variable {σ : Type}

/-- A runner that has started nothing. -/
def idle (config : RealtimeConfig) (calls : Option Client) : Runner σ :=
  ⟨.idle config calls, .empty, [], .ready⟩

/-! ## The streams -/

/-- The runner after a move of the traffic, and what was published.  A stream that was
entered has its counter from then on; nobody reads the counters before its start has
returned. -/
def carry (t : Transport σ) (r : Runner σ) (m : TrafficMove σ) : Runner σ × List RunnerEvent :=
  let traffic := r.traffic.move t m
  let entered := (traffic.feeds.drop r.traffic.feeds.length).foldl
    (fun a f => a.setCounter f.feed.key 0) r.accounts
  let accounts :=
    match r.traffic.delivered? t m with
    | some (key, updates) => entered.deliver key updates
    | none => entered
  ({ r with traffic, accounts }, r.traffic.news traffic)

/-! ## The monitors -/

/-- The runner after a monitor has come to a stage, with the accounts as it leaves them. -/
def bring (r : Runner σ) (j : Nat) (mon : Monitor) (stage : MonitorStage)
    (accounts : Accounts) : Runner σ :=
  { r with monitors := r.monitors.set j { mon with stage }, accounts }

/-- The runner after a monitor has looked. -/
def look (r : Runner σ) (j : Nat) (mon : Monitor) : Runner σ × List RunnerEvent :=
  match r.traffic.feeds[mon.feed]? with
  | none => (r, [])
  | some f =>
    let state := f.feed.manager.state
    let after :=
      match state with
      | .exhausted _ => r.bring j mon .recording r.accounts
      | .stopped => r.bring j mon .dismissed (r.accounts.dismiss mon.key)
      | _ => r.bring j mon .waiting r.accounts
    (after, [.saw mon.feed state])

/-- The runner after a monitor has counted its stream out. -/
def countOut (r : Runner σ) (j : Nat) (mon : Monitor) : Runner σ × List RunnerEvent :=
  (if r.accounts.live = 1 then r.bring j mon .closing r.accounts.countOut
    else r.bring j mon .retired (r.accounts.countOut.dismiss mon.key),
    [.countedOut mon.feed r.accounts.live])

/-- The runner after a monitor has done what it does next. -/
def attend (r : Runner σ) (j : Nat) : Runner σ × List RunnerEvent :=
  match r.monitors[j]? with
  | none => (r, [])
  | some mon =>
    match mon.stage with
    | .fresh | .waiting => r.look j mon
    | .recording => (r.bring j mon .retiring (r.accounts.record mon.key), [])
    | .retiring => r.countOut j mon
    | .closing =>
      (r.bring j mon .retired (r.accounts.shutdown.dismiss mon.key), [.closedDown mon.feed])
    | .retired | .dismissed => (r, [])

/-- The runner after a monitor that was waiting has noticed the shutdown. -/
def excuse (r : Runner σ) (j : Nat) : Runner σ × List RunnerEvent :=
  match r.monitors[j]? with
  | none => (r, [])
  | some mon =>
    if r.accounts.isShutdown && mon.stage == .waiting then
      (r.bring j mon .dismissed (r.accounts.dismiss mon.key), [.excused mon.feed])
    else (r, [])

/-! ## The runner itself -/

/-- The runner with a call on its client, which it will wait for. -/
def call (r : Runner σ) (call : ClientCall) (phase : RunnerPhase) : Runner σ :=
  { r with traffic := { r.traffic with calls := r.traffic.calls ++ [call] }, phase }

/-- The runner after it has done what it does next. -/
def proceed (r : Runner σ) : Runner σ × List RunnerEvent :=
  match r.phase with
  | .ready | .listing | .ended _ => (r, [])
  | .starting begun [] => ({ r with phase := .ready }, [.startsReturned begun (.ok ())])
  | .starting begun (spec :: rest) =>
    (r.call (.starting spec) (.awaiting r.traffic.calls.length begun spec rest), [])
  | .awaiting i begun spec rest =>
    match r.traffic.calls[i]? with
    | some (.returned (.ok ())) => ({ r with phase := .counting begun spec rest }, [])
    | some (.returned (.error cause)) =>
      ({ r with phase := .ready },
        [.startsReturned begun (.error ⟨.startStream spec.key, cause⟩)])
    | _ => (r, [])
  | .counting begun spec rest =>
    match r.traffic.client.find? spec.key with
    | some n =>
      ({ r with accounts := r.accounts.countIn, phase := .posting n begun spec rest },
        [.counted n spec.key])
    | none => ({ r with phase := .starting (begun ++ [spec]) rest }, [])
  | .posting n begun spec rest =>
    ({ r with
        monitors := r.monitors ++ [⟨spec.key, n, .fresh⟩]
        accounts := r.accounts.watch spec.key
        phase := .starting (begun ++ [spec]) rest }, [])
  | .stopping [] => ({ r with phase := .joining }, [])
  | .stopping (key :: keys) =>
    (r.call (.stopping key) (.closing r.traffic.calls.length keys), [])
  | .closing i keys =>
    match r.traffic.calls[i]? with
    | some (.returned _) => ({ r with phase := .stopping keys }, [])
    | _ => (r, [])
  | .joining =>
    if r.monitors.all fun mon => mon.stage.hasReturned then
      ({ r with phase := .ended ⟨r.accounts.counters, r.accounts.exhausted⟩ }, [])
    else (r, [])

/-- The runner after a move, and what happened. -/
def move (t : Transport σ) (r : Runner σ) : RunnerMove σ → Runner σ × List RunnerEvent
  | .startsCalled specs =>
    match r.phase with
    | .ready => ({ r with phase := .starting [] specs }, [])
    | _ => (r, [])
  | .shutdownCalled =>
    match r.phase with
    | .ready => ({ r with accounts := r.accounts.shutdown, phase := .listing }, [.shutdownCalled])
    | _ => (r, [])
  | .proceeded => r.proceed
  | .listed keys =>
    match r.phase with
    | .listing =>
      if keys.isPerm r.traffic.client.keys then ({ r with phase := .stopping keys }, [])
      else (r, [])
    | _ => (r, [])
  | .advanced =>
    match r.phase.call? with
    | some i => r.carry t (.advanced i)
    | none => (r, [])
  | .answered reply =>
    match r.phase.call? with
    | some i => r.carry t (.answered i reply)
    | none => (r, [])
  | .worked n m => r.carry t (.worked n m)
  | .attended j => r.attend j
  | .excused j => r.excuse j
  | .signalled => ({ r with accounts := r.accounts.shutdown }, [])

/-- The runner after some moves, and what happened meanwhile. -/
def run (t : Transport σ) (r : Runner σ) : List (RunnerMove σ) → Runner σ × List RunnerEvent
  | [] => (r, [])
  | m :: ms =>
    let rest := (r.move t m).1.run t ms
    (rest.1, (r.move t m).2 ++ rest.2)

@[simp] theorem run_nil (t : Transport σ) (r : Runner σ) : r.run t [] = (r, []) := rfl

@[simp] theorem run_cons (t : Transport σ) (r : Runner σ) (m : RunnerMove σ)
    (ms : List (RunnerMove σ)) :
    r.run t (m :: ms) =
      (((r.move t m).1.run t ms).1, (r.move t m).2 ++ ((r.move t m).1.run t ms).2) := rfl

/-! ## A monitor that nothing comes between -/

variable {r : Runner σ} {j : Nat} {mon : Monitor} {f : StoppableFeed σ}

theorem getElem?_bring_self (hmon : r.monitors[j]? = some mon) (stage : MonitorStage)
    (accounts : Accounts) :
    (r.bring j mon stage accounts).monitors[j]? = some { mon with stage } :=
  List.getElem?_set_self (List.getElem?_eq_some_iff.mp hmon).1

theorem bring_bring (stage stage' : MonitorStage) (accounts accounts' : Accounts) :
    (r.bring j mon stage accounts).bring j { mon with stage } stage' accounts' =
      r.bring j mon stage' accounts' := by
  simp [bring]

/-- What a monitor at a stage does next, besides looking. -/
theorem attend_bring (hmon : r.monitors[j]? = some mon) (stage : MonitorStage)
    (accounts : Accounts) (hstage : stage ≠ .fresh ∧ stage ≠ .waiting) :
    ((r.bring j mon stage accounts).attend j).1 =
      match stage with
      | .recording => r.bring j mon .retiring (accounts.record mon.key)
      | .retiring =>
        if accounts.live = 1 then r.bring j mon .closing accounts.countOut
        else r.bring j mon .retired (accounts.countOut.dismiss mon.key)
      | .closing => r.bring j mon .retired (accounts.shutdown.dismiss mon.key)
      | _ => r.bring j mon stage accounts := by
  cases stage with
  | fresh => exact absurd rfl hstage.1
  | waiting => exact absurd rfl hstage.2
  | recording =>
    rw [attend, getElem?_bring_self hmon]
    exact bring_bring ..
  | retiring =>
    rw [attend, getElem?_bring_self hmon]
    dsimp only [countOut]
    rw [bring_bring, bring_bring]
    rfl
  | closing =>
    rw [attend, getElem?_bring_self hmon]
    exact bring_bring ..
  | retired => rw [attend, getElem?_bring_self hmon]
  | dismissed => rw [attend, getElem?_bring_self hmon]

/-- A monitor that has seen its connection given up reports it and counts the stream out; the
last one asks for the shutdown. -/
theorem attends_of_recording (hmon : r.monitors[j]? = some mon) (accounts : Accounts) :
    (((((r.bring j mon .recording accounts).attend j).1.attend j).1).attend j).1 =
      r.bring j mon .retired (((accounts.record mon.key).retire).dismiss mon.key) := by
  rw [attend_bring hmon _ _ (by decide), attend_bring hmon _ _ (by decide), Accounts.retire_eq]
  dsimp only
  split
  · exact attend_bring hmon _ _ (by decide)
  · exact attend_bring hmon _ _ (by decide)

/-- A monitor that sees nothing of note goes on waiting. -/
theorem attend_waiting (hmon : r.monitors[j]? = some mon)
    (hfeed : r.traffic.feeds[mon.feed]? = some f)
    (hstate : f.feed.manager.state.isTerminal = false) :
    ((r.bring j mon .waiting r.accounts).attend j).1 = r.bring j mon .waiting r.accounts := by
  rw [attend, getElem?_bring_self hmon]
  dsimp only [look]
  rw [show (r.bring j mon .waiting r.accounts).traffic.feeds[mon.feed]? = some f from hfeed]
  cases hshown : f.feed.manager.state with
  | stopped => rw [hshown] at hstate; cases hstate
  | exhausted retries => rw [hshown] at hstate; cases hstate
  | _ =>
    dsimp only
    rw [hshown]
    exact bring_bring ..

/-- A monitor that does at once all that it has to do leaves the accounts as `Accounts.look`
does. -/
theorem accounts_attends (t : Transport σ) (hmon : r.monitors[j]? = some mon)
    (hstage : mon.stage = .fresh ∨ mon.stage = .waiting)
    (hfeed : r.traffic.feeds[mon.feed]? = some f) (hwatched : mon.key ∈ r.accounts.watched) :
    (r.run t [.attended j, .attended j, .attended j, .attended j, .excused j]).1.accounts =
      r.accounts.look mon.key f.feed.manager.state := by
  have hlook : (r.attend j).1 = (r.look j mon).1 := by
    rcases hstage with hstage | hstage
    · simp only [attend, hmon, hstage]
    · simp only [attend, hmon, hstage]
  show ((((((r.attend j).1.attend j).1.attend j).1.attend j).1.excuse j).1).accounts = _
  unfold Accounts.look
  rw [hlook, look, hfeed, if_pos (List.contains_iff_mem.mpr hwatched)]
  dsimp only
  cases hstate : f.feed.manager.state with
  | exhausted retries =>
    dsimp only
    rw [attends_of_recording hmon, excuse, getElem?_bring_self hmon]
    simp [bring]
  | stopped =>
    dsimp only
    rw [attend_bring hmon _ _ (by decide), attend_bring hmon _ _ (by decide),
      attend_bring hmon _ _ (by decide), excuse, getElem?_bring_self hmon]
    simp [bring]
  | _ =>
    have hwaiting := attend_waiting hmon hfeed (by rw [hstate]; rfl)
    dsimp only
    rw [hwaiting, hwaiting, hwaiting, excuse, getElem?_bring_self hmon]
    cases hshutdown : r.accounts.isShutdown with
    | true => simp [bring, hshutdown]
    | false => simp [bring, hshutdown]

end Runner
end ExchangeClient
