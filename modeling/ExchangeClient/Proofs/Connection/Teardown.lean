import ExchangeClient.Connection.Upkeep
import ExchangeClient.Proofs.Connection.Publishing

/-!
# The keepalive goes first

However the worker, the keepalives and a stop take turns, every connection is made, worked on and
closed, in this order: pings and frames stand between the handshake and the beginning of the close,
and nothing comes after that (`acts_in_order`).

What carries this is that only the present connection is ever attended, and only while the worker
is in its session or waits for the keepalive (`Upkeep.Orderly`).  The worker does not close before
the keepalive has exited, and it does not dial before it has closed.  So a keepalive that was left
behind, which could go on writing, cannot come to be.
-/

namespace ExchangeClient

/-- Whether an act stands between the handshake and the close. -/
def WireAct.isTalk : WireAct → Bool
  | .wrote _ | .pingBegun | .pingWritten => true
  | .opened | .closeBegun => false

theorem Keepalive.react_eq_none_of_exited {k : Keepalive} (h : k.phase = .exited)
    (event : KeepaliveEvent) : k.react event = none := by
  simp [react, h]

namespace KeptConnection

variable {c : KeptConnection}

/-- A connection that is worked on. -/
def IsOpen (c : KeptConnection) : Prop :=
  ∃ talk, (∀ act ∈ talk, act.isTalk = true) ∧ c.acts = .opened :: talk

/-- A connection whose close has begun, and whose keepalive is gone. -/
structure IsOver (c : KeptConnection) : Prop where
  unattended : c.isAttended = false
  closed : ∃ talk, (∀ act ∈ talk, act.isTalk = true) ∧ c.acts = .opened :: talk ++ [.closeBegun]

theorem isOpen_opened (config : ConnectionConfig) (now : Nat) : (opened config now).IsOpen :=
  ⟨[], List.forall_mem_nil _, rfl⟩

theorem IsOpen.append (h : c.IsOpen) {acts : List WireAct} (hacts : ∀ act ∈ acts, act.isTalk = true)
    (keepalive : Option Keepalive) : IsOpen ⟨keepalive, c.acts ++ acts⟩ := by
  obtain ⟨talk, htalk, hc⟩ := h
  refine ⟨talk ++ acts, List.forall_mem_append.mpr ⟨htalk, hacts⟩, ?_⟩
  rw [hc, List.cons_append]

theorem isTalk_of_mem_actsOf {event : KeepaliveEvent} {act : WireAct} (h : act ∈ actsOf event) :
    act.isTalk = true := by
  cases event with
  | tick | pinged =>
    obtain rfl := List.mem_singleton.mp h
    rfl
  | pingFailed | stopSeen => cases h

/-- A keepalive does nothing but ping. -/
theorem IsOpen.react (h : c.IsOpen) (event : KeepaliveEvent) : (c.react event).IsOpen := by
  unfold KeptConnection.react
  split
  · exact h.append (fun _ => isTalk_of_mem_actsOf) _
  · exact h

/-- A connection that is closed when no one attends to it is over. -/
theorem IsOpen.close (h : c.IsOpen) (hunattended : c.isAttended = false) :
    (c.doing .closeBegun).IsOver := by
  obtain ⟨talk, htalk, hc⟩ := h
  refine ⟨hunattended, talk, htalk, ?_⟩
  show c.acts ++ [.closeBegun] = .opened :: talk ++ [.closeBegun]
  rw [hc]

theorem IsOpen.cancel (h : c.IsOpen) : c.cancel.IsOpen := h

theorem isAttended_cancel (c : KeptConnection) : c.cancel.isAttended = c.isAttended := by
  simp only [isAttended, cancel, Option.any_map]
  rfl

theorem IsOver.cancel (h : c.IsOver) : c.cancel.IsOver :=
  ⟨(isAttended_cancel c).trans h.unattended, h.closed⟩

/-- Nothing more happens on a connection that is over. -/
theorem IsOver.react (h : c.IsOver) (event : KeepaliveEvent) : (c.react event).IsOver := by
  have hnone : (c.keepalive.bind fun k => k.react event) = none := by
    have hunattended := h.unattended
    rw [isAttended] at hunattended
    cases hk : c.keepalive with
    | none => rfl
    | some k =>
      rw [hk] at hunattended
      have hexited : k.phase = .exited := by simpa using hunattended
      exact Keepalive.react_eq_none_of_exited hexited event
  rw [KeptConnection.react, hnone]
  exact h

end KeptConnection

open KeptConnection

/-- Whether the worker has a connection that it has not begun to close. -/
def WorkerPhase.isLinked : WorkerPhase → Bool
  | .inSession | .joining _ => true
  | .dialing | .closing _ | .waiting | .exited => false

namespace Upkeep

variable {u : Upkeep}

/-- The connections that there may be in a phase of the worker: all are over, but for the present
one while the worker has not begun to close it. -/
inductive Orderly : WorkerPhase → List KeptConnection → Prop
  | apart {phase : WorkerPhase} {cs : List KeptConnection} (hphase : phase.isLinked = false)
    (hover : ∀ c ∈ cs, c.IsOver) : Orderly phase cs
  | linked {phase : WorkerPhase} {c : KeptConnection} {cs : List KeptConnection}
    (hphase : phase.isLinked = true) (hopen : c.IsOpen) (hover : ∀ c ∈ cs, c.IsOver) :
    Orderly phase (c :: cs)

/-- What is done to one of the connections leaves them in order, if it leaves one that is open open
and one that is over over. -/
theorem Orderly.modify {phase : WorkerPhase} {cs : List KeptConnection} (h : Orderly phase cs)
    {f : KeptConnection → KeptConnection} (hopen : ∀ c, c.IsOpen → (f c).IsOpen)
    (hover : ∀ c, c.IsOver → (f c).IsOver) (n : Nat) : Orderly phase (cs.modify n f) := by
  cases h with
  | apart hphase hcs => exact .apart hphase (forall_mem_modify hover hcs n)
  | linked hphase hc hcs =>
    cases n with
    | zero => exact .linked hphase (hopen _ hc) hcs
    | succ n => exact .linked hphase hc (forall_mem_modify hover hcs n)

theorem Orderly.forall_isOver {phase : WorkerPhase} {cs : List KeptConnection}
    (h : Orderly phase cs) (hphase : phase.isLinked = false) : ∀ c ∈ cs, c.IsOver := by
  cases h with
  | apart _ hover => exact hover
  | linked hlinked => rw [hphase] at hlinked; cases hlinked

/-- **An event of the worker leaves the connections in order**: one that is made is added to others
that are over, and one that is closed is not attended to any more. -/
theorem Orderly.work (h : Orderly u.worker.phase u.connections) {event : WorkerEvent}
    (hadmits : u.admits event = true) (now : Nat) :
    Orderly (u.work event now).worker.phase (u.work event now).connections := by
  obtain ⟨config, worker, isCancelled, connections⟩ := u
  unfold Upkeep.work
  split
  case h_2 => exact h
  next w states hreact =>
  have hcase := Worker.reactCase hreact
  dsimp only at h hcase ⊢
  cases hcase with
  | gaveUp | dialFailed | stoppedDialing | lost | left | waited | stoppedWaiting =>
    exact .apart rfl (h.forall_isOver rfl)
  | dialed => exact .linked rfl (isOpen_opened _ _) (h.forall_isOver rfl)
  | sessionFailed | stoppedInSession =>
    cases h with
    | apart hphase => cases hphase
    | linked _ hopen hover => exact .linked rfl hopen.cancel hover
  | joined cause failures =>
    cases h with
    | apart hphase => cases hphase
    | linked _ hopen hover =>
      -- The event is admitted only when the keepalive has exited.
      have hunattended : (!isAttended _) = true := hadmits
      rw [Bool.not_eq_true'] at hunattended
      exact .apart rfl (List.forall_mem_cons.mpr ⟨hopen.close hunattended, hover⟩)

/-- **A move leaves the connections in order.** -/
theorem Orderly.move (h : Orderly u.worker.phase u.connections) (m : UpkeepMove) :
    Orderly (u.move m).worker.phase (u.move m).connections := by
  cases m with
  | stopAsked => exact h
  | told n =>
    rw [Upkeep.move]
    split
    · exact h.modify (fun _ => IsOpen.cancel) (fun _ => IsOver.cancel) n
    · exact h
  | worked event now =>
    rw [Upkeep.move]
    split
    · next hadmits => exact h.work hadmits now
    · exact h
  | wrote frame =>
    rw [Upkeep.move]
    split
    · next hphase =>
      obtain ⟨config, worker, isCancelled, connections⟩ := u
      dsimp only at h hphase ⊢
      cases h with
      | apart hapart => rw [hphase] at hapart; cases hapart
      | linked hlinked hopen hover =>
        have htalk : ∀ act ∈ [WireAct.wrote frame], act.isTalk = true := by simp [WireAct.isTalk]
        exact .linked hlinked (hopen.append htalk _) hover
    · exact h
  | kept n event =>
    exact h.modify (fun _ hopen => hopen.react event) (fun _ hover => hover.react event) n

/-- Whatever happens, the connections are in order. -/
theorem orderly_run (config : ConnectionConfig) (ms : List UpkeepMove) :
    Orderly ((start config).run ms).worker.phase ((start config).run ms).connections := by
  have hrun (u : Upkeep) (h : Orderly u.worker.phase u.connections) :
      Orderly (u.run ms).worker.phase (u.run ms).connections := by
    induction ms generalizing u with
    | nil => exact h
    | cons m ms ih => exact ih (u.move m) (h.move m)
  exact hrun _ (.apart rfl (List.forall_mem_nil _))

/-- Of connections that are over none is attended. -/
theorem countP_isAttended_of_isOver {cs : List KeptConnection} (h : ∀ c ∈ cs, c.IsOver) :
    cs.countP isAttended = 0 := by
  rw [List.countP_eq_zero]
  intro c hc
  rw [(h c hc).unattended]
  exact Bool.false_ne_true

/-- **The keepalive goes first.**  Whatever settings a worker has, whatever happens to it, to its
keepalives and to what it writes, and whenever a stop is asked for and seen: on every connection
that was ever made pings and frames come after the handshake and before the close is begun; at most
one keepalive has not exited; and none is left while the worker dials. -/
theorem acts_in_order (config : ConnectionConfig) (ms : List UpkeepMove) :
    let u := (start config).run ms
    (∀ c ∈ u.connections, ∃ talk, (∀ act ∈ talk, act.isTalk = true) ∧
        (c.acts = .opened :: talk ∨ c.acts = .opened :: talk ++ [.closeBegun])) ∧
      u.connections.countP isAttended ≤ 1 ∧
      (u.worker.phase = .dialing → u.connections.countP isAttended = 0) := by
  intro u
  have h : Orderly u.worker.phase u.connections := orderly_run config ms
  have hover {c : KeptConnection} (hc : c.IsOver) : ∃ talk, (∀ act ∈ talk, act.isTalk = true) ∧
      (c.acts = .opened :: talk ∨ c.acts = .opened :: talk ++ [.closeBegun]) := by
    obtain ⟨talk, htalk, hacts⟩ := hc.closed
    exact ⟨talk, htalk, .inr hacts⟩
  refine ⟨?_, ?_, fun hdialing => ?_⟩
  · generalize u.connections = cs at h
    cases h with
    | apart _ hall => exact fun c hc => hover (hall c hc)
    | linked _ hopen hall =>
      refine List.forall_mem_cons.mpr ⟨?_, fun c hc => hover (hall c hc)⟩
      obtain ⟨talk, htalk, hacts⟩ := hopen
      exact ⟨talk, htalk, .inl hacts⟩
  · generalize u.connections = cs at h
    cases h with
    | apart _ hall => exact (countP_isAttended_of_isOver hall).le.trans (Nat.zero_le 1)
    | linked _ _ hall =>
      rw [List.countP_cons, countP_isAttended_of_isOver hall, Nat.zero_add]
      split
      · exact le_rfl
      · exact Nat.zero_le 1
  · exact countP_isAttended_of_isOver (h.forall_isOver (by rw [hdialing]; rfl))

/-- The stop comes while a ping is under way: the worker waits for the keepalive, which gives the
ping up, and closes. -/
example :
    ((start .usual).run [.worked .dialed 0, .kept 0 (.tick 5000000000), .stopAsked,
      .worked .stopSeen 0, .worked .joined 0, .kept 0 .stopSeen, .worked .joined 0,
      .kept 0 (.tick 10000000000)]).connections.map (·.acts) =
        [[.opened, .pingBegun, .closeBegun]] := by decide

end Upkeep
end ExchangeClient
