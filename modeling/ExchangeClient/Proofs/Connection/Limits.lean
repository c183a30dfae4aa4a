import ExchangeClient.Config.Strict
import ExchangeClient.Connection.Upkeep
import ExchangeClient.Proofs.Feed.HeaderFaults

/-!
# The limits of what can be configured

Settings are admitted whatever numbers they give, and three of the numbers lead past a limit.  A
worker that may fail the greatest number of times that can be counted goes on when it has, and
cannot count its next failure.  A ping interval of no length cannot be scheduled, and neither can
one that reaches past the end of the clock; the keepalive of a connection ends then before it has
begun, and no one notices.  All other settings are safe, whatever happens (`isSound_iff`).

Safety is a matter of two invariants.  A worker that dials has not used up its allowance, so it can
count one failure more unless the allowance is the greatest (`Worker.IsWithin`).  And a connection
that is made early enough has a keepalive.
-/

namespace ExchangeClient

namespace Keepalive

/-- When an interval can be scheduled. -/
theorem isSome_start?_iff {now : Nat} {interval : Duration} :
    (start? now interval).isSome = true ↔
      interval ≠ .zero ∧ now + interval.nanos ≤ clockLimit := by
  unfold start?
  split
  · next hzero => simp [hzero]
  · next hzero =>
    split
    · next hlate => simp [hlate]
    · next hearly => simp [hzero, Nat.not_lt.mp hearly]

/-- What can be scheduled can be scheduled at any time before. -/
theorem isSome_start?_of_le {now latest : Nat} {interval : Duration} (hle : now ≤ latest)
    (h : (start? latest interval).isSome = true) : (start? now interval).isSome = true := by
  obtain ⟨hzero, hlimit⟩ := isSome_start?_iff.mp h
  exact isSome_start?_iff.mpr ⟨hzero, (Nat.add_le_add_right hle _).trans hlimit⟩

end Keepalive

namespace KeptConnection

variable {c : KeptConnection}

/-- A connection that has got a keepalive. -/
def IsScheduled (c : KeptConnection) : Prop := c.keepalive.isSome = true

theorem IsScheduled.react (h : c.IsScheduled) (event : KeepaliveEvent) :
    (c.react event).IsScheduled := by
  unfold KeptConnection.react
  split
  · exact rfl
  · exact h

theorem IsScheduled.cancel (h : c.IsScheduled) : c.cancel.IsScheduled :=
  Option.isSome_map.trans h

theorem IsScheduled.doing (h : c.IsScheduled) (act : WireAct) : (c.doing act).IsScheduled := h

end KeptConnection

open KeptConnection

/-- Whether a connection that is made in a move is made by a moment. -/
def UpkeepMove.IsBy (latest : Nat) : UpkeepMove → Prop
  | .worked _ now => now ≤ latest
  | .stopAsked | .told _ | .wrote _ | .kept _ _ => True

namespace Upkeep

variable {u : Upkeep}

/-- Whether no limit is passed: if the dial fails now, the failure can be counted, and every
connection has got a keepalive. -/
structure IsSound (u : Upkeep) : Prop where
  counted : u.worker.phase = .dialing → u.worker.failures.toNat + 1 < UInt32.size
  scheduled : ∀ c ∈ u.connections, c.IsScheduled

/-- What holds of an upkeep whose connections are made early enough. -/
structure Provided (latest : Nat) (u : Upkeep) : Prop where
  schedulable : (Keepalive.start? latest u.config.pingInterval).isSome = true
  within : u.worker.IsWithin u.config.retryMax
  scheduled : ∀ c ∈ u.connections, c.IsScheduled

theorem forall_mem_modifyHead {P : KeptConnection → Prop} {f : KeptConnection → KeptConnection}
    (hf : ∀ c, P c → P (f c)) {cs : List KeptConnection} (h : ∀ c ∈ cs, P c) :
    ∀ c ∈ cs.modifyHead f, P c := by
  rw [List.modifyHead_eq_modify_zero]
  exact forall_mem_modify hf h 0

theorem Provided.work {latest now : Nat} (h : u.Provided latest) (hnow : now ≤ latest)
    (event : WorkerEvent) : (u.work event now).Provided latest := by
  unfold Upkeep.work
  split
  case h_2 => exact h
  next w states hreact =>
  refine ⟨h.schedulable, h.within.react hreact, ?_⟩
  show ∀ c ∈ u.connectionsIn now w.phase, c.IsScheduled
  cases w.phase with
  | inSession =>
    exact List.forall_mem_cons.mpr ⟨Keepalive.isSome_start?_of_le hnow h.schedulable, h.scheduled⟩
  | joining => exact forall_mem_modifyHead (fun _ hc => hc.cancel) h.scheduled
  | closing => exact forall_mem_modifyHead (fun _ hc => hc.doing _) h.scheduled
  | dialing | waiting | exited => exact h.scheduled

theorem Provided.move {latest : Nat} (h : u.Provided latest) {m : UpkeepMove} (hm : m.IsBy latest) :
    (u.move m).Provided latest := by
  cases m with
  | stopAsked => exact ⟨h.schedulable, h.within, h.scheduled⟩
  | told n =>
    rw [Upkeep.move]
    split
    · exact ⟨h.schedulable, h.within, forall_mem_modify (fun _ hc => hc.cancel) h.scheduled n⟩
    · exact h
  | worked event now =>
    rw [Upkeep.move]
    split
    · exact h.work hm event
    · exact h
  | wrote frame =>
    rw [Upkeep.move]
    split
    · exact ⟨h.schedulable, h.within, forall_mem_modifyHead (fun _ hc => hc.doing _) h.scheduled⟩
    · exact h
  | kept n event =>
    exact ⟨h.schedulable, h.within,
      forall_mem_modify (fun _ hc => hc.react event) h.scheduled n⟩

theorem Provided.run {latest : Nat} (h : u.Provided latest) {ms : List UpkeepMove}
    (hms : ∀ m ∈ ms, m.IsBy latest) : (u.run ms).Provided latest := by
  induction ms generalizing u with
  | nil => exact h
  | cons m ms ih =>
    obtain ⟨hm, hms⟩ := List.forall_mem_cons.mp hms
    exact ih (h.move hm) hms

/-- A worker that may not fail as often as can be counted can count its next failure. -/
theorem Provided.isSound {latest : Nat} (h : u.Provided latest)
    (hmax : u.config.retryMax ≠ 0xFFFFFFFF) : u.IsSound := by
  refine ⟨fun hdialing => ?_, h.scheduled⟩
  have hle : u.worker.failures ≤ u.config.retryMax :=
    h.within.resolve_left (by simp [Worker.hasExited, hdialing])
  have hlt : u.config.retryMax.toNat < 0xFFFFFFFF := by
    have hne : u.config.retryMax.toNat ≠ 0xFFFFFFFF := fun heq => hmax (UInt32.toNat_inj.mp heq)
    have := u.config.retryMax.toNat_lt
    omega
  have := UInt32.le_iff_toNat_le.mp hle
  simp only [UInt32.size]
  omega

/-! ## Passing the limits -/

/-- So many dials that fail, with a wait after each. -/
def failing (n : Nat) : List UpkeepMove :=
  (List.replicate n [.worked .dialFailed 0, .worked .waited 0]).flatten

theorem failing_succ (n : Nat) :
    failing (n + 1) = failing n ++ [.worked .dialFailed 0, .worked .waited 0] := by
  rw [failing, List.replicate_succ', List.flatten_append, List.flatten_singleton]
  rfl

theorem isBy_of_mem_failing {latest n : Nat} {m : UpkeepMove} (h : m ∈ failing n) :
    m.IsBy latest := by
  obtain ⟨round, hround, hm⟩ := List.mem_flatten.mp h
  rw [List.eq_of_mem_replicate hround] at hm
  simp only [List.mem_cons, List.not_mem_nil, or_false] at hm
  rcases hm with rfl | rfl <;> exact Nat.zero_le latest

/-- A worker that has failed as often as it may dials again. -/
theorem run_failing {config : ConnectionConfig} {n : Nat} (h : n ≤ config.retryMax.toNat) :
    (start config).run (failing n) = ⟨config, ⟨.dialing, UInt32.ofNat n⟩, false, []⟩ := by
  induction n with
  | zero => rfl
  | succ n ih =>
    have hallowed : ¬ config.retryMax < UInt32.ofNat n + 1 := by
      have hcount : UInt32.ofNat n + 1 = UInt32.ofNat (n + 1) := (UInt32.ofNat_add n 1).symm
      have hlt : n + 1 < 2 ^ 32 := h.trans_lt config.retryMax.toNat_lt
      rw [hcount, UInt32.lt_iff_toNat_lt, UInt32.toNat_ofNat_of_lt' hlt]
      omega
    rw [failing_succ, run_append, ih (by omega)]
    simp [Upkeep.move, Upkeep.work, admits, Worker.react, Worker.failDial, hallowed, connectionsIn,
      UInt32.ofNat_add]

/-- Settings that pass a limit are not safe. -/
theorem exists_not_isSound {config : ConnectionConfig} {latest : Nat}
    (h : config.retryMax = 0xFFFFFFFF ∨
      (Keepalive.start? latest config.pingInterval).isSome = false) :
    ∃ ms, (∀ m ∈ ms, m.IsBy latest) ∧ ¬ ((start config).run ms).IsSound := by
  rcases h with hmax | hinterval
  · refine ⟨failing 0xFFFFFFFF, fun _ => isBy_of_mem_failing, fun hsound => ?_⟩
    have hrun : (start config).run (failing 0xFFFFFFFF) =
        ⟨config, ⟨.dialing, UInt32.ofNat 0xFFFFFFFF⟩, false, []⟩ :=
      run_failing (by rw [hmax]; rfl)
    rw [hrun] at hsound
    have hlast : (UInt32.ofNat 0xFFFFFFFF).toNat + 1 < UInt32.size := hsound.counted rfl
    exact absurd hlast (by decide)
  · refine ⟨[.worked .dialed latest], by simp [UpkeepMove.IsBy], fun hsound => ?_⟩
    have hscheduled := hsound.scheduled (.opened config latest) List.mem_cons_self
    rw [IsScheduled, KeptConnection.opened, hinterval] at hscheduled
    cases hscheduled

/-- **Which settings are safe**: those that do not allow the greatest number of failures, and whose
ping interval has a length and, from whenever a connection is made, ends before the clock does. -/
theorem isSound_iff (s : ConnectionSettings) (latest : Nat) :
    (∀ ms, (∀ m ∈ ms, m.IsBy latest) → ((start s.config).run ms).IsSound) ↔
      s.retryMax ≠ 0xFFFFFFFF ∧ s.pingIntervalSecs ≠ 0 ∧
        latest + s.config.pingInterval.nanos ≤ clockLimit := by
  have hlength : s.config.pingInterval ≠ .zero ↔ s.pingIntervalSecs ≠ 0 := by
    refine not_congr ⟨fun hzero => UInt64.toNat_inj.mp ?_, fun hzero => ?_⟩
    · have hnanos : s.pingIntervalSecs.toNat * 1000000000 = 0 := congrArg Duration.nanos hzero
      exact (Nat.mul_eq_zero.mp hnanos).resolve_right (by decide)
    · show Duration.ofSecs s.pingIntervalSecs.toNat = .zero
      rw [hzero]
      rfl
  rw [← hlength, ← Keepalive.isSome_start?_iff]
  constructor
  · intro h
    refine ⟨fun hmax => ?_, ?_⟩
    · obtain ⟨ms, hms, hunsound⟩ :
          ∃ ms, (∀ m ∈ ms, m.IsBy latest) ∧ ¬ ((start s.config).run ms).IsSound :=
        exists_not_isSound (.inl hmax)
      exact hunsound (h ms hms)
    · by_contra hinterval
      obtain ⟨ms, hms, hunsound⟩ := exists_not_isSound (.inr (eq_false_of_ne_true hinterval))
      exact hunsound (h ms hms)
  · rintro ⟨hmax, hschedulable⟩ ms hms
    have hstart : (start s.config).Provided latest :=
      ⟨hschedulable, .inr UInt32.zero_le, List.forall_mem_nil _⟩
    exact (hstart.run hms).isSound (by rw [config_run]; exact hmax)

/-- Settings that pass a limit are read like any others: as many failures as can be counted, and
pings without a pause or with the longest. -/
theorem limits_admitted :
    (∃ c, StreamConfig.ofYaml? "connection: \x7bretry_max: 4294967295\x7d" = some c ∧
      ∃ ms, ¬ ((start c.connection.config).run ms).IsSound) ∧
    (∃ c, StreamConfig.ofYaml? "connection: \x7bping_interval_secs: 0\x7d" = some c ∧
      ∃ ms, ¬ ((start c.connection.config).run ms).IsSound) ∧
    ∃ c, StreamConfig.ofYaml? "connection: \x7bping_interval_secs: 18446744073709551615\x7d" =
        some c ∧
      ∃ ms, ¬ ((start c.connection.config).run ms).IsSound := by
  have hunsound {s : ConnectionSettings}
      (h : s.config.retryMax = 0xFFFFFFFF ∨
        (Keepalive.start? 0 s.config.pingInterval).isSome = false) :
      ∃ ms, ¬ ((start s.config).run ms).IsSound := by
    obtain ⟨ms, -, hms⟩ := exists_not_isSound h
    exact ⟨ms, hms⟩
  refine ⟨⟨{ StreamConfig.usual with connection := ⟨0xFFFFFFFF, 3, 5, 10, 10, 60⟩ }, ?_,
      hunsound (.inl rfl)⟩,
    ⟨{ StreamConfig.usual with connection := ⟨10, 3, 0, 10, 10, 60⟩ }, ?_, hunsound (.inr rfl)⟩,
    ⟨{ StreamConfig.usual with connection := ⟨10, 3, 0xFFFFFFFFFFFFFFFF, 10, 10, 60⟩ }, ?_,
      hunsound (.inr ?_)⟩⟩
  · decide +kernel
  · decide +kernel
  · decide +kernel
  · decide +kernel

end Upkeep
end ExchangeClient
