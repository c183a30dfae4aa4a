import ExchangeClient.Proofs.Feed.HeaderFaults
import ExchangeClient.Proofs.Feed.Refusals
import Mathlib.Data.List.Nodup

/-!
# Starts and stops of a stream alternate

Any number of starts and stops of the same stream may be under way at once, and the start of a
merged board looks at the registry twice, with all the time in between that its seed takes.  What
it saw the first time may be out of date the second time; that it looks again when it enters its
stream is what keeps the calls in order.

The effects of the calls on one key of the registry turn it over: each start that takes effect
finds the key free and leaves it taken, each stop finds it taken and leaves it free.  So they
alternate, and the key is taken exactly if the last of them was a start (`isChain_turns`).  Each
call that succeeds has one effect, and one that fails has none (`effects_standing`).
-/

namespace ExchangeClient

namespace CallEffect

variable {key : ChannelKey} {effects more : List CallEffect}

theorem turns_append (key : ChannelKey) (effects more : List CallEffect) :
    turns key (effects ++ more) = turns key effects ++ turns key more := by
  rw [turns, List.filter_append, List.map_append]
  rfl

theorem turns_cons_of_eq {e : CallEffect} (h : e.key = key) :
    turns key (e :: effects) = e.isStart :: turns key effects := by
  rw [turns, List.filter_cons_of_pos (by simpa using h)]
  rfl

theorem turns_cons_of_ne {e : CallEffect} (h : e.key ≠ key) :
    turns key (e :: effects) = turns key effects := by
  rw [turns, List.filter_cons_of_neg (by simpa using h)]
  rfl

/-- Turns that alternate and are all starts are no more than one. -/
theorem turns_eq_of_isStart (hchain : (false :: turns key effects).IsChain (· ≠ ·))
    (hstart : ∀ e ∈ effects, e.key = key → e.isStart = true) (hne : turns key effects ≠ []) :
    turns key effects = [true] := by
  have hall : ∀ b ∈ turns key effects, b = true := by
    intro b hb
    obtain ⟨e, he, rfl⟩ := List.mem_map.mp hb
    exact hstart e (List.mem_of_mem_filter he) (by simpa using (List.mem_filter.mp he).2)
  match h : turns key effects with
  | [] => exact absurd h hne
  | [b] =>
    rw [h] at hall
    rw [hall b (List.mem_singleton_self b)]
  | b :: c :: rest =>
    -- Two neighbours would both be starts.
    rw [h] at hall hchain
    have hb := hall b (by simp)
    have hc := hall c (by simp)
    rw [List.isChain_cons_cons, List.isChain_cons_cons, hb, hc] at hchain
    exact absurd rfl hchain.2.1

end CallEffect

namespace Traffic

open CallEffect

variable {σ : Type} {tr : Traffic σ} {i : Nat} {key : ChannelKey}

/-! ## The effects on one key -/

/-- **The effects on a key turn it over.**  Each of them finds the key as the one before has left
it, and turns it over. -/
theorem isChain_turns (t : Transport σ) (tr : Traffic σ) (ms : List (TrafficMove σ))
    (key : ChannelKey) :
    (tr.client.isRunning key :: turns key (tr.effects t ms)).IsChain (· ≠ ·) ∧
      (turns key (tr.effects t ms)).getLastD (tr.client.isRunning key) =
        (tr.run t ms).client.isRunning key := by
  induction ms generalizing tr with
  | nil => exact ⟨List.isChain_singleton _, rfl⟩
  | cons m ms ih =>
    obtain ⟨hchain, hlast⟩ := ih (tr.move t m)
    rw [effects_cons, run_cons]
    rcases takesEffect_or_keeps t tr m with ⟨hnone, hkeeps⟩ | ⟨e, hsome, htakes⟩
    · rw [hnone]
      rw [hkeeps.client] at hchain hlast
      exact ⟨hchain, hlast⟩
    · rw [hsome]
      show (_ :: turns key (e :: _)).IsChain _ ∧ (turns key (e :: _)).getLastD _ = _
      by_cases hkey : e.key = key
      · subst hkey
        rw [htakes.changed] at hchain hlast
        rw [turns_cons_of_eq rfl, htakes.before, List.getLastD_cons]
        exact ⟨List.isChain_cons_cons.mpr ⟨by simp, hchain⟩, hlast⟩
      · rw [htakes.others key (Ne.symm hkey)] at hchain hlast
        rw [turns_cons_of_ne hkey]
        exact ⟨hchain, hlast⟩

/-! ## The effects of the calls -/

/-- **Each call has at most one effect.**  It has one exactly if it gets through meanwhile. -/
theorem effects_standing (t : Transport σ) (tr : Traffic σ) (ms : List (TrafficMove σ)) :
    ((tr.effects t ms).map (·.call)).Nodup ∧
      (∀ e ∈ tr.effects t ms, tr.hasTakenEffect e.call = false) ∧
      ∀ i, (tr.run t ms).hasTakenEffect i = true ↔
        tr.hasTakenEffect i = true ∨ ∃ e ∈ tr.effects t ms, e.call = i := by
  induction ms generalizing tr with
  | nil => simp
  | cons m ms ih =>
    obtain ⟨hnodup, hfresh, hstanding⟩ := ih (tr.move t m)
    rw [effects_cons, run_cons]
    rcases takesEffect_or_keeps t tr m with ⟨hnone, hkeeps⟩ | ⟨e, hsome, htakes⟩
    · rw [hnone]
      refine ⟨hnodup, fun e he => ?_, fun i => ?_⟩
      · rw [← hkeeps.standing]
        exact hfresh e he
      · rw [hstanding, hkeeps.standing]
        rfl
    · rw [hsome]
      show ((e :: _).map _).Nodup ∧ (∀ e' ∈ e :: _, _) ∧ ∀ i, _ ↔ _ ∨ ∃ e' ∈ e :: _, _
      -- No later effect is of the same call, and of the other calls nothing has changed.
      have hlater : ∀ e' ∈ (tr.move t m).effects t ms,
          tr.hasTakenEffect e'.call = false ∧ e.call ≠ e'.call := by
        intro e' he'
        have hnone := hfresh e' he'
        rw [htakes.standing, Bool.or_eq_false_iff, beq_eq_false_iff_ne] at hnone
        exact hnone
      refine ⟨?_, ?_, fun i => ?_⟩
      · rw [List.map_cons, List.nodup_cons]
        refine ⟨fun hmem => ?_, hnodup⟩
        obtain ⟨e', he', hsame⟩ := List.mem_map.mp hmem
        exact (hlater e' he').2 hsame.symm
      · intro e' he'
        rcases List.mem_cons.mp he' with rfl | he'
        · exact htakes.fresh
        · exact (hlater e' he').1
      · rw [hstanding, htakes.standing, Bool.or_eq_true, beq_iff_eq, List.exists_mem_cons_iff,
          or_assoc]
        rfl

/-! ## One start gets through -/

theorem config_run (t : Transport σ) (tr : Traffic σ) (ms : List (TrafficMove σ)) :
    (tr.run t ms).client.config = tr.client.config := by
  induction ms generalizing tr with
  | nil => rfl
  | cons m ms ih =>
    rw [run_cons, ih]
    rcases takesEffect_or_keeps t tr m with ⟨-, hkeeps⟩ | ⟨e, -, htakes⟩
    · rw [hkeeps.client]
    · exact htakes.config

/-- A start that has its handler gets through if its key is free and the address is sound. -/
theorem effect_of_launchKey? {call : ClientCall} (hi : tr.calls[i]? = some call)
    (hkey : call.launchKey? = some key) (hfree : tr.client.isRunning key = false)
    (haddress : (Endpoint.ofAddress tr.client.config.endpoint).isOk = true) :
    tr.effect (.advanced i) = some ⟨i, key, true⟩ := by
  obtain ⟨product, handler, rfl, hadvance⟩ := exists_launchCall hi hkey
  show tr.effectOf (tr.advance i) i = _
  cases hread : Endpoint.ofAddress tr.client.config.endpoint with
  | error cause =>
    rw [hread] at haddress
    cases haddress
  | ok url =>
    rw [hadvance, launchCall, launch_of_free hfree, hread]
    refine (effectOf_settle hi).trans ?_
    rw [ClientCall.effect?_of_launchKey? hkey]
    rfl

/-- Whether some start that has its handler comes to enter its stream under a key. -/
def Launches (t : Transport σ) (tr : Traffic σ) (ms : List (TrafficMove σ)) (key : ChannelKey) :
    Prop :=
  ∃ early i late call, ms = early ++ .advanced i :: late ∧
    (tr.run t early).calls[i]? = some call ∧ call.launchKey? = some key

/-- Where a start comes to enter its stream, some start gets through, be it another before it. -/
theorem Launches.turns_ne_nil {t : Transport σ} {ms : List (TrafficMove σ)}
    (h : tr.Launches t ms key) (hfree : tr.client.isRunning key = false)
    (haddress : (Endpoint.ofAddress tr.client.config.endpoint).isOk = true) :
    turns key (tr.effects t ms) ≠ [] := by
  obtain ⟨early, i, late, call, rfl, hi, hkey⟩ := h
  rw [effects_append, turns_append]
  obtain ⟨-, hlast⟩ := isChain_turns t tr early key
  cases hrunning : (tr.run t early).client.isRunning key with
  | true =>
    rw [hfree, hrunning] at hlast
    intro hnil
    rw [(List.append_eq_nil_iff.mp hnil).1] at hlast
    cases hlast
  | false =>
    have heffect := effect_of_launchKey? hi hkey hrunning (by rwa [config_run])
    have hcons : ∀ rest, turns key (⟨i, key, true⟩ :: rest) = true :: turns key rest :=
      fun _ => turns_cons_of_eq rfl
    rw [effects_cons, heffect]
    show _ ++ turns key (⟨i, key, true⟩ :: _) ≠ []
    rw [hcons]
    exact List.append_ne_nil_of_right_ne_nil _ (List.cons_ne_nil _ _)

/-! ## All calls together -/

/-- **Starts and stops of a stream alternate.**  In any traffic on a new client:

* the starts and stops of one key that take effect alternate, in the order in which they do, and
  the first is a start; the key is taken exactly if the last was a start;
* each call has at most one effect, and it has one exactly if it has returned without an error or
  is a stop that is bringing a feed to its end;
* a start that finds its key taken returns the error that says so, a stop that finds its key free
  returns the error that says so, and neither changes anything but itself;
* from then on, if a key is free, the address is sound, no stop of the key takes effect, and some
  start comes to enter a stream under the key, then exactly one start of the key takes effect. -/
theorem starts_and_stops_alternate (t : Transport σ) (config : RealtimeConfig)
    (calls : Option Client) (ms : List (TrafficMove σ)) :
    let new : Traffic σ := idle config calls
    let tr := new.run t ms
    (∀ key, (false :: turns key (new.effects t ms)).IsChain (· ≠ ·) ∧
      (turns key (new.effects t ms)).getLastD false = tr.client.isRunning key) ∧
    (((new.effects t ms).map (·.call)).Nodup ∧
      ∀ i, tr.hasTakenEffect i = true ↔ ∃ e ∈ new.effects t ms, e.call = i) ∧
    (∀ i call key, tr.calls[i]? = some call →
      (call.startKey? = some key → tr.client.isRunning key = true →
        tr.move t (.advanced i) = tr.settle i (.returned (.error (.alreadyExists key)))) ∧
      (call = .stopping key → tr.client.isRunning key = false →
        tr.move t (.advanced i) = tr.settle i (.returned (.error (.notFound key))))) ∧
    ∀ key late, tr.client.isRunning key = false →
      (Endpoint.ofAddress config.endpoint).isOk = true →
      (∀ e ∈ tr.effects t late, e.key = key → e.isStart = true) → tr.Launches t late key →
        turns key (tr.effects t late) = [true] := by
  intro new tr
  refine ⟨isChain_turns t new ms, ?_, fun i call key hi => ⟨?_, ?_⟩, ?_⟩
  · obtain ⟨hnodup, -, hstanding⟩ := effects_standing t new ms
    refine ⟨hnodup, fun i => (hstanding i).trans (or_iff_right ?_)⟩
    exact Bool.false_ne_true
  · exact advance_of_isRunning hi
  · rintro rfl hfree
    exact advance_of_not_isRunning hi hfree
  · intro key late hfree haddress hstart hlaunches
    obtain ⟨hchain, -⟩ := isChain_turns t tr late key
    rw [hfree] at hchain
    have haddress' : (Endpoint.ofAddress tr.client.config.endpoint).isOk = true := by
      rwa [show tr.client.config = config from config_run t new ms]
    exact turns_eq_of_isStart hchain hstart (hlaunches.turns_ne_nil hfree haddress')

/-! ## A race -/

/-- While the start of a merged board waits for its seed, the plain board of the same product is
started and stopped again; then the seed comes. -/
def interlude : List (TrafficMove Unit) :=
  [.startCalled (boardSpec true), .advanced 0, .startCalled (boardSpec false), .advanced 1,
    .stopCalled (boardSpec false).key, .advanced 2, .answered 0 (.ok .empty)]

/-- The start of the merged board comes back with its seed, just before another start of the
plain board. -/
def racing : List (TrafficMove Unit) :=
  [.startCalled (boardSpec false), .advanced 0, .advanced 3]

/-- The traffic in which the race begins. -/
def beforeRace : Traffic Unit := (idle nearbyConfig (some nearbyCalls)).run .muted interlude

/-- What the start of the merged board saw when it asked for its seed has changed twice, and it
gets through all the same; the start that comes after it is refused. -/
theorem seeded_start_wins :
    turns (boardSpec true).key ((idle nearbyConfig (some nearbyCalls)).effects .muted interlude) =
        [true, false] ∧
      beforeRace.client.isRunning (boardSpec true).key = false ∧
      turns (boardSpec true).key (beforeRace.effects .muted racing) = [true] ∧
      (beforeRace.run .muted racing).calls[0]? = some (.returned (.ok ())) ∧
      (beforeRace.run .muted racing).calls[3]? =
        some (.returned (.error (.alreadyExists (boardSpec true).key))) := by
  obtain ⟨-, -, -, hone⟩ :=
    starts_and_stops_alternate .muted nearbyConfig (some nearbyCalls) interlude
  have hfree : beforeRace.client.isRunning (boardSpec true).key = false := by decide
  have hseeded : (beforeRace.run .muted [.startCalled (boardSpec false)]).calls[0]? =
      some (.seeded (boardSpec true) .empty) := by rfl
  have heffects : beforeRace.effects .muted racing = [⟨0, (boardSpec true).key, true⟩] := by
    decide +kernel
  refine ⟨by decide +kernel, hfree, hone _ racing hfree (by rfl) ?_ ?_, by rfl, by rfl⟩
  · intro e he _
    obtain rfl := List.mem_singleton.mp (heffects ▸ he)
    rfl
  · exact ⟨[.startCalled (boardSpec false)], 0, [.advanced 3], _, rfl, hseeded, rfl⟩

end Traffic
end ExchangeClient
