import ExchangeClient.Proofs.Feed.AtRest
import ExchangeClient.Proofs.Runner.Numbering

/-!
# Nothing runs when the runner waits for its monitors

A shutdown stops every stream that is registered, one after the other, and waits for each.  So
there is at most one feed at a time that is out of the registry and not at its end: that of the
call that the runner waits for (`Winding.closing`), and what is registered is still to be stopped
(`Winding.left`).  When all stops have returned, every worker has exited
(`Winding.not_isRunning`).
-/

namespace ExchangeClient

namespace FeedClient

variable {α : Type} {c : FeedClient α} {key : ChannelKey}

theorem mem_keys_of_find? {a : α} (h : c.find? key = some a) : key ∈ c.keys := by
  obtain ⟨before, after, hstreams, -⟩ := List.lookup_eq_some_iff.mp h
  rw [keys, hstreams, List.map_append, List.map_cons]
  exact List.mem_append_right _ List.mem_cons_self

end FeedClient

namespace Traffic

variable {σ : Type} {tr : Traffic σ} {i j n : Nat}

/-- What a call does next leaves the other calls as they are. -/
theorem getElem?_calls_advance (tr : Traffic σ) (hne : i ≠ j) :
    (tr.advance i).calls[j]? = tr.calls[j]? := by
  have hcase := callCase tr i
  generalize tr.advance i = after at hcase ⊢
  cases hcase with
  | rests | closes => rfl
  | asks | refused | entered | taken | closed => exact List.getElem?_set_ne hne

theorem getElem?_calls_answer (tr : Traffic σ) (reply : Except ClientError Board) (hne : i ≠ j) :
    (tr.answer i reply).calls[j]? = tr.calls[j]? := by
  unfold answer
  split
  · split
    · exact List.getElem?_set_ne hne
    · exact List.getElem?_set_ne hne
  · rfl

end Traffic

namespace RunnerPhase

/-- What is left in the registry while the streams are stopped: those that are still to be stopped,
and that of the stop that is under way until it is taken out. -/
def Leaves {σ : Type} (tr : Traffic σ) : RunnerPhase → Prop
  | .stopping keys => ∀ key n, tr.client.find? key = some n → key ∈ keys
  | .closing i keys => ∀ key n, tr.client.find? key = some n →
    key ∈ keys ∨ tr.calls[i]? = some (.stopping key)
  | .joining | .ended _ => ∀ key, tr.client.find? key = none
  | .ready | .starting .. | .awaiting .. | .counting .. | .posting .. | .listing => True

end RunnerPhase

namespace Runner

variable {σ : Type} {t : Transport σ} {r after : Runner σ} {events : List RunnerEvent}

/-- Whether every worker that runs is registered or is stopped by the call that the runner waits
for, and what is registered is still to be stopped. -/
structure Winding (r : Runner σ) : Prop where
  accounted : r.traffic.IsAccounted
  seated : r.traffic.IsSeated
  closing : ∀ (j n : Nat), r.traffic.calls[j]? = some (.closing n) → r.phase.call? = some j
  left : r.phase.Leaves r.traffic

theorem winding_idle (config : RealtimeConfig) (calls : Option Client) :
    (idle config calls : Runner σ).Winding :=
  ⟨Traffic.isAccounted_idle config calls, Traffic.isSeated_idle config calls, nofun, trivial⟩

/-! ## The stop that is under way -/

/-- A stop takes its stream out, or finds that nothing is there. -/
theorem leaves_stopCall {tr : Traffic σ} {i : Nat} {keys : List ChannelKey} {stopped : ChannelKey}
    (hcall : tr.calls[i]? = some (.stopping stopped))
    (h : RunnerPhase.Leaves tr (.closing i keys)) :
    RunnerPhase.Leaves (tr.stopCall i stopped) (.closing i keys) := by
  intro key n hfind
  left
  have hother (hne : key ≠ stopped) (hbefore : tr.client.find? key = some n) : key ∈ keys :=
    (h key n hbefore).resolve_right fun hsame =>
      hne (ClientCall.stopping.inj (Option.some.inj (hsame.symm.trans hcall)))
  unfold Traffic.stopCall at hfind
  cases htake : tr.client.take stopped with
  | ok taken =>
    rw [htake] at hfind
    obtain ⟨m, client⟩ := taken
    have hfind : client.find? key = some n := hfind
    obtain ⟨-, -, hothers⟩ := FeedClient.find?_take htake
    have hne : key ≠ stopped := by
      rintro rfl
      rw [FeedClient.find?_take_self htake] at hfind
      cases hfind
    exact hother hne ((hothers key hne).symm.trans hfind)
  | error cause =>
    rw [htake] at hfind
    have hfind : tr.client.find? key = some n := hfind
    have hne : key ≠ stopped := by
      rintro rfl
      rw [FeedClient.take, hfind] at htake
      cases htake
    exact hother hne hfind

/-- A stop that has taken its stream out finds the others where they are. -/
theorem leaves_closeCall {tr : Traffic σ} {i m : Nat} {keys : List ChannelKey}
    (hcall : tr.calls[i]? = some (.closing m)) (h : RunnerPhase.Leaves tr (.closing i keys)) :
    RunnerPhase.Leaves (tr.closeCall i m) (.closing i keys) := by
  have hclient : (tr.closeCall i m).client = tr.client := by
    unfold Traffic.closeCall
    split
    · rfl
    · rfl
  intro key n hfind
  rw [hclient] at hfind
  refine .inl ((h key n hfind).resolve_right fun hsame => ?_)
  rw [hcall] at hsame
  cases hsame

theorem leaves_advance {tr : Traffic σ} {i : Nat} {keys : List ChannelKey} (hstop : tr.Stops i)
    (h : RunnerPhase.Leaves tr (.closing i keys)) :
    RunnerPhase.Leaves (tr.advance i) (.closing i keys) := by
  obtain ⟨call, hcall, hstop⟩ := hstop
  unfold Traffic.advance
  rw [hcall]
  cases hstop with
  | stopping stopped => exact leaves_stopCall hcall h
  | closing m => exact leaves_closeCall hcall h
  | returned result => exact h

theorem leaves_answer {tr : Traffic σ} {i : Nat} {keys : List ChannelKey} (hstop : tr.Stops i)
    (reply : Except ClientError Board) (h : RunnerPhase.Leaves tr (.closing i keys)) :
    RunnerPhase.Leaves (tr.answer i reply) (.closing i keys) := by
  obtain ⟨call, hcall, hstop⟩ := hstop
  unfold Traffic.answer
  rw [hcall]
  cases hstop with
  | stopping | closing | returned => exact h

/-! ## Moves -/

/-- The call that the runner waits for goes on, and the others stay as they are. -/
theorem Winding.called (h : r.Winding) {i : Nat} {tr : Traffic σ} (hcall : r.phase.call? = some i)
    (haccounted : tr.IsAccounted) (hseated : tr.IsSeated)
    (hothers : ∀ j, i ≠ j → tr.calls[j]? = r.traffic.calls[j]?)
    (hleft : ∀ keys, r.phase = .closing i keys → RunnerPhase.Leaves tr (.closing i keys))
    (accounts : Accounts) : Winding { r with traffic := tr, accounts } where
  accounted := haccounted
  seated := hseated
  closing j n hj := by
    by_cases hij : i = j
    · rw [← hij]
      exact hcall
    · exact h.closing j n ((hothers j hij).symm.trans hj)
  left := by
    show r.phase.Leaves tr
    rcases RunnerPhase.eq_of_call? hcall with ⟨begun, spec, rest, hphase⟩ | ⟨keys, hphase⟩
    · rw [hphase]
      trivial
    · rw [hphase]
      exact hleft keys hphase

theorem Winding.carried (h : r.Winding) (hnumbered : r.Numbered) {m : TrafficMove σ}
    (hm : r.Carries m) : (r.carry t m).1.Winding := by
  have hstops {i : Nat} {keys : List ChannelKey} (hphase : r.phase = .closing i keys) :
      r.traffic.Stops i ∧ RunnerPhase.Leaves r.traffic (.closing i keys) := by
    have hfits := hnumbered.fits
    have hleft := h.left
    rw [hphase] at hfits hleft
    exact ⟨hfits.1, hleft⟩
  cases hm with
  | worked n m =>
    exact ⟨h.accounted.move t (.worked n m), h.seated.move t (.worked n m), h.closing, h.left⟩
  | advanced i hcall =>
    exact h.called hcall (h.accounted.advance i) (h.seated.advance i)
      (fun _ => r.traffic.getElem?_calls_advance)
      (fun _ hphase => leaves_advance (hstops hphase).1 (hstops hphase).2) _
  | answered i reply hcall =>
    exact h.called hcall (h.accounted.answer i reply) (h.seated.answer i reply)
      (fun _ => r.traffic.getElem?_calls_answer reply)
      (fun _ hphase => leaves_answer (hstops hphase).1 reply (hstops hphase).2) _

/-- What neither touches the traffic nor waits for another call. -/
theorem Winding.rephased (h : r.Winding) {phase : RunnerPhase} (accounts : Accounts)
    (monitors : List Monitor) (hcall : ∀ (j n : Nat), r.traffic.calls[j]? = some (.closing n) →
      r.phase.call? = some j → phase.call? = some j)
    (hleft : phase.Leaves r.traffic) : Winding { r with accounts, monitors, phase } :=
  ⟨h.accounted, h.seated, fun j n hj => hcall j n hj (h.closing j n hj), hleft⟩

/-- A call that is made is none that closes a feed. -/
theorem Winding.call (h : r.Winding) {call : ClientCall} {phase : RunnerPhase}
    (hnew : ∀ n, call ≠ .closing n) (hidle : r.phase.call? = none)
    (hleft : phase.Leaves (r.call call phase).traffic) : (r.call call phase).Winding where
  accounted := h.accounted.call call
  seated := h.seated
  closing j n hj := by
    have hj : (r.traffic.calls ++ [call])[j]? = some (.closing n) := hj
    rcases Nat.lt_or_ge j r.traffic.calls.length with hlt | hge
    · rw [List.getElem?_append_left hlt] at hj
      have hcall := h.closing j n hj
      rw [hidle] at hcall
      cases hcall
    · rw [List.getElem?_append_right hge, List.getElem?_singleton] at hj
      split at hj
      · exact absurd (Option.some.inj hj) (hnew n)
      · cases hj
  left := hleft

/-- A call that has returned closes no feed. -/
theorem Winding.returned (h : r.Winding) {i : Nat} {result : Except ClientError Unit}
    (hphase : r.phase.call? = some i) (hcall : r.traffic.calls[i]? = some (.returned result))
    {j n : Nat} (hj : r.traffic.calls[j]? = some (.closing n)) : False := by
  obtain rfl := Option.some.inj (hphase.symm.trans (h.closing j n hj))
  rw [hcall] at hj
  cases hj

theorem Winding.phased (h : r.Winding) (hcase : PhaseCase r after events) : after.Winding := by
  have hleft := h.left
  cases hcase with
  | startsCalled specs hphase | startsReturned begun hphase | missed begun spec rest hphase
  | shutdownCalled hphase =>
    refine h.rephased _ _ (fun j n _ hj => ?_) trivial
    rw [hphase] at hj
    cases hj
  | startCalled begun spec rest hphase =>
    exact h.call nofun (by rw [hphase]; rfl) trivial
  | started i begun spec rest hphase hcall =>
    exact h.rephased _ _
      (fun j n hj _ => (h.returned (by rw [hphase]; rfl) hcall hj).elim) trivial
  | refused i begun spec rest cause hphase hcall =>
    exact h.rephased _ _
      (fun j n hj _ => (h.returned (by rw [hphase]; rfl) hcall hj).elim) trivial
  | listed keys hphase hkeys =>
    refine h.rephased _ _ (fun j n _ hj => ?_) fun key n hfind => ?_
    · rw [hphase] at hj
      cases hj
    · exact hkeys.mem_iff.mpr (FeedClient.mem_keys_of_find? hfind)
  | stopCalled key keys hphase =>
    rw [hphase] at hleft
    refine h.call nofun (by rw [hphase]; rfl) fun key' n hfind => ?_
    rcases List.mem_cons.mp (hleft key' n hfind) with rfl | hkey
    · exact .inr List.getElem?_concat_length
    · exact .inl hkey
  | stopReturned i keys hphase result hcall =>
    rw [hphase] at hleft
    refine h.rephased _ _
      (fun j n hj _ => (h.returned (by rw [hphase]; rfl) hcall hj).elim) fun key n hfind => ?_
    refine (hleft key n hfind).resolve_right fun hsame => ?_
    rw [hcall] at hsame
    cases hsame
  | stopsReturned hphase =>
    rw [hphase] at hleft
    refine h.rephased _ _ (fun j n _ hj => ?_) fun key => ?_
    · rw [hphase] at hj
      cases hj
    · exact Option.eq_none_iff_forall_ne_some.mpr fun n hfind =>
        List.not_mem_nil (hleft key n hfind)
  | joined hphase hreturned =>
    rw [hphase] at hleft
    refine h.rephased _ _ (fun j n _ hj => ?_) hleft
    rw [hphase] at hj
    cases hj

/-- **Every move keeps to it.** -/
theorem Winding.move (h : r.Winding) (hnumbered : r.Numbered) (hcase : MoveCase t r after events) :
    after.Winding := by
  cases hcase with
  | rested => exact h
  | carried m hm => exact h.carried hnumbered hm
  | phased hcase => exact h.phased hcase
  | counted n begun spec rest hphase hfind =>
    refine h.rephased _ _ (fun j n _ hj => ?_) trivial
    rw [hphase] at hj
    cases hj
  | posted n begun spec rest hphase =>
    refine h.rephased _ _ (fun j n _ hj => ?_) trivial
    rw [hphase] at hj
    cases hj
  | attended j mon hmon hcase => exact ⟨h.accounted, h.seated, h.closing, h.left⟩
  | signalled => exact ⟨h.accounted, h.seated, h.closing, h.left⟩

/-- **When all stops have returned, no worker runs any more.** -/
theorem Winding.not_isRunning (h : r.Winding)
    (hphase : r.phase = .joining ∨ ∃ summary, r.phase = .ended summary)
    {f : StoppableFeed σ} (hf : f ∈ r.traffic.feeds) : f.feed.manager.isRunning = false := by
  have hempty (key : ChannelKey) : r.traffic.client.find? key = none := by
    have hleft := h.left
    rcases hphase with hphase | ⟨summary, hphase⟩ <;> rw [hphase] at hleft <;> exact hleft key
  have hidle : r.phase.call? = none := by
    rcases hphase with hphase | ⟨summary, hphase⟩ <;> rw [hphase] <;> rfl
  refine Bool.eq_false_iff.mpr fun hrunning => ?_
  obtain ⟨n, hn⟩ := List.mem_iff_getElem?.mp hf
  rcases h.accounted f.feed.key n ⟨f, hn, rfl, hrunning⟩ with hfind | hclosing
  · rw [hempty] at hfind
    cases hfind
  · obtain ⟨j, hj⟩ := List.mem_iff_getElem?.mp hclosing
    have hcall := h.closing j n hj
    rw [hidle] at hcall
    cases hcall

end Runner
end ExchangeClient
