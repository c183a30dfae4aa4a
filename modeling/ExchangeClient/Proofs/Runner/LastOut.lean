import ExchangeClient.Proofs.Runner.Hearing
import Mathlib.Data.List.Count

/-!
# When the last stream is counted out

The number of streams alive is that of the monitors that have not counted their streams out,
and one more while a stream that was counted has no monitor (`Tallied.live`).  So a monitor that
finds itself the last knows that every stream counted by then was given up
(`Tallied.allGaveUp`).

It knows nothing of the streams that are still to be counted.  Streams are started one by one,
and the first may be given up before the second is counted; then the runner ends while streams
are running.  What holds of every run is `allGaveUp_of_closedDown`: the streams that were counted
before the last was counted out have all been given up, and so have all streams of a start that
had returned by then.
-/

namespace ExchangeClient
namespace RunnerEvent

/-- Whether every stream that was counted has been given up. -/
def AllGaveUp (events : List RunnerEvent) : Prop :=
  ∀ n key, .counted n key ∈ events → ∃ retries, .published n key (.exhausted retries) ∈ events

/-- Whether the streams that were started are counted when their starting has returned. -/
def StartsCounted (events : List RunnerEvent) : Prop :=
  ∀ specs result, .startsReturned specs result ∈ events →
    ∀ spec ∈ specs, ∃ n, .counted n spec.key ∈ events

/-- Whether the `n`-th feed was counted out as the last, after all had been given up. -/
def LastOut (events : List RunnerEvent) (n : Nat) : Prop :=
  ∃ before after, events = before ++ .countedOut n 1 :: after ∧ AllGaveUp before ∧
    StartsCounted before

/-- Whether the monitor of the `n`-th feed asked for the shutdown after that. -/
def ClosedLast (events : List RunnerEvent) (n : Nat) : Prop :=
  ∃ before after, events = before ++ .countedOut n 1 :: after ∧ .closedDown n ∈ after ∧
    AllGaveUp before ∧ StartsCounted before

variable {past : List RunnerEvent} {n : Nat}

theorem LastOut.append (h : LastOut past n) (events : List RunnerEvent) :
    LastOut (past ++ events) n := by
  obtain ⟨before, after, rfl, hall⟩ := h
  exact ⟨before, after ++ events, by simp, hall⟩

theorem ClosedLast.append (h : ClosedLast past n) (events : List RunnerEvent) :
    ClosedLast (past ++ events) n := by
  obtain ⟨before, after, rfl, hclosed, hall⟩ := h
  exact ⟨before, after ++ events, by simp, List.mem_append_left _ hclosed, hall⟩

theorem LastOut.closedLast (h : LastOut past n) : ClosedLast (past ++ [.closedDown n]) n := by
  obtain ⟨before, after, rfl, hall⟩ := h
  exact ⟨before, after ++ [.closedDown n], by simp, by simp, hall⟩

end RunnerEvent

namespace RunnerPhase

/-- The streams that a start under way has started and counted. -/
def begun : RunnerPhase → List StreamSpec
  | .starting begun _ | .awaiting _ begun _ _ | .counting begun _ _ => begun
  | .posting _ begun spec _ => begun ++ [spec]
  | _ => []

end RunnerPhase

namespace Runner

open RunnerEvent

variable {σ : Type} {t : Transport σ} {r after : Runner σ} {past events : List RunnerEvent}

/-! ## Starts -/

/-- Whether every stream that was started is counted. -/
structure Begun (r : Runner σ) (past : List RunnerEvent) : Prop where
  phase : ∀ spec ∈ r.phase.begun, ∃ n, .counted n spec.key ∈ past
  returned : StartsCounted past

theorem Begun.quiet (h : r.Begun past) (hphase : ∀ spec ∈ after.phase.begun, spec ∈ r.phase.begun)
    (hsilent : ∀ specs result, .startsReturned specs result ∈ events →
      ∀ spec ∈ specs, spec ∈ r.phase.begun) : after.Begun (past ++ events) where
  phase spec hspec :=
    (h.phase spec (hphase spec hspec)).imp fun _ hcounted => List.mem_append_left _ hcounted
  returned specs result hreturned spec hspec := by
    rcases List.mem_append.mp hreturned with hpast | hnew
    · exact (h.returned specs result hpast spec hspec).imp fun _ hcounted =>
        List.mem_append_left _ hcounted
    · exact (h.phase spec (hsilent specs result hnew spec hspec)).imp fun _ hcounted =>
        List.mem_append_left _ hcounted

theorem Begun.phased (h : r.Begun past) (hnumbered : r.Numbered)
    (hcase : PhaseCase r after events) : after.Begun (past ++ events) := by
  cases hcase with
  | startsReturned begun hphase =>
    refine h.quiet (List.forall_mem_nil _) fun specs result hreturned spec hspec => ?_
    obtain ⟨rfl, -⟩ := RunnerEvent.startsReturned.inj (List.mem_singleton.mp hreturned)
    rw [hphase]
    exact hspec
  | refused i begun spec rest cause hphase hcall =>
    refine h.quiet (List.forall_mem_nil _) fun specs result hreturned spec hspec => ?_
    obtain ⟨rfl, -⟩ := RunnerEvent.startsReturned.inj (List.mem_singleton.mp hreturned)
    rw [hphase]
    exact hspec
  | missed begun spec rest hphase hfind =>
    rw [hnumbered.find?_of_counting hphase] at hfind
    cases hfind
  | startCalled begun spec rest hphase =>
    refine h.quiet (fun spec hspec => ?_) (by simp)
    rw [hphase]
    exact hspec
  | started i begun spec rest hphase hcall =>
    refine h.quiet (fun spec hspec => ?_) (by simp)
    rw [hphase]
    exact hspec
  | _ => exact h.quiet (List.forall_mem_nil _) (by simp)

theorem MonitorCase.ne_startsReturned {mon : Monitor} {stage : MonitorStage}
    {accounts : Accounts} (h : MonitorCase r mon stage accounts events) :
    ∀ specs result, .startsReturned specs result ∉ events := by
  cases h <;> simp

theorem Begun.move (h : r.Begun past) (hnumbered : r.Numbered)
    (hcase : MoveCase t r after events) : after.Begun (past ++ events) := by
  cases hcase with
  | rested => exact h.quiet (fun _ hspec => hspec) (by simp)
  | carried m hm =>
    refine h.quiet (fun _ hspec => hspec) fun specs result hnew => ?_
    cases Traffic.isPublished_of_mem_news hnew
  | phased hphase => exact h.phased hnumbered hphase
  | counted n begun spec rest hphase hfind =>
    have hold : ∀ s ∈ begun, ∃ n, .counted n s.key ∈ past := by
      have hbegun := h.phase
      rw [hphase] at hbegun
      exact hbegun
    constructor
    · intro s hs
      rcases List.mem_append.mp hs with hs | hs
      · exact (hold s hs).imp fun _ hcounted => List.mem_append_left _ hcounted
      · obtain rfl := List.mem_singleton.mp hs
        exact ⟨n, List.mem_append_right _ (List.mem_singleton.mpr rfl)⟩
    · have hsame : r.Begun (past ++ [.counted n spec.key]) :=
        h.quiet (fun _ hspec => hspec) (by simp)
      exact hsame.returned
  | posted n begun spec rest hphase =>
    refine h.quiet (fun s hs => ?_) (by simp)
    rw [hphase]
    exact hs
  | attended j mon hmon hcase =>
    exact h.quiet (fun _ hspec => hspec) fun specs result hnew =>
      absurd hnew (hcase.ne_startsReturned specs result)
  | signalled => exact h.quiet (fun _ hspec => hspec) (by simp)

/-! ## Streams alive -/

/-- Whether the accounts and the monitors tell the same of the streams that are counted. -/
structure Tallied (r : Runner σ) (past : List RunnerEvent) : Prop where
  live : r.accounts.live =
    r.monitors.countP (fun mon => !mon.stage.hasCountedOut) + r.phase.unposted
  counted : ∀ n key, .counted n key ∈ past →
    (∃ mon, r.monitors[n]? = some mon ∧ mon.key = key) ∨
      ∃ begun spec rest, r.phase = .posting n begun spec rest ∧ spec.key = key

theorem tallied_idle (config : RealtimeConfig) (calls : Option Client) :
    (idle config calls : Runner σ).Tallied [] where
  live := rfl
  counted n key h := by cases h

theorem MonitorCase.ne_counted {mon : Monitor} {stage : MonitorStage} {accounts : Accounts}
    (h : MonitorCase r mon stage accounts events) : ∀ n key, .counted n key ∉ events := by
  cases h <;> simp

/-- A monitor that counts its stream out leaves one stream less alive, and others leave as many
as there were. -/
theorem MonitorCase.live {mon : Monitor} {stage : MonitorStage} {accounts : Accounts}
    (h : MonitorCase r mon stage accounts events) :
    (stage.hasCountedOut = mon.stage.hasCountedOut ∧ accounts.live = r.accounts.live) ∨
      (mon.stage.hasCountedOut = false ∧ stage.hasCountedOut = true ∧
        accounts.live = r.accounts.live - 1) := by
  cases h with
  | sawEnd _ _ hstage | sawStop hstage | sawOther _ hstage =>
    rcases hstage with hstage | hstage
    · exact .inl ⟨(congrArg MonitorStage.hasCountedOut hstage).symm, rfl⟩
    · exact .inl ⟨(congrArg MonitorStage.hasCountedOut hstage).symm, rfl⟩
  | recorded hstage | closedDown hstage | excused hstage =>
    exact .inl ⟨(congrArg MonitorStage.hasCountedOut hstage).symm, rfl⟩
  | countedOut hstage | lastOut hstage =>
    exact .inr ⟨congrArg MonitorStage.hasCountedOut hstage, rfl, rfl⟩

theorem Tallied.attended (h : r.Tallied past) {j : Nat} {mon : Monitor} {stage : MonitorStage}
    {accounts : Accounts} (hmon : r.monitors[j]? = some mon)
    (hcase : MonitorCase r mon stage accounts events) :
    (r.bring j mon stage accounts).Tallied (past ++ events) where
  live := by
    have hlive := h.live
    have hmoved := countP_bring hmon stage accounts fun mon => !mon.stage.hasCountedOut
    dsimp only at hmoved
    show accounts.live = _ + r.phase.unposted
    rcases hcase.live with ⟨hsame, haccounts⟩ | ⟨hbefore, hafter, haccounts⟩
    · rw [haccounts]
      rw [hsame] at hmoved
      omega
    · rw [haccounts]
      rw [hbefore, hafter, Bool.not_false, Bool.not_true, Bool.toNat_true, Bool.toNat_false]
        at hmoved
      omega
  counted n key hcounted := by
    rcases List.mem_append.mp hcounted with hpast | hnew
    · refine (h.counted n key hpast).imp ?_ id
      rintro ⟨mon', hmon', hkey⟩
      by_cases hn : n = j
      · subst hn
        obtain rfl := Option.some.inj (hmon.symm.trans hmon')
        exact ⟨_, (getElem?_bring hmon).mpr (.inl ⟨rfl, rfl⟩), hkey⟩
      · exact ⟨mon', (getElem?_bring hmon).mpr (.inr ⟨hn, hmon'⟩), hkey⟩
    · exact absurd hnew (hcase.ne_counted n key)

/-- What neither counts a stream nor touches a monitor leaves the tally as it is. -/
theorem Tallied.quiet (h : r.Tallied past) (hmonitors : after.monitors = r.monitors)
    (hlive : after.accounts.live = r.accounts.live)
    (hphase : after.phase = r.phase ∨ r.phase.unposted = 0 ∧ after.phase.unposted = 0)
    (hsilent : ∀ n key, .counted n key ∉ events) : after.Tallied (past ++ events) where
  live := by
    rw [hmonitors, hlive, h.live]
    rcases hphase with hsame | ⟨hbefore, hafter⟩
    · rw [hsame]
    · rw [hbefore, hafter]
  counted n key hcounted := by
    rw [hmonitors]
    have hpast := (List.mem_append.mp hcounted).resolve_right (hsilent n key)
    refine (h.counted n key hpast).imp id ?_
    rintro ⟨begun, spec, rest, hposting, hkey⟩
    rcases hphase with hsame | ⟨hbefore, -⟩
    · exact ⟨begun, spec, rest, hsame.trans hposting, hkey⟩
    · rw [hposting] at hbefore
      cases hbefore

theorem Tallied.move (h : r.Tallied past) (hnumbered : r.Numbered)
    (hcase : MoveCase t r after events) : after.Tallied (past ++ events) := by
  cases hcase with
  | rested => exact h.quiet rfl rfl (.inl rfl) (by simp)
  | carried m hm =>
    obtain ⟨counters, hcounters⟩ := carry_accounts t r m
    refine h.quiet rfl (by rw [hcounters]) (.inl rfl) fun n key hnew => ?_
    cases Traffic.isPublished_of_mem_news hnew
  | phased hphase =>
    have hunmoved := hphase.unmoved
    exact h.quiet hunmoved.monitors hunmoved.live (.inr hunmoved.unposted) fun n key =>
      hunmoved.not_mem (by simp) (by simp)
  | counted n begun spec rest hphase hfind =>
    have hlive := h.live
    rw [hphase] at hlive
    refine ⟨congrArg (· + 1) hlive, fun n' key hcounted => ?_⟩
    rcases List.mem_append.mp hcounted with hpast | hnew
    · refine (h.counted n' key hpast).imp id ?_
      rintro ⟨begun', spec', rest', hposting, -⟩
      rw [hphase] at hposting
      cases hposting
    · obtain ⟨rfl, rfl⟩ := RunnerEvent.counted.inj (List.mem_singleton.mp hnew)
      exact .inr ⟨begun, spec, rest, rfl, rfl⟩
  | posted n begun spec rest hphase =>
    have hlive := h.live
    have hfits := hnumbered.fits
    rw [hphase] at hlive hfits
    have hn : n = r.monitors.length := hfits.2.trans (List.length_map _)
    constructor
    · show r.accounts.live = (r.monitors ++ [_]).countP _ + 0
      rw [List.countP_append, hlive]
      rfl
    · intro n' key hcounted
      rw [List.append_nil] at hcounted
      refine .inl ?_
      rcases h.counted n' key hcounted with ⟨mon, hmon, hkey⟩ | ⟨_, spec', _, hposting, hkey⟩
      · exact ⟨mon, getElem?_concat_iff.mpr (.inl hmon), hkey⟩
      · rw [hphase] at hposting
        obtain ⟨rfl, -, rfl, -⟩ := RunnerPhase.posting.inj hposting
        exact ⟨_, getElem?_concat_iff.mpr (.inr ⟨hn, rfl⟩), hkey⟩
  | attended j mon hmon hcase => exact h.attended hmon hcase
  | signalled => exact h.quiet rfl rfl (.inl rfl) (by simp)

/-! ## The last one -/

theorem eq_of_countP_eq_one {α : Type} {p : α → Bool} {l : List α} {a b : α}
    (hcount : l.countP p = 1) (ha : a ∈ l) (hpa : p a = true) (hb : b ∈ l) (hpb : p b = true) :
    a = b := by
  rw [List.countP_eq_length_filter, List.length_eq_one_iff] at hcount
  obtain ⟨c, hc⟩ := hcount
  have honly (x : α) (hx : x ∈ l) (hpx : p x = true) : x = c := by
    have hmem := List.mem_filter.mpr ⟨hx, hpx⟩
    rw [hc] at hmem
    exact List.mem_singleton.mp hmem
  rw [honly a ha hpa, honly b hb hpb]

/-- **When one stream is alive and its monitor has seen it given up, all were given up.** -/
theorem Tallied.allGaveUp (h : r.Tallied past) (hheard : r.Heard past) {j : Nat}
    {mon : Monitor} (hmon : r.monitors[j]? = some mon) (hstage : mon.stage = .retiring)
    (hlive : r.accounts.live = 1) : AllGaveUp past := by
  have hin : (!mon.stage.hasCountedOut) = true := by rw [hstage]; rfl
  have hmem : mon ∈ r.monitors := List.mem_of_getElem? hmon
  have hcount := h.live
  have hsome : 0 < r.monitors.countP (fun mon => !mon.stage.hasCountedOut) :=
    List.countP_pos_iff.mpr ⟨mon, hmem, hin⟩
  have hone : r.monitors.countP (fun mon => !mon.stage.hasCountedOut) = 1 := by omega
  intro n key hcounted
  rcases h.counted n key hcounted with ⟨mon', hmon', rfl⟩ | ⟨begun, spec, rest, hposting, -⟩
  · refine hheard.seen n mon' hmon' ?_
    cases hout : mon'.stage.hasCountedOut with
    | true =>
      cases hstage' : mon'.stage <;> rw [hstage'] at hout <;> first | rfl | cases hout
    | false =>
      have hsame : mon' = mon := eq_of_countP_eq_one (p := fun mon => !mon.stage.hasCountedOut)
        hone (List.mem_of_getElem? hmon') (by simp [hout]) hmem hin
      rw [hsame, hstage]
      rfl
  · rw [hposting] at hcount
    have hunposted : RunnerPhase.unposted (.posting n begun spec rest) = 1 := rfl
    omega

/-- Whether the shutdowns that monitors ask for, or are about to ask for, are due. -/
structure ClosesLast (r : Runner σ) (past : List RunnerEvent) : Prop where
  closing : ∀ j mon, r.monitors[j]? = some mon → mon.stage = .closing → LastOut past j
  closed : ∀ n, .closedDown n ∈ past → ClosedLast past n

theorem ClosesLast.quiet (h : r.ClosesLast past)
    (hclosing : ∀ (j : Nat) (mon : Monitor), after.monitors[j]? = some mon →
      mon.stage = .closing → r.monitors[j]? = some mon)
    (hsilent : ∀ n, .closedDown n ∉ events) : after.ClosesLast (past ++ events) where
  closing j mon hmon hstage := (h.closing j mon (hclosing j mon hmon hstage) hstage).append events
  closed n hclosed :=
    (h.closed n ((List.mem_append.mp hclosed).resolve_right (hsilent n))).append events

theorem ClosesLast.attended (h : r.ClosesLast past) (hnumbered : r.Numbered)
    (hheard : r.Heard past) (hbegun : r.Begun past) (htallied : r.Tallied past) {j : Nat}
    {mon : Monitor} {stage : MonitorStage} {accounts : Accounts}
    (hmon : r.monitors[j]? = some mon) (hcase : MonitorCase r mon stage accounts events) :
    (r.bring j mon stage accounts).ClosesLast (past ++ events) := by
  have hothers (hstage : stage ≠ .closing) (n : Nat) (mon' : Monitor)
      (hmon' : (r.bring j mon stage accounts).monitors[n]? = some mon')
      (hclosing : mon'.stage = .closing) : r.monitors[n]? = some mon' := by
    rcases (getElem?_bring hmon).mp hmon' with ⟨-, rfl⟩ | ⟨-, hother⟩
    · exact absurd hclosing hstage
    · exact hother
  have hj : mon.feed = j := hnumbered.feed_eq hmon
  cases hcase with
  | lastOut hstage hlive =>
    rw [hj]
    constructor
    · intro n mon' hmon' hclosing
      rcases (getElem?_bring hmon).mp hmon' with ⟨rfl, rfl⟩ | ⟨-, hother⟩
      · exact ⟨past, [], rfl, htallied.allGaveUp hheard hmon hstage hlive, hbegun.returned⟩
      · exact (h.closing n mon' hother hclosing).append _
    · intro n hclosed
      exact (h.closed n ((List.mem_append.mp hclosed).resolve_right (by simp))).append _
  | closedDown hstage =>
    rw [hj]
    constructor
    · intro n mon' hmon' hclosing
      exact (h.closing n mon' (hothers nofun n mon' hmon' hclosing) hclosing).append _
    · intro n hclosed
      rcases List.mem_append.mp hclosed with hpast | hnew
      · exact (h.closed n hpast).append _
      · obtain rfl := RunnerEvent.closedDown.inj (List.mem_singleton.mp hnew)
        exact (h.closing n mon hmon hstage).closedLast
  | _ => exact h.quiet (hothers (by decide)) (by simp)

theorem ClosesLast.move (h : r.ClosesLast past) (hnumbered : r.Numbered) (hheard : r.Heard past)
    (hbegun : r.Begun past) (htallied : r.Tallied past) (hcase : MoveCase t r after events) :
    after.ClosesLast (past ++ events) := by
  cases hcase with
  | rested => exact h.quiet (fun _ _ hmon _ => hmon) (by simp)
  | carried m hm =>
    refine h.quiet (fun _ _ hmon _ => hmon) fun n hnew => ?_
    cases Traffic.isPublished_of_mem_news hnew
  | phased hphase =>
    have hunmoved := hphase.unmoved
    exact h.quiet (fun _ _ hmon _ => hunmoved.monitors ▸ hmon) fun n =>
      hunmoved.not_mem (by simp) (by simp)
  | counted n begun spec rest hphase hfind =>
    exact h.quiet (fun _ _ hmon _ => hmon) (by simp)
  | posted n begun spec rest hphase =>
    refine h.quiet (fun j mon hmon hclosing => ?_) (by simp)
    rcases getElem?_concat_iff.mp hmon with hold | ⟨-, rfl⟩
    · exact hold
    · cases hclosing
  | attended j mon hmon hcase => exact h.attended hnumbered hheard hbegun htallied hmon hcase
  | signalled => exact h.quiet (fun _ _ hmon _ => hmon) (by simp)

/-! ## Runs -/

/-- Whether all of this holds of a runner beside the events so far. -/
structure KeepsCount (r : Runner σ) (past : List RunnerEvent) : Prop where
  numbered : r.Numbered
  heard : r.Heard past
  begun : r.Begun past
  tallied : r.Tallied past
  closesLast : r.ClosesLast past

theorem keepsCount_run (t : Transport σ) (config : RealtimeConfig) (calls : Option Client)
    (ms : List (RunnerMove σ)) :
    KeepsCount ((idle config calls : Runner σ).run t ms).1 ((idle config calls).run t ms).2 := by
  refine run_induction (P := KeepsCount) (fun r past after events h hcase => ?_) [] ?_ ms
  · exact ⟨h.numbered.move hcase, h.heard.move h.numbered hcase, h.begun.move h.numbered hcase,
      h.tallied.move h.numbered hcase,
      h.closesLast.move h.numbered h.heard h.begun h.tallied hcase⟩
  · exact ⟨numbered_idle config calls, heard_idle config calls,
      ⟨List.forall_mem_nil _, fun _ _ h => absurd h List.not_mem_nil⟩, tallied_idle config calls,
      ⟨fun j mon hmon => absurd hmon (by simp [idle]), fun n h => absurd h List.not_mem_nil⟩⟩

/-- **A runner ends by itself only when all streams that were counted have been given up.**  If
a monitor has asked for the shutdown, then it had counted its stream out as the last, and before
that every stream that was counted by then had been given up; so had every stream of a start
that had returned. -/
theorem allGaveUp_of_closedDown (t : Transport σ) (config : RealtimeConfig)
    (calls : Option Client) (ms : List (RunnerMove σ)) (n : Nat)
    (h : .closedDown n ∈ ((idle config calls : Runner σ).run t ms).2) :
    ∃ before after,
      ((idle config calls : Runner σ).run t ms).2 = before ++ .countedOut n 1 :: after ∧
      .closedDown n ∈ after ∧ AllGaveUp before ∧
      ∀ specs, .startsReturned specs (.ok ()) ∈ before → ∀ spec ∈ specs,
        ∃ m retries, .published m spec.key (.exhausted retries) ∈ before := by
  obtain ⟨before, after, hevents, hclosed, hgaveUp, hcounted⟩ :=
    (keepsCount_run t config calls ms).closesLast.closed n h
  refine ⟨before, after, hevents, hclosed, hgaveUp, fun specs hreturned spec hspec => ?_⟩
  obtain ⟨m, hm⟩ := hcounted specs _ hreturned spec hspec
  exact ⟨m, hgaveUp m spec.key hm⟩

/-! ## Two streams that are given up, and one that is not -/

/-- Settings that give a connection up when its first dial fails. -/
def impatientConfig : RealtimeConfig :=
  ⟨"ws://[::]", [], { ConnectionConfig.usual with retryMax := 0 }⟩

/-- The tickers of two products. -/
def twoTickers : List StreamSpec := [⟨"BTC_JPY", .ticker, false⟩, ⟨"X", .ticker, false⟩]

/-- The next stream is started and counted, and its monitor is posted. -/
def startNext : List (RunnerMove Unit) :=
  [.proceeded, .advanced, .proceeded, .proceeded, .proceeded]

/-- A stream is given up; its monitor sees it, puts it on record and counts it out. -/
def giveUp (n : Nat) : List (RunnerMove Unit) :=
  [.worked n (.dialAnswered (.error (.webSocket .refused))), .attended n, .attended n, .attended n]

/-- Both streams are started before the first is given up. -/
def patientRun : List RunnerEvent :=
  ((idle impatientConfig none).run .muted
    (.startsCalled twoTickers :: startNext ++ startNext ++ [.proceeded] ++ giveUp 0 ++ giveUp 1 ++
      [.attended 1])).2

/-- When both are given up the second monitor asks for the shutdown. -/
theorem patientRun_closedDown :
    .closedDown 1 ∈ patientRun ∧
      ∃ before after, patientRun = before ++ .countedOut 1 1 :: after ∧
        .closedDown 1 ∈ after ∧ AllGaveUp before ∧
        ∀ specs, .startsReturned specs (.ok ()) ∈ before → ∀ spec ∈ specs,
          ∃ m retries, .published m spec.key (.exhausted retries) ∈ before := by
  have hclosed : .closedDown 1 ∈ patientRun := List.mem_of_getLast? (by rfl)
  exact ⟨hclosed, allGaveUp_of_closedDown .muted impatientConfig none _ 1 hclosed⟩

/-- The first stream is given up.  The second is started and connected, and before it is counted
the monitor of the first asks for the shutdown. -/
def hastyRun : List RunnerEvent :=
  ((idle impatientConfig none).run .muted
    (.startsCalled twoTickers :: startNext ++
      [.worked 0 (.dialAnswered (.error (.webSocket .refused))), .attended 0, .attended 0,
        .proceeded, .advanced, .worked 1 (.dialAnswered (.ok ())), .attended 0, .attended 0,
        .proceeded, .proceeded, .proceeded, .proceeded])).2

/-- A runner can end by itself while a stream of its start is connected and was never given
up. -/
theorem hastyRun_ends_early :
    (∃ early late, hastyRun = early ++ .closedDown 0 :: late ∧
      .published 1 ⟨"X", .ticker⟩ .connected ∈ early) ∧
      .startsReturned twoTickers (.ok ()) ∈ hastyRun ∧
      ¬ ∀ spec ∈ twoTickers, ∃ n retries,
        .published n spec.key (.exhausted retries) ∈ hastyRun := by
  have hevents : hastyRun =
      [.published 0 ⟨"BTC_JPY", .ticker⟩ .connecting, .counted 0 ⟨"BTC_JPY", .ticker⟩,
        .published 0 ⟨"BTC_JPY", .ticker⟩ (.exhausted 0), .saw 0 (.exhausted 0),
        .published 1 ⟨"X", .ticker⟩ .connecting, .published 1 ⟨"X", .ticker⟩ .connected,
        .countedOut 0 1, .closedDown 0, .counted 1 ⟨"X", .ticker⟩,
        .startsReturned twoTickers (.ok ())] := by rfl
  refine ⟨⟨hastyRun.take 7, hastyRun.drop 8, by rfl, List.mem_of_getElem? (i := 5) (by rfl)⟩,
    by simp [hevents], fun hall => ?_⟩
  obtain ⟨n, retries, hpublished⟩ := hall ⟨"X", .ticker, false⟩ (by simp [twoTickers])
  simp [hevents, StreamSpec.key] at hpublished

end Runner
end ExchangeClient
