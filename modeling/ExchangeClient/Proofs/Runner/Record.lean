import ExchangeClient.Proofs.Runner.Reporting

/-!
# The record and the number of streams alive

A monitor puts its stream on record, and in another deed counts it out.  In between the record and
the number of streams alive do not fit together, and neither do they between the counting of a
stream and the posting of its monitor.  What fits at every moment is that the streams alive and
those on record are the monitors, one for each stream that is counted without a monitor, and one
more for each monitor between its two deeds (`Tallied.live_add_length`).

The record is of the monitors that have put their streams there (`Recorded`), so it has no key
twice.  A stream is counted out only by a monitor that was counted itself, so there is one to count
out (`CountsOut`).
-/

namespace ExchangeClient

namespace MonitorStage

/-- The stream of a monitor is counted or on record, and both between the two deeds. -/
theorem counted_add_onRecord (stage : MonitorStage) :
    ((if (!stage.hasCountedOut) = true then 1 else 0) + if stage.isOnRecord = true then 1 else 0) =
      1 + if (stage == .retiring) = true then 1 else 0 := by
  cases stage <;> rfl

end MonitorStage

namespace Runner

variable {σ : Type} {t : Transport σ} {r after : Runner σ} {past events : List RunnerEvent}

/-! ## The record -/

/-- Whether the record is that of the monitors that have put their streams there, in whatever
order. -/
def Recorded (r : Runner σ) : Prop :=
  ∀ q : ChannelKey → Bool, r.accounts.exhausted.countP q =
    r.monitors.countP fun mon => q mon.key && mon.stage.isOnRecord

theorem Recorded.quiet (h : r.Recorded) (hmonitors : after.monitors = r.monitors)
    (hexhausted : after.accounts.exhausted = r.accounts.exhausted) : after.Recorded := by
  intro q
  rw [hmonitors, hexhausted]
  exact h q

theorem Recorded.attended (h : r.Recorded) {j : Nat} {mon : Monitor} {stage : MonitorStage}
    {accounts : Accounts} (hmon : r.monitors[j]? = some mon)
    (hcase : MonitorCase r mon stage accounts events) :
    (r.bring j mon stage accounts).Recorded := by
  intro q
  have hold := h q
  have hmoved := countP_bring hmon stage accounts fun mon => q mon.key && mon.stage.isOnRecord
  dsimp only at hmoved
  show accounts.exhausted.countP q = _
  rcases hcase.onRecord with ⟨hstage, haccounts⟩ | ⟨hbefore, hafter, haccounts⟩
  · rw [haccounts]
    rw [hstage] at hmoved
    omega
  · rw [haccounts, List.countP_append, List.countP_singleton]
    rw [hbefore, hafter, Bool.and_false, Bool.and_true] at hmoved
    cases hq : q mon.key with
    | true =>
      rw [hq] at hmoved
      simp only [Bool.toNat_true, Bool.toNat_false, if_true] at hmoved ⊢
      omega
    | false =>
      rw [hq] at hmoved
      simp only [Bool.toNat_false, Bool.false_eq_true, if_false] at hmoved ⊢
      omega

theorem Recorded.move (h : r.Recorded) (hcase : MoveCase t r after events) : after.Recorded := by
  cases hcase with
  | rested => exact h
  | carried m hm =>
    obtain ⟨counters, hcounters⟩ := carry_accounts t r m
    exact h.quiet rfl (by rw [hcounters])
  | phased hphase => exact h.quiet hphase.unmoved.monitors hphase.unmoved.exhausted
  | counted n begun spec rest hphase hfind => exact h.quiet rfl rfl
  | posted n begun spec rest hphase =>
    intro q
    show r.accounts.exhausted.countP q = (r.monitors ++ [_]).countP _
    rw [List.countP_append, h q]
    simp [MonitorStage.isOnRecord]
  | attended j mon hmon hcase => exact h.attended hmon hcase
  | signalled => exact h.quiet rfl rfl

/-- No key is on record twice, for no two monitors have the same key. -/
theorem Recorded.nodup (h : r.Recorded) (hnumbered : r.Numbered) :
    r.accounts.exhausted.Nodup := by
  have hkeys : r.monitorKeys.Nodup := hnumbered.nodup.sublist hnumbered.monitorKeys_prefix.sublist
  refine List.nodup_iff_count_le_one.mpr fun key => ?_
  calc r.accounts.exhausted.count key
      = r.monitors.countP fun mon => (mon.key == key) && mon.stage.isOnRecord := h (· == key)
    _ ≤ r.monitors.countP fun mon => mon.key == key :=
        List.countP_mono_left fun mon _ hmon => (Bool.and_eq_true_iff.mp hmon).1
    _ = r.monitorKeys.count key := (List.countP_map (p := fun k => k == key)).symm
    _ ≤ 1 := List.nodup_iff_count_le_one.mp hkeys key

/-- What is on record was published. -/
theorem Reported.published (h : r.Reported past) (hheard : r.Heard past) {key : ChannelKey}
    (hkey : key ∈ r.accounts.exhausted) :
    ∃ n retries, .published n key (.exhausted retries) ∈ past := by
  obtain ⟨j, mon, hmon, rfl, hstage⟩ := (h.onRecord key).mp hkey
  refine ⟨j, hheard.seen j mon hmon ?_⟩
  cases hmonStage : mon.stage <;> rw [hmonStage] at hstage <;> first | rfl | cases hstage

/-! ## Streams alive -/

/-- **The streams alive and those on record are the monitors**, but for those that are between
their two deeds, and for a stream that has no monitor yet. -/
theorem Tallied.live_add_length (h : r.Tallied past) (hrecorded : r.Recorded) :
    r.accounts.live + r.accounts.exhausted.length =
      r.monitors.length + r.monitors.countP (fun mon => mon.stage == .retiring) +
        r.phase.unposted := by
  have hrecord : r.accounts.exhausted.length =
      r.monitors.countP fun mon => mon.stage.isOnRecord := by
    have hall := hrecorded fun _ => true
    rwa [List.countP_true] at hall
  have hstages : r.monitors.countP (fun mon => !mon.stage.hasCountedOut) +
      r.monitors.countP (fun mon => mon.stage.isOnRecord) =
      r.monitors.length + r.monitors.countP fun mon => mon.stage == .retiring := by
    induction r.monitors with
    | nil => rfl
    | cons mon monitors ih =>
      have hstage := mon.stage.counted_add_onRecord
      rw [List.countP_cons, List.countP_cons, List.countP_cons, List.length_cons]
      omega
  rw [h.live, hrecord]
  omega

/-- Whether there was a stream alive whenever one was counted out. -/
def CountsOut (past : List RunnerEvent) : Prop :=
  ∀ n live, .countedOut n live ∈ past → 0 < live

theorem CountsOut.append (h : CountsOut past) (hevents : CountsOut events) :
    CountsOut (past ++ events) := fun n live hout =>
  (List.mem_append.mp hout).elim (h n live) (hevents n live)

/-- A monitor that is about to count its stream out is counted itself. -/
theorem MonitorCase.countsOut {j : Nat} {mon : Monitor} {stage : MonitorStage}
    {accounts : Accounts} (h : MonitorCase r mon stage accounts events)
    (hmon : r.monitors[j]? = some mon) (htallied : r.Tallied past) : CountsOut events := by
  intro n live hout
  cases h with
  | countedOut hstage hlive =>
    obtain ⟨-, rfl⟩ := RunnerEvent.countedOut.inj (List.mem_singleton.mp hout)
    have hin : 0 < r.monitors.countP fun mon => !mon.stage.hasCountedOut :=
      List.countP_pos_iff.mpr ⟨mon, List.mem_of_getElem? hmon, by rw [hstage]; rfl⟩
    rw [htallied.live]
    omega
  | lastOut hstage hlive =>
    obtain ⟨-, rfl⟩ := RunnerEvent.countedOut.inj (List.mem_singleton.mp hout)
    exact Nat.one_pos
  | _ => simp at hout

theorem CountsOut.move (h : CountsOut past) (htallied : r.Tallied past)
    (hcase : MoveCase t r after events) : CountsOut (past ++ events) := by
  refine h.append fun n live hout => ?_
  cases hcase with
  | rested => cases hout
  | carried m hm => cases Traffic.isPublished_of_mem_news hout
  | phased hphase => exact absurd hout (hphase.unmoved.not_mem (by simp) (by simp))
  | counted n begun spec rest hphase hfind => simp at hout
  | posted n begun spec rest hphase => cases hout
  | attended j mon hmon hcase => exact hcase.countsOut hmon htallied n live hout
  | signalled => cases hout

/-! ## Runs -/

/-- Whether the record and the number of streams alive are right, beside all that they rest on. -/
structure KeepsRecord (r : Runner σ) (past : List RunnerEvent) : Prop where
  counted : KeepsCount r past
  reported : r.Reported past
  recorded : r.Recorded
  countsOut : CountsOut past

theorem keepsRecord_run (t : Transport σ) (config : RealtimeConfig) (calls : Option Client)
    (ms : List (RunnerMove σ)) :
    KeepsRecord ((idle config calls : Runner σ).run t ms).1 ((idle config calls).run t ms).2 := by
  have hcounted := keepsCount_run t config calls ms
  have hreported := reported_run t config calls ms
  obtain ⟨-, -, hrecorded, hcounts⟩ := run_induction
    (P := fun r past => r.Numbered ∧ r.Tallied past ∧ r.Recorded ∧ CountsOut past)
    (fun r past after events h hcase =>
      ⟨h.1.move hcase, h.2.1.move h.1 hcase, h.2.2.1.move hcase, h.2.2.2.move h.2.1 hcase⟩)
    [] ⟨numbered_idle config calls, tallied_idle config calls, fun _ => rfl,
      fun _ _ h => absurd h List.not_mem_nil⟩ ms
  exact ⟨hcounted, hreported, hrecorded, hcounts⟩

end Runner
end ExchangeClient
