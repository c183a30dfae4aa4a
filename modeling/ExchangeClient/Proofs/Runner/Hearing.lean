import ExchangeClient.Proofs.Runner.Numbering

/-!
# What was published

The events of a run tell every state that a feed has shown (`Heard.shown`), and each under the
key that the feed keeps (`Heard.keyed`).  So a monitor that has seen a connection given up has
seen what was published before (`Heard.seen`).
-/

namespace ExchangeClient

/-- Whether an event tells of a state that was published. -/
def RunnerEvent.isPublished : RunnerEvent → Bool
  | .published .. => true
  | _ => false

/-- What is in a list after one more was added to its end. -/
theorem getElem?_concat_iff {α : Type} {l : List α} {n : Nat} {a b : α} :
    (l ++ [a])[n]? = some b ↔ l[n]? = some b ∨ (n = l.length ∧ b = a) := by
  rcases Nat.lt_trichotomy n l.length with hlt | rfl | hgt
  · rw [List.getElem?_append_left hlt]
    simp [Nat.ne_of_lt hlt]
  · simp [eq_comm]
  · rw [List.getElem?_eq_none (by rw [List.length_append, List.length_singleton]; omega),
      List.getElem?_eq_none (Nat.le_of_lt hgt)]
    simp [Nat.ne_of_gt hgt]

namespace Traffic

variable {σ : Type} {tr before after : Traffic σ} {i n : Nat} {key : ChannelKey}
  {state : ConnectionState}

theorem getElem?_feedKeys_of_shown (h : tr.shown[n]? = some (key, state)) :
    tr.feedKeys[n]? = some key := by
  rw [shown, List.getElem?_map, Option.map_eq_some_iff] at h
  obtain ⟨f, hf, hentry⟩ := h
  rw [feedKeys, List.getElem?_map, hf]
  exact congrArg (fun entry => some entry.1) hentry

/-- What is news is shown now and was not shown before. -/
theorem published_mem_news :
    .published n key state ∈ before.news after ↔
      after.shown[n]? = some (key, state) ∧ before.shown[n]? ≠ some (key, state) := by
  unfold news
  simp only [List.mem_map, List.mem_filter, Prod.exists, List.mem_zipIdx_iff_getElem?,
    decide_eq_true_eq, RunnerEvent.published.injEq]
  constructor
  · rintro ⟨key', state', n', ⟨hshown, hnew⟩, rfl, rfl, rfl⟩
    exact ⟨hshown, hnew⟩
  · rintro ⟨hshown, hnew⟩
    exact ⟨key, state, n, ⟨hshown, hnew⟩, rfl, rfl, rfl⟩

theorem isPublished_of_mem_news {e : RunnerEvent} (h : e ∈ before.news after) :
    e.isPublished = true := by
  obtain ⟨entry, -, rfl⟩ := List.mem_map.mp h
  rfl

/-! ## Feeds keep their keys -/

theorem feedKeys_prefix_launchCall (product : ProductCode) (handler : Handler) :
    tr.feedKeys <+: (tr.launchCall i product handler).feedKeys := by
  unfold launchCall
  cases hlaunch : tr.launch product handler with
  | error cause => exact List.prefix_rfl
  | ok tr' => exact ⟨_, (feedKeys_launch hlaunch).1.symm⟩

theorem feedKeys_prefix_startCall (spec : StreamSpec) :
    tr.feedKeys <+: (tr.startCall i spec).feedKeys := by
  unfold startCall
  split
  · split
    · exact List.prefix_rfl
    · exact List.prefix_rfl
  · exact feedKeys_prefix_launchCall spec.productCode _

theorem feedKeys_prefix_advance (tr : Traffic σ) (i : Nat) :
    tr.feedKeys <+: (tr.advance i).feedKeys := by
  unfold advance
  split
  · next spec hcall => exact feedKeys_prefix_startCall spec
  · next spec seed hcall => exact feedKeys_prefix_launchCall spec.productCode _
  · next key hcall => exact (feedKeys_stopCall key).symm ▸ List.prefix_rfl
  · next n hcall => exact (feedKeys_closeCall n).symm ▸ List.prefix_rfl
  · exact List.prefix_rfl
  · exact List.prefix_rfl
  · exact List.prefix_rfl

/-- New feeds come behind the others, which keep their keys. -/
theorem feedKeys_prefix_move (t : Transport σ) (tr : Traffic σ) (m : TrafficMove σ) :
    tr.feedKeys <+: (tr.move t m).feedKeys := by
  cases m with
  | startCalled spec => exact List.prefix_rfl
  | stopCalled key => exact List.prefix_rfl
  | advanced i => exact feedKeys_prefix_advance tr i
  | answered i reply => exact (answer_eq tr i reply).2 ▸ List.prefix_rfl
  | worked n m =>
    have hkeys : (tr.move t (.worked n m)).feedKeys = tr.feedKeys :=
      feedKeys_changeFeed fun f => StoppableFeed.outlives_work t f m
    exact hkeys ▸ List.prefix_rfl

end Traffic

namespace Runner

variable {σ : Type} {t : Transport σ} {r after : Runner σ} {past events : List RunnerEvent}

/-- Monitors after one of them has come to a stage. -/
theorem getElem?_bring {j n : Nat} {mon mon' : Monitor} {stage : MonitorStage}
    {accounts : Accounts} (hmon : r.monitors[j]? = some mon) :
    (r.bring j mon stage accounts).monitors[n]? = some mon' ↔
      (n = j ∧ mon' = { mon with stage }) ∨ (n ≠ j ∧ r.monitors[n]? = some mon') := by
  show (r.monitors.set j { mon with stage })[n]? = some mon' ↔ _
  by_cases hn : n = j
  · subst hn
    rw [List.getElem?_set_self (List.getElem?_eq_some_iff.mp hmon).1]
    simp [eq_comm]
  · rw [List.getElem?_set_ne (Ne.symm hn)]
    simp [hn]

/-- A monitor that comes to a stage is counted by its new stage and not by its old one. -/
theorem countP_bring {j : Nat} {mon : Monitor} (hmon : r.monitors[j]? = some mon)
    (stage : MonitorStage) (accounts : Accounts) (p : Monitor → Bool) :
    (r.bring j mon stage accounts).monitors.countP p + (p mon).toNat =
      r.monitors.countP p + (p { mon with stage }).toNat := by
  obtain ⟨hj, hget⟩ := List.getElem?_eq_some_iff.mp hmon
  have hset : (r.bring j mon stage accounts).monitors.countP p =
      (r.monitors.countP p - if p mon then 1 else 0) + if p { mon with stage } then 1 else 0 := by
    rw [← hget]
    exact List.countP_set hj
  have hin : p mon = true → 0 < r.monitors.countP p := fun hp =>
    List.countP_pos_iff.mpr ⟨mon, List.mem_of_getElem? hmon, hp⟩
  rw [hset]
  cases hp : p mon with
  | true =>
    have := hin hp
    cases p { mon with stage } <;> simp <;> omega
  | false => cases p { mon with stage } <;> simp

/-- Whether the events so far tell what the feeds show and what the monitors have seen. -/
structure Heard (r : Runner σ) (past : List RunnerEvent) : Prop where
  shown : ∀ n key state, r.traffic.shown[n]? = some (key, state) →
    .published n key state ∈ past
  keyed : ∀ n key state, .published n key state ∈ past → r.traffic.feedKeys[n]? = some key
  seen : ∀ j mon, r.monitors[j]? = some mon → mon.stage.hasSeenEnd = true →
    ∃ retries, .published j mon.key (.exhausted retries) ∈ past

theorem heard_idle (config : RealtimeConfig) (calls : Option Client) :
    (idle config calls : Runner σ).Heard [] where
  shown n key state h := by cases h
  keyed n key state h := by cases h
  seen j mon h := by cases h

/-- Nothing is published while the feeds stay as they are. -/
theorem Heard.quiet (h : r.Heard past) (hfeeds : after.traffic.feeds = r.traffic.feeds)
    (hsilent : ∀ e ∈ events, e.isPublished = false)
    (hseen : ∀ j mon, after.monitors[j]? = some mon → mon.stage.hasSeenEnd = true →
      ∃ retries, .published j mon.key (.exhausted retries) ∈ past) :
    after.Heard (past ++ events) where
  shown n key state hn := by
    rw [Traffic.shown, hfeeds] at hn
    exact List.mem_append_left _ (h.shown n key state hn)
  keyed n key state hpublished := by
    rw [Traffic.feedKeys, hfeeds]
    rcases List.mem_append.mp hpublished with hpast | hnew
    · exact h.keyed n key state hpast
    · cases hsilent _ hnew
  seen j mon hmon hend :=
    (hseen j mon hmon hend).imp fun _ hpublished => List.mem_append_left _ hpublished

theorem Heard.carried (h : r.Heard past) (m : TrafficMove σ) :
    (r.carry t m).1.Heard (past ++ (r.carry t m).2) where
  shown n key state hn := by
    by_cases hold : r.traffic.shown[n]? = some (key, state)
    · exact List.mem_append_left _ (h.shown n key state hold)
    · exact List.mem_append_right _ (Traffic.published_mem_news.mpr ⟨hn, hold⟩)
  keyed n key state hpublished := by
    rcases List.mem_append.mp hpublished with hpast | hnew
    · obtain ⟨hlt, hkey⟩ := List.getElem?_eq_some_iff.mp (h.keyed n key state hpast)
      obtain ⟨more, hmore⟩ := Traffic.feedKeys_prefix_move t r.traffic m
      show (r.traffic.move t m).feedKeys[n]? = some key
      rw [← hmore, List.getElem?_append_left hlt, List.getElem?_eq_getElem hlt, hkey]
    · exact Traffic.getElem?_feedKeys_of_shown (Traffic.published_mem_news.mp hnew).1
  seen j mon hmon hend :=
    (h.seen j mon hmon hend).imp fun _ hpublished => List.mem_append_left _ hpublished

/-- What a monitor sees was published under its key. -/
theorem Heard.published_of_feed (h : r.Heard past) (hnumbered : r.Numbered) {j : Nat}
    {mon : Monitor} {f : StoppableFeed σ} (hmon : r.monitors[j]? = some mon)
    (hfeed : r.traffic.feeds[mon.feed]? = some f) :
    .published j mon.key f.feed.manager.state ∈ past := by
  rw [hnumbered.feed_eq hmon] at hfeed
  have hkey := hnumbered.getElem?_feedKeys hmon
  rw [Traffic.feedKeys, List.getElem?_map, hfeed] at hkey
  refine h.shown j mon.key _ ?_
  rw [Traffic.shown, List.getElem?_map, hfeed, ← Option.some.inj hkey]
  rfl

theorem Heard.attended (h : r.Heard past) (hnumbered : r.Numbered) {j : Nat} {mon : Monitor}
    {stage : MonitorStage} {accounts : Accounts} (hmon : r.monitors[j]? = some mon)
    (hcase : MonitorCase r mon stage accounts events) :
    (r.bring j mon stage accounts).Heard (past ++ events) := by
  have hsilent : ∀ e ∈ events, e.isPublished = false := by
    cases hcase with
    | recorded => exact List.forall_mem_nil _
    | _ => exact List.forall_mem_singleton.mpr rfl
  have hend : stage.hasSeenEnd = true →
      ∃ retries, .published j mon.key (.exhausted retries) ∈ past := by
    intro hstage
    cases hcase with
    | sawEnd f retries _ hfeed hstate =>
      exact ⟨retries, hstate ▸ h.published_of_feed hnumbered hmon hfeed⟩
    | recorded hbefore | countedOut hbefore | lastOut hbefore | closedDown hbefore =>
      exact h.seen j mon hmon (by rw [hbefore]; rfl)
    | sawStop | sawOther | excused => cases hstage
  refine h.quiet rfl hsilent fun n mon' hmon' hend' => ?_
  rcases (getElem?_bring hmon).mp hmon' with ⟨rfl, rfl⟩ | ⟨-, hother⟩
  · exact hend hend'
  · exact h.seen n mon' hother hend'

/-- **Every move tells what it publishes.** -/
theorem Heard.move (h : r.Heard past) (hnumbered : r.Numbered)
    (hcase : MoveCase t r after events) : after.Heard (past ++ events) := by
  cases hcase with
  | rested => exact h.quiet rfl (List.forall_mem_nil _) h.seen
  | carried m hm => exact h.carried m
  | phased hphase =>
    obtain ⟨hfeeds, hmonitors, -, -, -, hsilent⟩ := hphase.unmoved
    refine h.quiet hfeeds (fun e he => ?_) (hmonitors.symm ▸ h.seen)
    rcases hsilent e he with ⟨specs, result, rfl⟩ | rfl
    · rfl
    · rfl
  | counted n begun spec rest hphase hfind =>
    exact h.quiet rfl (List.forall_mem_singleton.mpr rfl) h.seen
  | posted n begun spec rest hphase =>
    refine h.quiet rfl (List.forall_mem_nil _) fun j mon hmon hend => ?_
    rcases getElem?_concat_iff.mp hmon with hold | ⟨-, rfl⟩
    · exact h.seen j mon hold hend
    · cases hend
  | attended j mon hmon hcase => exact h.attended hnumbered hmon hcase
  | signalled => exact h.quiet rfl (List.forall_mem_nil _) h.seen

end Runner
end ExchangeClient
