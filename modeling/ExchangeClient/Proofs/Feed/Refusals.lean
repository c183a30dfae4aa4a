import ExchangeClient.Proofs.Feed.Cases

/-!
# A call that is refused changes nothing

A start or a stop can be refused at several points: when it first looks at the registry, when
its request for a seed fails, when it comes back with the seed, and where the address is read.
Whatever the reason, nothing that the call has done up to then can be seen: the registry, the
feeds with their workers and mailboxes, and the connections are after each move of the call as
they were before it.

The argument runs backwards.  What changes registry or feeds is a call that takes effect by it or
has done so (`CallCase.unchanged`), and a call that has taken effect is never refused afterwards
(`hasTakenEffect_run`).  So a call that ends in an error has made no such move.

Other calls and the workers go on meanwhile.  They are not held to anything here; a move of theirs
is not one of the call.
-/

namespace ExchangeClient
namespace Traffic

variable {σ : Type} {tr after : Traffic σ} {i j : Nat}

/-! ## Effects last -/

theorem hasTakenEffect_move (t : Transport σ) (h : tr.hasTakenEffect i = true)
    (m : TrafficMove σ) : (tr.move t m).hasTakenEffect i = true := by
  rcases takesEffect_or_keeps t tr m with ⟨-, hkeeps⟩ | ⟨e, -, htakes⟩
  · rw [hkeeps.standing, h]
  · rw [htakes.standing, h, Bool.true_or]

/-- A call that has taken effect has done so for good. -/
theorem hasTakenEffect_run (t : Transport σ) (h : tr.hasTakenEffect i = true)
    (ms : List (TrafficMove σ)) : (tr.run t ms).hasTakenEffect i = true := by
  induction ms generalizing tr with
  | nil => exact h
  | cons m ms ih => exact ih (hasTakenEffect_move t h m)

/-! ## What has no effect changes nothing -/

/-- A call that has not taken effect by what it did has changed neither registry nor feeds. -/
theorem CallCase.unchanged (h : CallCase tr i after) (hnone : after.hasTakenEffect i = false) :
    after.client = tr.client ∧ after.feeds = tr.feeds := by
  -- In the other cases the call would have taken effect.
  have hthrough {before : Traffic σ} {was call : ClientCall} (hi : before.calls[i]? = some was)
      (hcall : call.hasTakenEffect = true)
      (hnone : (before.settle i call).hasTakenEffect i = false) : False := by
    rw [hasTakenEffect_settle hi, if_pos rfl, hcall] at hnone
    cases hnone
  cases h with
  | rests | asks | refused => exact ⟨rfl, rfl⟩
  | entered call key feed client hi => exact (hthrough hi rfl hnone).elim
  | taken key n client hi => exact (hthrough hi rfl hnone).elim
  | closes n hi =>
    have hclosing : (tr.changeFeed n .stopNext).hasTakenEffect i = true :=
      hasTakenEffect_of_getElem? hi
    rw [hclosing] at hnone
    cases hnone
  | closed n hi => exact (hthrough hi rfl hnone).elim

/-- **A move of a call that has not taken effect by it changes neither registry nor feeds.** -/
theorem unchanged_of_isMoveOf (t : Transport σ) {m : TrafficMove σ} (hm : tr.IsMoveOf i m)
    (hnone : (tr.move t m).hasTakenEffect i = false) :
    (tr.move t m).client = tr.client ∧ (tr.move t m).feeds = tr.feeds := by
  cases m with
  | startCalled | stopCalled => exact ⟨rfl, rfl⟩
  | advanced j =>
    obtain rfl : i = j := hm
    exact (callCase tr i).unchanged hnone
  | answered j reply =>
    show (tr.answer j reply).client = _ ∧ (tr.answer j reply).feeds = _
    unfold answer
    split
    · split <;> exact ⟨rfl, rfl⟩
    · exact ⟨rfl, rfl⟩
  | worked n m => exact hm.elim

/-! ## A call that has returned -/

/-- What a call does next concerns no other call. -/
theorem CallCase.getElem?_of_ne (h : CallCase tr j after) (hne : j ≠ i) :
    after.calls[i]? = tr.calls[i]? := by
  cases h with
  | rests | closes => rfl
  | asks | refused | entered | taken | closed => exact List.getElem?_set_ne hne

theorem getElem?_move_of_returned (t : Transport σ) {result : Except ClientError Unit}
    (hi : tr.calls[i]? = some (.returned result)) (m : TrafficMove σ) :
    (tr.move t m).calls[i]? = some (.returned result) := by
  have hlt : i < tr.calls.length := (List.getElem?_eq_some_iff.mp hi).1
  cases m with
  | startCalled | stopCalled => exact (List.getElem?_append_left hlt).trans hi
  | advanced j =>
    show (tr.advance j).calls[i]? = _
    by_cases hji : j = i
    · subst hji
      rw [advance, hi]
      exact hi
    · rw [(callCase tr j).getElem?_of_ne hji, hi]
  | answered j reply =>
    show (tr.answer j reply).calls[i]? = _
    unfold answer
    split
    · next spec hj =>
      have hji : j ≠ i := by
        rintro rfl
        rw [hi] at hj
        cases hj
      split <;> exact (List.getElem?_set_ne hji).trans hi
    · exact hi
  | worked n m => exact hi

/-- A call that has returned stays as it is. -/
theorem getElem?_run_of_returned (t : Transport σ) {result : Except ClientError Unit}
    (hi : tr.calls[i]? = some (.returned result)) (ms : List (TrafficMove σ)) :
    (tr.run t ms).calls[i]? = some (.returned result) := by
  induction ms generalizing tr with
  | nil => exact hi
  | cons m ms ih => exact ih (getElem?_move_of_returned t hi m)

/-! ## Refused calls -/

/-- **A call that is refused changes nothing.**  In any traffic on a new client:

* if a call has returned with an error, then none of its moves has changed the registry or any
  feed, its worker, its mailbox, the state it has published or its connection, or has added a
  feed;
* a start that looks at the registry while its key is taken has thereby returned, with the error
  that says so, whatever else is wrong with it; nothing but the call itself has changed, and it
  stays so.  In particular it never asks for a seed. -/
theorem refused_changes_nothing (t : Transport σ) (config : RealtimeConfig)
    (calls : Option Client) (ms : List (TrafficMove σ)) (i : Nat) :
    let tr := (idle config calls : Traffic σ).run t ms
    (∀ cause, tr.calls[i]? = some (.returned (.error cause)) →
      ∀ early m late, ms = early ++ m :: late →
        let before := (idle config calls).run t early
        before.IsMoveOf i m →
          (before.move t m).client = before.client ∧ (before.move t m).feeds = before.feeds) ∧
    ∀ call key, tr.calls[i]? = some call → call.startKey? = some key →
      tr.client.isRunning key = true →
        tr.move t (.advanced i) = tr.settle i (.returned (.error (.alreadyExists key))) ∧
        ∀ later, ((tr.move t (.advanced i)).run t later).calls[i]? =
          some (.returned (.error (.alreadyExists key))) := by
  intro tr
  constructor
  · rintro cause hcause early m late rfl before hm
    have hend : tr.hasTakenEffect i = false := hasTakenEffect_of_getElem? hcause
    refine unchanged_of_isMoveOf t hm (Bool.eq_false_iff.mpr fun htaken => ?_)
    have hlate : ((before.move t m).run t late).hasTakenEffect i = true :=
      hasTakenEffect_run t htaken late
    rw [show tr = (before.move t m).run t late from run_append t _ early (m :: late), hlate] at hend
    cases hend
  · intro call key hi hkey hrunning
    have hmove : tr.move t (.advanced i) = tr.settle i (.returned (.error (.alreadyExists key))) :=
      advance_of_isRunning hi hkey hrunning
    refine ⟨hmove, fun later => getElem?_run_of_returned t ?_ later⟩
    rw [hmove]
    exact getElem?_settle (List.getElem?_eq_some_iff.mp hi).1 _

/-! ## A start that is overtaken -/

/-- A client that could fetch seeds on the same machine. -/
def nearbyCalls : Client := ⟨⟨"http".toList, none, .segments [[]], none, none⟩, none⟩

/-- The board of a product, merged or not. -/
def boardSpec (merge : Bool) : StreamSpec := ⟨"BTC_JPY", .board, merge⟩

/-- While the start of a merged board waits for its seed, the plain board of the same product is
started; then the seed comes. -/
def overtaking : List (TrafficMove Unit) :=
  [.startCalled (boardSpec true), .advanced 0, .startCalled (boardSpec false), .advanced 1,
    .answered 0 (.ok .empty)]

/-- The start of the merged board is refused when it comes back with its seed, and the plain
board stays as it is. -/
theorem overtaken_start_refused :
    let tr := (idle nearbyConfig (some nearbyCalls)).run .muted overtaking
    tr.client.find? (boardSpec true).key = some 0 ∧
      (tr.move .muted (.advanced 0)).calls =
        [.returned (.error (.alreadyExists (boardSpec true).key)), .returned (.ok ())] ∧
      (tr.move .muted (.advanced 0)).client = tr.client ∧
      (tr.move .muted (.advanced 0)).feeds = tr.feeds := by
  intro tr
  have hwhole : (idle nearbyConfig (some nearbyCalls)).run .muted (overtaking ++ [.advanced 0]) =
      tr.move .muted (.advanced 0) := run_append _ _ _ _
  obtain ⟨hmove, -⟩ := (refused_changes_nothing .muted nearbyConfig (some nearbyCalls)
    overtaking 0).2 (.seeded (boardSpec true) .empty) _ rfl rfl rfl
  have hreturned : (tr.move .muted (.advanced 0)).calls =
      [.returned (.error (.alreadyExists (boardSpec true).key)), .returned (.ok ())] := by
    rw [hmove]
    rfl
  refine ⟨rfl, hreturned, ?_⟩
  refine (refused_changes_nothing .muted nearbyConfig (some nearbyCalls)
    (overtaking ++ [.advanced 0]) 0).1 (.alreadyExists (boardSpec true).key) ?_ overtaking
    (.advanced 0) [] rfl rfl
  rw [hwhole, hreturned]
  rfl

end Traffic
end ExchangeClient
