import ExchangeClient.Proofs.Json.Spelling

/-!
# Every value is passed over

`skipValue_of_source`: a value of any `Source` is passed over, and the walk ends behind it.  No
number is too large for it, no string stands for too little and no container lies too deep, so
whatever the exchange may one day write behind an unknown key does not stop a reader.

The walk counts its steps, and `Source.IsPassed` bounds them by twice the characters.  Lists and
objects are one argument: `Frame.Passes` is what both ask of the words between their brackets,
and `passes_listed` is the walk over all of them.
-/

namespace ExchangeClient
namespace Json

variable {rest : Input}

/-! ## Space -/

/-- The walk to a value goes over the space before it. -/
theorem skipSteps_value_congr {cs cs' : Input} (h : skipSpace cs = skipSpace cs') (steps : Nat)
    (frames : List Frame) :
    skipSteps steps .value frames cs = skipSteps steps .value frames cs' := by
  cases steps with
  | zero => rfl
  | succ steps => rw [skipSteps, skipSteps, h]

theorem skipSteps_ended_space (steps : Nat) (frame : Frame) (frames : List Frame) (s : Space)
    (cs : Input) :
    skipSteps steps .ended (frame :: frames) (s.val ++ cs) =
      skipSteps steps .ended (frame :: frames) cs := by
  cases steps with
  | zero => rfl
  | succ steps => rw [skipSteps, skipSteps, skipSpace_space]

theorem isSpace_closing (frame : Frame) : isSpace frame.closing = false := by
  cases frame <;> rfl

/-- Behind a word a comma goes before the next, or the container ends. -/
theorem endsNumber_listed (ws : List (List Char)) (s : Space) {c : Char}
    (hc : c ∈ [',', ']', '}']) (rest : Input) :
    EndsNumber (listed false ws ++ (s.val ++ c :: rest)) := by
  cases ws with
  | nil => exact (endsNumber_cons hc rest).space s
  | cons w ws => exact endsNumber_cons (by decide) _

/-! ## Containers -/

/-- What a container asks of a word between its brackets: the walk goes from before the word to
behind it. -/
def Frame.Passes (frame : Frame) (w : List Char) : Prop :=
  ∃ k, k < 2 * w.length ∧ ∀ rest, EndsNumber rest →
    (∃ c tail, skipSpace (w ++ rest) = c :: tail ∧ c ≠ frame.closing) ∧
    ∀ cs, skipSpace cs = skipSpace (w ++ rest) → ∀ steps frames,
      (frame.lead cs >>= skipSteps (k + steps) .value (frame :: frames)) =
        skipSteps steps .ended (frame :: frames) rest

/-- **The words between two brackets are passed over** if each of them is. -/
theorem passes_listed {frame : Frame} {ws : List (List Char)} (h : ∀ w ∈ ws, frame.Passes w)
    (first : Bool) (s : Space) :
    ∃ k, k ≤ 2 * (listed first ws).length + 1 ∧ ∀ rest steps frames,
      skipSteps (k + steps) (.inside first) (frame :: frames)
          (listed first ws ++ (s.val ++ frame.closing :: rest)) =
        skipSteps steps .ended frames rest := by
  induction ws generalizing first with
  | nil =>
    refine ⟨1, by omega, fun rest steps frames => ?_⟩
    rw [Nat.add_comm, listed]
    exact skipSteps_closing (skipSpace_space_cons s (isSpace_closing frame) rest) steps first frames
  | cons w ws ih =>
    obtain ⟨⟨k₁, hk₁, hw⟩, hws⟩ := List.forall_mem_cons.mp h
    obtain ⟨k₂, hk₂, hwalk⟩ := ih hws false
    refine ⟨k₁ + k₂ + 1, ?_, fun rest steps frames => ?_⟩
    · cases first <;> simp only [listed, List.length_append, List.length_cons] <;> omega
    have hsteps : k₁ + k₂ + 1 + steps = k₁ + (k₂ + steps) + 1 := by omega
    have hclosing : frame.closing ∈ [',', ']', '}'] := by cases frame <;> decide
    obtain ⟨⟨c, tail, hcs, hc⟩, hpass⟩ := hw _ (endsNumber_listed ws s hclosing rest)
    rw [hsteps]
    cases first with
    | true =>
      have hlead := hpass (c :: tail) (by rw [← hcs, skipSpace_skipSpace]) (k₂ + steps) frames
      rw [listed, List.append_assoc]
      show skipSteps _ .entered _ _ = _
      rw [skipSteps, hcs]
      dsimp only
      rw [if_neg hc, hlead]
      exact hwalk rest steps frames
    | false =>
      have hlead := hpass _ rfl (k₂ + steps) frames
      rw [listed, List.cons_append, List.append_assoc]
      show skipSteps _ .ended _ _ = _
      rw [skipSteps, skipSpace_cons (by decide)]
      dsimp only
      rw [if_pos rfl, hlead]
      exact hwalk rest steps frames

/-! ## Values -/

/-- A value is passed over within twice its characters. -/
def Source.IsPassed (t : Source) : Prop :=
  ∃ k, k < 2 * t.chars.length ∧ ∀ rest, EndsNumber rest → ∀ steps frames,
    skipSteps (k + steps) .value frames (t.chars ++ rest) = skipSteps steps .ended frames rest

/-- A value starts with a character that is no space and ends no container. -/
theorem Source.exists_cons (t : Source) :
    ∃ c cs, t.chars = c :: cs ∧ isSpace c = false ∧ c ≠ ']' ∧ c ≠ '}' := by
  cases t with
  | number n =>
    obtain ⟨c, cs, hcs, hc⟩ := n.exists_cons
    have hne := ne_of_startsNumber hc
    refine ⟨c, cs, hcs, ?_, hne ']' rfl, hne '}' rfl⟩
    simp [isSpace, hne ' ' rfl, hne '\n' rfl, hne '\t' rfl, hne '\r' rfl]
  | null => exact ⟨'n', _, rfl, by decide, by decide, by decide⟩
  | bool b => cases b <;> exact ⟨_, _, rfl, by decide, by decide, by decide⟩
  | string q => exact ⟨'"', _, rfl, by decide, by decide, by decide⟩
  | array items space => exact ⟨'[', _, rfl, by decide, by decide, by decide⟩
  | object members space => exact ⟨'{', _, rfl, by decide, by decide, by decide⟩

theorem Source.skipSpace_append (t : Source) (rest : Input) :
    skipSpace (t.chars ++ rest) = t.chars ++ rest := by
  obtain ⟨c, cs, hcs, hspace, -⟩ := t.exists_cons
  rw [hcs, List.cons_append, skipSpace_cons hspace]

theorem Padded.skipSpace_append (x : Padded Source) (rest : Input) :
    skipSpace (x.chars ++ rest) = x.value.chars ++ (x.after.val ++ rest) := by
  rw [chars, List.append_assoc, List.append_assoc, skipSpace_space, Source.skipSpace_append]

theorem Member.skipSpace_append (m : Member Source) (rest : Input) :
    skipSpace (m.chars ++ rest) = '"' :: (m.tail ++ rest) := by
  rw [chars, List.append_assoc, List.cons_append, skipSpace_space_cons m.before (by decide)]

theorem Member.tail_append (m : Member Source) (rest : Input) :
    m.tail ++ rest = m.key.chars ++ (m.beforeColon.val ++ ':' :: (m.value.chars ++ rest)) := by
  rw [tail, List.append_assoc, List.append_assoc, List.cons_append]

theorem Padded.passes {x : Padded Source} (h : x.value.IsPassed) :
    Frame.list.Passes x.chars := by
  obtain ⟨k, hk, hwalk⟩ := h
  refine ⟨k, ?_, fun rest hrest => ⟨?_, fun cs hcs steps frames => ?_⟩⟩
  · rw [chars, List.length_append, List.length_append]
    omega
  · obtain ⟨c, tail, hc, -, hend, -⟩ := x.value.exists_cons
    exact ⟨c, tail ++ (x.after.val ++ rest), by rw [x.skipSpace_append, hc, List.cons_append], hend⟩
  · rw [x.skipSpace_append, ← x.value.skipSpace_append] at hcs
    show skipSteps (k + steps) .value (.list :: frames) cs = _
    rw [skipSteps_value_congr hcs, hwalk _ (hrest.space x.after), skipSteps_ended_space]

theorem Member.passes {m : Member Source} (h : m.value.value.IsPassed) :
    Frame.object.Passes m.chars := by
  obtain ⟨k, hk, hwalk⟩ := h
  refine ⟨k, ?_, fun rest hrest =>
    ⟨⟨_, _, m.skipSpace_append rest, by decide⟩, fun cs hcs steps frames => ?_⟩⟩
  · rw [chars, tail, Padded.chars]
    simp only [List.length_append, List.length_cons]
    omega
  · have hkey : Frame.object.lead cs = .ok (m.value.chars ++ rest) := by
      rw [Frame.lead, skipKey, hcs, m.skipSpace_append]
      dsimp only
      rw [if_pos rfl, m.tail_append, bind_of_ok (skipString_chars m.key _), expectColon_space]
    have hvalue := m.value.skipSpace_append rest
    rw [← m.value.value.skipSpace_append] at hvalue
    rw [hkey]
    show skipSteps (k + steps) .value (.object :: frames) (m.value.chars ++ rest) = _
    rw [skipSteps_value_congr hvalue, hwalk _ (hrest.space m.value.after), skipSteps_ended_space]

theorem Source.isPassed (t : Source) : t.IsPassed := by
  induction t using Source.induct with
  | null =>
    refine ⟨1, by decide, fun rest _ steps frames => ?_⟩
    rw [Nat.add_comm]
    rfl
  | bool b =>
    refine ⟨1, by cases b <;> decide, fun rest _ steps frames => ?_⟩
    rw [Nat.add_comm]
    cases b <;> rfl
  | string q =>
    refine ⟨1, ?_, fun rest _ steps frames => ?_⟩
    · rw [chars, List.length_cons]
      omega
    · rw [Nat.add_comm, chars, List.cons_append, skipSteps, skipSpace_cons (by decide)]
      simp only [skipString_chars]
      rfl
  | number n =>
    obtain ⟨c, cs, hcs, hc⟩ := n.exists_cons
    refine ⟨1, ?_, fun rest hrest steps frames => ?_⟩
    · rw [chars, hcs, List.length_cons]
      omega
    · have hne := ne_of_startsNumber hc
      have hskip := skipNumber_chars n hrest
      have hspace := (Source.number n).skipSpace_append rest
      rw [chars, hcs, List.cons_append] at hspace
      rw [hcs, List.cons_append] at hskip
      rw [Nat.add_comm, chars, hcs, List.cons_append, skipSteps, hspace]
      simp only [if_neg (hne 'n' rfl), if_neg (hne 't' rfl), if_neg (hne 'f' rfl),
        if_neg (hne '"' rfl), if_pos hc, hskip]
      rfl
  | array items space ih =>
    have hitems : ∀ w ∈ items.map Padded.chars, Frame.list.Passes w :=
      List.forall_mem_map.mpr fun x hx => Padded.passes (ih x hx)
    obtain ⟨k, hk, hwalk⟩ := passes_listed hitems true space
    refine ⟨k + 1, ?_, fun rest _ steps frames => ?_⟩
    · rw [chars_array]
      simp only [List.length_cons, List.length_append]
      omega
    · rw [chars_array, List.cons_append, List.append_assoc, List.append_assoc, Nat.add_right_comm,
        ← hwalk rest steps frames, skipSteps, skipSpace_cons (by decide)]
      rfl
  | object members space ih =>
    have hmembers : ∀ w ∈ members.map Member.chars, Frame.object.Passes w :=
      List.forall_mem_map.mpr fun m hm => Member.passes (ih m hm)
    obtain ⟨k, hk, hwalk⟩ := passes_listed hmembers true space
    refine ⟨k + 1, ?_, fun rest _ steps frames => ?_⟩
    · rw [chars_object]
      simp only [List.length_cons, List.length_append]
      omega
    · rw [chars_object, List.cons_append, List.append_assoc, List.append_assoc,
        Nat.add_right_comm, ← hwalk rest steps frames, skipSteps, skipSpace_cons (by decide)]
      rfl

/-- **Every value is passed over.** -/
theorem skipValue_of_source {t : Source} {cs : Input} (hcs : skipSpace cs = t.chars ++ rest)
    (hrest : EndsNumber rest) : skipValue cs = .ok rest := by
  obtain ⟨k, hk, hwalk⟩ := t.isPassed
  have hlength := length_skipSpace_le cs
  rw [hcs, List.length_append] at hlength
  have hsteps : 2 * cs.length + 2 = k + (2 * cs.length - k + 1 + 1) := by omega
  rw [← t.skipSpace_append] at hcs
  rw [skipValue, hsteps, skipSteps_value_congr hcs, hwalk rest hrest]
  rfl

end Json
end ExchangeClient
