import ExchangeClient.Proofs.Json.Source
import ExchangeClient.Proofs.Json.Standing
import Mathlib.Data.Set.List

/-!
# Only values are passed over

What can be passed over is a value as `Source` has it, spelt out to the last space:
`exists_source_of_skipValue`.  It is the converse of `skipValue_of_source`.

A walk that has come to its end tells what stood in the text from any of its points on.  Behind
a value that is what the open containers still want, `Ends`; each of them wants words with commas
between them and its closing bracket, `Lists`.
-/

namespace ExchangeClient
namespace Json

variable {cs rest : Input}

/-! ## Space and fixed words -/

theorem exists_space (cs : Input) : ∃ s : Space, cs = s.val ++ skipSpace cs :=
  ⟨⟨cs.takeWhile isSpace, List.all_takeWhile⟩, List.takeWhile_append_dropWhile.symm⟩

theorem eq_append_of_expectWord {word : List Char} (h : expectWord word cs = .ok rest) :
    cs = word ++ rest := by
  induction word generalizing cs with
  | nil =>
    cases h
    rfl
  | cons w ws ih =>
    cases cs with
    | nil => cases h
    | cons c cs =>
      rw [expectWord] at h
      split at h
      · next hc => rw [hc, ih h, List.cons_append]
      · cases h

theorem exists_of_expectColon (h : expectColon cs = .ok rest) :
    ∃ s : Space, cs = s.val ++ ':' :: rest := by
  obtain ⟨s, hs⟩ := exists_space cs
  rw [expectColon] at h
  split at h
  · cases h
  · next c tail hcs =>
    split at h
    · next hc =>
      cases h
      refine ⟨s, ?_⟩
      rw [← hc, ← hcs]
      exact hs
    · cases h

/-! ## Strings -/

theorem Quoted.chars_cons (g : Glyph) (gs : List Glyph) :
    Quoted.chars ⟨g :: gs⟩ = g.chars ++ Quoted.chars ⟨gs⟩ :=
  List.append_assoc _ _ _

/-- What is passed over from behind a quote is a string. -/
theorem exists_quoted (h : skipString cs = .ok rest) : ∃ q : Quoted, cs = q.chars ++ rest := by
  fun_induction skipString cs with
  | case2 tail =>
    cases h
    exact ⟨⟨[]⟩, rfl⟩
  | case4 h₁ h₂ h₃ h₄ tail hcode hquote ih =>
    obtain ⟨⟨gs⟩, rfl⟩ := ih h
    exact ⟨⟨.code h₁ h₂ h₃ h₄ hcode :: gs⟩, by rw [Quoted.chars_cons]; rfl⟩
  | case7 e tail he hescape hquote ih =>
    obtain ⟨⟨gs⟩, rfl⟩ := ih h
    exact ⟨⟨.letter e hescape :: gs⟩, by rw [Quoted.chars_cons]; rfl⟩
  | case10 c tail hquote hescape hcontrol ih =>
    obtain ⟨⟨gs⟩, rfl⟩ := ih h
    exact ⟨⟨.plain c ⟨hquote, hescape, hcontrol⟩ :: gs⟩, by rw [Quoted.chars_cons]; rfl⟩
  | _ => cases h

/-! ## Numbers -/

theorem exists_digits (h : skipDigits cs = .ok rest) : ∃ d : Digits, cs = d.chars ++ rest := by
  rw [skipDigits] at h
  split at h
  · cases h
  · next hsome =>
    cases h
    rw [List.isEmpty_iff] at hsome
    exact ⟨⟨_, List.all_takeWhile, hsome⟩, List.takeWhile_append_dropWhile.symm⟩

theorem exists_exponent (h : skipExponent cs = .ok rest) :
    cs = rest ∨ ∃ e : Exponent, cs = e.chars ++ rest := by
  rw [skipExponent.eq_def] at h
  split at h
  · cases h
    exact .inl rfl
  · next c tail =>
    split at h
    · next hmark =>
      refine .inr ?_
      split at h
      · obtain ⟨d, rfl⟩ := exists_digits h
        exact ⟨⟨c, hmark, .plus, d⟩, rfl⟩
      · obtain ⟨d, rfl⟩ := exists_digits h
        exact ⟨⟨c, hmark, .minus, d⟩, rfl⟩
      · obtain ⟨d, rfl⟩ := exists_digits h
        exact ⟨⟨c, hmark, .none, d⟩, rfl⟩
    · cases h
      exact .inl rfl

/-- What is passed over behind the whole part of a number is the rest of a number. -/
theorem exists_fraction (h : skipFraction cs = .ok rest) :
    ∃ fraction exponent, ∀ negative whole noLeadingZero,
      cs = Numeral.tail ⟨negative, whole, noLeadingZero, fraction, exponent⟩ ++ rest := by
  rw [skipFraction.eq_def] at h
  split at h
  · next tail =>
    obtain ⟨behind, hdigits, hexponent⟩ := ok_of_bind h
    obtain ⟨d, rfl⟩ := exists_digits hdigits
    obtain rfl | ⟨e, rfl⟩ := exists_exponent hexponent
    · exact ⟨some d, none, fun _ _ _ => by simp [Numeral.tail, Numeral.exponentChars]⟩
    · exact ⟨some d, some e, fun _ _ _ => by simp [Numeral.tail, Numeral.exponentChars]⟩
  · obtain rfl | ⟨e, rfl⟩ := exists_exponent h
    · exact ⟨none, none, fun _ _ _ => rfl⟩
    · exact ⟨none, some e, fun _ _ _ => rfl⟩

theorem exists_unsigned (h : skipUnsigned cs = .ok rest) (negative : Bool) :
    ∃ n : Numeral, n.negative = negative ∧ cs = n.unsigned ++ rest := by
  rw [skipUnsigned] at h
  split at h
  · cases h
  · cases h
  · next hsome hzero =>
    obtain ⟨fraction, exponent, htail⟩ := exists_fraction h
    let whole : Digits := ⟨cs.takeWhile Char.isDigit, List.all_takeWhile, hsome⟩
    refine ⟨⟨negative, whole, hzero, fraction, exponent⟩, rfl, ?_⟩
    rw [Numeral.unsigned, List.append_assoc, ← htail]
    exact List.takeWhile_append_dropWhile.symm

/-- What is passed over as a number is a number. -/
theorem exists_numeral (h : skipNumber cs = .ok rest) : ∃ n : Numeral, cs = n.chars ++ rest := by
  rw [skipNumber.eq_def] at h
  split at h
  · obtain ⟨n, hn, rfl⟩ := exists_unsigned h true
    exact ⟨n, by rw [Numeral.chars, hn]; rfl⟩
  · obtain ⟨n, hn, rfl⟩ := exists_unsigned h false
    exact ⟨n, by rw [Numeral.chars, hn]; rfl⟩

/-! ## Words between brackets -/

/-- Whether `cs` holds words with commas between them, up to the bracket that closes them, and
`rest` behind that.  Unless they are the first words, there may be the space before them that
belongs to a word further to the front. -/
def Lists (word : List Char → Prop) (closing : Char) (first : Bool) (cs rest : Input) : Prop :=
  ∃ (after : Space) (ws : List (List Char)) (space : Space), (∀ w ∈ ws, word w) ∧
    (first = true → after = Space.none) ∧
    cs = after.val ++ (listed first ws ++ (space.val ++ closing :: rest))

section

variable {word : List Char → Prop} {closing : Char} {first : Bool}

theorem Lists.closed (h : skipSpace cs = closing :: rest) :
    Lists word closing first cs rest := by
  obtain ⟨space, hspace⟩ := exists_space cs
  rw [h] at hspace
  exact ⟨Space.none, [], space, List.forall_mem_nil _, fun _ => rfl, hspace⟩

/-- A word may end with space. -/
theorem Lists.cons {w tail : List Char} (hw : ∀ after : Space, word (w ++ after.val))
    (h : Lists word closing false tail rest) : Lists word closing true (w ++ tail) rest := by
  obtain ⟨after, ws, space, hws, -, rfl⟩ := h
  refine ⟨Space.none, (w ++ after.val) :: ws, space, List.forall_mem_cons.mpr ⟨hw after, hws⟩,
    fun _ => rfl, ?_⟩
  simp [listed, Space.none]

/-- Behind a word there is a comma before the next. -/
theorem Lists.comma {w tail : List Char} (hcs : skipSpace cs = ',' :: (w ++ tail))
    (hw : ∀ after : Space, word (w ++ after.val)) (h : Lists word closing false tail rest) :
    Lists word closing false cs rest := by
  obtain ⟨before, hbefore⟩ := exists_space cs
  obtain ⟨after, ws, space, hws, -, rfl⟩ := h
  refine ⟨before, (w ++ after.val) :: ws, space, List.forall_mem_cons.mpr ⟨hw after, hws⟩,
    fun h => absurd h Bool.false_ne_true, ?_⟩
  rw [hbefore, hcs]
  simp [listed]

end

/-- The words of a container: the items of a list, the members of an object. -/
def Frame.Word : Frame → List Char → Prop
  | .list, w => w ∈ Set.range Padded.chars
  | .object, w => w ∈ Set.range Member.chars

/-- The words between the brackets of a list make a list. -/
theorem Lists.exists_array (h : Lists Frame.list.Word ']' true cs rest) :
    ∃ t : Source, '[' :: cs = t.chars ++ rest := by
  obtain ⟨after, ws, space, hws, hafter, rfl⟩ := h
  have hitems : ws ∈ Set.range (List.map Padded.chars) := by
    rw [Set.range_list_map]
    exact hws
  obtain ⟨items, rfl⟩ := hitems
  refine ⟨.array items space, ?_⟩
  rw [hafter rfl, Source.chars_array]
  simp [Space.none]

/-- The words between the braces of an object make an object. -/
theorem Lists.exists_object (h : Lists Frame.object.Word '}' true cs rest) :
    ∃ t : Source, '{' :: cs = t.chars ++ rest := by
  obtain ⟨after, ws, space, hws, hafter, rfl⟩ := h
  have hmembers : ws ∈ Set.range (List.map Member.chars) := by
    rw [Set.range_list_map]
    exact hws
  obtain ⟨members, rfl⟩ := hmembers
  refine ⟨.object members space, ?_⟩
  rw [hafter rfl, Source.chars_object]
  simp [Space.none]

/-- A value behind what leads to it is a word, with any space before it and behind it. -/
theorem Frame.exists_word {frame : Frame} {t : Source} {front cs₁ tail : Input}
    (hfront : skipSpace front = skipSpace cs) (hlead : frame.lead cs = .ok cs₁)
    (hvalue : skipSpace cs₁ = t.chars ++ tail) :
    ∃ w, front = w ++ tail ∧ ∀ after : Space, frame.Word (w ++ after.val) := by
  obtain ⟨before, hbefore⟩ := exists_space front
  rw [hfront] at hbefore
  cases frame with
  | list =>
    cases hlead
    refine ⟨before.val ++ t.chars, by rw [hbefore, hvalue, List.append_assoc], fun after => ?_⟩
    exact ⟨⟨before, t, after⟩, by rw [Padded.chars, List.append_assoc]⟩
  | object =>
    obtain ⟨behind, hbehind⟩ := exists_space cs₁
    rw [hvalue] at hbehind
    rw [Frame.lead, skipKey] at hlead
    split at hlead
    · cases hlead
    · next c key hcs =>
      split at hlead
      · next hc =>
        obtain ⟨key', hkey, hcolon⟩ := ok_of_bind hlead
        obtain ⟨q, rfl⟩ := exists_quoted hkey
        obtain ⟨beforeColon, rfl⟩ := exists_of_expectColon hcolon
        let member (after : Space) : Member Source :=
          ⟨before, q, beforeColon, ⟨behind, t, after⟩⟩
        refine ⟨(member Space.none).chars, ?_, fun after => ⟨member after, ?_⟩⟩
        · rw [hbefore, hcs, hc, hbehind]
          simp [member, Member.chars, Member.tail, Padded.chars, Space.none]
        · simp [member, Member.chars, Member.tail, Padded.chars, Space.none]
      · cases hlead

/-! ## Walks -/

/-- What the open containers want behind a value: each of them the words behind it and its closing
bracket. -/
def Ends : List Frame → Input → Input → Prop
  | [], cs, rest => cs = rest
  | frame :: frames, cs, rest =>
    ∃ mid, Lists frame.Word frame.closing false cs mid ∧ Ends frames mid rest

/-- What stands at a point of a walk that comes to its end. -/
def SkipPoint.Finds : SkipPoint → List Frame → Input → Input → Prop
  | .value, frames, cs, rest =>
    ∃ (t : Source) (tail : Input), skipSpace cs = t.chars ++ tail ∧ Ends frames tail rest
  | .ended, frames, cs, rest => Ends frames cs rest
  | .entered, [], _, _ => False
  | .entered, frame :: frames, cs, rest =>
    ∃ mid, Lists frame.Word frame.closing true cs mid ∧ Ends frames mid rest

/-! ### One step of a walk -/

section

-- `ih` is what is known of the walks that are one step shorter.
variable {steps : Nat} {frames : List Frame} {cs rest : Input}
  (ih : ∀ {point : SkipPoint} {frames : List Frame} {cs rest : Input},
    skipSteps steps point frames cs = .ok rest → point.Finds frames cs rest)

include ih

theorem finds_ended (h : skipSteps (steps + 1) .ended frames cs = .ok rest) :
    SkipPoint.ended.Finds frames cs rest := by
  cases frames with
  | nil =>
    cases h
    rfl
  | cons frame frames =>
    rw [skipSteps] at h
    split at h
    · cases h
    · next c tail hcs =>
      split at h
      · next hc =>
        obtain ⟨cs₁, hlead, h⟩ := ok_of_bind h
        obtain ⟨t, tail', hvalue, mid, hlists, hends⟩ := ih h
        obtain ⟨w, rfl, hw⟩ := Frame.exists_word rfl hlead hvalue
        rw [hc] at hcs
        exact ⟨mid, hlists.comma hcs hw, hends⟩
      · split at h
        · next hc =>
          rw [hc] at hcs
          exact ⟨tail, .closed hcs, ih h⟩
        · cases h

theorem finds_entered (h : skipSteps (steps + 1) .entered frames cs = .ok rest) :
    SkipPoint.entered.Finds frames cs rest := by
  cases frames with
  | nil => cases h
  | cons frame frames =>
    rw [skipSteps] at h
    split at h
    · cases h
    · next c tail hcs =>
      split at h
      · next hc =>
        rw [hc] at hcs
        exact ⟨tail, .closed hcs, ih h⟩
      · obtain ⟨cs₁, hlead, h⟩ := ok_of_bind h
        obtain ⟨t, tail', hvalue, mid, hlists, hends⟩ := ih h
        have hfront : skipSpace cs = skipSpace (c :: tail) := by rw [← hcs, skipSpace_skipSpace]
        obtain ⟨w, rfl, hw⟩ := Frame.exists_word hfront hlead hvalue
        exact ⟨mid, .cons hw hlists, hends⟩

theorem finds_value (h : skipSteps (steps + 1) .value frames cs = .ok rest) :
    SkipPoint.value.Finds frames cs rest := by
  rw [skipSteps] at h
  split at h
  · cases h
  · next c tail hcs =>
    split_ifs at h with hnull htrue hfalse hquote hnumber hlist hobject
    · obtain ⟨cs₁, hword, h⟩ := ok_of_bind h
      rw [hnull, eq_append_of_expectWord hword] at hcs
      exact ⟨.null, cs₁, hcs, ih h⟩
    · obtain ⟨cs₁, hword, h⟩ := ok_of_bind h
      rw [htrue, eq_append_of_expectWord hword] at hcs
      exact ⟨.bool true, cs₁, hcs, ih h⟩
    · obtain ⟨cs₁, hword, h⟩ := ok_of_bind h
      rw [hfalse, eq_append_of_expectWord hword] at hcs
      exact ⟨.bool false, cs₁, hcs, ih h⟩
    · obtain ⟨cs₁, hstring, h⟩ := ok_of_bind h
      obtain ⟨q, hq⟩ := exists_quoted hstring
      rw [hquote, hq] at hcs
      exact ⟨.string q, cs₁, hcs, ih h⟩
    · obtain ⟨cs₁, hdigits, h⟩ := ok_of_bind h
      obtain ⟨n, hn⟩ := exists_numeral hdigits
      rw [hn] at hcs
      exact ⟨.number n, cs₁, hcs, ih h⟩
    · obtain ⟨mid, hlists, hends⟩ := ih h
      obtain ⟨t, ht⟩ := hlists.exists_array
      rw [hlist, ht] at hcs
      exact ⟨t, mid, hcs, hends⟩
    · obtain ⟨mid, hlists, hends⟩ := ih h
      obtain ⟨t, ht⟩ := hlists.exists_object
      rw [hobject, ht] at hcs
      exact ⟨t, mid, hcs, hends⟩

end

/-- **A walk that comes to its end has found a value.** -/
theorem finds_of_skipSteps (steps : Nat) : ∀ {point : SkipPoint} {frames : List Frame}
    {cs rest : Input}, skipSteps steps point frames cs = .ok rest → point.Finds frames cs rest := by
  induction steps with
  | zero => exact fun h => by cases h
  | succ steps ih =>
    intro point frames cs rest h
    cases point with
    | ended => exact finds_ended ih h
    | entered => exact finds_entered ih h
    | value => exact finds_value ih h

/-- **What can be passed over is a value.** -/
theorem exists_source_of_skipValue (h : skipValue cs = .ok rest) :
    ∃ t : Source, skipSpace cs = t.chars ++ rest := by
  obtain ⟨t, tail, hcs, rfl⟩ := finds_of_skipSteps _ h
  exact ⟨t, hcs⟩

end Json
end ExchangeClient
