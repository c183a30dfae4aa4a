import Mathlib.Data.List.DropRight
import ExchangeClient.Proofs.Text.Utf8
import ExchangeClient.Signing.Credentials

/-!
# What a key file is

A key file is accepted for three reasons together: nobody but its owner may use it,
its octets are a text, and that text starts with two lines that have something on
them.  The grammar below is written down without the loader's splitting and trimming:
a line runs up to its break, a break is a line feed with or without a carriage return,
and the key is the line without the blanks at either end.

The loader splits at line feeds alone.  A carriage return in front of one is then a
blank at the end of the line, so it goes with the others; a carriage return anywhere
else is a blank of its line or stands inside the key.  `KeyFile.Opening` says which
texts start with two given lines, and `KeyFile.Opening.lines` and
`KeyFile.exists_opening` say that the loader finds these lines and no others, up to
that one carriage return.

The main result is `ApiKey.load_by_grammar`: the files that load, the pair that is
loaded, the fault of every other file, and the pairs that are written and read back.
-/

namespace ExchangeClient

namespace Text

/-! ### Trimming -/

/-- Nothing at either end is blank. -/
structure Tight (word : List Char) : Prop where
  first : ∀ c ∈ word.head?, isBlank c = false
  last : ∀ c ∈ word.getLast?, isBlank c = false

/-- `line` is `word` with blanks around it. -/
def Framed (line word : List Char) : Prop :=
  ∃ before after, line = before ++ word ++ after ∧ (∀ c ∈ before, isBlank c = true)
    ∧ (∀ c ∈ after, isBlank c = true) ∧ Tight word

variable {line word : List Char}

/-- What stands at the front when the blanks there are gone is visible. -/
theorem visible_of_head?_dropWhile {cs : List Char} {c : Char}
    (h : c ∈ (cs.dropWhile isBlank).head?) : isBlank c = false := by
  have hnot := List.head?_dropWhile_not isBlank cs
  rw [Option.mem_def.1 h] at hnot
  exact hnot

theorem tight_trimBlank (line : List Char) : Tight (trimBlank line) := by
  refine ⟨fun c hc => ?_, fun c hc => ?_⟩
  · obtain ⟨rest, hrest⟩ : trimBlank line <+: line.dropWhile isBlank :=
      List.rdropWhile_prefix isBlank _
    have hhead : c ∈ (line.dropWhile isBlank).head? := by
      rw [← hrest]
      exact List.mem_head?_append_of_mem_head? hc
    exact visible_of_head?_dropWhile hhead
  · rw [trimBlank, List.getLast?_reverse] at hc
    exact visible_of_head?_dropWhile hc

/-- Every line is what trimming leaves of it, with blanks around it. -/
theorem framed_trimBlank (line : List Char) : Framed line (trimBlank line) := by
  have hline : line = line.takeWhile isBlank ++ trimBlank line
      ++ (line.dropWhile isBlank).rtakeWhile isBlank := by
    rw [List.append_assoc,
      show trimBlank line = (line.dropWhile isBlank).rdropWhile isBlank from rfl,
      List.rdropWhile_append_rtakeWhile, List.takeWhile_append_dropWhile]
  exact ⟨_, _, hline, fun c hc => List.mem_takeWhile_imp hc,
    fun c hc => List.mem_rtakeWhile_imp hc, tight_trimBlank line⟩

theorem Tight.trimBlank_append (h : Tight word) {after : List Char}
    (hafter : ∀ c ∈ after, isBlank c = true) : trimBlank (word ++ after) = word := by
  cases word with
  | nil =>
    rw [List.nil_append, trimBlank, List.dropWhile_eq_nil_iff.2 hafter]
    rfl
  | cons c rest =>
    have hc : isBlank c = false := h.first c rfl
    have hself : trimBlank (c :: rest) = c :: rest := trimBlank_eq_self h.first h.last
    rw [trimBlank, List.dropWhile_cons_of_neg (by simp [hc])] at hself
    rw [List.cons_append, trimBlank, List.dropWhile_cons_of_neg (by simp [hc]),
      ← List.cons_append, List.reverse_append,
      List.dropWhile_append_of_pos fun d hd => hafter d (List.mem_reverse.1 hd), hself]

/-- **Trimming takes the blanks at either end and nothing else.** -/
theorem trimBlank_eq_iff : trimBlank line = word ↔ Framed line word := by
  refine ⟨fun h => h ▸ framed_trimBlank line, ?_⟩
  rintro ⟨before, after, rfl, hbefore, hafter, htight⟩
  rw [trimBlank, List.append_assoc, List.dropWhile_append_of_pos hbefore]
  exact htight.trimBlank_append hafter

/-- A blank at the end of a line is trimmed like no blank there. -/
theorem trimBlank_concat {c : Char} (hc : isBlank c = true) (line : List Char) :
    trimBlank (line ++ [c]) = trimBlank line := by
  obtain ⟨before, after, hline, hbefore, hafter, htight⟩ := framed_trimBlank line
  refine trimBlank_eq_iff.2 ⟨before, after ++ [c], ?_, hbefore, ?_, htight⟩
  · rw [← List.append_assoc, ← hline]
  · simpa [or_imp, forall_and, hc] using hafter

/-! ### Lines -/

/-- A text with a line break has its first line in front of the rest. -/
theorem lines_append_break {raw : List Char} (h : '\n' ∉ raw) (rest : List Char) :
    lines (raw ++ '\n' :: rest) = raw :: lines rest := by
  have hrest : pieces '\n' rest ≠ [] := pieces_ne_nil _ _
  have hlast : (raw :: pieces '\n' rest).getLast? = (pieces '\n' rest).getLast? := by
    rw [List.getLast?_cons, List.getLast?_eq_some_getLast hrest, Option.getD_some]
  rw [lines, lines, pieces_append h, hlast]
  split
  · rw [List.dropLast_cons_of_ne_nil hrest]
  · rfl

/-- A text without a line break is its only line, unless it is empty. -/
theorem lines_of_notMem {raw : List Char} (h : '\n' ∉ raw) :
    lines raw = if raw = [] then [] else [raw] := by
  rw [lines, pieces_of_notMem h]
  by_cases hraw : raw = [] <;> simp [hraw]

end Text

namespace KeyFile

open Text (Framed Tight trimBlank isBlank)

/-! ### The grammar -/

/-- The line breaks: a line feed, with or without a carriage return in front. -/
inductive Break where
  | feed
  | returnFeed

def Break.chars : Break → List Char
  | .feed => ['\n']
  | .returnFeed => ['\r', '\n']

/-- `line` can end with this break.  A line feed behind a carriage return is half of
the other break, so a line that ends with a line feed alone has no carriage return at
its end. -/
structure Break.Ends (b : Break) (line : List Char) : Prop where
  oneLine : '\n' ∉ line
  whole : b = .feed → line.getLast? ≠ some '\r'

/-- The texts whose first two lines are `first` and `second`.  The second line may be
the last one and then needs no break. -/
inductive Opening (first second : List Char) : List Char → Prop where
  | unended (b : Break) : b.Ends first → '\n' ∉ second →
      Opening first second (first ++ b.chars ++ second)
  | ended (b b' : Break) (behind : List Char) : b.Ends first → b'.Ends second →
      Opening first second (first ++ b.chars ++ (second ++ b'.chars ++ behind))

/-- The files that hold the pair `k`: mode `mode`, octets `content`. -/
structure Holds (mode : Nat) (content : List UInt8) (k : ApiKey) : Prop where
  ownerOnly : mode &&& 0o777 = 0o600
  opens : ∃ cs first second, content = Text.Utf8.encode cs ∧ Opening first second cs
    ∧ Framed first k.key.toList ∧ Framed second k.secret.toList
  key_ne : k.key ≠ ""
  secret_ne : k.secret ≠ ""

/-- What is wrong with a file that holds no pair. -/
inductive Faulty (mode : Nat) (content : List UInt8) : KeyFileFault → Prop where
  | insecure : mode &&& 0o777 ≠ 0o600 → Faulty mode content (.insecure (mode &&& 0o777))
  | notText : mode &&& 0o777 = 0o600 → (∀ cs, content ≠ Text.Utf8.encode cs) →
      Faulty mode content .notText
  | incomplete (cs : List Char) : mode &&& 0o777 = 0o600 → content = Text.Utf8.encode cs →
      (∀ k, ¬ Holds mode content k) → Faulty mode content .incomplete

/-- A key or a secret that a line can hold. -/
structure Word (word : String) : Prop where
  ne : word ≠ ""
  oneLine : '\n' ∉ word.toList
  tight : Tight word.toList

/-- `line` is `word` between spaces and tabs. -/
def Padded (line word : List Char) : Prop :=
  ∃ before after, line = before ++ word ++ after ∧ (∀ c ∈ before, c = ' ' ∨ c = '\t')
    ∧ ∀ c ∈ after, c = ' ' ∨ c = '\t'

/-- The contents that a person writes to store the pair `k`: two padded lines with any
line ending, and nothing or any further lines below. -/
structure Stores (content : List UInt8) (k : ApiKey) : Prop where
  key : Word k.key
  secret : Word k.secret
  written : ∃ (first second : List Char) (b : Break) (tail : List Char),
    Padded first k.key.toList ∧ Padded second k.secret.toList
    ∧ (tail = [] ∨ ∃ (b' : Break) (behind : List Char), tail = b'.chars ++ behind)
    ∧ content = Text.Utf8.encode (first ++ b.chars ++ (second ++ tail))

/-! ### The lines the loader sees -/

variable {first second raw cs : List Char}

/-- The loader sees a line up to the line feed: it may have a carriage return at its
end, which trimming takes. -/
theorem Break.Ends.exists_raw {b : Break} (h : b.Ends first) :
    ∃ raw, '\n' ∉ raw ∧ first ++ b.chars = raw ++ ['\n'] ∧ trimBlank raw = trimBlank first := by
  cases b with
  | feed => exact ⟨first, h.oneLine, rfl, rfl⟩
  | returnFeed =>
    refine ⟨first ++ ['\r'], ?_, by simp [Break.chars], Text.trimBlank_concat rfl first⟩
    simpa using h.oneLine

/-- What the loader sees up to a line feed is a line and its break. -/
theorem Break.exists_ends (h : '\n' ∉ raw) :
    ∃ (b : Break) (line : List Char), b.Ends line ∧ raw ++ ['\n'] = line ++ b.chars
      ∧ trimBlank line = trimBlank raw := by
  by_cases hlast : raw.getLast? = some '\r'
  · obtain ⟨line, rfl⟩ := List.getLast?_eq_some_iff.1 hlast
    refine ⟨.returnFeed, line, ⟨fun hmem => h (List.mem_append_left _ hmem), nofun⟩,
      by simp [Break.chars], (Text.trimBlank_concat rfl line).symm⟩
  · exact ⟨.feed, raw, ⟨h, fun _ => hlast⟩, rfl, rfl⟩

/-- The loader finds the first two lines of a text, up to the blanks around them. -/
theorem Opening.lines (h : Opening first second cs) (hsecond : second ≠ []) :
    ∃ others, (Text.lines cs).map trimBlank = trimBlank first :: trimBlank second :: others := by
  cases h with
  | unended b hfirst hone =>
    obtain ⟨raw, hraw, hbreak, htrim⟩ := hfirst.exists_raw
    refine ⟨[], ?_⟩
    rw [hbreak, List.append_assoc, List.singleton_append, Text.lines_append_break hraw,
      Text.lines_of_notMem hone, if_neg hsecond]
    simp [htrim]
  | ended b b' behind hfirst hone =>
    obtain ⟨raw, hraw, hbreak, htrim⟩ := hfirst.exists_raw
    obtain ⟨raw', hraw', hbreak', htrim'⟩ := hone.exists_raw
    refine ⟨(Text.lines behind).map trimBlank, ?_⟩
    rw [hbreak, hbreak', List.append_assoc, List.singleton_append, Text.lines_append_break hraw,
      List.append_assoc, List.singleton_append, Text.lines_append_break hraw']
    simp [htrim, htrim']

/-- The two lines the loader finds are the first two of the text, up to the blanks
around them. -/
theorem exists_opening {raw' : List Char} {others : List (List Char)}
    (h : Text.lines cs = raw :: raw' :: others) :
    ∃ first second, Opening first second cs ∧ trimBlank first = trimBlank raw
      ∧ trimBlank second = trimBlank raw' := by
  have split {cs' : List Char} (hmem : '\n' ∈ cs') :
      ∃ line rest, cs' = line ++ '\n' :: rest ∧ '\n' ∉ line := List.eq_append_cons_of_mem hmem
  by_cases hmem : '\n' ∈ cs
  · obtain ⟨line, rest, rfl, hline⟩ := split hmem
    rw [Text.lines_append_break hline] at h
    obtain ⟨rfl, hrest⟩ := List.cons.inj h
    obtain ⟨b, first, hb, hbreak, hfirst⟩ := Break.exists_ends hline
    rw [show line ++ '\n' :: rest = first ++ b.chars ++ rest by rw [← hbreak]; simp]
    by_cases hmem' : '\n' ∈ rest
    · obtain ⟨line', behind, rfl, hline'⟩ := split hmem'
      rw [Text.lines_append_break hline'] at hrest
      obtain ⟨rfl, -⟩ := List.cons.inj hrest
      obtain ⟨b', second, hb', hbreak', hsecond⟩ := Break.exists_ends hline'
      rw [show line' ++ '\n' :: behind = second ++ b'.chars ++ behind by rw [← hbreak']; simp]
      exact ⟨first, second, .ended b b' behind hb hb', hfirst, hsecond⟩
    · rw [Text.lines_of_notMem hmem'] at hrest
      obtain rfl : rest = raw' := by
        by_cases hempty : rest = [] <;> simp_all
      exact ⟨first, rest, .unended b hb hmem', hfirst, rfl⟩
  · rw [Text.lines_of_notMem hmem] at h
    by_cases hempty : cs = [] <;> simp [hempty] at h

/-! ### Loading -/

/-- Without two lines with something on them a text is incomplete. -/
theorem ofText_eq_error {fault : KeyFileFault} (h : ofText cs = .error fault) :
    fault = .incomplete := by
  unfold ofText at h
  split at h
  · split at h
    · exact (Except.error.inj h).symm
    · cases h
  · exact (Except.error.inj h).symm

/-- The pair in a text: its first two lines, trimmed, if something is left of both. -/
theorem ofText_eq_ok_iff {k : ApiKey} :
    ofText cs = .ok k ↔ ∃ first second, Opening first second cs ∧ Framed first k.key.toList
      ∧ Framed second k.secret.toList ∧ k.key ≠ "" ∧ k.secret ≠ "" := by
  constructor
  · intro h
    unfold ofText at h
    split at h
    next key secret others hlines =>
      obtain ⟨raw, rest, hraw, hkey, hrest⟩ := List.map_eq_cons_iff.1 hlines
      obtain ⟨raw', others', rfl, hsecret, -⟩ := List.map_eq_cons_iff.1 hrest
      split at h
      · cases h
      next hne =>
        obtain ⟨first, second, hopening, hfirst, hsecond⟩ := exists_opening hraw
        obtain rfl := Except.ok.inj h
        simp only [Bool.or_eq_true, List.isEmpty_iff, not_or] at hne
        refine ⟨first, second, hopening, ?_, ?_, ?_, ?_⟩
        · rw [String.toList_ofList, ← Text.trimBlank_eq_iff, hfirst, hkey]
        · rw [String.toList_ofList, ← Text.trimBlank_eq_iff, hsecond, hsecret]
        · simpa using hne.1
        · simpa using hne.2
    · cases h
  · rintro ⟨first, second, hopening, hfirst, hsecond, hkey, hsecret⟩
    have hfirst : trimBlank first = k.key.toList := Text.trimBlank_eq_iff.2 hfirst
    have hsecond : trimBlank second = k.secret.toList := Text.trimBlank_eq_iff.2 hsecond
    have hne : second ≠ [] := by
      rintro rfl
      exact hsecret (String.toList_eq_nil_iff.1 hsecond.symm)
    obtain ⟨others, hlines⟩ := hopening.lines hne
    unfold ofText
    rw [hlines, hfirst, hsecond]
    simp [hkey, hsecret]

variable {mode : Nat} {content : List UInt8} {k : ApiKey}

/-- The nine bits of permission are the remainder that the loader looks at. -/
theorem permission_eq_mod (mode : Nat) : mode &&& 0o777 = mode % 0o1000 :=
  Nat.and_two_pow_sub_one_eq_mod mode 9

theorem isPrivate_iff : isPrivate mode = true ↔ mode &&& 0o777 = 0o600 := by
  rw [isPrivate, beq_iff_eq, permission_eq_mod]

/-- The loader takes a pair from the files that hold it. -/
theorem load_eq_ok_iff : load (.file mode content) = .ok k ↔ Holds mode content k := by
  rw [load]
  by_cases hmode : isPrivate mode = true
  · rw [if_pos hmode]
    constructor
    · intro h
      split at h
      next cs hcs =>
        obtain ⟨first, second, hopening, hfirst, hsecond, hkey, hsecret⟩ := ofText_eq_ok_iff.1 h
        exact ⟨isPrivate_iff.1 hmode,
          ⟨cs, first, second, Text.Utf8.decode_eq_ok_iff.1 hcs, hopening, hfirst, hsecond⟩, hkey,
          hsecret⟩
      · cases h
    · rintro ⟨-, ⟨cs, first, second, hcontent, hopening, hfirst, hsecond⟩, hkey, hsecret⟩
      rw [Text.Utf8.decode_eq_ok_iff.2 hcontent]
      exact ofText_eq_ok_iff.2 ⟨first, second, hopening, hfirst, hsecond, hkey, hsecret⟩
  · rw [if_neg hmode]
    exact ⟨nofun, fun h => absurd (isPrivate_iff.2 h.ownerOnly) hmode⟩

/-- The loader names what is wrong with a file that holds no pair. -/
theorem load_eq_error (hnone : ∀ k, ¬ Holds mode content k) :
    ∃ fault, load (.file mode content) = .error fault ∧ Faulty mode content fault := by
  cases hload : load (.file mode content) with
  | ok k => exact absurd (load_eq_ok_iff.1 hload) (hnone k)
  | error fault =>
    refine ⟨fault, rfl, ?_⟩
    rw [load] at hload
    by_cases hmode : isPrivate mode = true
    · rw [if_pos hmode] at hload
      have hbits := isPrivate_iff.1 hmode
      split at hload
      next cs hcs =>
        obtain rfl := ofText_eq_error hload
        exact .incomplete cs hbits (Text.Utf8.decode_eq_ok_iff.1 hcs) hnone
      next hcs =>
        obtain rfl := Except.error.inj hload
        refine .notText hbits fun cs hcontent => ?_
        rw [Text.Utf8.decode_eq_ok_iff.2 hcontent] at hcs
        cases hcs
    · rw [if_neg hmode] at hload
      obtain rfl := Except.error.inj hload
      rw [← permission_eq_mod]
      exact .insecure fun h => hmode (isPrivate_iff.2 h)

/-! ### Writing a pair -/

theorem isBlank_of_pad {c : Char} (h : c = ' ' ∨ c = '\t') : isBlank c = true := by
  rcases h with rfl | rfl <;> rfl

theorem Padded.framed {line : List Char} {word : String} (h : Padded line word.toList)
    (hword : Word word) : Framed line word.toList := by
  obtain ⟨before, after, hline, hbefore, hafter⟩ := h
  exact ⟨before, after, hline, fun c hc => isBlank_of_pad (hbefore c hc),
    fun c hc => isBlank_of_pad (hafter c hc), hword.tight⟩

theorem Padded.oneLine {line : List Char} {word : String} (h : Padded line word.toList)
    (hword : Word word) : '\n' ∉ line := by
  obtain ⟨before, after, rfl, hbefore, hafter⟩ := h
  simp only [List.mem_append, not_or]
  refine ⟨⟨fun hmem => ?_, hword.oneLine⟩, fun hmem => ?_⟩
  · exact absurd (hbefore _ hmem) (by decide)
  · exact absurd (hafter _ hmem) (by decide)

/-- A padded line ends with a visible character, a space or a tab: any break fits. -/
theorem Padded.ends {line : List Char} {word : String} (h : Padded line word.toList)
    (hword : Word word) (b : Break) : b.Ends line := by
  refine ⟨h.oneLine hword, fun _ hlast => ?_⟩
  obtain ⟨before, after, rfl, -, hafter⟩ := h
  have hne : word.toList ≠ [] := fun hnil => hword.ne (String.toList_eq_nil_iff.1 hnil)
  rcases List.eq_nil_or_concat after with rfl | ⟨rest, c, rfl⟩
  · rw [List.append_nil, List.getLast?_append_of_ne_nil _ hne] at hlast
    exact absurd (hword.tight.last _ hlast) (by decide)
  · rw [List.concat_eq_append, ← List.append_assoc, List.getLast?_concat] at hlast
    obtain rfl := Option.some.inj hlast
    exact absurd (hafter '\r' (by simp)) (by decide)

/-- A file of the owner's with a stored pair holds it. -/
theorem Stores.holds (h : Stores content k) (hmode : mode &&& 0o777 = 0o600) :
    Holds mode content k := by
  obtain ⟨hkey, hsecret, first, second, b, tail, hfirst, hsecond, htail, hcontent⟩ := h
  refine ⟨hmode, ⟨_, first, second, hcontent, ?_, hfirst.framed hkey, hsecond.framed hsecret⟩,
    hkey.ne, hsecret.ne⟩
  rcases htail with rfl | ⟨b', behind, rfl⟩
  · rw [List.append_nil]
    exact .unended b (hfirst.ends hkey b) (hsecond.oneLine hsecret)
  · rw [← List.append_assoc second]
    exact .ended b b' behind (hfirst.ends hkey b) (hsecond.ends hsecret b')

end KeyFile

/-- **The key files that load.**  A file loads exactly when it holds a pair, and the
pair it loads is that one; any other file is reported as a fault of the configuration
that names the path and what is wrong with the file.  A pair written with padding, any
line endings and anything below is read back. -/
theorem ApiKey.load_by_grammar (path : String) (mode : Nat) (content : List UInt8) :
    (∀ k, ApiKey.load path (.file mode content) = .ok k ↔ KeyFile.Holds mode content k)
    ∧ ((∀ k, ¬ KeyFile.Holds mode content k) →
      ∃ fault, ApiKey.load path (.file mode content) = .error (.config (.keyFile path fault))
        ∧ KeyFile.Faulty mode content fault)
    ∧ ∀ k, KeyFile.Stores content k → mode &&& 0o777 = 0o600 →
      ApiKey.load path (.file mode content) = .ok k := by
  have hload (k : ApiKey) :
      ApiKey.load path (.file mode content) = .ok k ↔ KeyFile.Holds mode content k := by
    rw [← KeyFile.load_eq_ok_iff, ApiKey.load]
    cases KeyFile.load (.file mode content) <;> simp
  refine ⟨hload, fun hnone => ?_, fun k hk hmode => (hload k).2 (hk.holds hmode)⟩
  obtain ⟨fault, hfault, hfaulty⟩ := KeyFile.load_eq_error hnone
  exact ⟨fault, by rw [ApiKey.load, hfault], hfaulty⟩

/-- A key file with a padded key, both line endings and a line of notes. -/
def annotatedKeyFile : List UInt8 :=
  Text.Utf8.encode "  my-key \r\nmy-secret\nsince May".toList

/-- The annotated file loads for its owner and not when others may read it. -/
theorem annotatedKeyFile_loads :
    KeyFile.Stores annotatedKeyFile ⟨"my-key", "my-secret"⟩
    ∧ ApiKey.load "key" (.file 0o100600 annotatedKeyFile) = .ok ⟨"my-key", "my-secret"⟩
    ∧ (∀ k, ¬ KeyFile.Holds 0o644 annotatedKeyFile k)
    ∧ ∃ fault,
      ApiKey.load "key" (.file 0o644 annotatedKeyFile) = .error (.config (.keyFile "key" fault))
        ∧ KeyFile.Faulty 0o644 annotatedKeyFile fault := by
  have hkey : KeyFile.Word "my-key" :=
    ⟨by decide, by decide, by rintro _ ⟨⟩; rfl, by rintro _ ⟨⟩; rfl⟩
  have hsecret : KeyFile.Word "my-secret" :=
    ⟨by decide, by decide, by rintro _ ⟨⟩; rfl, by rintro _ ⟨⟩; rfl⟩
  have hstores : KeyFile.Stores annotatedKeyFile ⟨"my-key", "my-secret"⟩ :=
    ⟨hkey, hsecret, "  my-key ".toList, "my-secret".toList, .returnFeed, "\nsince May".toList,
      ⟨[' ', ' '], [' '], rfl, by simp, by simp⟩, ⟨[], [], rfl, by simp, by simp⟩,
      .inr ⟨.feed, "since May".toList, rfl⟩, rfl⟩
  have hnone (k : ApiKey) : ¬ KeyFile.Holds 0o644 annotatedKeyFile k :=
    fun h => absurd h.ownerOnly (by decide)
  exact ⟨hstores, (ApiKey.load_by_grammar "key" 0o100600 _).2.2 _ hstores (by decide), hnone,
    (ApiKey.load_by_grammar "key" 0o644 _).2.1 hnone⟩

/-- A carriage return on its own ends no line. -/
example : KeyFile.ofText "my-key\rmy-secret".toList = .error .incomplete := by decide

end ExchangeClient
