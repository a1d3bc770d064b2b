import FlowSketch.Proofs.LexerHalting

/-!
# The lines of tokens

The lexer takes a source portion by portion, and a token stands on the line on which its portion begins. Readers count the
newlines of what they take, all but those that are escaped in a literal, so the lines are the right ones as long as no token
follows such a newline.
-/
namespace FlowSketch.BraceLexer
open BraceAttempt

/-! ### What readers take -/

/-- The reading takes a text from the front of the characters and misses some of its newlines. -/
structure Read.Takes (r : Read) (cs text : List Char) (missed : ℕ) : Prop where
  split : cs = text ++ r.rest
  lines : text.count '\n' = r.lines + missed

theorem count_newline_cons (c : Char) (cs : List Char) : (c :: cs).count '\n' = lineOf c + cs.count '\n' := by
  rw [List.count_cons, lineOf, add_comm]
  simp only [beq_iff_eq]

theorem takes_nothing : Read.Takes ⟨[], 0, []⟩ [] [] 0 := ⟨rfl, rfl⟩

namespace Read.Takes

variable {r : Read} {cs text : List Char} {missed : ℕ} {c : Char}

theorem cons_plain (h : r.Takes cs text missed) (hc : c ≠ '\n') : r.Takes (c :: cs) (c :: text) missed :=
  ⟨congrArg (c :: ·) h.split, by rw [List.count_cons_of_ne hc, h.lines]⟩

theorem push_counted (h : r.Takes cs text missed) (v : Char) :
    (r.push v (lineOf c)).Takes (c :: cs) (c :: text) missed := by
  refine ⟨congrArg (c :: ·) h.split, ?_⟩
  rw [count_newline_cons, h.lines, ← add_assoc]
  rfl

theorem push_missed (h : r.Takes cs text missed) (v : Char) :
    (r.push v 0).Takes (c :: cs) (c :: text) (lineOf c + missed) := by
  refine ⟨congrArg (c :: ·) h.split, ?_⟩
  have hlines : (r.push v 0).lines = r.lines := Nat.zero_add r.lines
  rw [count_newline_cons, h.lines, hlines, ← add_assoc, ← add_assoc, add_comm (lineOf c)]

theorem push_part {inner : Read} {before : List Char} (hinner : inner.Takes cs before 0)
    (h : r.Takes inner.rest text missed) (v : Char) : (r.push v inner.lines).Takes cs (before ++ text) missed := by
  refine ⟨?_, ?_⟩
  · calc cs = before ++ inner.rest := hinner.split
      _ = before ++ (text ++ r.rest) := by rw [← h.split]
      _ = before ++ text ++ (r.push v inner.lines).rest := (List.append_assoc _ _ _).symm
  · have hlines : (r.push v inner.lines).lines = inner.lines + r.lines := rfl
    rw [List.count_append, hinner.lines, h.lines, hlines, add_zero, add_assoc]

end Read.Takes

theorem readComment_takes (cs : List Char) : ∃ text, (readComment cs).Takes cs text 0 := by
  fun_induction readComment cs with
  | case1 => exact ⟨[], takes_nothing⟩
  | case2 cs => exact ⟨['*', '/'], rfl, rfl⟩
  | case3 c cs _ ih =>
    obtain ⟨text, htext⟩ := ih
    exact ⟨c :: text, htext.push_counted c⟩

/-- The newlines behind a backslash, in a string without its opening quote. -/
def stringEscapes : List Char → ℕ
  | '\\' :: c :: cs => lineOf c + stringEscapes cs
  | _ :: cs => stringEscapes cs
  | [] => 0

theorem stringEscapes_plain {c : Char} (hc : c ≠ '\\') (cs : List Char) :
    stringEscapes (c :: cs) = stringEscapes cs := by
  rw [stringEscapes]
  exact fun _ _ h => absurd h hc

theorem readString_takes {quote : Char} (hquote : quote ≠ '\n' ∧ quote ≠ '\\') (cs : List Char) :
    ∃ text, (readString quote cs).Takes cs text (stringEscapes text) := by
  fun_induction readString quote cs with
  | case1 => exact ⟨[], takes_nothing⟩
  | case2 => exact ⟨['\\'], rfl, rfl⟩
  | case3 c cs ih =>
    obtain ⟨text, htext⟩ := ih
    refine ⟨'\\' :: c :: text, ?_⟩
    rw [stringEscapes]
    exact (htext.push_missed c).cons_plain (by decide)
  | case4 cs hlast hescape =>
    refine ⟨[quote], rfl, ?_⟩
    rw [stringEscapes_plain hquote.2, List.count_singleton]
    simp [stringEscapes, hquote.1]
  | case5 c cs hlast hescape hc ih =>
    obtain ⟨text, htext⟩ := ih
    have hplain : c ≠ '\\' := by
      rintro rfl
      cases cs with
      | nil => exact hlast rfl rfl
      | cons d cs => exact hescape d cs rfl rfl
    refine ⟨c :: text, ?_⟩
    rw [stringEscapes_plain hplain]
    exact htext.push_counted c

/-- An interpolation that is closed is read the same whatever follows it. -/
theorem readInterpolation_takes (depth : ℕ) (cs : List Char) :
    ∃ text, (readInterpolation depth cs).Takes cs text 0 ∧
      ∀ later, later <+: (readInterpolation depth cs).rest → (readInterpolation depth (text ++ later)).rest = later := by
  fun_induction readInterpolation depth cs with
  | case1 depth =>
    refine ⟨[], takes_nothing, fun later hlater => ?_⟩
    rw [List.prefix_nil.mp hlater]
    rfl
  | case2 depth cs ih =>
    obtain ⟨text, htext, hlater⟩ := ih
    refine ⟨'{' :: text, htext.push_missed '{', fun later h => ?_⟩
    have hread : readInterpolation depth ('{' :: text ++ later) =
        (readInterpolation (depth + 1) (text ++ later)).push '{' 0 := by simp [readInterpolation]
    rw [hread]
    exact hlater later h
  | case3 cs _ => exact ⟨['}'], ⟨rfl, rfl⟩, fun later _ => by simp [readInterpolation]⟩
  | case4 cs depth _ ih =>
    obtain ⟨text, htext, hlater⟩ := ih
    refine ⟨'}' :: text, htext.push_missed '}', fun later h => ?_⟩
    have hread : readInterpolation (depth + 1) ('}' :: text ++ later) =
        (readInterpolation depth (text ++ later)).push '}' 0 := by simp [readInterpolation]
    rw [hread]
    exact hlater later h
  | case5 depth c cs hopen hclose ih =>
    obtain ⟨text, htext, hlater⟩ := ih
    refine ⟨c :: text, htext.push_counted c, fun later h => ?_⟩
    have hread : readInterpolation depth (c :: text ++ later) =
        (readInterpolation depth (text ++ later)).push c (lineOf c) := by simp [readInterpolation, hopen, hclose]
    rw [hread]
    exact hlater later h

/-- The newlines behind a backslash, in a template without its opening mark. Interpolations are passed over. -/
def templateEscapes : List Char → ℕ
  | '\\' :: c :: cs => lineOf c + templateEscapes cs
  | '$' :: '{' :: cs =>
    have := readInterpolation_rest_length 0 cs
    templateEscapes (readInterpolation 0 cs).rest
  | _ :: cs => templateEscapes cs
  | [] => 0
termination_by cs => cs.length
decreasing_by all_goals simp_wf <;> omega

theorem templateEscapes_plain {c : Char} {cs : List Char} (hescape : c ≠ '\\')
    (hopen : ∀ later, c = '$' → cs ≠ '{' :: later) : templateEscapes (c :: cs) = templateEscapes cs := by
  rw [templateEscapes]
  · exact fun _ _ h => absurd h hescape
  · exact fun later h => hopen later h

theorem readTemplate_takes (cs : List Char) :
    ∃ text, (readTemplate cs).Takes cs text (templateEscapes text) := by
  fun_induction readTemplate cs with
  | case1 => exact ⟨[], rfl, by simp [templateEscapes]⟩
  | case2 => exact ⟨['\\'], rfl, by simp [templateEscapes]⟩
  | case3 c cs ih =>
    obtain ⟨text, htext⟩ := ih
    refine ⟨'\\' :: c :: text, ?_⟩
    rw [templateEscapes]
    exact (htext.push_missed c).cons_plain (by decide)
  | case4 cs inner _ ih =>
    obtain ⟨text, htext⟩ := ih
    obtain ⟨innerText, hinner, hlater⟩ := readInterpolation_takes 0 cs
    have hread : (readInterpolation 0 (innerText ++ text)).rest = text := hlater text (htext.split ▸ List.prefix_append _ _)
    refine ⟨'$' :: '{' :: (innerText ++ text), ?_⟩
    rw [templateEscapes, hread]
    exact ((hinner.push_part htext placeholder).cons_plain (by decide)).cons_plain (by decide)
  | case5 cs hlast hescape hopen =>
    refine ⟨['\x60'], rfl, ?_⟩
    rw [templateEscapes_plain (by decide) (by simp)]
    simp [templateEscapes]
  | case6 c cs hlast hescape hopen hc ih =>
    obtain ⟨text, htext⟩ := ih
    have hplain : c ≠ '\\' := by
      rintro rfl
      cases cs with
      | nil => exact hlast rfl rfl
      | cons d cs => exact hescape d cs rfl rfl
    have hnot (later : List Char) (hdollar : c = '$') : text ≠ '{' :: later := by
      rintro rfl
      exact hopen _ hdollar htext.split
    refine ⟨c :: text, ?_⟩
    rw [templateEscapes_plain hplain hnot]
    exact htext.push_counted c

/-! ### What lexemes take -/

/-- The escaped newlines of what a lexeme takes; there are none outside of literals. -/
def escapedLines : List Char → ℕ
  | '\x60' :: cs => templateEscapes cs
  | '\'' :: cs | '"' :: cs => stringEscapes cs
  | _ => 0

theorem escapedLines_plain {c : Char} (htemplate : c ≠ '\x60') (hquote : c ≠ '\'' ∧ c ≠ '"') (cs : List Char) :
    escapedLines (c :: cs) = 0 := by
  unfold escapedLines
  split <;> simp_all

theorem escapedLines_string {c : Char} (hquote : c = '\'' ∨ c = '"') (cs : List Char) :
    escapedLines (c :: cs) = stringEscapes cs := by
  rcases hquote with rfl | rfl <;> rfl

theorem run_takes (kind : List Char → Token.Kind) {p : Char → Bool} (hp : p '\n' = false) {c : Char} (hc : c ≠ '\n')
    (cs : List Char) : (run kind p c cs).read.Takes (c :: cs) (c :: cs.takeWhile p) 0 := by
  have hnone : '\n' ∉ cs.takeWhile p := by
    intro h
    have htaken := List.mem_takeWhile_imp h
    rw [hp] at htaken
    exact Bool.false_ne_true htaken
  refine ⟨by rw [run, List.cons_append, List.takeWhile_append_dropWhile], ?_⟩
  rw [List.count_cons_of_ne hc, List.count_eq_zero_of_not_mem hnone]
  rfl

theorem single_takes {c : Char} (hc : c ≠ '\n') (value cs : List Char) : Read.Takes ⟨value, 0, cs⟩ (c :: cs) [c] 0 := by
  refine ⟨rfl, ?_⟩
  rw [List.count_cons_of_ne hc]
  rfl

theorem longOperators_newline {op : List Char} (h : op ∈ longOperators) : '\n' ∉ op := by
  have hall : longOperators.all (fun op => !op.contains '\n') = true := by decide
  simpa using List.all_eq_true.mp hall op h

theorem operator_takes {c : Char} {cs op : List Char} (hop : operatorAt (c :: cs) = some op) :
    ∃ text, Read.Takes ⟨op, 0, cs.drop (op.length - 1)⟩ (c :: cs) (c :: text) 0 := by
  have hfound : longOperators.find? (fun op => op.isPrefixOf (c :: cs)) = some op := hop
  have hnone := longOperators_newline (List.mem_of_find?_eq_some hfound)
  obtain ⟨inner, rest, rfl, rfl, -⟩ := operatorAt_eq_some hop
  refine ⟨inner, by simp, ?_⟩
  rw [List.count_eq_zero_of_not_mem hnone]

/-- Outside of literals no newline is missed. -/
theorem lexeme_takes_all {c : Char} (hc : c ≠ '\x60' ∧ c ≠ '\'' ∧ c ≠ '"') (cs : List Char) :
    ∃ text, (lexeme c cs).read.Takes (c :: cs) (c :: text) 0 := by
  obtain ⟨htemplate, hquotes⟩ := hc
  rw [lexeme]
  split
  · next hc => exact ⟨[], by rw [hc]; exact ⟨rfl, rfl⟩⟩
  next hnewline =>
  split
  · exact ⟨[], single_takes hnewline _ _⟩
  split
  · next hc =>
    have hnone : '\n' ∉ cs.takeWhile (· ≠ '\n') := fun h => by simpa using List.mem_takeWhile_imp h
    refine ⟨cs.takeWhile (· ≠ '\n'), ?_, ?_⟩
    · rw [skip, List.cons_append, List.takeWhile_append_dropWhile]
    · rw [List.count_cons_of_ne hnewline, List.count_eq_zero_of_not_mem hnone]
      rfl
  split
  · next hc =>
    have hhead : cs.head? = some '*' := by simpa using (Bool.and_eq_true_iff.mp hc).2
    obtain ⟨later, rfl⟩ := List.head?_eq_some_iff.mp hhead
    obtain ⟨text, htext⟩ := readComment_takes later
    have htaken := (htext.cons_plain (c := '*') (by decide)).cons_plain hnewline
    exact ⟨'*' :: text, htaken.split, htaken.lines⟩
  rw [if_neg (by simpa using hquotes)]
  split
  · exact ⟨_, run_takes (p := isNumberChar) _ (by decide) hnewline cs⟩
  split
  · exact ⟨_, run_takes (p := isNameChar) _ (by decide) hnewline cs⟩
  split
  · exact ⟨[], single_takes hnewline _ _⟩
  split
  · next op hop => exact operator_takes hop
  · split <;> exact ⟨[], single_takes hnewline _ _⟩

/-- A lexeme takes a text from the front of the source, and misses the newlines that are escaped in it. -/
theorem lexeme_takes (c : Char) (cs : List Char) :
    ∃ text, (lexeme c cs).read.Takes (c :: cs) (c :: text) (escapedLines (c :: text)) := by
  by_cases htemplate : c = '\x60'
  · subst htemplate
    obtain ⟨text, htext⟩ := readTemplate_takes cs
    exact ⟨text, htext.cons_plain (by decide)⟩
  by_cases hquote : c = '\'' ∨ c = '"'
  · have hlexeme : lexeme c cs = ⟨some .string, readString c cs⟩ := by rcases hquote with rfl | rfl <;> rfl
    have hplain : c ≠ '\n' ∧ c ≠ '\\' := by rcases hquote with rfl | rfl <;> decide
    obtain ⟨text, htext⟩ := readString_takes hplain cs
    rw [hlexeme]
    refine ⟨text, ?_⟩
    rw [escapedLines_string hquote]
    exact htext.cons_plain hplain.1
  · obtain ⟨text, htext⟩ := lexeme_takes_all ⟨htemplate, not_or.mp hquote⟩ cs
    refine ⟨text, ?_⟩
    rwa [escapedLines_plain htemplate (not_or.mp hquote)]

/-! ### Portions -/

/-- A stretch of the source that is taken at once, and what is made of it. -/
structure Portion where
  text : List Char
  lexeme : Lexeme

/-- The portion that `c` begins. -/
def portion (c : Char) (cs : List Char) : Portion :=
  ⟨(c :: cs).take ((c :: cs).length - (lexeme c cs).read.rest.length), lexeme c cs⟩

/-- The stretches in which the lexer takes a source. -/
def portions : List Char → List Portion
  | [] => []
  | c :: cs => portion c cs :: portions (lexeme c cs).read.rest
termination_by cs => cs.length
decreasing_by exact Nat.lt_succ_of_le (lexeme_rest_length c cs)

theorem portion_takes (c : Char) (cs : List Char) :
    (lexeme c cs).read.Takes (c :: cs) (portion c cs).text (escapedLines (portion c cs).text) := by
  obtain ⟨text, htext⟩ := lexeme_takes c cs
  have hlength : (c :: cs).length - (lexeme c cs).read.rest.length = (c :: text).length := by
    have hlengths := congrArg List.length htext.split
    rw [List.length_append] at hlengths
    omega
  have hportion : (portion c cs).text = c :: text := by
    rw [portion, hlength]
    conv_lhs => rw [htext.split]
    exact List.take_left
  rwa [hportion]

/-- Portions lie side by side and leave nothing out. -/
theorem portions_text (cs : List Char) : (portions cs).flatMap Portion.text = cs := by
  induction cs using portions.induct with
  | case1 => simp [portions]
  | case2 c cs ih => rw [portions, List.flatMap_cons, ih, ← (portion_takes c cs).split]

/-! ### Due lines -/

/-- The line on which a text ends that begins on the first one. -/
def lineAfter (before : List Char) : ℕ := 1 + before.count '\n'

/-- The tokens of portions that follow a text, each on the line on which its portion begins. -/
def dueTokens (before : List Char) : List Portion → List Token
  | [] => []
  | p :: ps => (p.lexeme.token? (lineAfter before)).toList ++ dueTokens (before ++ p.text) ps

theorem token?_toList_eq_iff (l : Lexeme) (line due : ℕ) :
    (l.token? line).toList = (l.token? due).toList ↔ (l.kind.isSome → line = due) := by
  rw [Lexeme.token?, Lexeme.token?]
  cases l.kind <;> simp

theorem token?_append_eq_iff (l : Lexeme) (line due : ℕ) (ts us : List Token) :
    (l.token? line).toList ++ ts = (l.token? due).toList ++ us ↔ (l.kind.isSome → line = due) ∧ ts = us := by
  rw [← token?_toList_eq_iff]
  constructor
  · refine fun h => List.append_inj h ?_
    rw [Lexeme.token?, Lexeme.token?]
    cases l.kind <;> rfl
  · rintro ⟨hhead, htail⟩
    rw [hhead, htail]

/-- With `missed` newlines missed so far, tokens stand on the due lines exactly if there are none, and none is missed before
a token later on. -/
theorem tokensFrom_due_iff (line : ℕ) (cs : List Char) {missed : ℕ} {before : List Char}
    (h : line + missed = lineAfter before) :
    tokensFrom line cs = dueTokens before (portions cs) ↔
      (∀ q ∈ portions cs, q.lexeme.kind.isSome → missed = 0) ∧
        (portions cs).Pairwise fun p q => q.lexeme.kind.isSome → escapedLines p.text = 0 := by
  induction line, cs using tokensFrom.induct generalizing missed before with
  | case1 line => simp [tokensFrom, portions, dueTokens]
  | case2 line c cs ih =>
    have htakes := portion_takes c cs
    have hlater : line + (lexeme c cs).read.lines + (missed + escapedLines (portion c cs).text) =
        lineAfter (before ++ (portion c cs).text) := by
      rw [lineAfter] at h ⊢
      rw [List.count_append, htakes.lines]
      omega
    have hhead : (line = lineAfter before) ↔ missed = 0 := by omega
    have hlexeme : (portion c cs).lexeme = lexeme c cs := rfl
    rw [tokensFrom, portions, dueTokens, hlexeme, token?_append_eq_iff, ih hlater, hhead, List.forall_mem_cons,
      List.pairwise_cons, hlexeme]
    simp only [Nat.add_eq_zero_iff, imp_and, forall_and, and_assoc]

/-- The lexer takes a source portion by portion, and each token stands on the line on which its portion begins exactly if no
token follows a literal in which a newline is escaped. -/
theorem lines_due_iff (code : String) :
    (portions code.toList).flatMap Portion.text = code.toList ∧
      (tokens code = dueTokens [] (portions code.toList) ↔
        (portions code.toList).Pairwise fun p q => q.lexeme.kind.isSome → escapedLines p.text = 0) := by
  refine ⟨portions_text code.toList, ?_⟩
  have hfirst : 1 + 0 = lineAfter [] := rfl
  rw [tokens, tokensFrom_due_iff 1 code.toList hfirst]
  exact and_iff_right fun _ _ _ => rfl

/-- The newline behind the backslash is not counted, so the name is taken to be on the first line. -/
theorem escaped_newline_not_due : tokens "'a\\\nb' c" ≠ dueTokens [] (portions "'a\\\nb' c".toList) := by
  decide +kernel

end FlowSketch.BraceLexer
