import FlowSketch.Proofs.BlockPlaces
import FlowSketch.Proofs.FlattenedText
import FlowSketch.Proofs.TokenLines

/-!
# Seams of a source

Behind code without literals and comments, a newline or a comment begins afresh: what the lexer reads before it is not
changed by it, and what it reads behind it is what it reads there alone, on later lines.
-/
namespace FlowSketch.BraceLexer
open BraceAttempt

/-! ### Code -/

/-- Text without literals and comments, at the end of which no comment can begin. -/
structure IsCode (cs : List Char) : Prop where
  unquoted : '\x60' ∉ cs ∧ '\'' ∉ cs ∧ '"' ∉ cs
  uncommented : ¬ ['/', '/'] <:+: cs ∧ ¬ ['/', '*'] <:+: cs
  ended : cs.getLast? ≠ some '/'

/-- Text that ends, or goes on with a newline or a comment. -/
def Breaks (rest : List Char) : Prop := ∀ c ∈ rest.head?, c = '\n' ∨ c = '/'

theorem IsCode.of_suffix {cs later : List Char} (h : IsCode cs) (hsuffix : later <:+ cs) : IsCode later := by
  have hmem {c : Char} (hc : c ∉ cs) : c ∉ later := fun hlater => hc (hsuffix.subset hlater)
  refine ⟨⟨hmem h.unquoted.1, hmem h.unquoted.2.1, hmem h.unquoted.2.2⟩, ?_, fun hlast => h.ended ?_⟩
  · exact ⟨fun hpair => h.uncommented.1 (hpair.trans hsuffix.isInfix), fun hpair => h.uncommented.2 (hpair.trans hsuffix.isInfix)⟩
  · obtain ⟨before, rfl⟩ := hsuffix
    rw [List.getLast?_append, hlast, Option.some_or]

theorem IsCode.tail {c : Char} {cs : List Char} (h : IsCode (c :: cs)) : IsCode cs := h.of_suffix (List.suffix_cons c cs)

theorem IsCode.head {c : Char} {cs : List Char} (h : IsCode (c :: cs)) : c ≠ '\x60' ∧ c ≠ '\'' ∧ c ≠ '"' := by
  have hquotes := h.unquoted
  simp only [List.mem_cons, not_or] at hquotes
  exact ⟨Ne.symm hquotes.1.1, Ne.symm hquotes.2.1.1, Ne.symm hquotes.2.2.1⟩

/-- No slash of code begins a comment, whatever follows the code. -/
theorem IsCode.no_comment {c : Char} {cs : List Char} (h : IsCode (c :: cs)) (rest : List Char) (hc : c = '/') :
    (cs ++ rest).head? ≠ some '/' ∧ (cs ++ rest).head? ≠ some '*' := by
  subst hc
  cases cs with
  | nil => exact absurd rfl h.ended
  | cons d cs =>
    have hpair : ['/', d] <:+: '/' :: d :: cs := (List.prefix_append ['/', d] cs).isInfix
    refine ⟨fun hd => ?_, fun hd => ?_⟩
    · obtain rfl := Option.some.inj hd
      exact h.uncommented.1 hpair
    · obtain rfl := Option.some.inj hd
      exact h.uncommented.2 hpair

/-! ### Reading code -/

/-- A lexeme with more text behind what it leaves. -/
def Lexeme.before (l : Lexeme) (rest : List Char) : Lexeme := { l with read := { l.read with rest := l.read.rest ++ rest } }

theorem run_before (kind : List Char → Token.Kind) {p : Char → Bool} (hp : p '\n' = false ∧ p '/' = false) {rest : List Char}
    (hrest : Breaks rest) (c : Char) (cs : List Char) : run kind p c (cs ++ rest) = (run kind p c cs).before rest := by
  have hstop : ∀ d ∈ rest.head?, p d = false := by
    intro d hd
    rcases hrest d hd with rfl | rfl
    · exact hp.1
    · exact hp.2
  obtain ⟨htaken, hleft⟩ := takeWhile_append_stop hstop cs
  rw [run, htaken, hleft]
  rfl

theorem operatorAt_breaks {rest : List Char} (hrest : Breaks rest) (c : Char) (cs : List Char) :
    operatorAt (c :: (cs ++ rest)) = operatorAt (c :: cs) := by
  have hstop : longOperators.all (fun op => !op.tail.contains '\n' && !op.tail.contains '/') = true := by decide
  refine operatorAt_append_stop (fun d hd op hop => ?_) c cs
  obtain ⟨hnewline, hslash⟩ : '\n' ∉ op.tail ∧ '/' ∉ op.tail := by simpa using List.all_eq_true.mp hstop op hop
  rcases hrest d hd with rfl | rfl
  · exact hnewline
  · exact hslash

theorem drop_operator {c : Char} {cs op : List Char} (hop : operatorAt (c :: cs) = some op) (rest : List Char) :
    (cs ++ rest).drop (op.length - 1) = cs.drop (op.length - 1) ++ rest := by
  obtain ⟨inner, later, rfl, rfl, -⟩ := operatorAt_eq_some hop
  refine List.drop_append_of_le_length ?_
  simp

/-- A lexeme of code does not go on in what follows the code. -/
theorem lexeme_before {c : Char} {cs rest : List Char} (h : IsCode (c :: cs)) (hrest : Breaks rest) :
    lexeme c (cs ++ rest) = (lexeme c cs).before rest := by
  by_cases hblank : c = '\n' ∨ c = ' ' ∨ c = '\t' ∨ c = '\r'
  · rcases hblank with rfl | rfl | rfl | rfl <;> rfl
  have hmarks : c ∉ marks := by
    have hquotes := h.head
    simp only [marks, List.mem_cons, List.not_mem_nil, or_false]
    tauto
  have halone := h.no_comment []
  rw [List.append_nil] at halone
  rw [lexeme_code hmarks (h.no_comment rest), lexeme_code hmarks halone, operatorAt_breaks hrest]
  split
  · exact run_before _ (by decide) hrest c cs
  split
  · exact run_before _ (by decide) hrest c cs
  split
  · rfl
  cases hop : operatorAt (c :: cs) with
  | none => simp only [Option.elim_none]; split <;> rfl
  | some op =>
    rw [Option.elim_some, Option.elim_some, drop_operator hop]
    rfl

/-- Code is read before what follows it, and what follows it begins on the line on which it ends. -/
theorem tokensFrom_code {a rest : List Char} (h : IsCode a) (hrest : Breaks rest) (line : ℕ) :
    tokensFrom line (a ++ rest) = tokensFrom line a ++ tokensFrom (line + a.count '\n') rest := by
  induction line, a using tokensFrom.induct with
  | case1 line => simp [tokensFrom]
  | case2 line c cs ih =>
    obtain ⟨text, htext⟩ := lexeme_takes_all h.head cs
    have hsuffix : (lexeme c cs).read.rest <:+ c :: cs := ⟨_, htext.split.symm⟩
    have hlines : (c :: cs).count '\n' = (lexeme c cs).read.lines + (lexeme c cs).read.rest.count '\n' := by
      conv_lhs => rw [htext.split]
      rw [List.count_append, htext.lines, add_zero]
    rw [List.cons_append, tokensFrom, lexeme_before h hrest, tokensFrom, hlines, ← add_assoc, List.append_assoc,
      ← ih (h.of_suffix hsuffix)]
    rfl

theorem outside_code {a : List Char} (h : IsCode a) (rest : List Char) : outside (a ++ rest) = a ++ outside rest := by
  induction a with
  | nil => rfl
  | cons c cs ih =>
    obtain ⟨htemplate, hquote⟩ := h.head
    have hcomment := h.no_comment rest
    rw [List.cons_append, outside, if_neg (by grind), if_neg (by grind), if_neg htemplate, if_neg (by simpa using hquote),
      ih h.tail, List.cons_append]

/-! ### Lines -/

/-- The lexer reads the same on later lines. -/
theorem tokensFrom_later (k line : ℕ) (cs : List Char) :
    tokensFrom (line + k) cs = (tokensFrom line cs).map (Token.relined (· + k)) := by
  induction line, cs using tokensFrom.induct with
  | case1 line => simp [tokensFrom]
  | case2 line c cs ih =>
    have htoken : ((lexeme c cs).token? (line + k)).toList =
        (((lexeme c cs).token? line).toList).map (Token.relined (· + k)) := by
      rw [Lexeme.token?, Lexeme.token?]
      cases (lexeme c cs).kind <;> rfl
    rw [tokensFrom, tokensFrom, List.map_append, ← ih, htoken, Nat.add_right_comm]

/-! ### Separators -/

/-- A newline, a comment up to the end of its line with the newline there, or a comment between marks. -/
inductive Separator where
  | newline
  | lineComment (text : List Char) (oneLine : '\n' ∉ text)
  | blockComment (text : List Char) (unclosed : ¬ ['*', '/'] <:+: text)

namespace Separator

def text : Separator → List Char
  | newline => ['\n']
  | lineComment text _ => '/' :: '/' :: (text ++ ['\n'])
  | blockComment text _ => '/' :: '*' :: (text ++ ['*', '/'])

/-- The tokens of a separator that begins on the line. -/
def tokens (line : ℕ) : Separator → List Token
  | blockComment _ _ => []
  | _ => [⟨.newline, "\n", line⟩]

theorem breaks (sep : Separator) (rest : List Char) : Breaks (sep.text ++ rest) := by
  intro c hc
  cases sep with
  | newline => exact .inl (Option.some.inj hc).symm
  | lineComment => exact .inr (Option.some.inj hc).symm
  | blockComment => exact .inr (Option.some.inj hc).symm

end Separator

theorem readComment_closed {text : List Char} (h : ¬ ['*', '/'] <:+: text) (rest : List Char) :
    (readComment (text ++ '*' :: '/' :: rest)).rest = rest ∧
      (readComment (text ++ '*' :: '/' :: rest)).lines = text.count '\n' := by
  induction text with
  | nil => exact ⟨rfl, rfl⟩
  | cons c text ih =>
    obtain ⟨hleft, hlines⟩ := ih fun hpair => h (hpair.trans (List.suffix_cons c text).isInfix)
    -- behind a star of the text there is no slash: the text closes nothing, and what comes behind it begins with a star
    have hopen (later : List Char) (hc : c = '*') : text ++ '*' :: '/' :: rest ≠ '/' :: later := by
      subst hc
      cases text with
      | nil => simp
      | cons d text =>
        intro heq
        obtain ⟨rfl, -⟩ := List.cons.inj heq
        exact h (List.prefix_append ['*', '/'] text).isInfix
    have hread : readComment (c :: text ++ '*' :: '/' :: rest) =
        (readComment (text ++ '*' :: '/' :: rest)).push c (lineOf c) := by
      rw [List.cons_append, readComment]
      exact hopen
    rw [hread, count_newline_cons, ← hlines]
    exact ⟨hleft, rfl⟩

theorem dropWhile_line {text : List Char} (h : '\n' ∉ text) (rest : List Char) :
    (text ++ '\n' :: rest).dropWhile (· ≠ '\n') = '\n' :: rest := by
  have hline : ∀ c ∈ text, decide (c ≠ '\n') = true := fun c hc => by
    simp only [ne_eq, decide_eq_true_eq]
    rintro rfl
    exact h hc
  rw [List.dropWhile_append_of_pos hline]
  rfl

theorem lexeme_lineComment {text : List Char} (h : '\n' ∉ text) (rest : List Char) :
    lexeme '/' ('/' :: (text ++ '\n' :: rest)) = skip 0 ('\n' :: rest) := by
  have hline : '\n' ∉ '/' :: text := by simp [h]
  exact congrArg (skip 0) (dropWhile_line hline rest)

theorem lexeme_blockComment {text : List Char} (h : ¬ ['*', '/'] <:+: text) (rest : List Char) :
    lexeme '/' ('*' :: (text ++ '*' :: '/' :: rest)) = skip (text.count '\n') rest := by
  obtain ⟨hleft, hlines⟩ := readComment_closed h rest
  exact congrArg₂ skip hlines hleft

theorem tokensFrom_newline (line : ℕ) (cs : List Char) :
    tokensFrom line ('\n' :: cs) = ⟨.newline, "\n", line⟩ :: tokensFrom (line + 1) cs := by
  rw [tokensFrom]
  rfl

theorem tokensFrom_skip {c : Char} {cs rest : List Char} {lines : ℕ} (h : lexeme c cs = skip lines rest) (line : ℕ) :
    tokensFrom line (c :: cs) = tokensFrom (line + lines) rest := by
  rw [tokensFrom, h]
  rfl

namespace Separator

theorem lineComment_append {text : List Char} (oneLine : '\n' ∉ text) (rest : List Char) :
    (lineComment text oneLine).text ++ rest = '/' :: '/' :: (text ++ '\n' :: rest) := by
  simp [Separator.text]

theorem blockComment_append {text : List Char} (unclosed : ¬ ['*', '/'] <:+: text) (rest : List Char) :
    (blockComment text unclosed).text ++ rest = '/' :: '*' :: (text ++ '*' :: '/' :: rest) := by
  simp [Separator.text]

/-- A separator is read as its tokens, and what follows it begins on the line on which it ends. -/
theorem tokensFrom_append (sep : Separator) (line : ℕ) (rest : List Char) :
    tokensFrom line (sep.text ++ rest) = sep.tokens line ++ tokensFrom (line + sep.text.count '\n') rest := by
  cases sep with
  | newline => exact tokensFrom_newline line rest
  | lineComment text oneLine =>
    have hcount : (lineComment text oneLine).text.count '\n' = 1 := by
      simp [Separator.text, List.count_eq_zero_of_not_mem oneLine]
    rw [lineComment_append, hcount, tokensFrom_skip (lexeme_lineComment oneLine rest), tokensFrom_newline]
    rfl
  | blockComment text unclosed =>
    have hcount : (blockComment text unclosed).text.count '\n' = text.count '\n' := by simp [Separator.text]
    rw [blockComment_append, hcount, tokensFrom_skip (lexeme_blockComment unclosed rest)]
    rfl

/-- The lexer comes to no more foreign digits in a separator than behind it. -/
theorem any_foreign_append (sep : Separator) (rest : List Char) :
    (outside (sep.text ++ rest)).any isForeignDigit = (outside rest).any isForeignDigit := by
  have hslash : isForeignDigit '/' = false := isForeignDigit_ascii (by decide)
  have hnewline : (outside ('\n' :: rest)).any isForeignDigit = (outside rest).any isForeignDigit :=
    any_foreign_lexeme (isForeignDigit_ascii (by decide)) rest
  cases sep with
  | newline => exact hnewline
  | lineComment text oneLine =>
    rw [lineComment_append, any_foreign_lexeme hslash, lexeme_lineComment oneLine]
    exact hnewline
  | blockComment text unclosed =>
    rw [blockComment_append, any_foreign_lexeme hslash, lexeme_blockComment unclosed]
    rfl

end Separator

/-! ### Seams -/

/-- Code, a separator and any source behind it are read one after the other, the source on the lines on which it stands. -/
theorem tokens_separated {a b : String} (ha : IsCode a.toList) (sep : Separator)
    (hread : (outside (a ++ .ofList sep.text ++ b).toList).any isForeignDigit = false) :
    Ends (fun fuel => BraceAttempt.tokens fuel a) (some (tokens a)) ∧
      Ends (fun fuel => BraceAttempt.tokens fuel b) (some (tokens b)) ∧
        Ends (fun fuel => BraceAttempt.tokens fuel (a ++ .ofList sep.text ++ b))
          (some (tokens a ++ sep.tokens (1 + a.toList.count '\n') ++
            (tokens b).map (Token.relined (· + (a.toList ++ sep.text).count '\n')))) := by
  have hwhole : (a ++ .ofList sep.text ++ b).toList = a.toList ++ (sep.text ++ b.toList) := by simp
  have hforeign := hread
  rw [hwhole, outside_code ha, List.any_append, sep.any_foreign_append, Bool.or_eq_false_iff] at hforeign
  have hfront : (outside a.toList).any isForeignDigit = false := by
    have houtside := outside_code ha []
    rw [List.append_nil] at houtside
    rw [houtside, outside, List.append_nil]
    exact hforeign.1
  refine ⟨tokens_ends hfront, tokens_ends hforeign.2, ?_⟩
  have htokens : tokens (a ++ .ofList sep.text ++ b) = tokens a ++ sep.tokens (1 + a.toList.count '\n') ++
      (tokens b).map (Token.relined (· + (a.toList ++ sep.text).count '\n')) := by
    rw [tokens, hwhole, tokensFrom_code ha (sep.breaks b.toList), sep.tokensFrom_append, ← List.append_assoc,
      add_assoc, ← List.count_append, tokensFrom_later]
    rfl
  rw [← htokens]
  exact tokens_ends hread

/-- A slash, a quote and a newline in a comment, and an operator on either side of it. -/
theorem tokens_divided :
    IsCode "a\n=".toList ∧ Ends (fun fuel => BraceAttempt.tokens fuel "a\n=/* /'\n* */=b")
      (some ([⟨.identifier, "a", 1⟩, ⟨.newline, "\n", 1⟩, ⟨.operator, "=", 2⟩] ++
        [⟨.operator, "=", 3⟩, ⟨.identifier, "b", 3⟩])) := by
  have hcode : IsCode "a\n=".toList := ⟨by decide, by decide, by decide⟩
  have hunclosed : ¬ ['*', '/'] <:+: " /'\n* ".toList := by decide
  have hsource : "a\n=" ++ .ofList (Separator.blockComment _ hunclosed).text ++ "=b" = "a\n=/* /'\n* */=b" := rfl
  have hforeign : (outside "a\n=/* /'\n* */=b".toList).any isForeignDigit = false := by decide +kernel
  have hlines : ("a\n=".toList ++ (Separator.blockComment _ hunclosed).text).count '\n' = 2 := rfl
  have hfront : tokens "a\n=" = [⟨.identifier, "a", 1⟩, ⟨.newline, "\n", 1⟩, ⟨.operator, "=", 2⟩] := by decide +kernel
  have hbehind : (tokens "=b").map (Token.relined (· + 2)) = [⟨.operator, "=", 3⟩, ⟨.identifier, "b", 3⟩] := by
    decide +kernel
  rw [← hsource] at hforeign
  have hread := (tokens_separated hcode (.blockComment _ hunclosed) hforeign).2.2
  rw [hsource, hlines, hfront, hbehind] at hread
  exact ⟨hcode, hread⟩

end FlowSketch.BraceLexer
