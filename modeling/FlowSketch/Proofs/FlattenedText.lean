import FlowSketch.BraceStatement
import FlowSketch.Proofs.LexerHalting

/-!
# Flattened text reads back

The tokens of a source, put down with a space between them, are read as what they are: each stops where the space is,
whatever its kind. Strings stand in single quotes then, so this needs strings without those and without backslashes.
-/
namespace FlowSketch.BraceLexer
open BraceStatement BraceAttempt

/-! ### Spellings -/

/-- How the tokens of each kind are spelled. -/
inductive Spelled : Token.Kind → List Char → Prop where
  | newline : Spelled .newline ['\n']
  | string (cs : List Char) : Spelled .string cs
  | number {c : Char} {cs : List Char} (first : c.isDigit = true) (rest : ∀ d ∈ cs, isNumberChar d = true) :
      Spelled .number (c :: cs)
  | word {c : Char} {cs : List Char} (first : isNameStart c = true) (rest : ∀ d ∈ cs, isNameChar d = true) :
      Spelled (wordKind (c :: cs)) (c :: cs)
  | punctuation {c : Char} (h : c ∈ punctuation) : Spelled .punctuation [c]
  | longOperator {cs : List Char} (h : cs ∈ longOperators) : Spelled .operator cs
  | shortOperator {c : Char} (h : c ∈ shortOperators) : Spelled .operator [c]

/-- What the lexer reads is spelled as its kind is. -/
theorem lexeme_spelled (c : Char) (cs : List Char) :
    ∀ kind ∈ (lexeme c cs).kind, Spelled kind (lexeme c cs).read.value := by
  rw [lexeme]
  split
  · next hc =>
    rintro _ ⟨⟩
    exact hc ▸ .newline
  split
  · rintro _ ⟨⟩
  split
  · rintro _ ⟨⟩
  split
  · rintro _ ⟨⟩
  split
  · rintro _ ⟨⟩
    exact .string _
  split
  · rintro _ ⟨⟩
    exact .string _
  split
  · next hc =>
    rintro _ ⟨⟩
    exact .number hc fun d hd => List.mem_takeWhile_imp hd
  split
  · next hc =>
    rintro _ ⟨⟩
    exact .word hc fun d hd => List.mem_takeWhile_imp hd
  split
  · next hc =>
    rintro _ ⟨⟩
    exact .punctuation (List.contains_iff_mem.mp hc)
  split
  · next op hop =>
    rintro _ ⟨⟩
    have hfound : longOperators.find? (fun op => op.isPrefixOf (c :: cs)) = some op := hop
    exact .longOperator (List.mem_of_find?_eq_some hfound)
  split
  · next hc =>
    rintro _ ⟨⟩
    exact .shortOperator (List.contains_iff_mem.mp hc)
  · rintro _ ⟨⟩

/-! ### Where tokens stop -/

theorem takeWhile_append_stop {p : Char → Bool} {rest : List Char} (hrest : ∀ c ∈ rest.head?, p c = false)
    (cs : List Char) :
    (cs ++ rest).takeWhile p = cs.takeWhile p ∧ (cs ++ rest).dropWhile p = cs.dropWhile p ++ rest := by
  induction cs with
  | nil =>
    cases rest with
    | nil => exact ⟨rfl, rfl⟩
    | cons c rest =>
      have hc : ¬ p c = true := by simp [hrest c rfl]
      exact ⟨List.takeWhile_cons_of_neg hc, List.dropWhile_cons_of_neg hc⟩
  | cons c cs ih =>
    by_cases hc : p c = true
    · rw [List.cons_append, List.takeWhile_cons_of_pos hc, List.dropWhile_cons_of_pos hc, List.takeWhile_cons_of_pos hc,
        List.dropWhile_cons_of_pos hc, ih.1, ih.2]
      exact ⟨rfl, rfl⟩
    · rw [List.cons_append, List.takeWhile_cons_of_neg hc, List.dropWhile_cons_of_neg hc, List.takeWhile_cons_of_neg hc,
        List.dropWhile_cons_of_neg hc]
      exact ⟨rfl, rfl⟩

theorem isPrefixOf_append_stop {op rest : List Char} (hrest : ∀ c ∈ rest.head?, c ∉ op) (cs : List Char) :
    op.isPrefixOf (cs ++ rest) = op.isPrefixOf cs := by
  induction op generalizing cs with
  | nil => rw [List.isPrefixOf_nil_left, List.isPrefixOf_nil_left]
  | cons o op ih =>
    have hhead : ∀ c ∈ rest.head?, c ≠ o ∧ c ∉ op := fun c hc => by simpa using hrest c hc
    cases cs with
    | nil =>
      cases rest with
      | nil => rfl
      | cons c rest =>
        rw [List.nil_append, List.isPrefixOf_cons_cons, beq_false_of_ne (Ne.symm (hhead c rfl).1), Bool.false_and,
          List.isPrefixOf_cons_nil]
    | cons c cs =>
      rw [List.cons_append, List.isPrefixOf_cons_cons, List.isPrefixOf_cons_cons, ih fun c hc => (hhead c hc).2]

/-- What begins with a character that no operator goes on with does not change the operator before it. -/
theorem operatorAt_append_stop {rest : List Char} (hrest : ∀ d ∈ rest.head?, ∀ op ∈ longOperators, d ∉ op.tail) (c : Char)
    (cs : List Char) : operatorAt (c :: (cs ++ rest)) = operatorAt (c :: cs) := by
  rw [operatorAt, operatorAt]
  refine List.find?_congr fun op hop => ?_
  cases op with
  | nil => rw [List.isPrefixOf_nil_left, List.isPrefixOf_nil_left]
  | cons o op =>
    have hlater : ∀ d ∈ rest.head?, d ∉ op := fun d hd => hrest d hd (o :: op) hop
    rw [List.isPrefixOf_cons_cons, List.isPrefixOf_cons_cons, isPrefixOf_append_stop hlater]

/-- Text that ends, or goes on with a space. -/
def Stops (rest : List Char) : Prop := ∀ c ∈ rest.head?, c = ' '

theorem takeWhile_stops {p : Char → Bool} (hp : p ' ' = false) {cs rest : List Char} (hcs : ∀ d ∈ cs, p d = true)
    (hrest : Stops rest) : (cs ++ rest).takeWhile p = cs ∧ (cs ++ rest).dropWhile p = rest := by
  obtain ⟨htaken, hleft⟩ := takeWhile_append_stop (p := p) (fun c hc => by rw [hrest c hc, hp]) cs
  rw [htaken, hleft, List.takeWhile_eq_self_iff.mpr hcs, List.dropWhile_eq_nil_iff.mpr hcs]
  exact ⟨rfl, List.nil_append rest⟩

/-- No operator has a space in it. -/
theorem operatorAt_stops {rest : List Char} (hrest : Stops rest) (c : Char) (cs : List Char) :
    operatorAt (c :: (cs ++ rest)) = operatorAt (c :: cs) := by
  have hblank : longOperators.all (fun op => !op.tail.contains ' ') = true := by decide
  refine operatorAt_append_stop (fun d hd op hop => ?_) c cs
  rw [hrest d hd]
  simpa using List.all_eq_true.mp hblank op hop

/-! ### Reading back -/

/-- A text that is read as a token of the kind and the value, wherever it stops. -/
def ReadsAs (text : List Char) (kind : Token.Kind) (value : List Char) : Prop :=
  ∀ rest, Stops rest → ∃ c cs lines, text = c :: cs ∧ isForeignDigit c = false ∧
    lexeme c (cs ++ rest) = ⟨some kind, ⟨value, lines, rest⟩⟩

theorem ne_of_class {p : Char → Bool} {c d : Char} (h : p c = true) (hd : p d = false) : c ≠ d := by
  rintro rfl
  simp [h] at hd

/-- The characters that the lexer asks for first: blanks and quotes. -/
def marks : List Char := ['\n', ' ', '\t', '\r', '\x60', '\'', '"']

theorem not_mem_marks {p : Char → Bool} (hp : marks.any p = false) {c : Char} (h : p c = true) : c ∉ marks :=
  fun hc => List.any_eq_false.mp hp c hc h

/-- What the lexer does where there is no blank, no quote and no comment. -/
theorem lexeme_code {c : Char} {cs : List Char} (hc : c ∉ marks)
    (hcomment : c = '/' → cs.head? ≠ some '/' ∧ cs.head? ≠ some '*') :
    lexeme c cs =
      if c.isDigit then run (fun _ => .number) isNumberChar c cs
      else if isNameStart c then run wordKind isNameChar c cs
      else if punctuation.contains c then ⟨some .punctuation, ⟨[c], 0, cs⟩⟩
      else
        (operatorAt (c :: cs)).elim (if shortOperators.contains c then ⟨some .operator, ⟨[c], 0, cs⟩⟩ else skip 0 cs) fun op =>
          ⟨some .operator, ⟨op, 0, cs.drop (op.length - 1)⟩⟩ := by
  simp only [marks, List.mem_cons, List.not_mem_nil, or_false, not_or] at hc
  obtain ⟨hnewline, hspace, htab, hreturn, htemplate, hsingle, hdouble⟩ := hc
  rw [lexeme, if_neg hnewline, if_neg (by simp [hspace, htab, hreturn]), if_neg (by grind), if_neg (by grind),
    if_neg htemplate, if_neg (by simp [hsingle, hdouble])]
  cases operatorAt (c :: cs) <;> rfl

theorem readString_quoted {quote : Char} {cs : List Char} (hquote : quote ∉ cs) (hescape : '\\' ∉ cs)
    (hquote' : quote ≠ '\\') (rest : List Char) :
    ∃ lines, readString quote (cs ++ quote :: rest) = ⟨cs, lines, rest⟩ := by
  induction cs with
  | nil =>
    refine ⟨0, ?_⟩
    rw [List.nil_append, readString, if_pos rfl]
    · exact fun h => absurd h hquote'
    · exact fun _ _ h => absurd h hquote'
  | cons c cs ih =>
    rw [List.mem_cons, not_or] at hquote hescape
    obtain ⟨lines, hread⟩ := ih hquote.2 hescape.2
    refine ⟨lineOf c + lines, ?_⟩
    rw [List.cons_append, readString, if_neg (Ne.symm hquote.1), hread]
    · rfl
    · exact fun h => absurd h.symm hescape.1
    · exact fun _ _ h => absurd h.symm hescape.1

theorem readsAs_string {cs : List Char} (hquote : '\'' ∉ cs) (hescape : '\\' ∉ cs) :
    ReadsAs ('\'' :: (cs ++ ['\''])) .string cs := by
  intro rest _
  obtain ⟨lines, hread⟩ := readString_quoted hquote hescape (by decide) rest
  refine ⟨'\'', cs ++ ['\''], lines, rfl, by decide, ?_⟩
  rw [List.append_assoc, List.singleton_append, ← hread]
  rfl

theorem readsAs_number {c : Char} {cs : List Char} (hc : c.isDigit = true) (hcs : ∀ d ∈ cs, isNumberChar d = true) :
    ReadsAs (c :: cs) .number (c :: cs) := by
  intro rest hrest
  have hinner : isInner c = true := isNumberChar_inner (by rw [isNumberChar, hc, Bool.true_or])
  refine ⟨c, cs, 0, rfl, isInner_not_foreign hinner, ?_⟩
  obtain ⟨htaken, hleft⟩ := takeWhile_stops (by decide) hcs hrest
  rw [lexeme_code (not_mem_marks (by decide) hc) fun hslash => absurd hslash (ne_of_class hc rfl), if_pos hc, run, htaken,
    hleft]

theorem isNameStart_not_digit {c : Char} (h : isNameStart c = true) : ¬ c.isDigit = true := by
  intro hdigit
  have hlt : c.toNat < 58 := isDigit_lt hdigit
  simp only [isNameStart, Char.isAlpha, Char.isUpper, Char.isLower, Bool.or_eq_true, Bool.and_eq_true,
    decide_eq_true_eq, beq_iff_eq] at h
  obtain ((⟨hle, -⟩ | ⟨hle, -⟩) | rfl) | rfl := h
  · have hle : 65 ≤ c.toNat := hle
    omega
  · have hle : 97 ≤ c.toNat := hle
    omega
  · simp at hdigit
  · simp at hdigit

theorem readsAs_word {c : Char} {cs : List Char} (hc : isNameStart c = true) (hcs : ∀ d ∈ cs, isNameChar d = true) :
    ReadsAs (c :: cs) (wordKind (c :: cs)) (c :: cs) := by
  intro rest hrest
  have hinner : isInner c = true := isNameChar_inner (by rw [isNameChar, hc, Bool.true_or])
  refine ⟨c, cs, 0, rfl, isInner_not_foreign hinner, ?_⟩
  obtain ⟨htaken, hleft⟩ := takeWhile_stops (by decide) hcs hrest
  rw [lexeme_code (not_mem_marks (by decide) hc) fun hslash => absurd hslash (ne_of_class hc (by decide)),
    if_neg (isNameStart_not_digit hc), if_pos hc, run, htaken, hleft]

/-- Characters that begin signs, and nothing else but comments. -/
def isSign (c : Char) : Bool := !marks.contains c && !c.isDigit && !isNameStart c && !isForeignDigit c

theorem lexeme_sign {c : Char} {cs : List Char} (hc : isSign c = true)
    (hcomment : c = '/' → cs.head? ≠ some '/' ∧ cs.head? ≠ some '*') :
    lexeme c cs =
      if punctuation.contains c then ⟨some .punctuation, ⟨[c], 0, cs⟩⟩
      else
        (operatorAt (c :: cs)).elim (if shortOperators.contains c then ⟨some .operator, ⟨[c], 0, cs⟩⟩ else skip 0 cs) fun op =>
          ⟨some .operator, ⟨op, 0, cs.drop (op.length - 1)⟩⟩ := by
  simp only [isSign, Bool.and_eq_true, Bool.not_eq_true', List.contains_eq_mem, decide_eq_false_iff_not] at hc
  rw [lexeme_code hc.1.1.1 hcomment, if_neg (by simp [hc.1.1.2]), if_neg (by simp [hc.1.2])]

theorem isSign_not_foreign {c : Char} (h : isSign c = true) : isForeignDigit c = false := by
  rw [isSign, Bool.and_eq_true, Bool.not_eq_true'] at h
  exact h.2

theorem head?_stops {rest : List Char} (h : Stops rest) {d : Char} (hd : d ≠ ' ') : rest.head? ≠ some d :=
  fun hrest => hd (h d hrest)

theorem readsAs_punctuation {c : Char} (h : c ∈ punctuation) : ReadsAs [c] .punctuation [c] := by
  intro rest hrest
  have hsign : isSign c = true := List.all_eq_true.mp (by decide +kernel : punctuation.all isSign = true) c h
  refine ⟨c, [], 0, rfl, isSign_not_foreign hsign, ?_⟩
  rw [List.nil_append, lexeme_sign hsign fun _ => ⟨head?_stops hrest (by decide), head?_stops hrest (by decide)⟩,
    if_pos (List.contains_iff_mem.mpr h)]

/-- Whether an operator of several characters is found where it stands, and is not taken for a comment. -/
def isFound : List Char → Bool
  | c :: d :: cs => isSign c && !punctuation.contains c && operatorAt (c :: d :: cs) == some (c :: d :: cs) &&
      (c != '/' || d == '=')
  | _ => false

theorem readsAs_longOperator {op : List Char} (h : op ∈ longOperators) : ReadsAs op .operator op := by
  intro rest hrest
  have hfound : isFound op = true := List.all_eq_true.mp (by decide +kernel : longOperators.all isFound = true) op h
  match op, hfound with
  | c :: d :: cs, hfound =>
    simp only [isFound, Bool.and_eq_true, Bool.not_eq_true', beq_iff_eq, Bool.or_eq_true, bne_iff_ne] at hfound
    obtain ⟨⟨⟨hsign, hpunctuation⟩, hop⟩, hcomment⟩ := hfound
    refine ⟨c, d :: cs, 0, rfl, isSign_not_foreign hsign, ?_⟩
    have hat : operatorAt (c :: (d :: cs ++ rest)) = some (c :: d :: cs) := (operatorAt_stops hrest c (d :: cs)).trans hop
    have hassign (hslash : c = '/') : d = '=' := hcomment.resolve_left (not_not_intro hslash)
    rw [lexeme_sign hsign fun hslash => by simp [hassign hslash], if_neg (by rw [hpunctuation]; decide), hat]
    simp

theorem readsAs_shortOperator {c : Char} (h : c ∈ shortOperators) : ReadsAs [c] .operator [c] := by
  intro rest hrest
  have hall : shortOperators.all (fun c => isSign c && !punctuation.contains c && operatorAt [c] = none) = true := by
    decide +kernel
  obtain ⟨⟨hsign, hpunctuation⟩, halone⟩ : (isSign c = true ∧ punctuation.contains c = false) ∧ operatorAt [c] = none := by
    simpa using List.all_eq_true.mp hall c h
  refine ⟨c, [], 0, rfl, isSign_not_foreign hsign, ?_⟩
  have hnone : operatorAt (c :: rest) = none := (operatorAt_stops hrest c []).trans halone
  rw [List.nil_append, lexeme_sign hsign fun _ => ⟨head?_stops hrest (by decide), head?_stops hrest (by decide)⟩,
    if_neg (by rw [hpunctuation]; decide), hnone]
  simp [h]

/-! ### Tokens -/

/-- The text of a token as it stands in flattened code. -/
theorem text_toList (t : Token) :
    t.text.toList = if t.kind = .string then '\'' :: (t.value.toList ++ ['\'']) else t.value.toList := by
  rw [Token.text]
  split
  · simp
  · rfl

/-- A token that is no newline, and no string with quotes or backslashes in it. -/
def Plain (t : Token) : Prop := t.kind ≠ .newline ∧ (t.kind = .string → '\'' ∉ t.value.toList ∧ '\\' ∉ t.value.toList)

theorem Spelled.readsAs {t : Token} (h : Spelled t.kind t.value.toList) (ht : Plain t) :
    ReadsAs t.text.toList t.kind t.value.toList := by
  obtain ⟨hnewline, hstring⟩ := ht
  rw [text_toList]
  generalize t.kind = kind at *
  generalize t.value.toList = cs at *
  cases h with
  | newline => exact absurd rfl hnewline
  | string => exact readsAs_string (hstring rfl).1 (hstring rfl).2
  | number first rest => exact readsAs_number first rest
  | @word c cs first rest =>
    have hkind : wordKind (c :: cs) ≠ .string := by
      rw [wordKind]
      split <;> decide
    rw [if_neg hkind]
    exact readsAs_word first rest
  | punctuation h => exact readsAs_punctuation h
  | longOperator h => exact readsAs_longOperator h
  | shortOperator h => exact readsAs_shortOperator h

theorem tokensFrom_spelled (line : ℕ) (cs : List Char) : ∀ t ∈ tokensFrom line cs, Spelled t.kind t.value.toList := by
  induction line, cs using tokensFrom.induct with
  | case1 line => simp [tokensFrom]
  | case2 line c cs ih =>
    rw [tokensFrom]
    refine List.forall_mem_append.mpr ⟨fun t ht => ?_, ih⟩
    obtain ⟨kind, hkind, rfl⟩ := Option.map_eq_some_iff.mp (Option.mem_toList.mp ht)
    rw [String.toList_ofList]
    exact lexeme_spelled c cs kind hkind

/-- The kind of a token and its value. -/
def form (t : Token) : Token.Kind × String := (t.kind, t.value)

/-- A token at the front of a text is read before what follows it. -/
theorem tokensFrom_readsAs {text : List Char} {t : Token} (h : ReadsAs text t.kind t.value.toList) {rest : List Char}
    (hrest : Stops rest) (line : ℕ) : ∃ lines, (tokensFrom line (text ++ rest)).map form =
        form t :: (tokensFrom (line + lines) rest).map form ∧
      (outside (text ++ rest)).any isForeignDigit = (outside rest).any isForeignDigit := by
  obtain ⟨c, cs, lines, rfl, hforeign, hlexeme⟩ := h rest hrest
  refine ⟨lines, ?_, ?_⟩
  · rw [List.cons_append, tokensFrom, hlexeme, List.map_append]
    simp [Lexeme.token?, form]
  · rw [List.cons_append, any_foreign_lexeme hforeign, hlexeme]

theorem tokensFrom_space (line : ℕ) (cs : List Char) : tokensFrom line (' ' :: cs) = tokensFrom line cs := by
  rw [tokensFrom]
  rfl

theorem spaced_toList (ts : List Token) :
    (spaced (ts.map Token.text)).toList = [' '].intercalate (ts.map fun t => t.text.toList) := by
  rw [spaced, String.toList_intercalate, List.map_map]
  rfl

/-- Tokens with a space between them are read one after the other. -/
theorem tokensFrom_spaced {ts : List Token} (h : ∀ t ∈ ts, ReadsAs t.text.toList t.kind t.value.toList) (line : ℕ) :
    (tokensFrom line (spaced (ts.map Token.text)).toList).map form = ts.map form ∧
      (outside (spaced (ts.map Token.text)).toList).any isForeignDigit = false := by
  rw [spaced_toList]
  induction ts generalizing line with
  | nil => exact ⟨by simp [tokensFrom], by simp [outside]⟩
  | cons t ts ih =>
    have ht := h t List.mem_cons_self
    -- no space follows the last token
    cases ts with
    | nil =>
      have hend : Stops [] := by simp [Stops]
      obtain ⟨lines, htokens, hforeign⟩ := tokensFrom_readsAs ht hend line
      rw [List.append_nil] at htokens hforeign
      rw [List.map_cons, List.map_nil, List.intercalate_singleton, htokens, hforeign]
      exact ⟨by simp [tokensFrom], by simp [outside]⟩
    | cons u ts =>
      have hlater := ih fun v hv => h v (List.mem_cons_of_mem t hv)
      have hjoin : [' '].intercalate ((t :: u :: ts).map fun t => t.text.toList) =
          t.text.toList ++ ' ' :: [' '].intercalate ((u :: ts).map fun t => t.text.toList) := by
        rw [List.map_cons, List.map_cons, List.intercalate_cons_cons, List.append_assoc]
        rfl
      have hspace (cs : List Char) : Stops (' ' :: cs) := by simp [Stops]
      obtain ⟨lines, htokens, hforeign⟩ := tokensFrom_readsAs ht (hspace _) line
      rw [hjoin]
      rw [htokens, hforeign, tokensFrom_space, outside_plain rfl, List.any_cons, (hlater _).1, (hlater 1).2]
      exact ⟨rfl, rfl⟩

/-- The text of the tokens of a source is read as the same tokens without the newlines, and the lexer ends on it, as long as
no string has a quote or a backslash in it. -/
theorem flatten_reads_back {code : String} (hread : (outside code.toList).any isForeignDigit = false)
    (hstrings : ∀ t ∈ tokens code, t.kind = .string → '\'' ∉ t.value.toList ∧ '\\' ∉ t.value.toList) :
    Ends (fun fuel => BraceAttempt.tokens fuel code) (some (tokens code)) ∧
      ∃ again, Ends (fun fuel => BraceAttempt.tokens fuel (flatten (tokens code))) (some again) ∧
        (∀ t ∈ again, t.kind ≠ .newline) ∧ again.map form = (visible (tokens code)).map form := by
  have hplain : ∀ t ∈ visible (tokens code), ReadsAs t.text.toList t.kind t.value.toList := by
    intro t ht
    obtain ⟨hmem, hvisible⟩ := List.mem_filter.mp ht
    have hnewline : t.kind ≠ .newline := by simpa [Token.isNewline] using hvisible
    exact (tokensFrom_spelled 1 code.toList t hmem).readsAs ⟨hnewline, hstrings t hmem⟩
  obtain ⟨hforms, hforeign⟩ := tokensFrom_spaced hplain 1
  refine ⟨tokens_ends hread, tokens (flatten (tokens code)), tokens_ends hforeign, fun t ht => ?_, hforms⟩
  have hform : form t ∈ (visible (tokens code)).map form := hforms ▸ List.mem_map_of_mem ht
  obtain ⟨u, hu, hsame⟩ := List.mem_map.mp hform
  have hkind : u.kind = t.kind := congrArg Prod.fst hsame
  rw [← hkind]
  simpa [Token.isNewline] using (List.mem_filter.mp hu).2

/-- A template over two lines, operators side by side, a number that a name follows, and comments. -/
theorem flatten_template_reads_back :
    ∃ again, Ends (fun fuel => BraceAttempt.tokens fuel (flatten (tokens "a+++-1.5ex/ /*/*/ b // ٣\n/=\x60c\n$\x7bd\x7d\x60??=.[")))
        (some again) ∧
      (∀ t ∈ again, t.kind ≠ .newline) ∧
        again.map form = (visible (tokens "a+++-1.5ex/ /*/*/ b // ٣\n/=\x60c\n$\x7bd\x7d\x60??=.[")).map form :=
  (flatten_reads_back (by decide +kernel) (by decide +kernel)).2

end FlowSketch.BraceLexer
