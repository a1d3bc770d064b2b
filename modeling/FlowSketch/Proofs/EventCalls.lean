import FlowSketch.Proofs.WrittenCalls

/-!
# Events and the tokens they are read from

A call that is written in the text of a statement, and begins in a word of it, is made of five tokens: the word, a point, the
method, a parenthesis and a string that begins with the name of the event. The text has the contents of strings in it too, so
a call can also begin in a string, and in a number, which ends like a word and can have a point in it.
-/
namespace FlowSketch.Owner
open BraceLexer BraceStatement TextBlank EventCall

/-! ### Tokens and how they begin -/

theorem wordKind_cases (w : List Char) : wordKind w = .keyword ∨ wordKind w = .identifier := by
  rw [wordKind]
  split
  · exact .inl rfl
  · exact .inr rfl

theorem isWord_of_isNameChar {c : Char} (h : isNameChar c = true) : TextWord.isWord c = true ∨ c = '$' := by
  have hascii (hlt : c.toNat < 128) (halphanum : c.isAlphanum = true) : TextWord.isWord c = true := by
    rw [TextWord.isWord, TextWord.isAlphanumeric, if_pos hlt, halphanum, Bool.or_true]
  simp only [isNameChar, isNameStart, Bool.or_eq_true, beq_iff_eq] at h
  rcases h with ((h | rfl) | rfl) | h
  · exact .inl (hascii ((BraceAttempt.isAlpha_lt h).trans (by decide)) (by rw [Char.isAlphanum, h, Bool.true_or]))
  · exact .inl (by decide)
  · exact .inr rfl
  · exact .inl (hascii ((BraceAttempt.isDigit_lt h).trans (by decide)) (by rw [Char.isAlphanum, h, Bool.or_true]))

theorem isBlank_of_isNameChar {c : Char} (h : isNameChar c = true) : isBlank c = false := by
  rcases isWord_of_isNameChar h with hword | rfl
  · exact isBlank_of_isWord hword
  · decide

theorem isNameChar_of_isBlank {c : Char} (h : isBlank c = true) : isNameChar c = false := by
  by_contra hname
  rw [isBlank_of_isNameChar (Bool.not_eq_false _ ▸ hname)] at h
  cases h

theorem isNameStart_nameChar {c : Char} (h : isNameStart c = true) : isNameChar c = true := by
  rw [isNameChar, h, Bool.true_or]

/-- Characters that stand in signs only: no blanks, no quotes and none that words are made of. -/
def isMere (c : Char) : Bool := !isBlank c && !TextWord.isWord c && !isNameStart c && c != '\''

theorem signs_mere :
    punctuation.all isMere = true ∧ longOperators.all (fun op => op.all isMere) = true ∧ shortOperators.all isMere = true := by
  decide +kernel

/-- How the text of a token that is no newline begins. -/
inductive Front (t : Token) : Prop where
  | quoted (kind : t.kind = .string) (text : t.text.toList = '\'' :: (t.value.toList ++ ['\'']))
  | number {c : Char} {cs : List Char} (kind : t.kind = .number) (text : t.text.toList = c :: cs) (first : c.isDigit = true)
  | word {c : Char} {cs : List Char} (kind : t.kind = wordKind (c :: cs)) (text : t.text.toList = c :: cs)
      (value : t.value.toList = c :: cs) (first : isNameStart c = true) (chars : ∀ d ∈ c :: cs, isNameChar d = true)
  | mark {c : Char} (kind : t.kind = .punctuation) (text : t.text.toList = [c]) (value : t.value.toList = [c])
      (mem : c ∈ punctuation)
  | operator {c : Char} {cs : List Char} (kind : t.kind = .operator) (text : t.text.toList = c :: cs)
      (value : t.value.toList = c :: cs) (mem : c :: cs ∈ longOperators ∨ cs = [] ∧ c ∈ shortOperators)

theorem Front.of_spelled {t : Token} (h : Spelled t.kind t.value.toList) (hkind : t.kind ≠ .newline) : Front t := by
  have htext := text_toList t
  generalize hk : t.kind = kind at *
  generalize hv : t.value.toList = value at *
  cases h with
  | newline => exact absurd rfl hkind
  | string => exact .quoted hk (hv ▸ htext)
  | number first => exact .number hk htext first
  | @word c cs first rest =>
    rw [if_neg (by rcases wordKind_cases (c :: cs) with hword | hword <;> simp [hword])] at htext
    exact .word hk htext hv first (List.forall_mem_cons.mpr ⟨isNameStart_nameChar first, rest⟩)
  | punctuation hmem => exact .mark hk htext hv hmem
  | longOperator hmem =>
    cases value with
    | nil => exact absurd hmem (by decide)
    | cons c cs => exact .operator hk htext hv (.inl hmem)
  | shortOperator hmem => exact .operator hk htext hv (.inr ⟨rfl, hmem⟩)

/-- The characters of an operator. -/
theorem operator_mere {c : Char} {cs : List Char} (h : c :: cs ∈ longOperators ∨ cs = [] ∧ c ∈ shortOperators) :
    ∀ d ∈ c :: cs, isMere d = true := by
  obtain ⟨-, hlong, hshort⟩ := signs_mere
  rcases h with hmem | ⟨rfl, hmem⟩
  · exact List.all_eq_true.mp (List.all_eq_true.mp hlong _ hmem)
  · simpa using List.all_eq_true.mp hshort c hmem

section

variable {t : Token}

/-- The word characters of a token are in a word, a number or a string. -/
theorem Front.kind_of_isWord (h : Front t) {d : Char} (hd : d ∈ t.text.toList) (hword : TextWord.isWord d = true) :
    (t.kind = .string ∨ t.kind = .number) ∨ t.kind = .identifier ∨ t.kind = .keyword := by
  have hmere : ¬ isMere d = true := by simp [isMere, hword]
  cases h with
  | quoted kind => exact .inl (.inl kind)
  | number kind => exact .inl (.inr kind)
  | word kind => exact .inr (kind ▸ (wordKind_cases _).symm)
  | mark kind text value mem =>
    rw [text, List.mem_singleton] at hd
    exact absurd (hd ▸ List.all_eq_true.mp signs_mere.1 _ mem) hmere
  | operator kind text value mem => exact absurd (operator_mere mem d (text ▸ hd)) hmere

/-- The text does not begin with a blank. -/
theorem Front.exists_cons (h : Front t) : ∃ c cs, t.text.toList = c :: cs ∧ isBlank c = false := by
  have hmere {c : Char} (hc : isMere c = true) : isBlank c = false := by simp_all [isMere]
  cases h with
  | quoted kind text => exact ⟨_, _, text, by decide⟩
  | number kind text first => exact ⟨_, _, text, isBlank_of_isNameChar (by rw [isNameChar, first, Bool.or_true])⟩
  | word kind text value first chars => exact ⟨_, _, text, isBlank_of_isNameChar (chars _ List.mem_cons_self)⟩
  | mark kind text value mem => exact ⟨_, _, text, hmere (List.all_eq_true.mp signs_mere.1 _ mem)⟩
  | operator kind text value mem => exact ⟨_, _, text, hmere (operator_mere mem _ List.mem_cons_self)⟩

theorem Front.chars_of_kind (h : Front t) (hkind : t.kind = .identifier ∨ t.kind = .keyword) :
    ∀ d ∈ t.text.toList, isNameChar d = true := by
  cases h with
  | word kind text value first chars => exact text ▸ chars
  | quoted kind | number kind | mark kind | operator kind => simp [kind] at hkind

variable {c : Char} {cs : List Char}

/-- A token that begins as a word does is one. -/
theorem Front.word_of_start (h : Front t) (htext : t.text.toList = c :: cs) (hstart : isNameStart c = true) :
    t.kind = wordKind (c :: cs) ∧ t.value.toList = c :: cs ∧ ∀ d ∈ c :: cs, isNameChar d = true := by
  have hmere : ¬ isMere c = true := by simp [isMere, hstart]
  cases h with
  | quoted kind text =>
    obtain rfl := (List.cons.inj (htext.symm.trans text)).1
    cases hstart
  | number kind text first =>
    obtain rfl := (List.cons.inj (htext.symm.trans text)).1
    exact absurd first (isNameStart_not_digit hstart)
  | word kind text value first chars =>
    obtain ⟨rfl, rfl⟩ := List.cons.inj (htext.symm.trans text)
    exact ⟨kind, value, chars⟩
  | mark kind text value mem =>
    obtain rfl := (List.cons.inj (htext.symm.trans text)).1
    exact absurd (List.all_eq_true.mp signs_mere.1 c mem) hmere
  | operator kind text value mem =>
    obtain rfl := (List.cons.inj (htext.symm.trans text)).1
    exact absurd (operator_mere mem c List.mem_cons_self) hmere

/-- A token that begins as no word and no number does is a string or a sign. -/
theorem Front.sign_or_string (h : Front t) (htext : t.text.toList = c :: cs) (hdigit : c.isDigit = false)
    (hstart : isNameStart c = false) :
    (t.kind = .string ∧ c = '\'' ∧ cs = t.value.toList ++ ['\'']) ∨
      (t.kind = .punctuation ∧ t.value = .ofList [c] ∧ cs = [] ∧ c ∈ punctuation) ∨
      (t.kind = .operator ∧ t.value = .ofList (c :: cs) ∧ (c :: cs ∈ longOperators ∨ cs = [] ∧ c ∈ shortOperators)) := by
  cases h with
  | quoted kind text =>
    obtain ⟨rfl, rfl⟩ := List.cons.inj (htext.symm.trans text)
    exact .inl ⟨kind, rfl, rfl⟩
  | number kind text first =>
    obtain rfl := (List.cons.inj (htext.symm.trans text)).1
    simp [first] at hdigit
  | word kind text value first =>
    obtain rfl := (List.cons.inj (htext.symm.trans text)).1
    simp [first] at hstart
  | mark kind text value mem =>
    obtain ⟨rfl, rfl⟩ := List.cons.inj (htext.symm.trans text)
    exact .inr (.inl ⟨kind, String.toList_inj.mp (by rw [value, String.toList_ofList]), rfl, mem⟩)
  | operator kind text value mem =>
    obtain ⟨rfl, rfl⟩ := List.cons.inj (htext.symm.trans text)
    exact .inr (.inr ⟨kind, String.toList_inj.mp (by rw [value, String.toList_ofList]), mem⟩)

/-- A token that begins with a quote is a string. -/
theorem Front.string_of_quote (h : Front t) (htext : t.text.toList = '\'' :: cs) :
    t.kind = .string ∧ cs = t.value.toList ++ ['\''] := by
  rcases h.sign_or_string htext rfl rfl with ⟨hkind, -, hcs⟩ | ⟨-, -, -, hmem⟩ | ⟨-, -, hmem⟩
  · exact ⟨hkind, hcs⟩
  · exact absurd hmem (by decide)
  · exact absurd (operator_mere hmem _ List.mem_cons_self) (by decide)

/-- A token that begins with a point is one. -/
theorem Front.point_of_front (h : Front t) (htext : t.text.toList = '.' :: cs) : t.isOperator "." = true ∧ cs = [] := by
  have hlong : longOperators.all (fun op => op.head? != some '.') = true := by decide
  rcases h.sign_or_string htext rfl rfl with ⟨-, hquote, -⟩ | ⟨-, -, -, hmem⟩ | ⟨hkind, hvalue, hmem | ⟨rfl, -⟩⟩
  · exact absurd hquote (by decide)
  · exact absurd hmem (by decide)
  · exact absurd (List.all_eq_true.mp hlong _ hmem) (by simp)
  · rw [Token.isOperator, hkind, hvalue]
    exact ⟨rfl, rfl⟩

/-- A token that begins with a parenthesis is one. -/
theorem Front.open_of_front (h : Front t) (htext : t.text.toList = '(' :: cs) : t.isOpen = true ∧ cs = [] := by
  have hlong : longOperators.all (fun op => op.head? != some '(') = true := by decide
  rcases h.sign_or_string htext rfl rfl with ⟨-, hquote, -⟩ | ⟨hkind, hvalue, rfl, -⟩ | ⟨-, -, hmem | ⟨-, hmem⟩⟩
  · exact absurd hquote (by decide)
  · rw [Token.isOpen, Token.isPunctuation, hkind, hvalue]
    exact ⟨rfl, rfl⟩
  · exact absurd (List.all_eq_true.mp hlong _ hmem) (by simp)
  · exact absurd hmem (by decide)

end

/-! ### Places in the text of tokens -/

/-- The text of tokens, each with a space in front of it. -/
def trail (ts : List Token) : List Char := ts.flatMap fun t => ' ' :: t.text.toList

theorem trail_cons (t : Token) (ts : List Token) : trail (t :: ts) = ' ' :: (t.text.toList ++ trail ts) := rfl

theorem spaced_trail (ts : List Token) : (spaced (ts.map Token.text)).toList = (trail ts).tail := by
  rw [spaced_toList]
  induction ts with
  | nil => rfl
  | cons t ts ih =>
    cases ts with
    | nil => simp [trail]
    | cons u ts =>
      rw [List.map_cons] at ih
      rw [List.map_cons, List.map_cons, List.intercalate_cons_cons, ih, List.append_assoc]
      rfl

theorem head?_trail {p : Char → Bool} (hp : p ' ' = false) (ts : List Token) : ∀ x ∈ (trail ts).head?, p x = false := by
  cases ts with
  | nil => simp [trail]
  | cons t ts => simpa [trail_cons] using hp

/-- The token in which a place of the text of tokens is, with the text from the place on. -/
def StandsIn (t : Token) (ts : List Token) (rest : List Char) : Prop :=
  ∃ earlier later part, ts = earlier ++ t :: later ∧ part ≠ [] ∧ part <:+ t.text.toList ∧ rest = part ++ trail later

theorem StandsIn.cons {t : Token} {ts : List Token} {rest : List Char} (h : StandsIn t ts rest) (u : Token) :
    StandsIn t (u :: ts) rest := by
  obtain ⟨earlier, later, part, rfl, hpart⟩ := h
  exact ⟨u :: earlier, later, part, rfl, hpart⟩

/-- A place at which there is no space is in one of the tokens. -/
theorem exists_standsIn {ts : List Token} {c : Char} {cs : List Char} (h : c :: cs <:+ trail ts) (hc : c ≠ ' ') :
    ∃ t, StandsIn t ts (c :: cs) := by
  induction ts with
  | nil => exact absurd (List.suffix_nil.mp h) (List.cons_ne_nil c cs)
  | cons t ts ih =>
    have hlater (h : c :: cs <:+ trail ts) : ∃ u, StandsIn u (t :: ts) (c :: cs) := by
      obtain ⟨u, hu⟩ := ih h
      exact ⟨u, hu.cons t⟩
    rcases List.suffix_cons_iff.mp h with hwhole | hinside
    · exact absurd (List.cons.inj hwhole).1 hc
    rcases List.suffix_or_suffix_of_suffix hinside (List.suffix_append t.text.toList (trail ts)) with hbehind | ⟨part, hpart⟩
    · exact hlater hbehind
    by_cases hne : part = []
    · rw [hne, List.nil_append] at hpart
      exact hlater (hpart ▸ List.suffix_rfl)
    · rw [← hpart] at hinside
      obtain ⟨front, hfront⟩ := hinside
      rw [← List.append_assoc] at hfront
      exact ⟨t, [], ts, part, rfl, hne, ⟨front, List.append_cancel_right hfront⟩, hpart.symm⟩

/-- Behind blanks the next token begins. -/
theorem next_token {ts : List Token} (hts : ∀ t ∈ ts, Front t) {gap rest : List Char} {c : Char}
    (h : trail ts = gap ++ c :: rest) (hgap : ∀ x ∈ gap, isBlank x = true) (hc : isBlank c = false) :
    ∃ t later cs, ts = t :: later ∧ t.text.toList = c :: cs ∧ rest = cs ++ trail later := by
  cases ts with
  | nil => simp [trail] at h
  | cons t later =>
    obtain ⟨d, ds, htext, hd⟩ := (hts t List.mem_cons_self).exists_cons
    rw [trail_cons, htext] at h
    have hspace : ∀ x ∈ [' '], isBlank x = true := List.forall_mem_singleton.mpr rfl
    obtain ⟨-, hrest⟩ := eq_of_stops (v := [' ']) h hspace (by simpa using hd) hgap (by simpa using hc)
    obtain ⟨rfl, hbehind⟩ := List.cons.inj hrest
    exact ⟨t, later, ds, rfl, htext, hbehind.symm⟩

/-! ### Subscriptions -/

/-- Five tokens of a statement subscribe to an event: a word, a point, a method that subscribes, a parenthesis and a string that
begins with the name of the event. -/
def Subscribed (name : String) (stmt : List Token) : Prop :=
  ∃ before subject point method paren string after, stmt = before ++ [subject, point, method, paren, string] ++ after ∧
    (subject.kind = .identifier ∨ subject.kind = .keyword) ∧ point.isOperator "." = true ∧
    (method.kind = .identifier ∧ method.value ∈ methods) ∧ paren.isOpen = true ∧
    string.kind = .string ∧ name.toList <+: string.value.toList

theorem methods_start {w : String} (h : w ∈ methods) :
    wordKind w.toList = .identifier ∧
      ∃ c cs, w.toList = c :: cs ∧ isNameStart c = true ∧ ∀ d ∈ c :: cs, isNameChar d = true := by
  have hall : methods.all (fun w => decide (wordKind w.toList = .identifier) && isNameStart (w.toList.headD ' ') &&
      w.toList.all isNameChar) = true := by decide +kernel
  have hw := List.all_eq_true.mp hall w h
  obtain ⟨⟨hkind, hstart⟩, hchars⟩ : (wordKind w.toList = .identifier ∧ isNameStart (w.toList.headD ' ') = true) ∧
      w.toList.all isNameChar = true := by simpa using hw
  refine ⟨hkind, ?_⟩
  cases hw : w.toList with
  | nil =>
    rw [hw] at hstart
    cases hstart
  | cons c cs =>
    rw [hw] at hstart hchars
    exact ⟨c, cs, rfl, hstart, List.all_eq_true.mp hchars⟩

/-- A call that begins in a word is made of tokens that subscribe to its event. -/
theorem subscribed_of_word {c : EventCall} {stmt : List Token} {t : Token} {rest : List Char}
    (hstmt : ∀ t ∈ stmt, Front t) (hcall : c.Begins rest) (hstands : StandsIn t stmt rest)
    (hkind : t.kind = .identifier ∨ t.kind = .keyword) : Subscribed (.ofList c.name) stmt := by
  obtain ⟨earlier, later, part, rfl, hne, hsuffix, rfl⟩ := hstands
  obtain ⟨⟨-, hwords⟩, hmethod, ⟨-, hmarks⟩, a, b, d, e, behind, hblank, htext⟩ := hcall
  simp only [List.forall_mem_append] at hblank
  obtain ⟨⟨⟨ha, hb⟩, hd⟩, he⟩ := hblank
  have hlater : ∀ u ∈ later, Front u := fun u hu => hstmt u (by simp [hu])
  have hpart : ∀ x ∈ part, isNameChar x = true := fun x hx =>
    (hstmt t (by simp)).chars_of_kind hkind x (hsuffix.subset hx)
  -- the subject is what is left of the word, since a point or a blank is behind it
  have hinner {x : Char} (hblank : isBlank x = false) (hpoint : x ≠ '.') : (!isBlank x && x != '.') = true := by
    simp [hblank, hpoint]
  obtain ⟨-, htext⟩ := eq_of_stops (p := fun x => !isBlank x && x != '.') htext
    (fun x hx => hinner (isBlank_of_isNameChar (hpart x hx)) (ne_of_class (hpart x hx) (by decide)))
    (head?_trail (by decide) later)
    (fun x hx => hinner (isBlank_of_isWord (hwords x hx)) (ne_of_class (hwords x hx) (by decide)))
    (head?_gap (fun x hx => by simp [hx]) ha (by decide) _)
  obtain ⟨point, later, cs, rfl, hpoint, hrest⟩ := next_token hlater htext ha (by decide)
  rw [List.forall_mem_cons] at hlater
  obtain ⟨hoperator, rfl⟩ := hlater.1.point_of_front hpoint
  obtain ⟨hidentifier, m, ms, hm, hstart, hchars⟩ := methods_start hmethod
  rw [hm] at hrest
  obtain ⟨method, later, cs, rfl, htext, hrest⟩ := next_token hlater.2 hrest.symm hb
    (isBlank_of_isNameChar (hchars m List.mem_cons_self))
  replace hlater := List.forall_mem_cons.mp hlater.2
  obtain ⟨hword, hvalue, hchars'⟩ := hlater.1.word_of_start htext hstart
  -- the word is the method and nothing more, since a parenthesis or a blank is behind it
  obtain ⟨hsame, hrest⟩ := eq_of_stops (congrArg (m :: ·) hrest) hchars
    (head?_gap (fun _ => isNameChar_of_isBlank) hd (by decide) _) hchars' (head?_trail (by decide) later)
  have hmethod' : method.value = c.method := String.toList_inj.mp (by rw [hvalue, hm, hsame])
  rw [← hsame, ← hm, hidentifier] at hword
  obtain ⟨paren, later, cs', rfl, hparen, hrest⟩ := next_token hlater.2 hrest.symm hd (by decide)
  replace hlater := List.forall_mem_cons.mp hlater.2
  obtain ⟨hopen, rfl⟩ := hlater.1.open_of_front hparen
  obtain ⟨string, later, cs', rfl, hquoted, hrest⟩ := next_token hlater.2 hrest.symm he (by decide)
  obtain ⟨hstring, rfl⟩ := (hlater.2 string List.mem_cons_self).string_of_quote hquoted
  have hquote : '\'' ∉ c.name := fun hmem => absurd (hmarks _ hmem) (by decide)
  refine ⟨earlier, t, point, method, paren, string, later, by simp, hkind, hoperator, ⟨hword, hmethod' ▸ hmethod⟩, hopen,
    hstring, ?_⟩
  have hinner : c.name ++ '\'' :: behind = string.value.toList ++ '\'' :: trail later :=
    hrest.trans (by rw [List.append_assoc, List.singleton_append])
  obtain ⟨more, hvalue, -⟩ := exists_of_append_eq hquote hinner
  rw [String.toList_ofList, hvalue]
  exact List.prefix_append _ more

/-! ### Calls in strings -/

theorem EventCall.Begins.head_word {c : EventCall} {text : List Char} (h : c.Begins text) :
    ∃ d ds, text = d :: ds ∧ TextWord.isWord d = true := by
  obtain ⟨hne, hwords⟩ := h.subject
  obtain ⟨a, b, e, f, rest, -, rfl⟩ := h.written
  cases hsubject : c.subject with
  | nil => exact absurd hsubject hne
  | cons d ds => exact ⟨d, _, rfl, hwords d (by simp [hsubject])⟩

/-- The quotes of a call are around the name. -/
theorem EventCall.Begins.exists_lead {c : EventCall} {text : List Char} (h : c.Begins text) :
    ∃ lead behind, '\'' ∉ lead ∧ text = lead ++ '\'' :: (c.name ++ '\'' :: behind) ∧
      ∀ later, c.Begins (lead ++ '\'' :: (c.name ++ '\'' :: later)) := by
  obtain ⟨hsubject, hmethod, hname, a, b, d, e, behind, hblank, htext⟩ := h
  have hparts (later : List Char) :
      c.subject ++ (a ++ '.' :: (b ++ (c.method.toList ++ (d ++ '(' :: (e ++ '\'' :: (c.name ++ '\'' :: later)))))) =
        (c.subject ++ (a ++ '.' :: (b ++ (c.method.toList ++ (d ++ '(' :: e))))) ++ '\'' :: (c.name ++ '\'' :: later) := by
    simp only [List.append_assoc, List.cons_append]
  refine ⟨_, behind, ?_, htext.trans (hparts behind), fun later =>
    ⟨hsubject, hmethod, hname, a, b, d, e, later, hblank, (hparts later).symm⟩⟩
  have hgaps : '\'' ∉ a ++ b ++ d ++ e := fun hmem => absurd (hblank _ hmem) (by decide)
  have hsubject' : '\'' ∉ c.subject := fun hmem => absurd (hsubject.2 _ hmem) (by decide)
  have hmethod' : '\'' ∉ c.method.toList := fun hmem => absurd ((methods_word hmethod).2 _ hmem) (by decide)
  simp only [List.mem_append, not_or] at hgaps
  simp only [List.mem_append, List.mem_cons, not_or]
  exact ⟨hsubject', hgaps.1.1.1, by decide, hgaps.1.1.2, hmethod', hgaps.1.2, by decide, hgaps.2⟩

/-- A call that begins in a string is written there as a whole, up to the quote that closes the string, and with a quote in
it. -/
theorem EventCall.Begins.quoted {c : EventCall} {value later : List Char} (h : c.Begins (value ++ '\'' :: later))
    (hlater : ∀ x ∈ later.head?, isMark x = false) : c.Begins (value ++ ['\'']) ∧ '\'' ∈ value := by
  obtain ⟨lead, behind, hlead, htext, hbegins⟩ := h.exists_lead
  obtain ⟨hne, hmarks⟩ := h.name
  have hname : '\'' ∉ c.name := fun hmem => absurd (hmarks _ hmem) (by decide)
  -- the quote that closes the string does not open the name
  have hopen : later ≠ c.name ++ '\'' :: behind := by
    rintro rfl
    obtain ⟨x, xs, hx⟩ := List.exists_cons_of_ne_nil hne
    rw [hx] at hmarks hlater
    simp [hmarks x List.mem_cons_self] at hlater
  obtain ⟨between, rfl, hquote⟩ := exists_of_append_eq hlead htext.symm
  cases between with
  | nil => exact absurd (List.cons.inj hquote).2.symm hopen
  | cons x between =>
    obtain ⟨rfl, hinner⟩ := List.cons.inj hquote
    refine ⟨?_, by simp⟩
    obtain ⟨rest, rfl, hend⟩ := exists_of_append_eq hname hinner
    cases rest with
    | nil => simpa using hbegins []
    | cons y rest =>
      obtain ⟨rfl, -⟩ := List.cons.inj hend
      simpa using hbegins (rest ++ ['\''])

/-- A call that begins in a string, with other tokens behind it, is written in the string as a whole. -/
theorem EventCall.Begins.of_string {c : EventCall} {t : Token} {stmt : List Token} {rest : List Char} (h : c.Begins rest)
    (hstands : StandsIn t stmt rest) (hkind : t.kind = .string) :
    ∃ inner, inner <:+ t.value.toList ∧ c.Begins (inner ++ ['\'']) := by
  obtain ⟨earlier, later, part, -, hne, hpart, rfl⟩ := hstands
  rw [text_toList, if_pos hkind] at hpart
  obtain ⟨d, ds, htext, hd⟩ := h.head_word
  rcases List.suffix_cons_iff.mp hpart with rfl | hinner
  · obtain ⟨rfl, -⟩ := List.cons.inj htext
    cases hd
  rcases List.suffix_concat_iff.mp hinner with rfl | ⟨inner, rfl, hvalue⟩
  · exact absurd rfl hne
  · rw [List.append_assoc] at h
    exact ⟨inner, hvalue, (h.quoted (head?_trail (by decide) later)).1⟩

/-! ### Events -/

/-- The first call that is written in the text of a statement begins in a number, or is written in a string as a whole. -/
def Misread (name : String) (stmt : List Token) : Prop :=
  ∃ (c : EventCall) (rest : List Char) (t : Token), c.First (spaced (stmt.map Token.text)).toList rest ∧
    StandsIn t stmt rest ∧ .ofList c.name = name ∧
      (t.kind = .number ∨ t.kind = .string ∧ ∃ inner, inner <:+ t.value.toList ∧ c.Begins (inner ++ ['\'']))

/-- The token in which a first call begins. -/
theorem exists_token_of_first {c : EventCall} {stmt : List Token} {rest : List Char} (hstmt : ∀ t ∈ stmt, Front t)
    (h : c.First (spaced (stmt.map Token.text)).toList rest) :
    ∃ t, StandsIn t stmt rest ∧ ((t.kind = .string ∨ t.kind = .number) ∨ t.kind = .identifier ∨ t.kind = .keyword) := by
  have hsuffix := h.suffix
  rw [spaced_trail] at hsuffix
  obtain ⟨d, ds, rfl, hd⟩ := h.begins.head_word
  have hspace : d ≠ ' ' := ne_of_class hd (by decide)
  obtain ⟨t, ht⟩ := exists_standsIn (hsuffix.trans (List.tail_suffix _)) hspace
  refine ⟨t, ht, ?_⟩
  obtain ⟨earlier, later, part, rfl, hne, hpart, hrest⟩ := ht
  cases part with
  | nil => exact absurd rfl hne
  | cons x part =>
    obtain ⟨rfl, -⟩ := List.cons.inj hrest
    exact (hstmt t (by simp)).kind_of_isWord (hpart.subset List.mem_cons_self) hd

/-- The last statement of a list of tokens, without newlines. -/
def lastStatement (ts : List Token) : List Token := visible (pending ts)

theorem front_of_source (code : String) (k : ℕ) : ∀ t ∈ lastStatement ((tokens code).take k), Front t := by
  intro t ht
  obtain ⟨hmem, hvisible⟩ := List.mem_filter.mp ht
  have hsource : t ∈ tokens code := List.mem_of_mem_take (List.mem_of_mem_drop hmem)
  exact .of_spelled (tokensFrom_spelled 1 code.toList t hsource) (by simpa [Token.isNewline] using hvisible)

theorem subscribed_or_misread {code : String} {k : ℕ} {s m n : String}
    (h : classify ((tokens code).take k) = event s m n) :
    Subscribed n (lastStatement ((tokens code).take k)) ∨ Misread n (lastStatement ((tokens code).take k)) := by
  have hfront := front_of_source code k
  obtain ⟨c, rest, hfirst, howner⟩ := classify_event_iff.1 h
  obtain ⟨rfl, rfl, rfl⟩ := event.inj howner
  obtain ⟨t, ht, (hstring | hnumber) | hword⟩ := exists_token_of_first hfront hfirst
  · exact .inr ⟨c, rest, t, hfirst, ht, rfl, .inr ⟨hstring, hfirst.begins.of_string ht hstring⟩⟩
  · exact .inr ⟨c, rest, t, hfirst, ht, rfl, .inl hnumber⟩
  · exact .inl (subscribed_of_word hfront hfirst.begins ht hword)

/-- Every event is subscribed to by five tokens of the statement exactly if this is so of a first call that begins in a number
or is written in a string: one that begins in a word is made of such tokens. -/
theorem events_subscribed_iff (code : String) (k : ℕ) :
    (∀ s m n, classify ((tokens code).take k) = event s m n → Subscribed n (lastStatement ((tokens code).take k))) ↔
      ∀ n, Misread n (lastStatement ((tokens code).take k)) → Subscribed n (lastStatement ((tokens code).take k)) := by
  constructor
  · rintro h n ⟨c, rest, t, hfirst, -, rfl, -⟩
    exact h _ _ _ (classify_event_iff.2 ⟨c, rest, hfirst, rfl⟩)
  · intro h s m n hevent
    rcases subscribed_or_misread hevent with hsubscribed | hmisread
    · exact hsubscribed
    · exact h n hmisread

/-- A string that tells of a call, and no call. -/
theorem call_in_string_not_subscribed :
    ¬ ∀ s m n, classify ((tokens "log(\"use socket.on('data')\", () =>").take 7) = event s m n →
      Subscribed n (lastStatement ((tokens "log(\"use socket.on('data')\", () =>").take 7)) := by
  intro h
  have hevent : classify ((tokens "log(\"use socket.on('data')\", () =>").take 7) = event "socket" "on" "data" := by
    decide +kernel
  obtain ⟨before, subject, point, method, paren, string, after, hstmt, -, hpoint, -⟩ := h _ _ _ hevent
  have hnone : (lastStatement ((tokens "log(\"use socket.on('data')\", () =>").take 7)).any (·.isOperator ".") = false := by
    decide +kernel
  have hmem : point ∈ lastStatement ((tokens "log(\"use socket.on('data')\", () =>").take 7) := by
    rw [hstmt]
    simp
  exact List.any_eq_false.mp hnone point hmem hpoint

/-- Where there are no numbers, and no string has a quote in it, every event is subscribed to by five tokens. -/
theorem events_subscribed_of_plain (code : String) (k : ℕ)
    (h : ∀ t ∈ lastStatement ((tokens code).take k), t.kind ≠ .number ∧ (t.kind = .string → '\'' ∉ t.value.toList)) :
    ∀ s m n, classify ((tokens code).take k) = event s m n → Subscribed n (lastStatement ((tokens code).take k)) := by
  intro s m n hevent
  rcases subscribed_or_misread hevent with hsubscribed | ⟨c, rest, t, -, ⟨earlier, later, part, hstmt, -⟩, -, hread⟩
  · exact hsubscribed
  obtain ⟨hnumber, hplain⟩ := h t (by simp [hstmt])
  obtain ⟨hstring, inner, hinner, hcall⟩ := hread.resolve_left hnumber
  exact absurd (hinner.subset (hcall.quoted (by simp)).2) (hplain hstring)

end FlowSketch.Owner
