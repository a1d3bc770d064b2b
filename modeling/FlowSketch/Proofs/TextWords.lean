import FlowSketch.Proofs.TextEnds
import FlowSketch.Proofs.TextLines

/-!
# The words of a text

A text that goes on keeps its words, but for the last one, which may go on too. So its words, with single spaces between
them, grow at the end only.
-/
namespace FlowSketch.TextBlank

/-! ### Joined words -/

theorem joinWords_singleton (w : List Char) : joinWords [w] = w := List.intercalate_singleton

theorem joinWords_cons {ws : List (List Char)} (h : ws ≠ []) (w : List Char) :
    joinWords (w :: ws) = w ++ ' ' :: joinWords ws := by
  rw [joinWords, List.intercalate_cons_of_ne_nil h, List.append_assoc]
  rfl

theorem joinWords_append {vs ws : List (List Char)} (hv : vs ≠ []) (hw : ws ≠ []) :
    joinWords (vs ++ ws) = joinWords vs ++ ' ' :: joinWords ws := by
  induction vs with
  | nil => exact absurd rfl hv
  | cons v vs ih =>
    by_cases hvs : vs = []
    · rw [hvs, List.singleton_append, joinWords_cons hw, joinWords_singleton]
    · rw [List.cons_append, joinWords_cons (List.append_ne_nil_of_left_ne_nil hvs ws), ih hvs, joinWords_cons hvs,
        List.append_assoc, List.cons_append]

/-- What is in front of the first word stays there. -/
theorem joinWords_append_head (v w : List Char) (ws : List (List Char)) :
    joinWords ((v ++ w) :: ws) = v ++ joinWords (w :: ws) := by
  cases ws with
  | nil => rw [joinWords_singleton, joinWords_singleton]
  | cons u us =>
    rw [joinWords_cons (List.cons_ne_nil u us), joinWords_cons (List.cons_ne_nil u us), List.append_assoc]

/-- No two spaces next to each other. -/
def SingleSpaced (cs : List Char) : Prop := cs.IsChain fun c d => ¬ (c = ' ' ∧ d = ' ')

/-- Some of the words of a text. -/
def AreWords (cs : List Char) (ws : List (List Char)) : Prop := ∀ w ∈ ws, w ∈ words cs

variable {cs w : List Char} {ws : List (List Char)}

theorem head?_joinWords (h : AreWords cs ws) : (joinWords ws).head? ≠ some ' ' := by
  cases ws with
  | nil => exact nofun
  | cons w ws =>
    have hw : w ∈ words cs := h w List.mem_cons_self
    obtain ⟨c, rest, rfl⟩ := List.exists_cons_of_ne_nil (words_ne_nil hw)
    have hc : isBlank c = false := words_not_blank hw c List.mem_cons_self
    have hhead : (joinWords ((c :: rest) :: ws)).head? = some c := by
      cases ws <;> simp [joinWords, List.intercalate_cons_cons]
    rw [hhead]
    rintro ⟨⟩
    cases hc

theorem singleSpaced_of_mem_words (h : w ∈ words cs) : SingleSpaced w := by
  refine List.isChain_iff_forall_rel_of_append_cons_cons.mpr ?_
  rintro c d before after rfl ⟨rfl, -⟩
  exact absurd (words_not_blank h ' ' (by simp)) (by decide)

theorem singleSpaced_joinWords (h : AreWords cs ws) : SingleSpaced (joinWords ws) := by
  induction ws with
  | nil => exact .nil
  | cons w ws ih =>
    obtain ⟨hw, hws⟩ := List.forall_mem_cons.mp h
    have hword : SingleSpaced w := singleSpaced_of_mem_words hw
    cases ws with
    | nil => rwa [joinWords_singleton]
    | cons v vs =>
      rw [joinWords_cons (List.cons_ne_nil v vs)]
      refine List.isChain_append.mpr ⟨hword, List.isChain_cons.mpr ⟨?_, ih hws⟩, ?_⟩
      · rintro c hc ⟨-, rfl⟩
        exact head?_joinWords hws hc
      · rintro c hc d - ⟨rfl, -⟩
        exact absurd (words_not_blank hw ' ' (List.mem_of_getLast? hc)) (by decide)

/-! ### Texts that go on -/

/-- The words of a text stay when a word follows, but for the one that is not ended, which is continued. -/
theorem words_append_word (cs : List Char) : ∃ ws, ∃ started : Option (List Char), words cs = ws ++ started.toList ∧
    ∀ c rest, isBlank c = false →
      words (cs ++ c :: rest) = ws ++ (words (c :: rest)).modifyHead (started.getD [] ++ ·) := by
  have hsame (ws : List (List Char)) : ws.modifyHead (([] : List Char) ++ ·) = ws := congrFun List.modifyHead_id ws
  fun_induction words cs with
  | case1 => exact ⟨[], none, rfl, fun c rest _ => (hsame _).symm⟩
  | case2 c hc =>
    refine ⟨[], none, rfl, fun d rest _ => ?_⟩
    rw [List.singleton_append, words, if_pos hc]
    exact (hsame _).symm
  | case3 c hc =>
    refine ⟨[], some [c], rfl, fun d rest hd => ?_⟩
    simp [words, hc, hd]
  | case4 c d cs hc ih =>
    obtain ⟨ws, started, hwords, happend⟩ := ih
    refine ⟨ws, started, hwords, fun e rest he => ?_⟩
    rw [← happend e rest he, List.cons_append, List.cons_append, words, if_pos hc, ← List.cons_append]
  | case5 c d cs hc hd ih =>
    obtain ⟨ws, started, hwords, happend⟩ := ih
    refine ⟨[c] :: ws, started, congrArg ([c] :: ·) hwords, fun e rest he => ?_⟩
    rw [List.cons_append, List.cons_append, words, if_neg hc, if_pos hd, ← List.cons_append, happend e rest he,
      List.cons_append]
  | case6 c d cs hc hd ih =>
    obtain ⟨ws, started, hwords, happend⟩ := ih
    obtain ⟨w, later, hfirst⟩ := words_cons (Bool.not_eq_true _ ▸ hd) cs
    have hstep (e : Char) (rest : List Char) :
        words (c :: d :: cs ++ e :: rest) = (words (d :: cs ++ e :: rest)).modifyHead (c :: ·) := by
      rw [List.cons_append, List.cons_append, words, if_neg hc, if_neg hd]
    cases ws with
    | cons v ws =>
      refine ⟨(c :: v) :: ws, started, by rw [hwords]; rfl, fun e rest he => ?_⟩
      rw [hstep, happend e rest he]
      rfl
    | nil =>
      cases started with
      | none => rw [hwords] at hfirst; cases hfirst
      | some v =>
        refine ⟨[], some (c :: v), by rw [hwords]; rfl, fun e rest he => ?_⟩
        obtain ⟨u, us, hnext⟩ := words_cons he rest
        rw [hstep, happend e rest he, hnext]
        rfl

/-- No word goes on from one text into the next. -/
def Apart (as bs : List Char) : Prop := ∀ c ∈ as.getLast?, ∀ d ∈ bs.head?, isBlank c = true ∨ isBlank d = true

theorem words_blank_cons {c : Char} (h : isBlank c = true) (cs : List Char) : words (c :: cs) = words cs := by
  cases cs with
  | nil => simp [words, h]
  | cons d cs => rw [words, if_pos h]

theorem words_append {as bs : List Char} (h : Apart as bs) : words (as ++ bs) = words as ++ words bs := by
  fun_induction words as with
  | case1 => rfl
  | case2 c hc => exact words_blank_cons hc bs
  | case3 c hc =>
    cases bs with
    | nil => simp [words, hc]
    | cons d bs =>
      have hd : isBlank d = true := (h c rfl d rfl).resolve_left hc
      rw [List.singleton_append, words, if_neg hc, if_pos hd, List.singleton_append]
  | case4 c d cs hc ih =>
    rw [List.cons_append, words_blank_cons hc]
    exact ih h
  | case5 c d cs hc hd ih =>
    rw [List.cons_append, List.cons_append, words, if_neg hc, if_pos hd, ← List.cons_append, ih h, List.cons_append]
  | case6 c d cs hc hd ih =>
    obtain ⟨w, ws, hfirst⟩ := words_cons (Bool.not_eq_true _ ▸ hd) cs
    rw [List.cons_append, List.cons_append, words, if_neg hc, if_neg hd, ← List.cons_append, ih h, hfirst]
    rfl

theorem words_concat_blank {c : Char} (h : isBlank c = true) (cs : List Char) : words (cs ++ [c]) = words cs := by
  have hapart : Apart cs [c] := by
    rintro d - e he
    obtain rfl : c = e := by simpa using he
    exact .inr h
  rw [words_append hapart, words_blank_cons h, words, List.append_nil]

theorem words_word {w : List Char} (hne : w ≠ []) (hw : ∀ c ∈ w, isBlank c = false) : words w = [w] := by
  induction w with
  | nil => exact absurd rfl hne
  | cons c w ih =>
    obtain ⟨hc, hw⟩ := List.forall_mem_cons.mp hw
    cases w with
    | nil => simp [words, hc]
    | cons d w =>
      have hd : isBlank d = false := hw d List.mem_cons_self
      rw [words, hc, if_neg (by decide), hd, if_neg (by decide), ih (List.cons_ne_nil d w) hw]
      rfl

/-- What is joined falls into the same words. -/
theorem words_joinWords {ws : List (List Char)} (h : ∀ w ∈ ws, w ≠ [] ∧ ∀ c ∈ w, isBlank c = false) :
    words (joinWords ws) = ws := by
  induction ws with
  | nil => rfl
  | cons w ws ih =>
    obtain ⟨⟨hne, hw⟩, hws⟩ := List.forall_mem_cons.mp h
    by_cases hnil : ws = []
    · rw [hnil, joinWords_singleton, words_word hne hw]
    · have hapart : Apart w (' ' :: joinWords ws) := by
        intro c _ d hd
        obtain rfl : ' ' = d := by simpa using hd
        exact .inr (by decide)
      rw [joinWords_cons hnil, words_append hapart, words_word hne hw, words_blank_cons (by decide), ih hws,
        List.singleton_append]

theorem words_squeeze (cs : List Char) : words (squeeze cs) = words cs :=
  words_joinWords fun _ hw => ⟨words_ne_nil hw, words_not_blank hw⟩

/-! ### Squeezed texts that go on -/

theorem squeeze_concat_blank {c : Char} (h : isBlank c = true) (cs : List Char) : squeeze (cs ++ [c]) = squeeze cs :=
  congrArg joinWords (words_concat_blank h cs)

/-- A word that follows is put behind the words before it, or behind a space. -/
theorem squeeze_append_word (cs : List Char) : ∃ b, Blank b ∧ ∀ c rest, isBlank c = false →
    squeeze (cs ++ c :: rest) = squeeze cs ++ (b ++ squeeze (c :: rest)) := by
  obtain ⟨ws, started, hwords, happend⟩ := words_append_word cs
  cases started with
  | none =>
    have hws : words cs = ws := by simpa using hwords
    have hmore {c : Char} {rest : List Char} (hc : isBlank c = false) :
        words (cs ++ c :: rest) = ws ++ words (c :: rest) := by
      rw [happend c rest hc]
      exact congrArg (ws ++ ·) (congrFun List.modifyHead_id _)
    by_cases hnil : ws = []
    · refine ⟨[], fun c hc => absurd hc List.not_mem_nil, fun c rest hc => ?_⟩
      rw [squeeze, hmore hc, squeeze, hws, hnil]
      rfl
    · refine ⟨[' '], List.forall_mem_singleton.mpr (by decide), fun c rest hc => ?_⟩
      obtain ⟨u, us, hfirst⟩ := words_cons hc rest
      rw [squeeze, hmore hc, squeeze, hws, squeeze, hfirst, joinWords_append hnil (List.cons_ne_nil _ _)]
      rfl
  | some w =>
    refine ⟨[], fun c hc => absurd hc List.not_mem_nil, fun c rest hc => ?_⟩
    obtain ⟨u, us, hfirst⟩ := words_cons hc rest
    have hmore : words (cs ++ c :: rest) = ws ++ (w ++ c :: u) :: us := by
      rw [happend c rest hc, hfirst]
      rfl
    have hws : words cs = ws ++ [w] := hwords
    rw [squeeze, hmore, squeeze, hws, squeeze, hfirst]
    by_cases hnil : ws = []
    · rw [hnil, List.nil_append, List.nil_append, List.nil_append, joinWords_append_head, joinWords_singleton]
    · rw [joinWords_append hnil (List.cons_ne_nil _ _), joinWords_append hnil (List.cons_ne_nil _ _),
        joinWords_append_head, joinWords_singleton, List.nil_append, List.append_assoc, List.cons_append]

/-- The last character of a word stands at the end of what is squeezed. -/
theorem squeeze_concat (cs : List Char) : ∃ b, Blank b ∧ ∀ c, isBlank c = false →
    squeeze (cs ++ [c]) = squeeze cs ++ (b ++ [c]) := by
  obtain ⟨b, hb, happend⟩ := squeeze_append_word cs
  refine ⟨b, hb, fun c hc => ?_⟩
  have hsingle : squeeze [c] = [c] := by simp [squeeze, words, hc, joinWords_singleton]
  rw [happend c [] hc, hsingle]

theorem squeeze_isPrefix (as bs : List Char) : squeeze as <+: squeeze (as ++ bs) := by
  induction bs using List.reverseRecOn with
  | nil => rw [List.append_nil]
  | append_singleton bs c ih =>
    rw [← List.append_assoc]
    by_cases hc : isBlank c = true
    · rwa [squeeze_concat_blank hc]
    · obtain ⟨b, -, hconcat⟩ := squeeze_concat (as ++ bs)
      rw [hconcat c (Bool.not_eq_true _ ▸ hc)]
      exact ih.trans (List.prefix_append _ _)

/-- A word at the front stays there. -/
theorem squeeze_cons {c : Char} (h : isBlank c = false) (cs : List Char) : ∃ rest, squeeze (c :: cs) = c :: rest := by
  obtain ⟨w, ws, hfirst⟩ := words_cons h cs
  refine ⟨joinWords (w :: ws), ?_⟩
  rw [squeeze, hfirst]
  exact joinWords_append_head [c] w ws

theorem squeeze_word_cons {c d : Char} (hc : isBlank c = false) (hd : isBlank d = false) (cs : List Char) :
    squeeze (c :: d :: cs) = c :: squeeze (d :: cs) := by
  obtain ⟨w, ws, hfirst⟩ := words_cons hd cs
  have hwords : words (c :: d :: cs) = ([c] ++ d :: w) :: ws := by
    rw [words, hc, if_neg (by decide), hd, if_neg (by decide), hfirst]
    rfl
  rw [squeeze, hwords, joinWords_append_head, squeeze, hfirst, List.singleton_append]

/-- Blanks in front of a word become a space. -/
theorem squeeze_blank_cons {c d : Char} (hc : isBlank c = false) (hd : isBlank d = true) {cs : List Char}
    (h : words cs ≠ []) : squeeze (c :: d :: cs) = c :: ' ' :: squeeze cs := by
  have hwords : words (c :: d :: cs) = [c] :: words cs := by
    rw [words, hc, if_neg (by decide), if_pos hd, words_blank_cons hd]
  rw [squeeze, hwords, joinWords_cons h, squeeze, List.singleton_append]

/-- What is squeezed up to a character is the beginning of the text up to that character. -/
theorem exists_of_squeeze {cs before after : List Char} {c : Char} (hc : isBlank c = false)
    (h : squeeze cs = before ++ c :: after) : ∃ as bs, cs = as ++ c :: bs ∧ squeeze (as ++ [c]) = before ++ [c] := by
  induction cs using List.reverseRecOn generalizing after with
  | nil => exact absurd h.symm (List.append_ne_nil_of_right_ne_nil _ (List.cons_ne_nil _ _))
  | append_singleton cs e ih =>
    by_cases he : isBlank e = true
    · rw [squeeze_concat_blank he] at h
      obtain ⟨as, bs, rfl, hsqueeze⟩ := ih h
      exact ⟨as, bs ++ [e], by simp, hsqueeze⟩
    · obtain ⟨b, hb, hconcat⟩ := squeeze_concat cs
      rw [hconcat e (Bool.not_eq_true _ ▸ he), ← List.append_assoc] at h
      rcases List.eq_nil_or_concat after with rfl | ⟨after, f, rfl⟩
      · obtain ⟨rfl, hlast⟩ := List.append_inj' h rfl
        obtain rfl := (List.cons.inj hlast).1
        exact ⟨cs, [], rfl, by rw [hconcat e hc, List.append_assoc]⟩
      · rw [List.concat_eq_append, ← List.cons_append, ← List.append_assoc] at h
        obtain ⟨hfront, -⟩ := List.append_inj' h rfl
        -- the gap is blank, so that the character is one of the words before it
        have hnotin (gap : List Char) {later : List Char} (hgap : b = gap ++ c :: later) : False := by
          have hblank := hb c (by simp [hgap])
          rw [hc] at hblank
          cases hblank
        rcases List.append_eq_append_iff.mp hfront with ⟨gap, -, hgap⟩ | ⟨later, hlater, hgap⟩
        · exact (hnotin gap hgap).elim
        · cases later with
          | nil => exact (hnotin [] hgap.symm).elim
          | cons f later =>
            obtain ⟨rfl, -⟩ := List.cons.inj hgap
            obtain ⟨as, bs, rfl, hsqueeze⟩ := ih hlater
            exact ⟨as, bs ++ [e], by simp, hsqueeze⟩

end FlowSketch.TextBlank
