import FlowSketch.Proofs.TextWords

/-!
# Texts within limits

What is kept of a text under a limit for its words and one for its characters are the words of its longest beginning
within the limits.
-/
namespace FlowSketch.TextBlank

/-- A text within the limits for words and for characters, once it is squeezed. -/
def FitsIn (count size : ℕ) (cs : List Char) : Prop := (words cs).length ≤ count ∧ (squeeze cs).length ≤ size

/-- The first words of a text, cut off behind as many characters as there may be. -/
def shortened (count size : ℕ) (cs : List Char) : List Char :=
  dropEndBlanks ((joinWords ((words cs).take count)).take size)

variable {count size : ℕ} {cs as bs : List Char} {c : Char}

/-! ### Limits -/

theorem fitsIn_nil : FitsIn count size [] := ⟨Nat.zero_le _, Nat.zero_le _⟩

theorem length_words_le (as bs : List Char) : (words as).length ≤ (words (as ++ bs)).length := by
  induction bs using List.reverseRecOn with
  | nil => rw [List.append_nil]
  | append_singleton bs c ih =>
    rw [← List.append_assoc]
    by_cases hc : isBlank c = true
    · rwa [words_concat_blank hc]
    · obtain ⟨ws, started, hwords, happend⟩ := words_append_word (as ++ bs)
      rw [happend c [] (Bool.not_eq_true _ ▸ hc)]
      rw [hwords] at ih
      cases started <;> simp [words, hc] at ih ⊢ <;> omega

theorem FitsIn.left (h : FitsIn count size (as ++ bs)) : FitsIn count size as :=
  ⟨(length_words_le as bs).trans h.1, (squeeze_isPrefix as bs).length_le.trans h.2⟩

/-- The limits look at the words only. -/
theorem fitsIn_congr (h : words as = words bs) : FitsIn count size as ↔ FitsIn count size bs := by
  rw [FitsIn, FitsIn, squeeze, squeeze, h]

theorem shortened_congr (h : words as = words bs) : shortened count size as = shortened count size bs := by
  rw [shortened, shortened, h]

/-! ### What is kept -/

theorem dropEndBlanks_squeeze (cs : List Char) : dropEndBlanks (squeeze cs) = squeeze cs := by
  induction cs using List.reverseRecOn with
  | nil => rfl
  | append_singleton cs c ih =>
    by_cases hc : isBlank c = true
    · rwa [squeeze_concat_blank hc]
    · obtain ⟨b, -, hconcat⟩ := squeeze_concat cs
      have hword : isBlank c = false := Bool.not_eq_true _ ▸ hc
      rw [hconcat c hword, ← List.append_assoc, dropEndBlanks_append_cons hword]
      rfl

theorem shortened_of_fitsIn (h : FitsIn count size cs) : shortened count size cs = squeeze cs := by
  rw [shortened, List.take_of_length_le h.1, ← squeeze, List.take_of_length_le h.2, dropEndBlanks_squeeze]

/-- A character behind which a text is out of the limits is not kept. -/
theorem shortened_concat (h : ¬ FitsIn count size (cs ++ [c])) :
    shortened count size (cs ++ [c]) = shortened count size cs := by
  by_cases hc : isBlank c = true
  · rw [shortened, words_concat_blank hc, shortened]
  have hword : isBlank c = false := Bool.not_eq_true _ ▸ hc
  obtain ⟨ws, started, hwords, happend⟩ := words_append_word cs
  have hmore : words (cs ++ [c]) = ws ++ [started.getD [] ++ [c]] := by
    rw [happend c [] hword]
    simp [words, hword]
  by_cases hcount : count ≤ ws.length
  · -- the character is behind the last word that is kept
    rw [shortened, hmore, shortened, hwords, List.take_append_of_le_length hcount, List.take_append_of_le_length hcount]
  · have hnext : (words (cs ++ [c])).length ≤ count := by
      rw [hmore, List.length_append, List.length_singleton]
      omega
    have hlast : (words cs).length ≤ count := (length_words_le cs [c]).trans hnext
    obtain ⟨b, hb, hconcat⟩ := squeeze_concat cs
    have hsize : size ≤ (squeeze cs ++ b).length := by
      have hlong : size < (squeeze (cs ++ [c])).length := by
        by_contra hshort
        exact h ⟨hnext, Nat.le_of_not_lt hshort⟩
      rw [hconcat c hword, ← List.append_assoc, List.length_append, List.length_singleton] at hlong
      omega
    have hblank : Blank (b.take (size - (squeeze cs).length)) := fun d hd => hb d (List.mem_of_mem_take hd)
    rw [shortened, List.take_of_length_le hnext, ← squeeze, hconcat c hword, ← List.append_assoc,
      List.take_append_of_le_length hsize, List.take_append, dropEndBlanks_append hblank, shortened,
      List.take_of_length_le hlast, ← squeeze]

theorem shortened_append (h : ¬ FitsIn count size (cs ++ [c])) (rest : List Char) :
    shortened count size (cs ++ c :: rest) = shortened count size cs := by
  induction rest using List.reverseRecOn with
  | nil => exact shortened_concat h
  | append_singleton rest d ih =>
    have hout : ¬ FitsIn count size (cs ++ c :: rest ++ [d]) := by
      intro hfits
      have hsplit : FitsIn count size (cs ++ [c] ++ (rest ++ [d])) := by simpa using hfits
      exact h hsplit.left
    rw [← List.cons_append, ← List.append_assoc, shortened_concat hout, ih]

/-- The longest beginning of a text within the limits. -/
theorem exists_shortened (count size : ℕ) (cs : List Char) : ∃ as bs, cs = as ++ bs ∧ FitsIn count size as ∧
    shortened count size cs = squeeze as ∧ ∀ c ∈ bs.head?, ¬ FitsIn count size (as ++ [c]) := by
  induction cs using List.reverseRecOn with
  | nil => exact ⟨[], [], rfl, fitsIn_nil, shortened_of_fitsIn fitsIn_nil, nofun⟩
  | append_singleton cs c ih =>
    obtain ⟨as, bs, rfl, hfits, hkept, hlongest⟩ := ih
    by_cases hmore : FitsIn count size (as ++ bs ++ [c])
    · exact ⟨as ++ bs ++ [c], [], (List.append_nil _).symm, hmore, shortened_of_fitsIn hmore, nofun⟩
    · refine ⟨as, bs ++ [c], List.append_assoc .., hfits, (shortened_concat hmore).trans hkept, ?_⟩
      cases bs with
      | nil =>
        intro d hd
        obtain rfl : c = d := by simpa using hd
        simpa using hmore
      | cons d bs => exact hlongest

/-- A beginning within the limits is kept. -/
theorem squeeze_isPrefix_shortened (h : FitsIn count size as) (bs : List Char) :
    squeeze as <+: shortened count size (as ++ bs) := by
  obtain ⟨xs, ys, hsplit, -, hkept, hlongest⟩ := exists_shortened count size (as ++ bs)
  rw [hkept]
  rcases List.append_eq_append_iff.mp hsplit with ⟨rest, rfl, -⟩ | ⟨rest, rfl, rfl⟩
  · exact squeeze_isPrefix as rest
  · cases rest with
    | nil => rw [List.append_nil]
    | cons c rest =>
      have hlonger : FitsIn count size (xs ++ [c] ++ rest) := by simpa using h
      exact absurd hlonger.left (hlongest c rfl)

/-- What is kept up to a character is the beginning of the text up to that character, and within the limits. -/
theorem exists_of_shortened {before after : List Char} (hc : isBlank c = false)
    (h : shortened count size cs = before ++ c :: after) :
    ∃ as bs, cs = as ++ c :: bs ∧ squeeze (as ++ [c]) = before ++ [c] ∧ FitsIn count size (as ++ [c]) := by
  obtain ⟨xs, ys, rfl, hfits, hkept, -⟩ := exists_shortened count size cs
  obtain ⟨as, bs, rfl, hsqueeze⟩ := exists_of_squeeze hc (hkept.symm.trans h)
  have hsplit : FitsIn count size (as ++ [c] ++ bs) := by simpa using hfits
  exact ⟨as, bs ++ ys, by simp, hsqueeze, hsplit.left⟩

/-! ### Texts behind a lead -/

/-- A lead that does not go on into what follows. -/
def Closed (lead : List Char) : Prop := ∀ c ∈ lead.getLast?, isBlank c = true

theorem Closed.words_append {lead : List Char} (h : Closed lead) (cs : List Char) :
    words (lead ++ cs) = words lead ++ words cs :=
  TextBlank.words_append fun c hc _ _ => .inl (h c hc)

theorem FitsIn.behind {lead : List Char} (h : Closed lead) (hfits : FitsIn count size (lead ++ cs)) :
    FitsIn count size cs := by
  obtain ⟨hwords, hsize⟩ := hfits
  rw [squeeze, h.words_append] at hsize
  rw [h.words_append, List.length_append] at hwords
  refine ⟨by omega, ?_⟩
  by_cases hcs : words cs = []
  · rw [squeeze, hcs]
    exact Nat.zero_le _
  by_cases hlead : words lead = []
  · rwa [hlead] at hsize
  · rw [joinWords_append hlead hcs, List.length_append, List.length_cons] at hsize
    rw [squeeze]
    omega

/-- What is cut off once is not within the limits behind a lead either. -/
theorem shortened_behind {lead : List Char} (h : Closed lead) (cs : List Char) :
    shortened count size (lead ++ shortened count size cs) = shortened count size (lead ++ cs) := by
  obtain ⟨as, bs, rfl, -, hkept, hlongest⟩ := exists_shortened count size cs
  have hsame : words (lead ++ squeeze as) = words (lead ++ as) := by
    rw [h.words_append, words_squeeze, h.words_append]
  rw [hkept, shortened_congr hsame]
  cases bs with
  | nil => rw [List.append_nil]
  | cons c bs =>
    have hout : ¬ FitsIn count size (lead ++ as ++ [c]) := by
      intro hfits
      apply hlongest c rfl
      apply FitsIn.behind h
      rwa [← List.append_assoc]
    rw [← List.append_assoc, shortened_append hout]

/-! ### Texts with other characters -/

theorem words_map {f : Char → Char} (h : ∀ c, isBlank (f c) = isBlank c) (cs : List Char) :
    words (cs.map f) = (words cs).map (List.map f) := by
  fun_induction words cs with
  | case1 => rfl
  | case2 c hc => simp [words, h, hc]
  | case3 c hc => simp [words, h, hc]
  | case4 c d cs hc ih => rw [List.map_cons, words_blank_cons (by rwa [h]), ih]
  | case5 c d cs hc hd ih =>
    rw [List.map_cons, List.map_cons, words, h, if_neg hc, h, if_pos hd, ← List.map_cons, ih]
    rfl
  | case6 c d cs hc hd ih =>
    rw [List.map_cons, List.map_cons, words, h, if_neg hc, h, if_neg hd, ← List.map_cons, ih]
    cases words (d :: cs) <;> rfl

theorem length_joinWords_map (f : Char → Char) (ws : List (List Char)) :
    (joinWords (ws.map (List.map f))).length = (joinWords ws).length := by
  induction ws with
  | nil => rfl
  | cons w ws ih =>
    by_cases hws : ws = []
    · rw [hws, List.map_singleton, joinWords_singleton, joinWords_singleton, List.length_map]
    · have hmap : ws.map (List.map f) ≠ [] := by simpa using hws
      rw [List.map_cons, joinWords_cons hmap, joinWords_cons hws, List.length_append, List.length_append,
        List.length_cons, List.length_cons, List.length_map, ih]

theorem fitsIn_map {f : Char → Char} (h : ∀ c, isBlank (f c) = isBlank c) (cs : List Char) :
    FitsIn count size (cs.map f) ↔ FitsIn count size cs := by
  rw [FitsIn, FitsIn, squeeze, words_map h, List.length_map, length_joinWords_map, squeeze]

/-- The limits do not tell characters apart that are exchanged for the same. -/
theorem fitsIn_of_map {f : Char → Char} (h : ∀ c, isBlank (f c) = isBlank c) (hmap : as.map f = bs.map f) :
    FitsIn count size as ↔ FitsIn count size bs := by
  rw [← fitsIn_map h as, hmap, fitsIn_map h]

end FlowSketch.TextBlank
