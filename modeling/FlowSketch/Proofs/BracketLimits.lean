import FlowSketch.Proofs.BracketPairs
import FlowSketch.Proofs.TextLimits

/-!
# Pairs of brackets in what is kept of a text

To round the brackets of a text shows in what is kept of it exactly if a pair begins there, and a pair in what is kept is
one of the text, between the same brackets.
-/
namespace FlowSketch.TextBracket
open TextBlank

variable {count size : ℕ} {cs : List Char} {c : Char}

/-- A pair of brackets begins in what is kept of a text. -/
def OpensIn (count size : ℕ) (cs : List Char) : Prop := ∃ before, OpensAt cs before ∧ FitsIn count size (before ++ ['['])

/-! ### Rounded brackets -/

theorem isBlank_square (c : Char) : isBlank (square c) = isBlank c := by
  rw [square]
  split_ifs with hopen hclose
  · rw [hopen]
    decide
  · rw [hclose]
    decide
  · rfl

/-- The limits do not tell brackets apart. -/
theorem fitsIn_bracket {before : List Char} :
    FitsIn count size (before ++ ['(']) ↔ FitsIn count size (before ++ ['[']) :=
  fitsIn_of_map isBlank_square (by simp [square])

/-- The first pair of a text begins in what is kept if any does. -/
theorem exists_first_in (h : OpensIn count size cs) :
    ∃ first, OpensAt cs first ∧ FitsIn count size (first ++ ['[']) ∧ ∃ later, rounded cs = first ++ '(' :: later := by
  obtain ⟨before, hopens, hfits⟩ := h
  obtain ⟨first, hfirst, hfirstOpens, hrounded⟩ := exists_first hopens
  have hlength : (first ++ ['[']).length ≤ (before ++ ['[']).length := by
    simpa using hfirst.length_le
  obtain ⟨more, hmore⟩ := List.prefix_of_prefix_length_le hfirstOpens.isPrefix hopens.isPrefix hlength
  rw [← hmore] at hfits
  exact ⟨first, hfirstOpens, hfits.left, hrounded⟩

theorem shortened_rounded_ne (h : OpensIn count size cs) :
    shortened count size (rounded cs) ≠ shortened count size cs := by
  intro heq
  obtain ⟨first, hopens, hfits, later, hrounded⟩ := exists_first_in h
  have hleft : squeeze (first ++ ['[']) <+: shortened count size cs := by
    obtain ⟨rest, hrest⟩ := hopens.isPrefix
    rw [← hrest]
    exact squeeze_isPrefix_shortened hfits rest
  have hright : squeeze (first ++ ['(']) <+: shortened count size cs := by
    have happend : first ++ '(' :: later = first ++ ['('] ++ later := List.append_cons ..
    rw [← heq, hrounded, happend]
    exact squeeze_isPrefix_shortened (fitsIn_bracket.2 hfits) later
  -- both brackets stand at the same place of what is kept
  obtain ⟨b, -, hconcat⟩ := squeeze_concat first
  rw [hconcat '[' (by decide)] at hleft
  rw [hconcat '(' (by decide)] at hright
  have hsame := (List.prefix_of_prefix_length_le hleft hright (by simp)).eq_of_length (by simp)
  simp at hsame

theorem shortened_rounded (h : ¬ OpensIn count size cs) :
    shortened count size (rounded cs) = shortened count size cs := by
  by_cases hopens : ∃ before, OpensAt cs before
  · obtain ⟨before, hbefore⟩ := hopens
    obtain ⟨first, -, hfirst, later, hrounded⟩ := exists_first hbefore
    have hout : ¬ FitsIn count size (first ++ ['[']) := fun hfits => h ⟨first, hfirst, hfits⟩
    obtain ⟨d, rest, rfl, -⟩ := hfirst
    rw [hrounded, shortened_append (mt fitsIn_bracket.1 hout), shortened_append hout]
  · rw [rounded_eq_self (not_exists.mp hopens)]

/-- What is kept of a text does not show that it was rounded exactly if no pair of brackets begins there. -/
theorem shortened_rounded_eq_iff (cs : List Char) :
    shortened count size (rounded cs) = shortened count size cs ↔ ¬ OpensIn count size cs :=
  ⟨fun heq hopens => shortened_rounded_ne hopens heq, shortened_rounded⟩

/-! ### Kept brackets -/

/-- What is squeezed up to a bracket stands in front of what is squeezed from it on. -/
theorem exists_squeeze_bracket (as : List Char) : ∃ before, squeeze (as ++ ['[']) = before ++ ['['] ∧
    ∀ rest, squeeze (as ++ '[' :: rest) = before ++ squeeze ('[' :: rest) := by
  obtain ⟨b, -, happend⟩ := squeeze_append_word as
  have hsingle : squeeze ['['] = ['['] := by decide
  refine ⟨squeeze as ++ b, ?_, fun rest => ?_⟩
  · rw [happend '[' [] (by decide), hsingle, List.append_assoc]
  · rw [happend '[' rest (by decide), List.append_assoc]

/-- What is squeezed between two brackets begins with a closing one only if the text between them does. -/
theorem exists_squeeze_between (hc : c ≠ ']') (cs : List Char) :
    ∃ d rest, d ≠ ']' ∧ squeeze ('[' :: c :: (cs ++ [']'])) = '[' :: d :: (rest ++ [']']) := by
  by_cases hblank : isBlank c = true
  · obtain ⟨b, -, hconcat⟩ := squeeze_concat cs
    have hwords : words (cs ++ [']']) ≠ [] := by
      intro hnil
      have hsqueeze := hconcat ']' (by decide)
      rw [squeeze, hnil] at hsqueeze
      exact absurd hsqueeze.symm (by simp [joinWords])
    refine ⟨' ', squeeze cs ++ b, by decide, ?_⟩
    rw [squeeze_blank_cons (by decide) hblank hwords, hconcat ']' (by decide), List.append_assoc]
  · have hword : isBlank c = false := Bool.not_eq_true _ ▸ hblank
    obtain ⟨b, -, hconcat⟩ := squeeze_concat (c :: cs)
    obtain ⟨rest, hrest⟩ := squeeze_cons hword cs
    refine ⟨c, rest ++ b, hc, ?_⟩
    rw [squeeze_word_cons (by decide) hword, ← List.cons_append, hconcat ']' (by decide), hrest]
    simp

theorem exists_of_squeeze_between {d : Char} {rest : List Char} (hd : d ≠ ']')
    (h : squeeze ('[' :: (cs ++ [']'])) = '[' :: d :: rest) : ∃ e later, cs = e :: later ∧ e ≠ ']' := by
  have hclosed (later : List Char) : squeeze ('[' :: ']' :: later) ≠ '[' :: d :: rest := by
    obtain ⟨more, hmore⟩ := squeeze_cons (c := ']') (by decide) later
    rw [squeeze_word_cons (by decide) (by decide), hmore]
    intro heq
    exact hd (List.cons.inj (List.cons.inj heq).2).1.symm
  cases cs with
  | nil => exact absurd h (hclosed [])
  | cons e later =>
    refine ⟨e, later, rfl, ?_⟩
    rintro rfl
    exact hclosed _ h

/-- A pair in what is kept of a text is one of the text. -/
theorem exists_of_opensAt_kept {before : List Char} (h : OpensAt (shortened count size cs) before) :
    ∃ as e bs later, e ≠ ']' ∧ cs = as ++ '[' :: e :: (bs ++ ']' :: later) ∧
      FitsIn count size (as ++ '[' :: e :: (bs ++ [']'])) ∧ squeeze (as ++ ['[']) = before ++ ['['] := by
  obtain ⟨d, rest, hkept, hd, hclosed⟩ := h
  obtain ⟨between, after, rfl⟩ := List.append_of_mem hclosed
  have hclose : shortened count size cs = (before ++ '[' :: d :: between) ++ ']' :: after := by simpa using hkept
  obtain ⟨xs, later, rfl, hsqueeze, hfits⟩ := exists_of_shortened (by decide) hclose
  have hopen : squeeze (xs ++ [']']) = before ++ '[' :: d :: (between ++ [']']) := by simpa using hsqueeze
  obtain ⟨as, zs, hxs, hbefore⟩ := exists_of_squeeze (by decide) hopen
  rcases List.eq_nil_or_concat zs with rfl | ⟨zs, e, rfl⟩
  · have hlast := (List.append_inj' hxs rfl).2
    simp at hlast
  rw [List.concat_eq_append] at hxs
  have hends : xs ++ [']'] = (as ++ '[' :: zs) ++ [e] := by simpa using hxs
  obtain ⟨rfl, hlast⟩ := List.append_inj' hends rfl
  obtain rfl := (List.cons.inj hlast).1
  obtain ⟨front, hfront, happend⟩ := exists_squeeze_bracket as
  obtain ⟨rfl, -⟩ := List.append_inj' (hfront.symm.trans hbefore) rfl
  rw [List.append_assoc, List.cons_append, happend] at hopen
  obtain ⟨f, bs, rfl, hf⟩ := exists_of_squeeze_between hd (List.append_cancel_left hopen)
  exact ⟨as, f, bs, later, hf, by simp, by simpa using hfits, hfront⟩

/-- A pair of a text that is kept up to its closing bracket is one of what is kept. -/
theorem exists_opensAt_kept {as bs : List Char} (hc : c ≠ ']')
    (hfits : FitsIn count size (as ++ '[' :: c :: (bs ++ [']']))) (later : List Char) :
    ∃ before, OpensAt (shortened count size (as ++ '[' :: c :: (bs ++ ']' :: later))) before ∧
      squeeze (as ++ ['[']) = before ++ ['['] := by
  obtain ⟨before, hbefore, happend⟩ := exists_squeeze_bracket as
  obtain ⟨d, rest, hd, hbetween⟩ := exists_squeeze_between hc bs
  obtain ⟨after, hafter⟩ := squeeze_isPrefix_shortened hfits later
  have htext : as ++ '[' :: c :: (bs ++ [']']) ++ later = as ++ '[' :: c :: (bs ++ ']' :: later) := by simp
  rw [htext, happend, hbetween] at hafter
  refine ⟨before, ⟨d, rest ++ ']' :: after, ?_, hd, by simp⟩, hbefore⟩
  rw [← hafter]
  simp

end FlowSketch.TextBracket
