import FlowSketch.Proofs.BracketLimits
import FlowSketch.Proofs.ChartElements

/-!
# Labels made safe again

A label that was made safe is short, on one line, and free of the characters that have a meaning in a chart. To make it
safe again changes it exactly if it still has a pair of brackets, which it has from brackets within brackets: the outer
pair took the first closing bracket, and what it left is a pair of its own.
-/
namespace FlowSketch
namespace ChartLabel
open TextBlank TextBracket

/-- A text without the characters that have a meaning in charts. -/
def cleared (cs : List Char) : List Char := cs.filter fun c => !isUnsafe c

/-- A text that is kept as a whole. -/
def Fits (cs : List Char) : Prop := FitsIn maxWords maxLength (cleared cs)

/-- What is kept of a text with no unsafe characters, if its brackets are left alone. -/
def keptChars (cs : List Char) : List Char := shortened maxWords maxLength cs

/-- A text has an opening bracket within a pair that is kept behind the lead, and a closing bracket of no pair further on
that is kept, too. -/
def Reopens (lead cs : List Char) : Prop :=
  ∃ before a b between after, Reads cs (before ++ .pair (a ++ '[' :: b) :: (between ++ .single ']' :: after)) ∧
    Fits (lead ++ (written before ++ '[' :: (a ++ ['[']))) ∧
    Fits (written (before ++ .pair (a ++ '[' :: b) :: between) ++ [']'])

variable {cs lead : List Char} {c : Char}

theorem safeChars_eq (cs : List Char) : safeChars cs = shortened maxWords maxLength (cleared (rounded cs)) := rfl

/-! ### Safe labels -/

/-- A label that can stand between the quotes of a chart node. -/
structure IsSafe (label : String) : Prop where
  length_le : label.length ≤ 48
  words_le : (words label.toList).length ≤ 10
  blanks : ∀ c ∈ label.toList, isBlank c = true → c = ' '
  single : SingleSpaced label.toList
  first : label.toList.head? ≠ some ' '
  last : label.toList.getLast? ≠ some ' '
  oneLine : OneLine label.toList
  unmarked : ∀ c ∈ label.toList, c ∉ ['"', '\\', '\x60', '\x7b', '\x7d', '|', ';']

theorem cleared_clear (h : c ∈ cleared cs) : isUnsafe c = false := by
  simpa using (List.mem_filter.mp h).2

theorem safeChars_clear (h : c ∈ safeChars cs) : isUnsafe c = false := by
  rcases mem_joinWords (List.mem_of_mem_take (mem_dropEndBlanks h)) with rfl | ⟨w, hw, hc⟩
  · decide
  · exact cleared_clear (words_subset (List.mem_of_mem_take hw) hc)

theorem safe_isSafe (text : String) : IsSafe (safe text) := by
  have hchars : (safe text).toList = safeChars text.toList := String.toList_ofList
  obtain ⟨as, bs, -, hfits, hkept, -⟩ := exists_shortened maxWords maxLength (cleared (rounded text.toList))
  have hsqueezed : (safe text).toList = squeeze as := hchars.trans hkept
  have hwords : AreWords as (words as) := fun _ hw => hw
  refine ⟨?_, ?_, ?_, ?_, ?_, ?_, safe_oneLine text, ?_⟩
  · rw [← String.length_toList, hsqueezed]
    exact hfits.2
  · rw [hsqueezed, words_squeeze]
    exact hfits.1
  · intro c hc hblank
    rw [hchars] at hc
    exact safeChars_blank hc hblank
  · rw [hsqueezed]
    exact singleSpaced_joinWords hwords
  · rw [hsqueezed]
    exact head?_joinWords hwords
  · rw [hchars]
    exact getLast?_dropEndBlanks _
  · intro c hc hmark
    rw [hchars] at hc
    have hunsafe : isUnsafe c = true := by
      rw [isUnsafe, List.contains_iff_mem]
      exact hmark
    rw [safeChars_clear hc] at hunsafe
    cases hunsafe

/-! ### Brackets that are rounded once more -/

theorem cleared_of_clear (h : ∀ c ∈ cs, isUnsafe c = false) : cleared cs = cs :=
  List.filter_eq_self.mpr fun c hc => by simp [h c hc]

theorem cleared_append (as bs : List Char) : cleared (as ++ bs) = cleared as ++ cleared bs := List.filter_append ..

theorem isUnsafe_bracket : isUnsafe '(' = false ∧ isUnsafe ')' = false ∧ isUnsafe '[' = false ∧ isUnsafe ']' = false := by
  decide

theorem safeChars_of_clear (h : ∀ c ∈ cs, isUnsafe c = false) : safeChars cs = keptChars (rounded cs) := by
  rw [safeChars_eq, cleared_of_clear, keptChars]
  intro c hc
  rcases mem_rounded hc with hc | rfl | rfl
  · exact h c hc
  · exact isUnsafe_bracket.1
  · exact isUnsafe_bracket.2.1

/-- The brackets of a text in which no characters are unsafe are left alone exactly if no pair of them begins in what is
kept. -/
theorem safeChars_eq_keptChars_iff (h : ∀ c ∈ cs, isUnsafe c = false) :
    safeChars cs = keptChars cs ↔ ¬ OpensIn maxWords maxLength cs := by
  rw [safeChars_of_clear h, keptChars, keptChars, shortened_rounded_eq_iff]

/-! ### Labels behind a lead -/

/-- A text that can be put in front of a label: no word goes on from it, and it has no characters that are rewritten. -/
structure IsLead (lead : List Char) : Prop where
  closed : Closed lead
  noBracket : '[' ∉ lead
  clear : ∀ c ∈ lead, isUnsafe c = false

theorem isLead_empty : IsLead "".toList := ⟨nofun, List.not_mem_nil, fun _ hc => absurd hc List.not_mem_nil⟩

/-- To pass once behind a lead is to be cut off behind it. -/
theorem safeChars_behind (h : IsLead lead) (cs : List Char) :
    safeChars (lead ++ cs) = keptChars (lead ++ safeChars cs) := by
  rw [safeChars_eq, rounded_append h.noBracket, cleared_append, cleared_of_clear h.clear, keptChars, safeChars_eq,
    shortened_behind h.closed]

theorem clear_behind (h : IsLead lead) (cs : List Char) : ∀ c ∈ lead ++ safeChars cs, isUnsafe c = false := by
  intro c hc
  rcases List.mem_append.mp hc with hc | hc
  · exact h.clear c hc
  · exact safeChars_clear hc

/-! ### Pairs that are opened again -/

/-- The limits look at the places of brackets only. -/
theorem fits_of_map {as bs : List Char} (h : as.map square = bs.map square) : Fits as ↔ Fits bs := by
  have hunsafe : ∀ c, isUnsafe (square c) = isUnsafe c := by
    intro c
    rw [square]
    split_ifs with hopen hclose
    · rw [hopen, isUnsafe_bracket.1, isUnsafe_bracket.2.2.1]
    · rw [hclose, isUnsafe_bracket.2.1, isUnsafe_bracket.2.2.2]
    · rfl
  have hcleared (xs : List Char) : (cleared xs).map square = cleared (xs.map square) := by
    rw [cleared, cleared, List.filter_map]
    congr 1
    simp [Function.comp_def, hunsafe]
  apply fitsIn_of_map isBlank_square
  rw [hcleared, h, hcleared]

theorem exists_of_cleared {before rest : List Char} (h : cleared cs = before ++ c :: rest) :
    ∃ as bs, cs = as ++ c :: bs ∧ cleared as = before ∧ cleared bs = rest := by
  obtain ⟨as, tail, rfl, hbefore, htail⟩ := List.filter_eq_append_iff.1 h
  obtain ⟨skipped, bs, rfl, hskipped, -, hrest⟩ := List.filter_eq_cons_iff.1 htail
  refine ⟨as ++ skipped, bs, by simp, ?_, hrest⟩
  have hnone : cleared skipped = [] := List.filter_eq_nil_iff.2 hskipped
  rw [cleared_append, hnone, List.append_nil, cleared, hbefore]

/-- The limits see the same in front of a bracket, squeezed or not. -/
theorem fitsIn_behind {before as : List Char} (h : IsLead lead) (hsqueeze : squeeze (as ++ [c]) = before ++ [c]) :
    FitsIn maxWords maxLength (lead ++ before ++ [c]) ↔ FitsIn maxWords maxLength (lead ++ (as ++ [c])) := by
  apply fitsIn_congr
  rw [List.append_assoc, h.closed.words_append, h.closed.words_append, ← hsqueeze, words_squeeze]

theorem cleared_bracket : cleared ['['] = ['['] ∧ cleared [']'] = [']'] := by decide

theorem cleared_behind_bracket (as bs : List Char) : cleared (as ++ '[' :: bs) = cleared as ++ '[' :: cleared bs := by
  rw [List.append_cons, cleared_append, cleared_append, cleared_bracket.1, List.append_assoc, List.singleton_append]

/-- In what is left of a pair, its own closing bracket or what was inside of it comes first. -/
theorem exists_cleared_inside {b : List Char} (h : ']' ∉ b) (rest : List Char) :
    ∃ e ys, e ≠ ']' ∧ cleared (b ++ ')' :: rest) = e :: ys := by
  have hround : cleared (')' :: rest) = ')' :: cleared rest := List.filter_cons_of_pos (by decide)
  rw [cleared_append, hround]
  cases hb : cleared b with
  | nil => exact ⟨')', cleared rest, by decide, rfl⟩
  | cons e ys =>
    refine ⟨e, ys ++ ')' :: cleared rest, ?_, rfl⟩
    rintro rfl
    have hmem : ']' ∈ cleared b := by simp [hb]
    exact h (List.mem_filter.mp hmem).1

theorem fits_opening_iff (h : IsLead lead) (before : List Piece) (a : List Char) :
    Fits (lead ++ (written before ++ '[' :: (a ++ ['[']))) ↔
      FitsIn maxWords maxLength (lead ++ (cleared (roundedPieces before ++ '(' :: a) ++ ['['])) := by
  have hplaces : (lead ++ (written before ++ '[' :: (a ++ ['[']))).map square =
      (lead ++ (roundedPieces before ++ '(' :: a ++ ['['])).map square := by
    simp [map_square_rounded, square]
  rw [fits_of_map hplaces, Fits, cleared_append, cleared_of_clear h.clear, cleared_append, cleared_bracket.1]

theorem fits_closing_iff (ps : List Piece) :
    Fits (written ps ++ [']']) ↔ FitsIn maxWords maxLength (cleared (roundedPieces ps) ++ [']']) := by
  have hplaces : (written ps ++ [']']).map square = (roundedPieces ps ++ [']']).map square := by
    rw [List.map_append, ← map_square_rounded, ← List.map_append]
  rw [fits_of_map hplaces, Fits, cleared_append, cleared_bracket.2]

theorem exists_cons_of_cleared {e : Char} {ys : List Char} (he : e ≠ ']') (h : cleared cs = e :: ys) :
    ∃ f more, cs = f :: more ∧ f ≠ ']' := by
  cases cs with
  | nil => cases h
  | cons f more =>
    refine ⟨f, more, rfl, ?_⟩
    rintro rfl
    exact he (List.cons.inj h).1.symm

theorem reopens_of_opensIn (h : IsLead lead) (hopens : OpensIn maxWords maxLength (lead ++ safeChars cs)) :
    Reopens lead cs := by
  obtain ⟨_, hopens, hfits⟩ := hopens
  obtain ⟨kept, rfl, hkept⟩ := opensAt_append h.noBracket hopens
  obtain ⟨xs, e, ys, zs, he, hcleared, hclose, hsqueeze⟩ := exists_of_opensAt_kept hkept
  rw [fitsIn_behind h hsqueeze] at hfits
  obtain ⟨as, tail, hrounded, rfl, htail⟩ := exists_of_cleared hcleared
  have hinside : cleared tail = (e :: ys) ++ ']' :: zs := htail
  obtain ⟨bs, later, rfl, hbs, -⟩ := exists_of_cleared hinside
  obtain ⟨f, bs, rfl, hf⟩ := exists_cons_of_cleared he hbs
  obtain ⟨ps, hreads⟩ := exists_reads cs
  obtain ⟨before, a, b, between, after, rfl, rfl, hpieces⟩ := hreads.exists_reopening hf hrounded
  refine ⟨before, a, b, between, after, hreads, (fits_opening_iff h before a).2 hfits, ?_⟩
  rw [fits_closing_iff, ← hpieces, cleared_behind_bracket, hbs]
  simpa using hclose

/-- What is left of a pair with an opening bracket in it, and of a closing one behind it. -/
theorem exists_cleared_reopening {before between after : List Piece} {a b : List Char}
    (h : Reads cs (before ++ .pair (a ++ '[' :: b) :: (between ++ .single ']' :: after))) :
    ∃ e ys, e ≠ ']' ∧ cleared (roundedPieces (before ++ .pair (a ++ '[' :: b) :: between)) =
        cleared (roundedPieces before ++ '(' :: a) ++ '[' :: e :: ys ∧
      cleared (rounded cs) = cleared (roundedPieces before ++ '(' :: a) ++
        '[' :: e :: (ys ++ ']' :: cleared (roundedPieces after)) := by
  have hopen : ']' ∉ a ++ '[' :: b := h.pair_open (by simp)
  have hb : ']' ∉ b := fun hmem => hopen (List.mem_append_right a (List.mem_cons_of_mem '[' hmem))
  obtain ⟨e, ys, he, hbetween⟩ := exists_cleared_inside hb (roundedPieces between)
  have hpieces : roundedPieces (before ++ .pair (a ++ '[' :: b) :: between) =
      (roundedPieces before ++ '(' :: a) ++ '[' :: (b ++ ')' :: roundedPieces between) := by
    simp [roundedPieces, Piece.rounded]
  have hkept : cleared (roundedPieces (before ++ .pair (a ++ '[' :: b) :: between)) =
      cleared (roundedPieces before ++ '(' :: a) ++ '[' :: e :: ys := by
    rw [hpieces, cleared_behind_bracket, hbetween]
  have hrounded : rounded cs =
      roundedPieces (before ++ .pair (a ++ '[' :: b) :: between) ++ ([']'] ++ roundedPieces after) := by
    rw [h.rounded_eq]
    simp [roundedPieces, Piece.rounded]
  refine ⟨e, ys, he, hkept, ?_⟩
  rw [hrounded, cleared_append, hkept, cleared_append [']'], cleared_bracket.2]
  simp

theorem opensIn_of_reopens (h : IsLead lead) (hreopens : Reopens lead cs) :
    OpensIn maxWords maxLength (lead ++ safeChars cs) := by
  obtain ⟨before, a, b, between, after, hreads, hopen, hclose⟩ := hreopens
  obtain ⟨e, ys, he, hkept, hcleared⟩ := exists_cleared_reopening hreads
  rw [fits_opening_iff h] at hopen
  rw [fits_closing_iff, hkept, List.append_assoc, List.cons_append, List.cons_append] at hclose
  obtain ⟨kept, hopens, hsqueeze⟩ := exists_opensAt_kept he hclose (cleared (roundedPieces after))
  rw [← hcleared] at hopens
  exact ⟨lead ++ kept, hopens.behind lead, (fitsIn_behind h hsqueeze).2 hopen⟩

/-- A label opens a pair again, behind a lead, exactly if a pair with another opening bracket in it is followed by a closing
one. -/
theorem opensIn_behind_iff (h : IsLead lead) (cs : List Char) :
    OpensIn maxWords maxLength (lead ++ safeChars cs) ↔ Reopens lead cs :=
  ⟨reopens_of_opensIn h, opensIn_of_reopens h⟩

/-- A label that passes twice behind a lead, the first time alone, reads the same as one that passes once, exactly if it
does not open a pair again. -/
theorem safeChars_twice_iff (h : IsLead lead) (cs : List Char) :
    safeChars (lead ++ safeChars cs) = safeChars (lead ++ cs) ↔ ¬ Reopens lead cs := by
  rw [safeChars_behind h cs, safeChars_eq_keptChars_iff (clear_behind h cs), opensIn_behind_iff h]

theorem safe_twice_iff {lead : String} (h : IsLead lead.toList) (text : String) :
    safe (lead ++ safe text) = safe (lead ++ text) ↔ ¬ Reopens lead.toList text.toList := by
  have hchars : (safe text).toList = safeChars text.toList := String.toList_ofList
  rw [← safeChars_twice_iff h, ← hchars, ← String.toList_append, ← String.toList_append]
  exact String.ofList_inj

end ChartLabel

namespace ChartDrawing
open TextBlank TextBracket ChartLabel

/-! ### The labels of a chart -/

/-- What a catch is labelled with. -/
def caught (param : String) : String := if param.isEmpty then "error" else param

/-- What is put together for the label of a handler. -/
def subscription (subject name : String) : String := safe subject ++ ".on('" ++ safe name ++ "')"

/-- A text that ends where a label has to end. -/
def cutShort (text : String) : String := .ofList (keptChars text.toList)

theorem catch_isLead : IsLead "Catch: ".toList := ⟨by simp [Closed, isBlank], by decide, by simp [isUnsafe]⟩

theorem case_isLead : IsLead "Case: ".toList := ⟨by simp [Closed, isBlank], by decide, by simp [isUnsafe]⟩

theorem subscription_clear (subject name : String) : ∀ c ∈ (subscription subject name).toList, isUnsafe c = false := by
  have hsafe {text : String} {c : Char} (hc : c ∈ (safe text).toList) : isUnsafe c = false := by
    rw [safe, String.toList_ofList] at hc
    exact safeChars_clear hc
  have hlink : ∀ c ∈ ".on('".toList ++ "')".toList, isUnsafe c = false := by simp [isUnsafe]
  intro c hc
  simp only [subscription, String.toList_append, List.mem_append] at hc
  rcases hc with ((hc | hc) | hc) | hc
  · exact hsafe hc
  · exact hlink c (List.mem_append_left _ hc)
  · exact hsafe hc
  · exact hlink c (List.mem_append_right _ hc)

/-- Every label that is made safe is short, on one line and free of marks. To make it safe again, alone or behind a lead,
leaves it as it is exactly if it does not open a pair of brackets again, and what a handler is labelled with is only cut
off exactly if no pair of brackets begins in what is kept of it. -/
theorem labels_settled_iff (text : String) :
    IsSafe (safe text) ∧ (safe (safe text) = safe text ↔ ¬ Reopens [] text.toList) ∧
      (catchLabel text = safe ("Catch: " ++ caught text) ↔ ¬ Reopens "Catch: ".toList (caught text).toList) ∧
      ((Element.ofStep (caseStep text)).label = safe ("Case: " ++ text) ↔ ¬ Reopens "Case: ".toList text.toList) ∧
      ∀ name, handlerLabel text name = cutShort (subscription text name) ↔
        ¬ OpensIn maxWords maxLength (subscription text name).toList := by
  refine ⟨safe_isSafe text, ?_, safe_twice_iff catch_isLead (caught text), safe_twice_iff case_isLead text, fun name => ?_⟩
  · have hempty : safe ("" ++ safe text) = safe ("" ++ text) ↔ ¬ Reopens [] text.toList :=
      safe_twice_iff isLead_empty text
    rwa [String.empty_append, String.empty_append] at hempty
  · rw [← safeChars_eq_keptChars_iff (subscription_clear text name)]
    exact String.ofList_inj

/-- A subscript within a subscript keeps its brackets, so that the edge to a case and the case itself read differently. -/
theorem nested_subscript_not_settled :
    safe (safe "a[b[i]]") ≠ safe "a[b[i]]" ∧
      let chart := lines [.switch "x" [⟨"a[b[i]]", []⟩]]
      "  SW1 -->|a(b[i)]| N2" ∈ chart ∧ "  N2[\"Case: a(b(i))\"]" ∈ chart := by
  decide +kernel

end ChartDrawing
end FlowSketch
