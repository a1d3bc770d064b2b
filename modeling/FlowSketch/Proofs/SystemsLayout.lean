import FlowSketch.Proofs.SystemsProgram

/-!
# The lines of a program

The lines on which a program is written come back to the depth of braces at which they begin, no line outside
braces begins a case, and without its breaks a program is written as if it had none.
-/
namespace FlowSketch.SystemsProgram
open TextBlank SystemsRegion SystemsHeader SystemsFlow

/-! ### Indentation -/

theorem shows_nil {ls : List Line} : Shows ls [] ↔ ls = [] := List.forall₂_nil_right_iff

theorem shows_cons {ls : List Line} {part : Line} {parts : List Line} :
    Shows ls (part :: parts) ↔ ∃ b ls', Blank b ∧ ls = (b ++ part) :: ls' ∧ Shows ls' parts := by
  constructor
  · intro h
    obtain ⟨l, ls', ⟨b, hb, rfl⟩, hrest, rfl⟩ := List.forall₂_cons_right_iff.mp h
    exact ⟨b, ls', hb, rfl, hrest⟩
  · rintro ⟨b, ls', hb, rfl, hrest⟩
    exact .cons ⟨b, hb, rfl⟩ hrest

theorem shows_append {ls a b : List Line} (h : Shows ls (a ++ b)) :
    ∃ as bs, ls = as ++ bs ∧ Shows as a ∧ Shows bs b := by
  induction a generalizing ls with
  | nil => exact ⟨[], ls, rfl, .nil, h⟩
  | cons part a ih =>
    obtain ⟨i, ls', hi, rfl, hrest⟩ := shows_cons.1 h
    obtain ⟨as, bs, rfl, ha, hb⟩ := ih hrest
    exact ⟨(i ++ part) :: as, bs, rfl, shows_cons.2 ⟨i, as, hi, rfl, ha⟩, hb⟩

theorem shows_singleton {ls : List Line} {part : Line} : Shows ls [part] ↔ ∃ b, Blank b ∧ ls = [b ++ part] := by
  simp [shows_cons, shows_nil]

/-! ### Heads -/

/-- The text of a header up to where its body begins. -/
structure Head (h : Line) : Prop where
  ne_nil : h ≠ []
  solid : Solid h
  noBraces : NoBraces h
  literals : ClosesLiterals h
  noLabel : ∀ rest, clauseLabel? (h ++ rest) = none

theorem head_do : Head "do".toList where
  ne_nil := by simp
  solid := by simp [Solid]; decide
  noBraces := by simp [NoBraces]
  literals := rfl
  noLabel _ := rfl

theorem head_else : Head "else".toList where
  ne_nil := by simp
  solid := by simp [Solid]; decide
  noBraces := by simp [NoBraces]
  literals := rfl
  noLabel _ := rfl

/-- The words that stand before parentheses. -/
def callWords : List String := ["if", "else if", "for", "while", "switch"]

theorem calling_literals {w : String} (h : w ∈ callWords) (c : Expression) : ClosesLiterals (calling w c.chars) := by
  have hw : ClosesLiterals w.toList := by
    simp only [callWords, List.mem_cons, List.not_mem_nil, or_false] at h
    rcases h with rfl | rfl | rfl | rfl | rfl <;> rfl
  exact hw.append (ClosesLiterals.append (a := " (".toList) rfl (c.literals.append (b := [')']) rfl))

theorem calling_noBraces {w : String} (h : w ∈ callWords) (c : Expression) : NoBraces (calling w c.chars) := by
  have hw : NoBraces w.toList := by
    simp only [callWords, List.mem_cons, List.not_mem_nil, or_false] at h
    rcases h with rfl | rfl | rfl | rfl | rfl <;> simp [NoBraces]
  exact hw.append (NoBraces.append (by simp [NoBraces]) (c.noBraces.append (by simp [NoBraces])))

theorem head_calling {w : String} (h : w ∈ callWords) (c : Expression) : Head (calling w c.chars) where
  ne_nil := by simp [calling]
  solid := by
    refine ⟨?_, ?_⟩
    · simp only [callWords, List.mem_cons, List.not_mem_nil, or_false] at h
      rcases h with rfl | rfl | rfl | rfl | rfl <;> simp [calling] <;> decide
    · intro d hd
      rw [calling, ← List.append_assoc, ← List.append_assoc, List.getLast?_concat] at hd
      obtain rfl : ')' = d := Option.some.inj hd
      rfl
  noBraces := calling_noBraces h c
  literals := calling_literals h c
  noLabel rest := by
    simp only [callWords, List.mem_cons, List.not_mem_nil, or_false] at h
    rcases h with rfl | rfl | rfl | rfl | rfl <;> rfl

/-! ### Depths -/

theorem Head.plain {h : Line} (hh : Head h) (floor d : ℕ) {b : Line} (hb : Blank b) : Moves floor d [b ++ h] d := by
  obtain ⟨c, cs, rfl⟩ := List.exists_cons_of_ne_nil hh.ne_nil
  refine .plain ((noBraces_of_blank hb).append hh.noBraces) ?_ ?_ (.nil d)
  · exact not_allBlank (c := c) (by simp) (hh.solid.1 c rfl)
  · have := hh.noLabel []
    rw [List.append_nil] at this
    simp [clauseAt, trim_append hb, trim_solid hh.solid, this]

theorem noLabel_brace (d : ℕ) {b : Line} (hb : Blank b) : clauseAt d (b ++ ['{']) = none := by
  have htrim : trim ['{'] = ['{'] := rfl
  have hlabel : clauseLabel? ['{'] = none := rfl
  simp [clauseAt, trim_append hb, htrim, hlabel]

theorem moves_brace (floor d : ℕ) {b : Line} (hb : Blank b) : Moves floor d [b ++ ['{']] (d + 1) :=
  .opens (t := []) hb (by simp [Solid]; decide) (by simp [NoBraces]) rfl (noLabel_brace d hb) (.nil _)

theorem moves_close {floor d : ℕ} (h : floor ≤ d) {b : Line} (hb : Blank b) : Moves floor (d + 1) [b ++ ['}']] d :=
  .closes (t := []) h hb (by simp [Solid]; decide) (by simp [NoBraces]) (.nil _)

theorem solid_snoc {h : Line} (hh : Head h) (c : Char) (hc : isBlank c = false) (mid : Line) :
    Solid (h ++ mid ++ [c]) := by
  obtain ⟨d, ds, rfl⟩ := List.exists_cons_of_ne_nil hh.ne_nil
  refine ⟨?_, ?_⟩
  · intro e he
    exact hh.solid.1 e (by simpa using he)
  · intro e he
    rw [List.getLast?_concat] at he
    obtain rfl := Option.some.inj he
    exact hc

/-- A header with its brace goes one deeper. -/
theorem moves_opening {style : Style} {h : Line} (hh : Head h) {ls : List Line} (hs : Shows ls (opening style h))
    (floor d : ℕ) : Moves floor d ls (d + 1) := by
  cases style with
  | sameLine =>
    obtain ⟨b, hb, rfl⟩ := shows_singleton.1 hs
    have hsolid : Solid (h ++ [' '] ++ ['{']) := solid_snoc hh '{' rfl [' ']
    have hline : b ++ (h ++ " \x7b".toList) = b ++ ((h ++ [' ']) ++ ['{']) := by simp
    rw [hline]
    refine .opens hb hsolid (hh.noBraces.append (by simp [NoBraces])) (hh.literals.append rfl) ?_ (.nil _)
    rw [clauseAt, trim_append hb, trim_solid hsolid, List.append_assoc, hh.noLabel, ite_self]
  | ownLine =>
    obtain ⟨b, ls', hb, rfl, hrest⟩ := shows_cons.1 hs
    obtain ⟨b', hb', rfl⟩ := shows_singleton.1 hrest
    exact (hh.plain floor d hb).append (moves_brace floor d hb')

theorem moves_turning {style : Style} {h : Line} (hh : Head h) {ls : List Line} (hs : Shows ls (turning style h))
    {floor d : ℕ} (hd : floor ≤ d) : Moves floor (d + 1) ls (d + 1) := by
  cases style with
  | sameLine =>
    obtain ⟨b, hb, rfl⟩ := shows_singleton.1 hs
    have hline : b ++ '}' :: (' ' :: h ++ " \x7b".toList) = b ++ '}' :: ((' ' :: h ++ [' ']) ++ ['{']) := by simp
    have hspace : NoBraces [' '] := by simp [NoBraces]
    rw [hline]
    exact .turns hd hb ((hspace.append hh.noBraces).append hspace)
      ((ClosesLiterals.append (a := [' ']) rfl hh.literals).append rfl) (.nil _)
  | ownLine =>
    obtain ⟨b, ls', hb, rfl, hrest⟩ := shows_cons.1 hs
    have hopening : Shows ls' (opening .ownLine h) := hrest
    exact (moves_close hd hb).append (moves_opening hh hopening floor d)

theorem moves_closing {style : Style} {t : Line} (ht : Head t) {ls : List Line} (hs : Shows ls (closing style t))
    {floor d : ℕ} (hd : floor ≤ d) : Moves floor (d + 1) ls d := by
  cases style with
  | sameLine =>
    obtain ⟨b, hb, rfl⟩ := shows_singleton.1 hs
    refine .closes hd hb ?_ (NoBraces.append (a := [' ']) (by simp [NoBraces]) ht.noBraces) (.nil _)
    obtain ⟨ts, c, htc⟩ := (List.eq_nil_or_concat t).resolve_left ht.ne_nil
    rw [List.concat_eq_append] at htc
    refine ⟨?_, ?_⟩
    · intro e he
      obtain rfl : '}' = e := by simpa using he
      rfl
    · intro e he
      have hlast : ('}' :: ' ' :: t).getLast? = t.getLast? := by
        rw [htc, ← List.cons_append, ← List.cons_append, List.getLast?_concat, List.getLast?_concat]
      rw [hlast] at he
      exact ht.solid.2 e he
  | ownLine =>
    obtain ⟨b, ls', hb, rfl, hrest⟩ := shows_cons.1 hs
    obtain ⟨b', hb', rfl⟩ := shows_singleton.1 hrest
    exact (moves_close hd hb).append (ht.plain floor d hb')

theorem head_while (c : Expression) : Head (calling "while" c.chars ++ [';']) := by
  have hw := head_calling (w := "while") (by simp [callWords]) c
  refine ⟨by simp, ?_, hw.noBraces.append (by simp [NoBraces]), hw.literals.append rfl, fun rest => ?_⟩
  · simpa using solid_snoc hw ';' rfl []
  · rw [List.append_assoc, hw.noLabel]

theorem moves_simple (s : SimpleLine) (floor d : ℕ) {b : Line} (hb : Blank b) : Moves floor d [b ++ s.chars] d := by
  refine .plain ((noBraces_of_blank hb).append s.noBraces) ?_ ?_ (.nil d)
  · rw [allBlank_append hb, s.text]
  · rw [clauseAt, trim_append hb, s.noLabel, ite_self]

theorem labelLine_solid (l : CaseLabel) : Solid (labelLine l.chars) := by
  refine ⟨?_, ?_⟩
  · intro c hc
    obtain rfl : 'c' = c := by simpa [labelLine] using hc
    rfl
  · intro c hc
    rw [labelLine, ← List.append_assoc, List.getLast?_concat] at hc
    obtain rfl := Option.some.inj hc
    rfl

theorem moves_label {part : Line} (hsolid : Solid part) (hne : part ≠ []) (hbraces : NoBraces part) (floor d : ℕ)
    {b : Line} (hb : Blank b) : Moves floor (d + 1) [b ++ part] (d + 1) := by
  obtain ⟨c, cs, rfl⟩ := List.exists_cons_of_ne_nil hne
  exact .plain ((noBraces_of_blank hb).append hbraces) (not_allBlank (c := c) (by simp) (hsolid.1 c rfl))
    (clauseAt_succ d _) (.nil _)

theorem moves_labelLine (l : CaseLabel) (floor d : ℕ) {b : Line} (hb : Blank b) :
    Moves floor (d + 1) [b ++ labelLine l.chars] (d + 1) :=
  moves_label (labelLine_solid l) (by simp [labelLine])
    (NoBraces.append (by simp [NoBraces]) (l.noBraces.append (by simp [NoBraces]))) floor d hb

theorem moves_default (floor d : ℕ) {b : Line} (hb : Blank b) :
    Moves floor (d + 1) [b ++ "default:".toList] (d + 1) :=
  moves_label (by simp [Solid]; decide) (by simp) (by simp [NoBraces]) floor d hb

section
variable (style : Style) (dropBreaks : Bool)

/-- A header, a body at the depth below and a line that closes it. -/
theorem moves_body {h : Line} (hh : Head h) {body : List Line} {ls : List Line} {floor d : ℕ} (hd : floor ≤ d)
    (hbody : ∀ {bs}, Shows bs body → Moves floor (d + 1) bs (d + 1))
    (hs : Shows ls (opening style h ++ (body ++ [['}']]))) : Moves floor d ls d := by
  obtain ⟨as, rest, rfl, has, hs⟩ := shows_append hs
  obtain ⟨bs, ks, rfl, hbs, hks⟩ := shows_append hs
  obtain ⟨b, hb, rfl⟩ := shows_singleton.1 hks
  exact (moves_opening hh has floor d).append ((hbody hbs).append (moves_close hd hb))

mutual

theorem moves_item : ∀ (i : Item) {floor d : ℕ} {ls : List Line}, floor ≤ d → Shows ls (itemLines style dropBreaks i) →
    Moves floor d ls d
  | .line s, floor, d, ls, _, hs => by
    rw [itemLines] at hs
    split at hs
    · obtain rfl := shows_nil.1 hs
      exact .nil d
    · obtain ⟨b, hb, rfl⟩ := shows_singleton.1 hs
      exact moves_simple s floor d hb
  | .branch c body tail, floor, d, ls, hd, hs => by
    rw [itemLines] at hs
    obtain ⟨as, rest, rfl, has, hs⟩ := shows_append hs
    obtain ⟨bs, ts, rfl, hbs, hts⟩ := shows_append hs
    exact (moves_opening (head_calling (by simp [callWords]) c) has floor d).append
      ((moves_items body (Nat.le_succ_of_le hd) hbs).append (moves_tail tail hd hts))
  | .forLoop h body, floor, d, ls, hd, hs => by
    rw [itemLines] at hs
    exact moves_body style (head_calling (by simp [callWords]) h) hd
      (fun hbs => moves_items body (Nat.le_succ_of_le hd) hbs) hs
  | .whileLoop c body, floor, d, ls, hd, hs => by
    rw [itemLines] at hs
    exact moves_body style (head_calling (by simp [callWords]) c) hd
      (fun hbs => moves_items body (Nat.le_succ_of_le hd) hbs) hs
  | .doLoop body c, floor, d, ls, hd, hs => by
    rw [itemLines] at hs
    obtain ⟨as, rest, rfl, has, hs⟩ := shows_append hs
    obtain ⟨bs, ks, rfl, hbs, hks⟩ := shows_append hs
    exact (moves_opening head_do has floor d).append
      ((moves_items body (Nat.le_succ_of_le hd) hbs).append (moves_closing (head_while c) hks hd))
  | .switch e arms, floor, d, ls, hd, hs => by
    rw [itemLines] at hs
    exact moves_body style (head_calling (by simp [callWords]) e) hd
      (fun hbs => moves_arms arms (Nat.le_succ_of_le hd) hbs) hs

theorem moves_items : ∀ (is : List Item) {floor d : ℕ} {ls : List Line}, floor ≤ d → Shows ls (lines style dropBreaks is) →
    Moves floor d ls d
  | [], floor, d, ls, _, hs => by
    obtain rfl := shows_nil.1 hs
    exact .nil d
  | i :: is, floor, d, ls, hd, hs => by
    rw [lines] at hs
    obtain ⟨as, bs, rfl, has, hbs⟩ := shows_append hs
    exact (moves_item i hd has).append (moves_items is hd hbs)

theorem moves_tail : ∀ (t : Tail) {floor d : ℕ} {ls : List Line}, floor ≤ d → Shows ls (tailLines style dropBreaks t) →
    Moves floor (d + 1) ls d
  | .none, floor, d, ls, hd, hs => by
    obtain ⟨b, hb, rfl⟩ := shows_singleton.1 hs
    exact moves_close hd hb
  | .otherwise body, floor, d, ls, hd, hs => by
    rw [tailLines] at hs
    obtain ⟨as, rest, rfl, has, hs⟩ := shows_append hs
    obtain ⟨bs, ks, rfl, hbs, hks⟩ := shows_append hs
    obtain ⟨b, hb, rfl⟩ := shows_singleton.1 hks
    exact (moves_turning head_else has hd).append
      ((moves_items body (Nat.le_succ_of_le hd) hbs).append (moves_close hd hb))
  | .elseIf c body tail, floor, d, ls, hd, hs => by
    rw [tailLines] at hs
    obtain ⟨as, rest, rfl, has, hs⟩ := shows_append hs
    obtain ⟨bs, ts, rfl, hbs, hts⟩ := shows_append hs
    exact (moves_turning (head_calling (by simp [callWords]) c) has hd).append
      ((moves_items body (Nat.le_succ_of_le hd) hbs).append (moves_tail tail hd hts))

/-- The cases of a switch stand in its braces, where a label does not count. -/
theorem moves_arms : ∀ (arms : List Arm) {floor d : ℕ} {ls : List Line}, floor ≤ d + 1 →
    Shows ls (armLines style dropBreaks arms) → Moves floor (d + 1) ls (d + 1)
  | [], floor, d, ls, _, hs => by
    obtain rfl := shows_nil.1 hs
    exact .nil _
  | .case l body :: arms, floor, d, ls, hd, hs => by
    rw [armLines] at hs
    obtain ⟨b, rest, hb, rfl, hrest⟩ := shows_cons.1 hs
    obtain ⟨bs, ts, rfl, hbs, hts⟩ := shows_append hrest
    exact (moves_labelLine l floor d hb).append ((moves_items body hd hbs).append (moves_arms arms hd hts))
  | .default body :: arms, floor, d, ls, hd, hs => by
    rw [armLines] at hs
    obtain ⟨b, rest, hb, rfl, hrest⟩ := shows_cons.1 hs
    obtain ⟨bs, ts, rfl, hbs, hts⟩ := shows_append hrest
    exact (moves_default floor d hb).append ((moves_items body hd hbs).append (moves_arms arms hd hts))

end

end

/-! ### Breaks -/

theorem isBreak_append {b : Line} (h : Blank b) (part : Line) : isBreak (b ++ part) = isBreak part := by
  rw [isBreak, dropBlanks_append h, isBreak]

theorem isBreak_cons {c : Char} (hc : isBlank c = false) (hb : c ≠ 'b') (cs : Line) : isBreak (c :: cs) = false := by
  have hkeep : dropBlanks (c :: cs) = c :: cs := dropBlanks_solid (by simpa using hc)
  simp [isBreak, hkeep, after?, hb.symm]

theorem isBreak_calling {w : String} (h : w ∈ callWords) (c rest : Line) : isBreak (calling w c ++ rest) = false := by
  simp only [callWords, List.mem_cons, List.not_mem_nil, or_false] at h
  rcases h with rfl | rfl | rfl | rfl | rfl <;> exact isBreak_cons (by decide) (by decide) _

theorem shows_filter {ls parts : List Line} (h : Shows ls parts) :
    Shows (ls.filter fun l => !isBreak l) (parts.filter fun l => !isBreak l) := by
  induction h with
  | nil => exact .nil
  | @cons l part ls parts hl _ ih =>
    obtain ⟨b, hb, rfl⟩ := hl
    rw [List.filter_cons, List.filter_cons, isBreak_append hb]
    split
    · exact .cons ⟨b, hb, rfl⟩ ih
    · exact ih

/-- Lines that are no breaks. -/
def Keeps (parts : List Line) : Prop := parts.filter (fun l => !isBreak l) = parts

theorem keeps_brace : Keeps [['}']] := rfl

theorem keeps_opening {h : Line} (hh : ∀ rest, isBreak (h ++ rest) = false) (style : Style) : Keeps (opening style h) := by
  have := hh []
  rw [List.append_nil] at this
  have hbrace : isBreak ['{'] = false := rfl
  cases style <;> simp [Keeps, opening, hh, this, hbrace]

theorem keeps_turning {h : Line} (hh : ∀ rest, isBreak (h ++ rest) = false) (style : Style) : Keeps (turning style h) := by
  have := hh []
  rw [List.append_nil] at this
  have hopen : isBreak ['{'] = false := rfl
  have hclose (rest : Line) : isBreak ('}' :: rest) = false := isBreak_cons (by decide) (by decide) rest
  cases style <;> simp [Keeps, turning, hclose, this, hopen]

theorem keeps_closing {h : Line} (hh : isBreak h = false) (style : Style) : Keeps (closing style h) := by
  have hclose (rest : Line) : isBreak ('}' :: rest) = false := isBreak_cons (by decide) (by decide) rest
  cases style <;> simp [Keeps, closing, hclose, hh]

section
variable (style : Style) (dropBreaks : Bool)

theorem filter_item_line (s : SimpleLine) :
    (itemLines style dropBreaks (.line s)).filter (fun l => !isBreak l) = itemLines style true (.line s) := by
  cases hb : isBreak s.chars <;> cases dropBreaks <;> simp [itemLines, hb]

mutual

theorem filter_item : ∀ i : Item,
    (itemLines style dropBreaks i).filter (fun l => !isBreak l) = itemLines style true i
  | .line s => filter_item_line style dropBreaks s
  | .branch c body tail => by
    have hopen := keeps_opening (isBreak_calling (w := "if") (by simp [callWords]) c.chars) style
    rw [itemLines, List.filter_append, List.filter_append, hopen, filter_items body, filter_tail tail, itemLines]
  | .forLoop h body => by
    have hopen := keeps_opening (isBreak_calling (w := "for") (by simp [callWords]) h.chars) style
    rw [itemLines, List.filter_append, List.filter_append, hopen, filter_items body, keeps_brace, itemLines]
  | .whileLoop c body => by
    have hopen := keeps_opening (isBreak_calling (w := "while") (by simp [callWords]) c.chars) style
    rw [itemLines, List.filter_append, List.filter_append, hopen, filter_items body, keeps_brace, itemLines]
  | .doLoop body c => by
    have hopen := keeps_opening (h := "do".toList) (fun rest => isBreak_cons (by decide) (by decide) _) style
    have hclose := keeps_closing (isBreak_calling (w := "while") (by simp [callWords]) c.chars [';']) style
    rw [itemLines, List.filter_append, List.filter_append, hopen, filter_items body, hclose, itemLines]
  | .switch e arms => by
    have hopen := keeps_opening (isBreak_calling (w := "switch") (by simp [callWords]) e.chars) style
    rw [itemLines, List.filter_append, List.filter_append, hopen, filter_arms arms, keeps_brace, itemLines]

/-- What is left when the breaks are taken out of a program is the program without its breaks. -/
theorem filter_items : ∀ is : List Item,
    (lines style dropBreaks is).filter (fun l => !isBreak l) = lines style true is
  | [] => rfl
  | i :: is => by rw [lines, List.filter_append, filter_item i, filter_items is, lines]

theorem filter_tail : ∀ t : Tail,
    (tailLines style dropBreaks t).filter (fun l => !isBreak l) = tailLines style true t
  | .none => rfl
  | .otherwise body => by
    have hturn := keeps_turning (h := "else".toList) (fun rest => isBreak_cons (by decide) (by decide) _) style
    rw [tailLines, List.filter_append, List.filter_append, hturn, filter_items body, keeps_brace, tailLines]
  | .elseIf c body tail => by
    have hturn := keeps_turning (isBreak_calling (w := "else if") (by simp [callWords]) c.chars) style
    rw [tailLines, List.filter_append, List.filter_append, hturn, filter_items body, filter_tail tail, tailLines]

theorem filter_arms : ∀ arms : List Arm,
    (armLines style dropBreaks arms).filter (fun l => !isBreak l) = armLines style true arms
  | [] => rfl
  | .case l body :: arms => by
    have hlabel : isBreak (labelLine l.chars) = false := isBreak_cons (by decide) (by decide) _
    rw [armLines, List.filter_cons_of_pos (by simp [hlabel]), List.filter_append, filter_items body, filter_arms arms,
      armLines]
  | .default body :: arms => by
    have hlabel : isBreak "default:".toList = false := isBreak_cons (by decide) (by decide) _
    rw [armLines, List.filter_cons_of_pos (by rw [hlabel]; rfl), List.filter_append, filter_items body, filter_arms arms,
      armLines]

end

end

end FlowSketch.SystemsProgram
