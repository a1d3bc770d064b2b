import FlowSketch.Proofs.LabelPlaces
import FlowSketch.Proofs.SystemsConstructs

/-!
# Cases of a switch body

A line is read for one label, at its front, up to the first colon that no other colon follows. The cases that are found
are the due ones exactly if no line of the body has its labels in another way.
-/
namespace FlowSketch.TextBlank

/-- Two cuts of a text at the same character agree if the same amount of text is behind them. -/
theorem cut_unique {c : Char} (hc : isBlank c = false) {as bs xs ys : List Char} (h : as ++ c :: xs = bs ++ c :: ys)
    (hsize : textSize xs = textSize ys) : as = bs ∧ xs = ys := by
  have hlonger (zs : List Char) : textSize (zs ++ c :: xs) ≠ textSize ys ∧ textSize (zs ++ c :: ys) ≠ textSize xs := by
    rw [textSize_append, textSize_append, textSize_cons hc, textSize_cons hc]
    omega
  rcases List.append_eq_append_iff.mp h with ⟨zs, rfl, hrest⟩ | ⟨zs, rfl, hrest⟩
  · cases zs with
    | nil => exact ⟨(List.append_nil as).symm, (List.cons.inj hrest).2⟩
    | cons z zs => exact absurd (congrArg textSize (List.cons.inj hrest).2).symm (hlonger zs).2
  · cases zs with
    | nil => exact ⟨List.append_nil bs, (List.cons.inj hrest).2.symm⟩
    | cons z zs => exact absurd (congrArg textSize (List.cons.inj hrest).2).symm (hlonger zs).1

end FlowSketch.TextBlank

namespace FlowSketch.SystemsFlow
open TextBlank SystemsRegion SystemsHeader SystemsAttempt

theorem textSize_of_firstLine {a b : Line} (h : firstLine a = firstLine b) : textSize a = textSize b := by
  have htrim : trim a = trim b := by
    unfold firstLine at h
    split_ifs at h <;> simp_all
  rw [← textSize_trim a, htrim, textSize_trim]

theorem firstLine_congr {a b : Line} (h : trim a = trim b) : firstLine a = firstLine b := by
  rw [firstLine, h, ← firstLine]

/-! ### The label that is read -/

theorem endsLabel_eq_some {cs rest : Line} (h : endsLabel cs = some rest) :
    ∃ b, Blank b ∧ cs = b ++ ':' :: rest ∧ rest.head? ≠ some ':' := by
  unfold endsLabel at h
  split at h
  · next after hafter =>
    split_ifs at h with hcolon
    obtain rfl := Option.some.inj h
    refine ⟨cs.takeWhile isBlank, fun c hc => List.mem_takeWhile_imp hc, ?_, hcolon⟩
    rw [← hafter, dropBlanks, List.takeWhile_append_dropWhile]
  · cases h

/-- The shortest label: a colon of its own is behind it, and none inside of it but at its front. -/
structure Shortest (cs label blanks after : Line) : Prop where
  text : cs = label ++ (blanks ++ ':' :: after)
  blank : Blank blanks
  line : '\n' ∉ label
  inner : ∀ p q, p ≠ [] → label = p ++ ':' :: q → (q ++ (blanks ++ ':' :: after)).head? = some ':'

theorem shortest_of_shortestLabel {cs : Line} {r : Line × Line} (h : shortestLabel cs = some r) :
    ∃ blanks, Shortest cs r.1 blanks r.2 := by
  induction cs generalizing r with
  | nil => cases h
  | cons c cs ih =>
    rw [shortestLabel] at h
    split_ifs at h with hc
    have hline : '\n' ∉ [c] := by simpa using Ne.symm hc
    cases hends : endsLabel cs with
    | some rest =>
      rw [hends] at h
      obtain rfl := Option.some.inj h
      obtain ⟨b, hb, rfl, -⟩ := endsLabel_eq_some hends
      refine ⟨b, rfl, hb, hline, fun p q hp heq => ?_⟩
      obtain ⟨d, p, rfl⟩ := List.exists_cons_of_ne_nil hp
      simp at heq
    | none =>
      rw [hends] at h
      obtain ⟨s, hs, rfl⟩ := Option.map_eq_some_iff.mp h
      obtain ⟨b, hshort⟩ := ih hs
      refine ⟨b, by rw [List.cons_append, ← hshort.text], hshort.blank, ?_, fun p q hp heq => ?_⟩
      · exact fun hmem => (List.mem_cons.mp hmem).elim (Ne.symm hc) hshort.line
      · obtain ⟨d, p, rfl⟩ := List.exists_cons_of_ne_nil hp
        obtain ⟨rfl, hlabel⟩ := List.cons.inj heq
        cases p with
        | cons e p => exact hshort.inner _ q (List.cons_ne_nil e p) hlabel
        | nil =>
          by_contra hcolon
          have hcs : cs = [] ++ ':' :: (q ++ (b ++ ':' :: s.2)) := by
            rw [hshort.text, hlabel]
            simp
          rw [hcs, SystemsProgram.endsLabel_colon (by simp [Blank]) hcolon] at hends
          cases hends

theorem mem_afterBlanks {cs t : Line} (h : t ∈ afterBlanks cs) : ∃ b, Blank b ∧ b ≠ [] ∧ cs = b ++ t := by
  induction cs with
  | nil => cases h
  | cons c cs ih =>
    unfold afterBlanks at h
    split_ifs at h with hc
    · rcases List.mem_append.mp h with h | h
      · obtain ⟨b, hb, -, rfl⟩ := ih h
        exact ⟨c :: b, List.forall_mem_cons.mpr ⟨hc, hb⟩, List.cons_ne_nil c b, rfl⟩
      · obtain rfl := List.mem_singleton.mp h
        exact ⟨[c], blank_singleton hc, List.cons_ne_nil c [], rfl⟩
    · cases h

/-- All of the blanks in front of a label are passed first. -/
theorem findSome?_afterBlanks {b : Line} (hb : Blank b) (hne : b ≠ []) {cs : Line}
    (hhead : ∀ c ∈ cs.head?, isBlank c = false) {r : Line × Line} (h : shortestLabel cs = some r) :
    (afterBlanks (b ++ cs)).findSome? shortestLabel = some r := by
  induction b with
  | nil => exact absurd rfl hne
  | cons c b ih =>
    obtain ⟨hc, hb⟩ := List.forall_mem_cons.mp hb
    rw [List.cons_append, afterBlanks, if_pos hc, List.findSome?_append]
    cases b with
    | nil =>
      have hnone : afterBlanks cs = [] := by
        cases cs with
        | nil => rfl
        | cons d cs => rw [afterBlanks, if_neg (by simp [hhead d rfl])]
      rw [List.nil_append, hnone]
      simp [h]
    | cons d b => rw [ih hb (List.cons_ne_nil d b), Option.some_or]

theorem caseLabel?_eq_some {line : Line} {l : Line × Line} (h : caseLabel? line = some l) :
    ∃ b cs blanks, line = "case".toList ++ (b ++ cs) ∧ Blank b ∧ b ≠ [] ∧ Shortest cs l.1 blanks l.2 := by
  unfold caseLabel? at h
  simp only [Option.bind_eq_bind] at h
  obtain ⟨rest, hrest, h⟩ := Option.bind_eq_some_iff.mp h
  obtain ⟨cs, hcs, hl⟩ := List.exists_of_findSome?_eq_some h
  obtain ⟨b, hb, hne, rfl⟩ := mem_afterBlanks hcs
  obtain ⟨blanks, hshort⟩ := shortest_of_shortestLabel hl
  exact ⟨b, cs, blanks, after?_eq_some.mp hrest, hb, hne, hshort⟩

/-! ### The labels of one line -/

/-- How a line has its labels for them to be found: there is at most one, at the front of the line, a blank is behind its
word, and it has no colon and no line end in it. What is read as a label at depth zero is one. -/
structure PlainLine (r : LineState) (line : Line) : Prop where
  single : (marks r line).length ≤ 1
  front : ∀ m ∈ marks r line, allBlank m.before = true
  written : ∀ m ∈ marks r line, ∀ tail, after? "case" m.rest = some tail →
    tail.head?.any isBlank = true ∧ ':' ∉ m.label ∧ '\n' ∉ m.label
  real : r.braces = 0 → clauseLabel? (trim line) ≠ none → marks r line ≠ []

theorem not_beginsStatement_case {a b : Line} (ha : Blank a) (hb : Blank b) :
    ¬ BeginsStatement (a ++ ("case".toList ++ b)) := by
  rintro (h | h | ⟨-, h⟩)
  · rw [allBlank_append ha] at h
    cases h
  · have htrim : trim "case".toList = "case".toList := by decide
    rw [trim_append ha, trim_append_right hb, htrim] at h
    revert h
    decide
  · have hreverse : (a ++ ("case".toList ++ b)).reverse = b.reverse ++ ("case".toList.reverse ++ a.reverse) := by simp
    have hblank : a.reverse.takeWhile TextWord.isWord = [] := by
      cases hcs : a.reverse with
      | nil => rfl
      | cons c cs =>
        have hc : isBlank c = true := ha c (List.mem_reverse.mp (hcs ▸ List.mem_cons_self))
        exact List.takeWhile_cons_of_neg (by simp [isWord_of_isBlank hc])
    have hcase : "case".toList.reverse.all TextWord.isWord = true := by decide
    have hword : lastWord (a ++ ("case".toList ++ b)) = "case".toList := by
      rw [lastWord, hreverse, dropBlanks_append fun c hc => hb c (List.mem_reverse.mp hc),
        dropBlanks_solid fun c hc => ?_, List.takeWhile_append_of_pos (List.all_eq_true.mp hcase), hblank]
      · rfl
      · obtain rfl := Option.some.inj hc
        rfl
    rw [hword] at h
    revert h
    decide

/-- A label that is read as it is due has no colon: another colon would stand next to it, and so on up to its end. -/
theorem no_colon {b cs label blanks after y behind : Line} (hb : Blank b) (hshort : Shortest cs label blanks after)
    (hcolon : UpToColon y behind) (hy : y = b ++ (label ++ blanks)) : ':' ∉ label := by
  have hnext (p q : Line) (hlabel : label = p ++ ':' :: q) : (q ++ (blanks ++ [':'])).head? = some ':' := by
    cases p with
    | nil =>
      have hfirst := hcolon.first b (q ++ blanks) hb (by rw [hy, hlabel]; simp)
      simpa [List.head?_append] using hfirst
    | cons c p => simpa [List.head?_append] using hshort.inner (c :: p) q (List.cons_ne_nil c p) hlabel
  have hnone (q p : Line) : label ≠ p ++ ':' :: q := by
    induction q generalizing p with
    | nil =>
      intro hlabel
      have hhead := hnext p [] hlabel
      cases hblanks : blanks with
      | nil => exact hcolon.last (by rw [hy, hlabel, hblanks]; simp)
      | cons c cs =>
        rw [hblanks] at hhead
        have hc := hshort.blank c (by rw [hblanks]; exact List.mem_cons_self)
        rw [Option.some.inj hhead] at hc
        cases hc
    | cons c q ih =>
      intro hlabel
      obtain rfl := Option.some.inj (hnext p (c :: q) hlabel)
      exact ih (p ++ [':']) (by rw [hlabel]; simp)
  intro hmem
  obtain ⟨p, q, hlabel⟩ := List.append_of_mem hmem
  exact hnone q p hlabel

theorem same_colon {before rest a text e behind after : Line} (he : Blank e)
    (h : before ++ (rest ++ ':' :: behind) = a ++ (text ++ ':' :: after ++ e))
    (hsize : textSize after = textSize behind) : before ++ rest = a ++ text := by
  have hbehind : textSize behind = textSize (after ++ e) := by
    rw [textSize_append, textSize_blank he, hsize, Nat.add_zero]
  exact (cut_unique (c := ':') rfl (by simpa using h) hbehind).1

/-- A case label that is read as it is due is the first text of its line, and is written in the way that is read. -/
theorem plain_of_case {before rest a e text : Line} {l label : Line × Line} (ha : Blank a) (he : Blank e)
    (hline : before ++ rest = a ++ (text ++ e)) (hl : caseLabel? text = some l) (hs : spelledCase? rest = some label)
    (hlabel : l.1 = label.1) (hsize : textSize l.2 = textSize label.2) :
    allBlank before = true ∧ ∀ tail, after? "case" rest = some tail →
      tail.head?.any isBlank = true ∧ ':' ∉ label.1 ∧ '\n' ∉ label.1 := by
  obtain ⟨b, cs, blanks, rfl, hb, hne, hshort⟩ := caseLabel?_eq_some hl
  obtain ⟨y, rfl, -, hy, hcolon⟩ := spelledCase?_eq_some hs
  rw [hshort.text] at hline
  have hsame : before ++ ("case".toList ++ y) = a ++ ("case".toList ++ (b ++ (l.1 ++ blanks))) :=
    same_colon he (by simpa using hline) hsize
  have hfront : allBlank before = true := by
    have hcount := congrArg textSize hsame
    simp only [textSize_append, textSize_blank ha, textSize_blank hb, textSize_blank hshort.blank] at hcount
    have hsizes : textSize y = textSize l.1 := by rw [hlabel, hy, textSize_trim]
    rw [← textSize_eq_zero]
    omega
  have hwritten : "case".toList ++ y = "case".toList ++ (b ++ (l.1 ++ blanks)) := by
    have hdrop := congrArg dropBlanks hsame
    rw [dropBlanks_append (List.all_eq_true.mp hfront), dropBlanks_append ha] at hdrop
    exact hdrop
  have hyb : y = b ++ (l.1 ++ blanks) := List.append_cancel_left hwritten
  refine ⟨hfront, fun tail htail => ⟨?_, hlabel ▸ no_colon hb hshort hcolon hyb, hlabel ▸ hshort.line⟩⟩
  rw [← List.append_cancel_left (after?_eq_some.mp htail), hyb]
  obtain ⟨c, b, rfl⟩ := List.exists_cons_of_ne_nil hne
  exact hb c List.mem_cons_self

/-- A label that is read as it is due is the first text of its line, and is written in the way that is read. -/
theorem plain_of_read {r : LineState} {line : Line} {l : Line × Line} (hl : clauseLabel? (trim line) = some l) {m : Mark}
    (hm : m ∈ marks r line) (hlabel : l.1 = m.label) (hsize : textSize l.2 = textSize m.behind) :
    allBlank m.before = true ∧ ∀ tail, after? "case" m.rest = some tail →
      tail.head?.any isBlank = true ∧ ':' ∉ m.label ∧ '\n' ∉ m.label := by
  obtain ⟨hline, ⟨-, -, -, hbegins⟩, hspelled⟩ := mem_marks.mp hm
  obtain ⟨a, e, ha, he, htrim⟩ := exists_trim line
  have hcut : m.before ++ m.rest = a ++ (trim line ++ e) := hline.trans htrim
  unfold clauseLabel? at hl
  unfold spelledLabel? at hspelled
  rcases Option.or_eq_some_iff.mp (by simpa using hl) with hl | ⟨-, hl⟩ <;>
    rcases Option.or_eq_some_iff.mp (by simpa using hspelled) with hs | ⟨-, hs⟩
  · exact plain_of_case ha he hcut hl hs hlabel hsize
  · -- The line is read as the label of a case whose value is the word of the due label.
    obtain ⟨b, cs, blanks, htext, hb, -, hshort⟩ := caseLabel?_eq_some hl
    obtain ⟨y, hrest, hy, hdefault⟩ := spelledDefault?_eq_some hs
    simp only at hrest hdefault
    rw [htext, hrest, hshort.text, hlabel, hdefault] at hcut
    have hsame : m.before ++ ("default".toList ++ y) = a ++ ("case".toList ++ (b ++ ("default".toList ++ blanks))) :=
      same_colon he (by simpa using hcut) hsize
    have hsizes : textSize ("efault".toList ++ y) = textSize ("efault".toList ++ blanks) := by
      rw [textSize_append, textSize_append, textSize_blank hy, textSize_blank hshort.blank]
    have hbefore : m.before = a ++ ("case".toList ++ b) :=
      (cut_unique (c := 'd') rfl (by simpa using hsame) hsizes).1
    exact absurd (hbefore ▸ hbegins) (not_beginsStatement_case ha hb)
  · -- The other way round the word would have to be there twice.
    obtain ⟨b, htext, hb, hword⟩ := defaultLabel?_eq_some hl
    obtain ⟨y, hrest, -, hy, -⟩ := spelledCase?_eq_some hs
    simp only at hrest hy
    rw [htext, hrest] at hcut
    have hsame : m.before ++ ("case".toList ++ y) = a ++ ("default".toList ++ b) :=
      same_colon he (by simpa using hcut) hsize
    have hcount := congrArg textSize hsame
    have hsizes : textSize y = 7 := by rw [← textSize_trim, ← hy, ← hlabel, hword]; rfl
    have hcase : textSize "case".toList = 4 := by decide
    have hdefault : textSize "default".toList = 7 := by decide
    rw [textSize_append, textSize_append, textSize_append, textSize_append, textSize_blank ha, textSize_blank hb, hcase,
      hdefault] at hcount
    omega
  · obtain ⟨b, htext, hb, -⟩ := defaultLabel?_eq_some hl
    obtain ⟨y, hrest, hy, -⟩ := spelledDefault?_eq_some hs
    rw [htext, hrest] at hcut
    have hsame : m.before ++ ("default".toList ++ y) = a ++ ("default".toList ++ b) :=
      same_colon he (by simpa using hcut) hsize
    have hcount := congrArg textSize hsame
    rw [textSize_append, textSize_append, textSize_append, textSize_append, textSize_blank ha, textSize_blank hb,
      textSize_blank hy] at hcount
    refine ⟨textSize_eq_zero.mp (by omega), fun tail htail => ?_⟩
    rw [hrest, after?_eq_some] at htail
    exact absurd (List.cons.inj htail).1 (by decide)

theorem trim_label {w : String} {c : Char} {cs : Line} (hw : w.toList = c :: cs) (hc : isBlank c = false)
    (y behind : Line) : trim (w.toList ++ (y ++ ':' :: behind)) = w.toList ++ (y ++ ':' :: dropEndBlanks behind) := by
  have hcolon : allBlank (y ++ ':' :: behind) = false := not_allBlank (c := ':') (by simp) rfl
  rw [hw, trim_append_left (by simpa using hc) (List.cons_ne_nil c cs) hcolon, dropEndBlanks_append_cons rfl]

theorem head?_dropEndBlanks {cs : Line} {c : Char} (h : cs.head? ≠ some c) : (dropEndBlanks cs).head? ≠ some c := by
  obtain ⟨b, -, hcs⟩ := exists_dropEndBlanks cs
  intro hhead
  rw [hcs, List.head?_append, hhead] at h
  exact h rfl

/-- A case label is read if it is written in the way that is read. -/
theorem caseLabel?_text {y behind : Line} (hy : allBlank y = false) (halone : behind.head? ≠ some ':')
    (hblank : y.head?.any isBlank = true) (hcolon : ':' ∉ trim y) (hline : '\n' ∉ trim y) :
    caseLabel? ("case".toList ++ (y ++ ':' :: behind)) = some (trim y, behind) := by
  have hne : trim y ≠ [] := fun h => by simp [trim_eq_nil.mp h] at hy
  obtain ⟨a, b, ha, hb, htrim⟩ := exists_trim y
  have hfront : a ≠ [] := by
    rintro rfl
    obtain ⟨c, cs, hcs⟩ := List.exists_cons_of_ne_nil hne
    have hc := (solid_trim y).1 c (by rw [hcs]; rfl)
    rw [htrim, hcs] at hblank
    exact Bool.false_ne_true (hc.symm.trans hblank)
  have hshort : shortestLabel (trim y ++ (b ++ ':' :: behind)) = some (trim y, behind) :=
    SystemsProgram.shortestLabel_text hne hline hcolon (solid_trim y).2 hb halone
  have hhead : ∀ c ∈ (trim y ++ (b ++ ':' :: behind)).head?, isBlank c = false := by
    rw [List.head?_append_of_ne_nil _ hne]
    exact (solid_trim y).1
  have htext : y ++ ':' :: behind = a ++ (trim y ++ (b ++ ':' :: behind)) := by
    conv_lhs => rw [htrim]
    simp
  have hafter : after? "case" ("case".toList ++ (y ++ ':' :: behind)) = some (y ++ ':' :: behind) :=
    after?_eq_some.mpr rfl
  rw [caseLabel?, hafter]
  simp only [Option.bind_eq_bind, Option.bind_some]
  rw [htext, findSome?_afterBlanks ha hfront hhead hshort]

theorem defaultLabel?_text {y : Line} (hy : Blank y) (behind : Line) :
    clauseLabel? ("default".toList ++ (y ++ ':' :: behind)) = some ("default".toList, behind) := by
  have hafter : after? "default" ("default".toList ++ (y ++ ':' :: behind)) = some (y ++ ':' :: behind) :=
    after?_eq_some.mpr rfl
  have hdrop : dropBlanks (y ++ ':' :: behind) = ':' :: behind := by
    rw [dropBlanks_append hy]
    rfl
  have hcase : caseLabel? ("default".toList ++ (y ++ ':' :: behind)) = none := rfl
  rw [clauseLabel?, hcase, defaultLabel?, hafter]
  simp only [Option.bind_eq_bind, Option.bind_some, hdrop]
  rfl

/-- A label at the front of its line is read if it is written in the way that is read. -/
theorem clauseAt_mark {parens depth : ℕ} {line : Line} (h : PlainLine (.atLine parens depth) line) {m : Mark}
    (hm : m ∈ marks (.atLine parens depth) line) : clauseAt depth line = some (m.label, dropEndBlanks m.behind) := by
  obtain ⟨hline, ⟨-, -, hdepth, -⟩, hspelled⟩ := mem_marks.mp hm
  have hfront := List.all_eq_true.mp (h.front m hm)
  rw [LineState.through_blank rfl hfront] at hdepth
  obtain rfl : depth = 0 := Nat.le_zero.mp (Int.ofNat_le.mp hdepth)
  rw [clauseAt, if_pos rfl, ← hline, trim_append hfront]
  unfold spelledLabel? at hspelled
  rcases Option.or_eq_some_iff.mp (by simpa using hspelled) with hs | ⟨-, hs⟩
  · obtain ⟨y, hrest, hy, hlabel, hcolon⟩ := spelledCase?_eq_some hs
    simp only at hrest hlabel hcolon
    obtain ⟨hblank, hnocolon, hnoline⟩ := h.written m hm (y ++ ':' :: m.behind) (after?_eq_some.mpr hrest)
    have hhead : y.head?.any isBlank = true := by
      obtain ⟨c, cs, rfl⟩ := List.exists_cons_of_ne_nil (show y ≠ [] by rintro rfl; cases hy)
      exact hblank
    rw [hrest, trim_label rfl rfl, clauseLabel?, hlabel,
      caseLabel?_text hy (head?_dropEndBlanks hcolon.alone) hhead (hlabel ▸ hnocolon) (hlabel ▸ hnoline)]
    rfl
  · obtain ⟨y, hrest, hy, hlabel⟩ := spelledDefault?_eq_some hs
    simp only at hrest hlabel
    rw [hrest, hlabel, trim_label rfl rfl, defaultLabel?_text hy]

/-! ### From line to line -/

/-- The cases so far, with what is read from the next line. -/
def readStep (depth : ℕ) (clauses : List Clause) (line : Line) : List Clause :=
  match clauseAt depth line with
  | some l => clauses ++ [⟨l.1, firstLine l.2⟩]
  | none => addToLast line clauses

theorem length_addToLast (line : Line) (clauses : List Clause) : (addToLast line clauses).length = clauses.length := by
  rw [← List.length_map Clause.label, labels_addToLast, List.length_map]

theorem length_dueStep (r : LineState) (clauses : List Clause) (line : Line) :
    (dueStep r clauses line).length = clauses.length + (marks r line).length := by
  rw [← List.length_map Clause.label, labels_dueStep, List.length_append, List.length_map, List.length_map]

theorem dueStep_single {r : LineState} {line : Line} {m : Mark} (h : marks r line = [m]) (clauses : List Clause) :
    dueStep r clauses line = addAllToLast clauses (firstLine m.before) ++ [⟨m.label, firstLine m.behind⟩] := by
  rw [dueStep, h]
  simp [markClauses]

section
variable {parens depth : ℕ} {clauses : List Clause} {line : Line}

theorem plainLine_of_readStep (h : readStep depth clauses line = dueStep (.atLine parens depth) clauses line) :
    PlainLine (.atLine parens depth) line := by
  have hlength := congrArg List.length h
  rw [length_dueStep, readStep] at hlength
  cases hat : clauseAt depth line with
  | none =>
    simp only [hat, length_addToLast] at hlength
    have hmarks : marks (.atLine parens depth) line = [] := List.eq_nil_of_length_eq_zero (by omega)
    refine ⟨by simp [hmarks], by simp [hmarks], by simp [hmarks], fun hdepth hread => ?_⟩
    obtain rfl : depth = 0 := Int.ofNat_eq_zero.mp hdepth
    exact absurd hat hread
  | some l =>
    simp only [hat, List.length_append, List.length_singleton] at hlength
    obtain ⟨m, hmarks⟩ := List.length_eq_one_iff.mp (show (marks (.atLine parens depth) line).length = 1 by omega)
    rw [readStep, hat, dueStep_single hmarks] at h
    obtain ⟨-, hlast⟩ := List.append_inj' h rfl
    obtain ⟨hlabel, hbehind⟩ := Clause.mk.inj (List.cons.inj hlast).1
    have hread : clauseLabel? (trim line) = some l := by
      unfold clauseAt at hat
      split_ifs at hat
      exact hat
    have hm : m ∈ marks (.atLine parens depth) line := by simp [hmarks]
    obtain ⟨hfront, hwritten⟩ := plain_of_read hread hm hlabel (textSize_of_firstLine hbehind)
    refine ⟨by simp [hmarks], ?_, ?_, fun _ _ => by simp [hmarks]⟩
    · simpa [hmarks] using hfront
    · simpa only [hmarks, List.forall_mem_singleton] using hwritten

theorem readStep_of_plainLine (h : PlainLine (.atLine parens depth) line) :
    readStep depth clauses line = dueStep (.atLine parens depth) clauses line := by
  cases hmarks : marks (.atLine parens depth) line with
  | nil =>
    have hat : clauseAt depth line = none := by
      unfold clauseAt
      split_ifs with hdepth
      · by_contra hread
        exact h.real (by rw [hdepth]; rfl) hread hmarks
      · rfl
    rw [readStep, hat, dueStep, hmarks]
  | cons m ms =>
    obtain rfl : ms = [] := by
      have := h.single
      rw [hmarks, List.length_cons] at this
      exact List.eq_nil_of_length_eq_zero (by omega)
    have hm : m ∈ marks (.atLine parens depth) line := by simp [hmarks]
    have hfirst : firstLine m.before = [] := if_pos (trim_eq_nil.mpr (h.front m hm))
    rw [readStep, clauseAt_mark h hm, dueStep_single hmarks, hfirst]
    simp only [firstLine_congr (trim_dropEndBlanks m.behind)]
    rfl

end

/-- The depth behind lines, and the cases that are read from them. -/
def readFrom (s : ℕ × List Clause) (lines : List Line) : ℕ × List Clause :=
  lines.foldl (fun s line => (depthAfter s.1 line, readStep s.1 s.2 line)) s

theorem readFrom_depth (depth : ℕ) (clauses : List Clause) (lines : List Line) :
    (readFrom (depth, clauses) lines).1 = lines.foldl depthAfter depth := by
  induction lines generalizing depth clauses with
  | nil => rfl
  | cons line lines ih => exact ih _ _

theorem readFrom_clauses (depth : ℕ) (clauses : List Clause) (lines : List Line) :
    (readFrom (depth, clauses) lines).2 =
      addAllToLast clauses (clausesFrom depth lines).1 ++ (clausesFrom depth lines).2 := by
  induction lines generalizing depth clauses with
  | nil => simp [readFrom, clausesFrom, addAllToLast]
  | cons line lines ih =>
    rw [readFrom, List.foldl_cons, ← readFrom, ih, clausesFrom, readStep]
    cases clauseAt depth line with
    | none => rfl
    | some l =>
      simp only [addAllToLast_append]
      simp [addAllToLast]

theorem clausesFrom_concat (lines : List Line) (line : Line) :
    (clausesFrom 0 (lines ++ [line])).2 = readStep (lines.foldl depthAfter 0) (clausesFrom 0 lines).2 line := by
  have hread (ls : List Line) : (readFrom (0, []) ls).2 = (clausesFrom 0 ls).2 := by
    rw [readFrom_clauses, addAllToLast_nil, List.nil_append]
  rw [← hread, ← hread, ← readFrom_depth 0 [], readFrom, List.foldl_append]
  rfl

theorem depthAfter_eq (parens depth : ℕ) (line : Line) :
    depthAfter depth line = ((LineState.atLine parens depth).through line).braces.toNat := by
  obtain ⟨a, b, ha, hb, hline⟩ := exists_trim line
  have hbraces : ((LineState.atLine parens depth).through line).braces = depth + braceBalance (trim line) := by
    rw [hline, LineState.through_append, LineState.through_blank rfl ha, LineState.through_append,
      LineState.braces_noBraces (noBraces_of_blank hb), trim_append ha, trim_append_right hb, trim_trim,
      LineState.braces_through fun _ => rfl]
    rfl
  rw [depthAfter, hbraces]

theorem afterLines_eq (lines : List Line) :
    LineState.afterLines lines = .atLine (LineState.afterLines lines).parens (lines.foldl depthAfter 0) := by
  induction lines using List.reverseRecOn with
  | nil => rfl
  | append_singleton lines line ih =>
    have hnext : LineState.afterLines (lines ++ [line]) = (LineState.afterLines lines).nextLine line := by
      rw [LineState.afterLines, List.foldl_append]
      rfl
    rw [hnext, LineState.nextLine, List.foldl_append, List.foldl_cons, List.foldl_nil,
      depthAfter_eq (LineState.afterLines lines).parens, ← ih]
    rfl

/-- The cases that are due have the labels of the lines, each once and in order. Up to every line these are the cases that
are read exactly if every line has its labels in the way that is read. -/
theorem clauses_due_iff (lines : List Line) :
    (dueClauses lines).map Clause.label = (marksFrom .start lines).map Mark.label ∧
      ((∀ ls, ls <+: lines → (clausesFrom 0 ls).2 = dueClauses ls ∧ switchCases ls = casesOf (dueClauses ls)) ↔
        ∀ before line, before ++ [line] <+: lines → PlainLine (LineState.afterLines before) line) := by
  have hstep (before : List Line) (line : Line) (h : (clausesFrom 0 before).2 = dueClauses before) :
      (clausesFrom 0 (before ++ [line])).2 = dueClauses (before ++ [line]) ↔
        PlainLine (LineState.afterLines before) line := by
    rw [clausesFrom_concat, dueClauses_concat, h, afterLines_eq]
    exact ⟨plainLine_of_readStep, readStep_of_plainLine⟩
  refine ⟨labels_dueFrom .start [] lines, fun h before line hprefix => ?_, fun h ls => ?_⟩
  · exact (hstep before line (h before ((List.prefix_append before [line]).trans hprefix)).1).mp (h _ hprefix).1
  · induction ls using List.reverseRecOn with
    | nil => exact fun _ => ⟨rfl, rfl⟩
    | append_singleton ls line ih =>
      intro hprefix
      have hbefore := (ih ((List.prefix_append ls [line]).trans hprefix)).1
      have hclauses := (hstep ls line hbefore).mpr (h ls line hprefix)
      exact ⟨hclauses, by rw [switchCases, hclauses]⟩

def labelsApart : List Line := ["case 1:", "  f(\":\");", "case 2: g();", "default:", "  h();"].map String.toList

example : (clausesFrom 0 labelsApart).2 = dueClauses labelsApart ∧ (dueClauses labelsApart).length = 3 := by
  constructor <;> rfl

/-! ### Two labels on a line -/

def stacked : Line := "case 1: case 2: f();".toList

def call : Line := "f();".toList

def labelledCall : Line := "case 2: f();".toList

theorem nodesOf_call : nodesOf [call] = [.step ⟨"process", "Call: f()"⟩] := by
  have hsteps : (statements (trim call)).filterMap SystemsActions.stepOf = [⟨"process", "Call: f()"⟩] := by
    decide +kernel
  rw [nodesOf_line (by decide) (by decide), stepNodes, hsteps, nodesOf_nil]
  rfl

theorem nodesOf_labelledCall : nodesOf [labelledCall] = [] := by
  have hsteps : (statements (trim labelledCall)).filterMap SystemsActions.stepOf = [] := by decide +kernel
  rw [nodesOf_line (by decide) (by decide), stepNodes, hsteps, nodesOf_nil]
  rfl

/-- The second label is lost, with the statement behind it. -/
theorem stacked_label_lost :
    casesOf (dueClauses [stacked]) = [.mk "1" [], .mk "2" [.step ⟨"process", "Call: f()"⟩]] ∧
      switchCases [stacked] = [.mk "1" []] := by
  have hdue : dueClauses [stacked] = [⟨"1".toList, []⟩, ⟨"2".toList, [call]⟩] := by rfl
  have hread : (clausesFrom 0 [stacked]).2 = [⟨"1".toList, [labelledCall]⟩] := by rfl
  have hcall : (Clause.mk "2".toList [call]).code = [call] := by rfl
  have hlabelled : (Clause.mk "1".toList [labelledCall]).code = [labelledCall] := by rfl
  have hnone : (Clause.mk "1".toList []).code = [] := by rfl
  constructor
  · rw [hdue, casesOf, casesOf, casesOf, hcall, hnone, nodesOf_nil, nodesOf_call]
    rfl
  · rw [switchCases, hread, casesOf, casesOf, hlabelled, nodesOf_labelledCall]
    rfl

end FlowSketch.SystemsFlow
