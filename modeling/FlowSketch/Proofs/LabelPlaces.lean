import FlowSketch.Proofs.SemicolonCuts
import FlowSketch.Proofs.SystemsHalting

/-!
# Labels of a switch body

A label is the word `case` or `default` where a statement begins, outside of literals, parentheses and nested braces, up
to a colon of its own. Each opens a case, which has the text behind the label up to the next one.
-/
namespace FlowSketch.SystemsRegion
open TextBlank

/-! ### Cuts of a text in two -/

/-- The ways to cut a text in two, the shortest first part first. -/
def splits : Line → List (Line × Line)
  | [] => [([], [])]
  | c :: cs => ([], c :: cs) :: (splits cs).map fun s => (c :: s.1, s.2)

theorem mem_splits {line : Line} {s : Line × Line} : s ∈ splits line ↔ s.1 ++ s.2 = line := by
  obtain ⟨as, bs⟩ := s
  induction line generalizing as with
  | nil => simp [splits]
  | cons c cs ih =>
    simp only [splits, List.mem_cons, List.mem_map, Prod.exists, Prod.mk.injEq]
    constructor
    · rintro (⟨rfl, rfl⟩ | ⟨as, _, hmem, rfl, rfl⟩)
      · rfl
      · rw [List.cons_append, (ih as).mp hmem]
    · intro heq
      cases as with
      | nil => exact .inl ⟨rfl, heq⟩
      | cons a as =>
        obtain ⟨rfl, htail⟩ := List.cons.inj heq
        exact .inr ⟨as, bs, (ih as).mpr htail, rfl, rfl⟩

/-- The first way to cut at which a condition holds: it holds of no shorter first part. -/
theorem find?_splits {p : Line × Line → Bool} {line : Line} {s : Line × Line} (h : (splits line).find? p = some s) :
    ∀ as bs, as ++ bs = line → as.length < s.1.length → p (as, bs) = false := by
  induction line generalizing p s with
  | nil =>
    obtain rfl := List.mem_singleton.mp (List.mem_of_find?_eq_some h)
    exact fun _ _ _ hlength => absurd hlength (Nat.not_lt_zero _)
  | cons c cs ih =>
    intro as bs heq hlength
    rw [splits, List.find?_cons] at h
    cases hfirst : p ([], c :: cs) with
    | true =>
      rw [hfirst] at h
      obtain rfl := Option.some.inj h
      exact absurd hlength (Nat.not_lt_zero _)
    | false =>
      rw [hfirst, List.find?_map] at h
      obtain ⟨t, ht, rfl⟩ := Option.map_eq_some_iff.mp h
      cases as with
      | nil =>
        obtain rfl : bs = c :: cs := heq
        exact hfirst
      | cons a as =>
        obtain ⟨rfl, htail⟩ := List.cons.inj heq
        exact ih ht as bs htail (Nat.lt_of_succ_lt_succ hlength)

/-! ### States from line to line -/

namespace LineState

/-- A line begins outside of literals. -/
def atLine (parens braces : ℕ) : LineState := ⟨none, false, parens, braces⟩

/-- A literal ends with its line, and a closing brace without an opening one counts for nothing in the next line. -/
def nextLine (r : LineState) (line : Line) : LineState := atLine (r.through line).parens (r.through line).braces.toNat

def afterLines (lines : List Line) : LineState := lines.foldl nextLine start

theorem braces_through {r : LineState} (h : r.quote = none → r.escaped = false) (cs : Line) :
    (r.through cs).braces = r.braces + braceBalanceFrom r.quote r.escaped cs := by
  induction cs generalizing r with
  | nil => simp [through_nil, braceBalanceFrom]
  | cons c cs ih =>
    obtain ⟨quote, escaped, parens, braces⟩ := r
    rw [through_cons, step]
    cases quote with
    | some q =>
      rw [braceBalanceFrom_some_cons]
      cases escaped with
      | true => exact ih fun _ => rfl
      | false =>
        simp only [Bool.false_eq_true, if_false]
        split_ifs <;> exact ih (by simp)
    | none =>
      obtain rfl : escaped = false := h rfl
      rw [braceBalanceFrom_none_cons]
      simp only [Bool.or_eq_true, decide_eq_true_eq]
      split_ifs
      · exact ih (by simp)
      all_goals refine (ih fun _ => rfl).trans ?_
      -- In the mixed cases a character would be two brackets at once.
      all_goals first
        | rfl
        | (dsimp only; omega)
        | simp_all

theorem braces_noBraces {cs : Line} (h : NoBraces cs) (r : LineState) : (r.through cs).braces = r.braces := by
  induction cs generalizing r with
  | nil => rfl
  | cons c cs ih =>
    have hstep : (r.step c).braces = r.braces := by
      rw [step, if_neg h.head.1, if_neg h.head.2]
      split <;> split_ifs <;> rfl
    rw [through_cons, ih h.tail, hstep]

theorem through_blank {r : LineState} (h : r.quote = none) {b : Line} (hb : Blank b) : r.through b = r := by
  induction b with
  | nil => rfl
  | cons c b ih =>
    obtain ⟨hc, hb⟩ := List.forall_mem_cons.mp hb
    have hstep : r.step c = r := by
      have hother (d : Char) (hd : isBlank d = false) : c ≠ d := by
        rintro rfl
        exact Bool.false_ne_true (hd.symm.trans hc)
      simp [step, h, hother '"' rfl, hother '\'' rfl, hother '(' rfl, hother ')' rfl, hother '{' rfl, hother '}' rfl]
    rw [through_cons, hstep, ih hb]

end LineState

theorem topLevel_blank {b : Line} (hb : Blank b) : TopLevel b := by
  rw [TopLevel, LineState.through_blank rfl hb]
  exact ⟨rfl, rfl⟩

end FlowSketch.SystemsRegion

namespace FlowSketch.SystemsFlow
open TextBlank SystemsRegion SystemsHeader SystemsAttempt

/-! ### Labels -/

/-- At a cut stands a colon of its own, outside of literals and parentheses. -/
def ColonAt (s : Line × Line) : Prop :=
  TopLevel s.1 ∧ s.1.getLast? ≠ some ':' ∧ s.2.head? = some ':' ∧ s.2.tail.head? ≠ some ':'

instance : DecidablePred ColonAt := fun _ => inferInstanceAs (Decidable (_ ∧ _))

/-- At a cut stands a question mark outside of literals and parentheses. -/
def QuestionAt (s : Line × Line) : Prop := TopLevel s.1 ∧ s.2.head? = some '?'

instance : DecidablePred QuestionAt := fun _ => inferInstanceAs (Decidable (_ ∧ _))

/-- A label can end at a colon if each question mark before it has a colon of its own. -/
def LabelEndsAt (s : Line × Line) : Prop :=
  ColonAt s ∧ (splits s.1).countP (fun t => ColonAt t) = (splits s.1).countP fun t => QuestionAt t

instance : DecidablePred LabelEndsAt := fun _ => inferInstanceAs (Decidable (_ ∧ _))

/-- The text up to the first colon that a label can end at, and the text from it. -/
def labelEnd? (cs : Line) : Option (Line × Line) := (splits cs).find? fun s => LabelEndsAt s

/-- The case label at the front of a text, and the text behind its colon. -/
def spelledCase? (cs : Line) : Option (Line × Line) := do
  let s ← labelEnd? (← afterWord? "case" cs)
  if allBlank s.1 then none else some (trim s.1, s.2.tail)

def spelledDefault? (cs : Line) : Option (Line × Line) := do
  let s ← labelEnd? (← afterWord? "default" cs)
  if allBlank s.1 then some ("default".toList, s.2.tail) else none

def spelledLabel? (cs : Line) : Option (Line × Line) := spelledCase? cs <|> spelledDefault? cs

/-- What is known of the text up to the colon that ends a label, and of the text behind it. -/
structure UpToColon (y behind : Line) : Prop where
  last : y.getLast? ≠ some ':'
  alone : behind.head? ≠ some ':'
  first : ∀ b q, Blank b → y = b ++ ':' :: q → (q ++ ':' :: behind).head? = some ':'

theorem not_mem_splits_blank {b : Line} (hb : Blank b) {s : Line × Line} (hs : s ∈ splits b) {c : Char}
    (hc : isBlank c = false) : s.2.head? ≠ some c := by
  intro hhead
  have hmem : c ∈ b := by
    rw [← mem_splits.mp hs]
    exact List.mem_append_right _ (List.mem_of_mem_head? hhead)
  rw [hb c hmem] at hc
  cases hc

theorem labelEndsAt_blank {b : Line} (hb : Blank b) {rest : Line} (h : rest.head? ≠ some ':') :
    LabelEndsAt (b, ':' :: rest) := by
  refine ⟨⟨topLevel_blank hb, fun hlast => ?_, rfl, h⟩, ?_⟩
  · have := hb _ (List.mem_of_getLast? hlast)
    revert this
    decide
  · have hcolons : (splits b).countP (fun t => ColonAt t) = 0 :=
      List.countP_eq_zero.mpr fun s hs h => not_mem_splits_blank hb hs rfl (of_decide_eq_true h).2.2.1
    have hquestions : (splits b).countP (fun t => QuestionAt t) = 0 :=
      List.countP_eq_zero.mpr fun s hs h => not_mem_splits_blank hb hs rfl (of_decide_eq_true h).2
    rw [hcolons, hquestions]

theorem labelEnd?_eq_some {cs : Line} {s : Line × Line} (h : labelEnd? cs = some s) :
    cs = s.1 ++ ':' :: s.2.tail ∧ UpToColon s.1 s.2.tail := by
  unfold labelEnd? at h
  have hends : LabelEndsAt s := by simpa using List.find?_some h
  obtain ⟨⟨-, hlast, hcolon, halone⟩, -⟩ := hends
  have hcons : ':' :: s.2.tail = s.2 := List.cons_head?_tail hcolon
  have hcs : cs = s.1 ++ ':' :: s.2.tail := by rw [hcons, mem_splits.mp (List.mem_of_find?_eq_some h)]
  refine ⟨hcs, hlast, halone, fun b q hb hy => ?_⟩
  by_contra hq
  -- The colon behind the blanks would end the label before.
  have hsplit : b ++ ':' :: (q ++ ':' :: s.2.tail) = cs := by
    rw [hcs, hy, List.append_assoc]
    rfl
  have hfirst := find?_splits h b (':' :: (q ++ ':' :: s.2.tail)) hsplit (by simp [hy])
  exact of_decide_eq_false hfirst (labelEndsAt_blank hb hq)

theorem spelledCase?_eq_some {cs : Line} {l : Line × Line} (h : spelledCase? cs = some l) :
    ∃ y, cs = "case".toList ++ (y ++ ':' :: l.2) ∧ allBlank y = false ∧ l.1 = trim y ∧ UpToColon y l.2 := by
  unfold spelledCase? at h
  simp only [Option.bind_eq_bind] at h
  obtain ⟨rest, hrest, h⟩ := Option.bind_eq_some_iff.mp h
  obtain ⟨s, hs, h⟩ := Option.bind_eq_some_iff.mp h
  obtain ⟨hcs, hcolon⟩ := labelEnd?_eq_some hs
  split_ifs at h with hblank
  obtain rfl := Option.some.inj h
  exact ⟨s.1, by rw [afterWord?_eq_some hrest, ← hcs], Bool.not_eq_true _ ▸ hblank, rfl, hcolon⟩

theorem spelledDefault?_eq_some {cs : Line} {l : Line × Line} (h : spelledDefault? cs = some l) :
    ∃ y, cs = "default".toList ++ (y ++ ':' :: l.2) ∧ Blank y ∧ l.1 = "default".toList := by
  unfold spelledDefault? at h
  simp only [Option.bind_eq_bind] at h
  obtain ⟨rest, hrest, h⟩ := Option.bind_eq_some_iff.mp h
  obtain ⟨s, hs, h⟩ := Option.bind_eq_some_iff.mp h
  obtain ⟨hcs, -⟩ := labelEnd?_eq_some hs
  split_ifs at h with hblank
  obtain rfl := Option.some.inj h
  exact ⟨s.1, by rw [afterWord?_eq_some hrest, ← hcs], List.all_eq_true.mp hblank, rfl⟩

def lastWord (before : Line) : Line := ((dropBlanks before.reverse).takeWhile TextWord.isWord).reverse

/-- Behind a text a statement begins: at the front of a line, behind a statement, a brace, a label or a condition, and
behind the words that have a statement as their body. -/
def BeginsStatement (before : Line) : Prop :=
  allBlank before = true ∨ (trim before).getLast?.any (· ∈ [';', '{', '}', ':', ')']) ∨
    (before.getLast?.any isBlank ∧ lastWord before ∈ ["else".toList, "do".toList])

instance : DecidablePred BeginsStatement := fun _ => inferInstanceAs (Decidable (_ ∨ _ ∨ _ ∧ _))

/-- Behind a text on a line a statement of the switch body itself begins. -/
def StandsBehind (r : LineState) (before : Line) : Prop :=
  (r.through before).quote = none ∧ (r.through before).parens = 0 ∧ (r.through before).braces ≤ 0 ∧
    BeginsStatement before

instance (r : LineState) : DecidablePred (StandsBehind r) := fun _ => inferInstanceAs (Decidable (_ ∧ _ ∧ _ ∧ _))

/-- A label on a line: the text before it, the text from it on, and of this the label and the text behind its colon. -/
structure Mark where
  before : Line
  rest : Line
  label : Line
  behind : Line
  deriving DecidableEq, Repr

/-- The labels of a line, in order. -/
def marks (r : LineState) (line : Line) : List Mark :=
  (splits line).filterMap fun s =>
    if StandsBehind r s.1 then (spelledLabel? s.2).map fun l => ⟨s.1, s.2, l.1, l.2⟩ else none

theorem mem_marks {r : LineState} {line : Line} {m : Mark} :
    m ∈ marks r line ↔
      m.before ++ m.rest = line ∧ StandsBehind r m.before ∧ spelledLabel? m.rest = some (m.label, m.behind) := by
  rw [marks, List.mem_filterMap]
  constructor
  · rintro ⟨s, hs, heq⟩
    split_ifs at heq with hstands
    · obtain ⟨l, hl, rfl⟩ := Option.map_eq_some_iff.mp heq
      exact ⟨mem_splits.mp hs, hstands, hl⟩
  · rintro ⟨hline, hstands, hl⟩
    refine ⟨(m.before, m.rest), mem_splits.mpr hline, ?_⟩
    rw [if_pos hstands, hl]
    rfl

/-! ### Due cases -/

/-- The cases that labels open: each has the text up to the next one as its first line. -/
def markClauses : List Mark → List Clause
  | [] => []
  | m :: ms =>
    let next := (ms.head?.map fun n => n.rest.length).getD 0
    ⟨m.label, firstLine (m.behind.take (m.behind.length - next))⟩ :: markClauses ms

/-- A line without labels goes to the last case, and so does the text before the first label. -/
def dueStep (r : LineState) (clauses : List Clause) (line : Line) : List Clause :=
  match marks r line with
  | [] => addToLast line clauses
  | m :: ms => addAllToLast clauses (firstLine m.before) ++ markClauses (m :: ms)

/-- What is open behind the lines, and the cases that are due. -/
def dueFrom (s : LineState × List Clause) (lines : List Line) : LineState × List Clause :=
  lines.foldl (fun s line => (s.1.nextLine line, dueStep s.1 s.2 line)) s

def dueClauses (lines : List Line) : List Clause := (dueFrom (.start, []) lines).2

/-- The labels of lines, in order. -/
def marksFrom (r : LineState) : List Line → List Mark
  | [] => []
  | line :: lines => marks r line ++ marksFrom (r.nextLine line) lines

theorem labels_addToLast (line : Line) (clauses : List Clause) :
    (addToLast line clauses).map Clause.label = clauses.map Clause.label := by
  fun_induction addToLast line clauses <;> simp_all

theorem labels_addAllToLast (clauses : List Clause) (lines : List Line) :
    (addAllToLast clauses lines).map Clause.label = clauses.map Clause.label := by
  induction lines generalizing clauses with
  | nil => rfl
  | cons line lines ih => exact (ih _).trans (labels_addToLast line clauses)

theorem labels_markClauses (ms : List Mark) : (markClauses ms).map Clause.label = ms.map Mark.label := by
  induction ms with
  | nil => rfl
  | cons m ms ih => rw [markClauses, List.map_cons, List.map_cons, ih]

theorem labels_dueStep (r : LineState) (clauses : List Clause) (line : Line) :
    (dueStep r clauses line).map Clause.label = clauses.map Clause.label ++ (marks r line).map Mark.label := by
  rw [dueStep]
  split
  · next hmarks => rw [hmarks, labels_addToLast, List.map_nil, List.append_nil]
  · next m ms hmarks => rw [hmarks, List.map_append, labels_addAllToLast, labels_markClauses]

/-- Each label has one case, in order. -/
theorem labels_dueFrom (r : LineState) (clauses : List Clause) (lines : List Line) :
    (dueFrom (r, clauses) lines).2.map Clause.label =
      clauses.map Clause.label ++ (marksFrom r lines).map Mark.label := by
  induction lines generalizing r clauses with
  | nil => simp [dueFrom, marksFrom]
  | cons line lines ih =>
    rw [dueFrom, List.foldl_cons, ← dueFrom, ih, labels_dueStep, marksFrom, List.map_append, List.append_assoc]

theorem dueFrom_state (r : LineState) (clauses : List Clause) (lines : List Line) :
    (dueFrom (r, clauses) lines).1 = lines.foldl LineState.nextLine r := by
  induction lines generalizing r clauses with
  | nil => rfl
  | cons line lines ih => exact ih _ _

theorem dueClauses_concat (lines : List Line) (line : Line) :
    dueClauses (lines ++ [line]) = dueStep (LineState.afterLines lines) (dueClauses lines) line := by
  rw [dueClauses, dueFrom, List.foldl_append, ← dueFrom, LineState.afterLines, ← dueFrom_state .start []]
  rfl

end FlowSketch.SystemsFlow
