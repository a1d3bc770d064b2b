import FlowSketch.Proofs.PatternMatch
import FlowSketch.Proofs.SystemsLines

/-!
# Reading by steps

What the first of a list of lines is read as, by what it begins with. A break is read as no step.
-/
namespace FlowSketch.SystemsFlow
open TextBlank SystemsRegion SystemsHeader

theorem decisions_cons (b : Branch) (bs : List Branch) (otherwise : List Line) :
    decisions (b :: bs) otherwise =
      [.decision (clipped 60 b.condition) (nodesOf b.body) (decisions bs otherwise)] := by
  rw [decisions]

theorem decisions_nil (otherwise : List Line) : decisions [] otherwise = nodesOf otherwise := by rw [decisions]

theorem nodesOf_nil : nodesOf [] = [] := by rw [nodesOf]

/-! ### Lines -/

section
variable {raw : Line} {following : List Line}

theorem nodesOf_line (hf : isFiller (trim raw) = false) (hh : header? (trim raw) = none) :
    nodesOf (raw :: following) = stepNodes (trim raw) ++ nodesOf following := by
  rw [nodesOf, if_neg (by simp [hf])]
  simp only [hh]

theorem nodesOf_branch (hf : isFiller (trim raw) = false) (hh : header? (trim raw) = some .branch) :
    nodesOf (raw :: following) =
      decisions (chain raw following).branches (chain raw following).otherwise ++ nodesOf (chain raw following).rest := by
  rw [nodesOf, if_neg (by simp [hf])]
  simp only [hh]

theorem nodesOf_forLoop {c after : Line} (hf : isFiller (trim raw) = false) (hh : header? (trim raw) = some .forLoop)
    (hc : condition (trim raw) = (c, after)) :
    nodesOf (raw :: following) =
      .loop (forLabel c) "for" (nodesOf (bodyAfter raw after following).body)
        :: nodesOf (bodyAfter raw after following).rest := by
  rw [nodesOf, if_neg (by simp [hf])]
  simp only [hh, hc]

theorem nodesOf_whileLoop {c after : Line} (hf : isFiller (trim raw) = false)
    (hh : header? (trim raw) = some .whileLoop) (hc : condition (trim raw) = (c, after)) :
    nodesOf (raw :: following) =
      .loop ("While: " ++ clipped 40 c) "while" (nodesOf (bodyAfter raw after following).body)
        :: nodesOf (bodyAfter raw after following).rest := by
  rw [nodesOf, if_neg (by simp [hf])]
  simp only [hh, hc]

theorem nodesOf_doLoop {after : Line} (hf : isFiller (trim raw) = false) (hh : header? (trim raw) = some .doLoop)
    (ha : afterDoWord (trim raw) = after) :
    nodesOf (raw :: following) =
      .loop "do...while loop" "do-while" (nodesOf (bodyAfter raw after following).body)
        :: nodesOf (afterDo (bodyAfter raw after following).rest) := by
  rw [nodesOf, if_neg (by simp [hf])]
  simp only [hh, ha]

theorem nodesOf_switch {c after : Line} (hf : isFiller (trim raw) = false) (hh : header? (trim raw) = some .switch)
    (hc : condition (trim raw) = (c, after)) :
    nodesOf (raw :: following) =
      .switch ("Switch on " ++ clipped 30 c) (switchCases (bodyAfter raw after following).body)
        :: nodesOf (bodyAfter raw after following).rest := by
  rw [nodesOf, if_neg (by simp [hf])]
  simp only [hh, hc, switchCases]

end

/-! ### Breaks -/

open Pattern

/-- A pattern that is bound to the start of a text is not searched for further on. -/
theorem search_of_bound {p : Pattern} (h : ∀ c cs, p.runAt (some c) cs = none) (text : List Char) :
    p.search text = p.matchStart text := by
  have hlater : ∀ cs c, p.searchFrom (some c) cs = none := by
    intro cs
    induction cs with
    | nil => exact fun c => h c []
    | cons d cs ih => exact fun c => by rw [searchFrom, h, ih]; rfl
  cases text with
  | nil => rfl
  | cons c cs =>
    rw [search, searchFrom, hlater, matchStart]
    cases p.runAt none (c :: cs) <;> rfl

theorem classify_skip {rule : StatementRule} {rules : StatementTable} {limit : ℕ} {s : String}
    (h : rule.pattern.search s.toList = none) :
    StatementTable.classify (rule :: rules) limit s = StatementTable.classify rules limit s := by
  rw [StatementTable.classify, h]

theorem classify_ignore {p : Pattern} {rules : StatementTable} {limit : ℕ} {s : String}
    (h : (p.search s.toList).isSome) : StatementTable.classify (.ignore p :: rules) limit s = none := by
  obtain ⟨m, hm⟩ := Option.isSome_iff_exists.mp h
  have hm' : (StatementRule.ignore p).pattern.search s.toList = some m := hm
  rw [StatementTable.classify, hm']
  rfl

/-- No directive begins with a letter. -/
theorem directive_search {p : Pattern} (hbound : ∀ c cs, p.runAt (some c) cs = none)
    (hfirst : ∀ cs, p.matchStart ('b' :: cs) = none) (cs : List Char) : p.search ('b' :: cs) = none := by
  rw [search_of_bound hbound, hfirst]

theorem break_search {b : Line} (hb : Blank b) :
    (start ++ choice ["break", "continue"] ++ gap ++ ";" : Pattern).search ("break".toList ++ (b ++ [';'])) |>.isSome := by
  obtain ⟨u1, h1, e1⟩ := word_takes "break" (s := ⟨none, "break".toList ++ (b ++ [';']), []⟩) rfl
  obtain ⟨u2, h2, e2⟩ : ∃ t, gap.Matches u1 t ∧ t.rest = [';'] := reps_takes hb e1
  obtain ⟨u3, h3, -⟩ := word_takes ";" (e2.trans (List.append_nil _).symm)
  rw [search_of_bound fun _ _ => rfl]
  exact matchStart_isSome ⟨u2, ⟨u1, ⟨_, ⟨rfl, rfl⟩, .inl h1⟩, h2⟩, h3⟩

theorem stepOf_break {b : Line} (hb : Blank b) : SystemsActions.stepOf ("break".toList ++ (b ++ [';'])) = none := by
  have htext : (String.ofList ("break".toList ++ (b ++ [';']))).toList = 'b' :: ("reak".toList ++ (b ++ [';'])) := by simp
  rw [SystemsActions.stepOf, SystemsActions.table, SystemsActions.preprocessor]
  simp only [List.cons_append, List.append_assoc]
  rw [classify_skip, classify_skip, classify_skip, classify_skip, classify_ignore]
  · rw [String.toList_ofList]
    exact break_search hb
  all_goals
    rw [htext]
    exact directive_search (fun _ _ => rfl) (fun _ => rfl) _

/-- A line of blanks and no marks up to its semicolon is one statement. -/
theorem statementsFrom_plain {xs : Line} (h : ∀ c ∈ xs, c ∉ ['"', '\'', '(', ')', ';']) (current : Line) :
    statementsFrom current 0 none (xs ++ [';']) = [trim (current ++ (xs ++ [';']))] := by
  induction xs generalizing current with
  | nil => simp [statementsFrom, allBlank]
  | cons c xs ih =>
    have hc := h c (by simp)
    simp only [List.mem_cons, List.not_mem_nil, or_false, not_or] at hc
    rw [List.cons_append, statementsFrom]
    simp only [hc, decide_false, Bool.or_self, Bool.false_and, Bool.false_eq_true, if_false]
    rw [ih fun d hd => h d (by simp [hd])]
    simp

theorem stepNodes_break {line b : Line} (hb : Blank b) (h : trim line = "break".toList ++ (b ++ [';'])) :
    stepNodes (trim line) = [] := by
  have hplain : ∀ c ∈ "break".toList ++ b, c ∉ ['"', '\'', '(', ')', ';'] := by
    intro c hc
    rcases List.mem_append.mp hc with hc | hc
    · have : ∀ c ∈ ['b', 'r', 'e', 'a', 'k'], c ∉ ['"', '\'', '(', ')', ';'] := by simp
      exact this c (by simpa using hc)
    · have hmarks : ∀ c ∈ ['"', '\'', '(', ')', ';'], isBlank c = false := by simp [isBlank]
      intro hmem
      have hblank := hb c hc
      rw [hmarks c hmem] at hblank
      cases hblank
  have hone : statements (trim line) = [trim line] := by
    have := statementsFrom_plain hplain []
    rw [List.append_assoc, ← h, List.nil_append, trim_trim] at this
    exact this
  rw [stepNodes, hone, h]
  simp only [List.filterMap_cons, stepOf_break hb, List.filterMap_nil, List.map_nil]

end FlowSketch.SystemsFlow
