import FlowSketch.Proofs.BareHeaders

/-!
# Statements of a line

A line is cut behind the semicolons that stand outside of literals and parentheses. The cut that is made takes no notice
of escapes, so it is the right one exactly if escapes make no difference to any semicolon with text behind it.
-/
namespace FlowSketch.TextBlank

/-- The number of characters that are not blank. -/
def textSize (cs : List Char) : ℕ := cs.countP fun c => !isBlank c

theorem textSize_append (as bs : List Char) : textSize (as ++ bs) = textSize as + textSize bs := List.countP_append

theorem textSize_cons {c : Char} (hc : isBlank c = false) (cs : List Char) : textSize (c :: cs) = textSize cs + 1 := by
  simp [textSize, hc]

theorem textSize_eq_zero {cs : List Char} : textSize cs = 0 ↔ allBlank cs = true := by simp [textSize, allBlank]

theorem textSize_blank {b : List Char} (h : Blank b) : textSize b = 0 := textSize_eq_zero.mpr (allBlank_of_blank h)

theorem blank_singleton {c : Char} (h : isBlank c = true) : Blank [c] := List.forall_mem_singleton.mpr h

theorem textSize_trim (cs : List Char) : textSize (trim cs) = textSize cs := by
  obtain ⟨a, b, ha, hb, hcs⟩ := exists_trim cs
  have hsize := congrArg textSize hcs
  rw [textSize_append, textSize_append, textSize_blank ha, textSize_blank hb] at hsize
  omega

end FlowSketch.TextBlank

namespace FlowSketch.SystemsRegion
open TextBlank

/-! ### What is open behind a text -/

/-- The literal that is open behind a text, and the parentheses and braces that are open outside of literals. -/
structure LineState where
  quote : Option Char
  escaped : Bool
  parens : ℕ
  braces : ℤ
  deriving DecidableEq, Repr

namespace LineState

/-- A closing parenthesis without an opening one counts for nothing. -/
def step (r : LineState) (c : Char) : LineState :=
  match r.quote with
  | some q =>
    if r.escaped then { r with escaped := false }
    else if c = '\\' then { r with escaped := true }
    else if c = q then { r with quote := none }
    else r
  | none =>
    if c = '"' ∨ c = '\'' then { r with quote := some c }
    else if c = '(' then { r with parens := r.parens + 1 }
    else if c = ')' then { r with parens := r.parens - 1 }
    else if c = '{' then { r with braces := r.braces + 1 }
    else if c = '}' then { r with braces := r.braces - 1 }
    else r

def start : LineState := ⟨none, false, 0, 0⟩

def through (r : LineState) (cs : Line) : LineState := cs.foldl step r

theorem through_nil (r : LineState) : r.through [] = r := rfl

theorem through_cons (r : LineState) (c : Char) (cs : Line) : r.through (c :: cs) = (r.step c).through cs := rfl

theorem through_append (r : LineState) (as bs : Line) : r.through (as ++ bs) = (r.through as).through bs :=
  List.foldl_append

end LineState

/-- Behind a text, no literal and no parenthesis is open. -/
def TopLevel (before : Line) : Prop :=
  (LineState.start.through before).quote = none ∧ (LineState.start.through before).parens = 0

instance : DecidablePred TopLevel := fun _ => inferInstanceAs (Decidable (_ ∧ _))

/-! ### Cuts behind semicolons -/

section
variable (ends : Line → Prop) [DecidablePred ends]

/-- The pieces of a line up to the semicolons that end one by the text before them; the last piece is what remains. -/
def piecesFrom (before piece : Line) : Line → List Line
  | [] => [piece]
  | c :: cs =>
    if c = ';' ∧ ends before then (piece ++ [c]) :: piecesFrom (before ++ [c]) [] cs
    else piecesFrom (before ++ [c]) (piece ++ [c]) cs

def pieces (line : Line) : List Line := piecesFrom ends [] [] line

/-- The pieces without the blanks at their ends; a blank piece counts for nothing. -/
def trimmed (pieces : List Line) : List Line := pieces.flatMap fun piece => (kept piece).map trim

theorem flatten_piecesFrom (before piece cs : Line) : (piecesFrom ends before piece cs).flatten = piece ++ cs := by
  induction cs generalizing before piece with
  | nil => simp [piecesFrom]
  | cons c cs ih =>
    rw [piecesFrom]
    split_ifs
    · rw [List.flatten_cons, ih, List.nil_append, List.append_assoc, List.singleton_append]
    · rw [ih, List.append_assoc, List.singleton_append]

theorem trimmed_cons (piece : Line) (ps : List Line) : trimmed (piece :: ps) = (kept piece).map trim ++ trimmed ps :=
  List.flatMap_cons

theorem kept_semicolon (piece : Line) : kept (piece ++ [';']) = [piece ++ [';']] := by
  have htext : allBlank (piece ++ [';']) = false := SystemsFlow.not_allBlank (c := ';') (by simp) rfl
  rw [kept, htext, if_neg Bool.false_ne_true]

theorem trimmed_nil (before piece : Line) : trimmed (piecesFrom ends before piece []) = (kept piece).map trim := by
  rw [piecesFrom, trimmed_cons, trimmed, List.flatMap_nil, List.append_nil]

theorem trimmed_cut {before : Line} (h : ends before) (piece cs : Line) :
    trimmed (piecesFrom ends before piece (';' :: cs)) =
      trim (piece ++ [';']) :: trimmed (piecesFrom ends (before ++ [';']) [] cs) := by
  rw [piecesFrom, if_pos ⟨rfl, h⟩, trimmed_cons, kept_semicolon]
  rfl

theorem trimmed_pass {before : Line} {c : Char} (h : ¬ (c = ';' ∧ ends before)) (piece cs : Line) :
    trimmed (piecesFrom ends before piece (c :: cs)) = trimmed (piecesFrom ends (before ++ [c]) (piece ++ [c]) cs) := by
  rw [piecesFrom, if_neg h]

theorem kept_text {piece : Line} (h : allBlank piece = false) : kept piece = [piece] := by
  rw [kept, h, if_neg Bool.false_ne_true]

/-- The first piece has the text read so far. -/
theorem head_trimmed_le {piece : Line} (h : allBlank piece = false) (before cs : Line) :
    ∃ p ps, trimmed (piecesFrom ends before piece cs) = p :: ps ∧ textSize piece ≤ textSize p := by
  induction cs generalizing before piece with
  | nil => exact ⟨trim piece, [], by rw [trimmed_nil, kept_text h, List.map_singleton], (textSize_trim piece).ge⟩
  | cons c cs ih =>
    by_cases hcut : c = ';' ∧ ends before
    · obtain ⟨rfl, hends⟩ := hcut
      refine ⟨_, _, trimmed_cut ends hends piece cs, ?_⟩
      rw [textSize_trim, textSize_append]
      exact Nat.le_add_right _ _
    · have hlonger : allBlank (piece ++ [c]) = false := by
        rw [allBlank, List.all_append, ← allBlank, h, Bool.false_and]
      obtain ⟨p, ps, heq, hle⟩ := ih hlonger (before ++ [c])
      rw [textSize_append] at hle
      exact ⟨p, ps, by rw [trimmed_pass ends hcut, heq], by omega⟩

/-- With text ahead, the first piece has more than the text read so far. -/
theorem head_trimmed_lt {cs : Line} (h : allBlank cs = false) (before piece : Line) :
    ∃ p ps, trimmed (piecesFrom ends before piece cs) = p :: ps ∧ textSize piece < textSize p := by
  induction cs generalizing before piece with
  | nil => cases h
  | cons c cs ih =>
    by_cases hcut : c = ';' ∧ ends before
    · obtain ⟨rfl, hends⟩ := hcut
      refine ⟨_, _, trimmed_cut ends hends piece cs, ?_⟩
      rw [textSize_trim, textSize_append]
      exact Nat.lt_add_of_pos_right (by decide)
    · rw [trimmed_pass ends hcut]
      by_cases hc : isBlank c = true
      · have hcs : allBlank cs = false := by rwa [allBlank, List.all_cons, hc, Bool.true_and] at h
        have hsame : textSize (piece ++ [c]) = textSize piece := by
          rw [textSize_append, textSize_blank (blank_singleton hc), Nat.add_zero]
        obtain ⟨p, ps, heq, hlt⟩ := ih hcs (before ++ [c]) (piece ++ [c])
        exact ⟨p, ps, heq, hsame ▸ hlt⟩
      · have hlonger : textSize (piece ++ [c]) = textSize piece + 1 := by
          rw [textSize_append, textSize_cons (Bool.not_eq_true _ ▸ hc)]
          rfl
        have htext : allBlank (piece ++ [c]) = false := by
          rw [Bool.eq_false_iff, ne_eq, ← textSize_eq_zero]
          omega
        obtain ⟨p, ps, heq, hle⟩ := head_trimmed_le ends htext (before ++ [c]) cs
        exact ⟨p, ps, heq, by omega⟩

theorem kept_append_blank {b : Line} (h : Blank b) (piece : Line) :
    (kept (piece ++ b)).map trim = (kept piece).map trim := by
  have hsame : allBlank (piece ++ b) = allBlank piece := by
    rw [allBlank, List.all_append, ← allBlank, ← allBlank, allBlank_of_blank h, Bool.and_true]
  rw [kept, hsame, kept]
  split_ifs
  · rfl
  · rw [List.map_singleton, trim_append_right h, List.map_singleton]

/-- Blanks ahead add nothing. -/
theorem trimmed_blank {cs : Line} (h : Blank cs) (before piece : Line) :
    trimmed (piecesFrom ends before piece cs) = (kept piece).map trim := by
  induction cs generalizing before piece with
  | nil => exact trimmed_nil ends before piece
  | cons c cs ih =>
    obtain ⟨hc, hcs⟩ := List.forall_mem_cons.mp h
    have hpass : ¬ (c = ';' ∧ ends before) := by
      rintro ⟨rfl, -⟩
      cases hc
    rw [trimmed_pass ends hpass, ih hcs, kept_append_blank (blank_singleton hc)]

end

/-- A piece that ends at a semicolon is another part than one that goes on, unless there is no text behind it. -/
theorem trimmed_cut_eq_pass_iff {p q : Line → Prop} [DecidablePred p] [DecidablePred q] {before : Line} (hp : p before)
    (hq : ¬ q before) (piece cs : Line) :
    trimmed (piecesFrom p before piece (';' :: cs)) = trimmed (piecesFrom q before piece (';' :: cs)) ↔
      allBlank cs = true := by
  rw [trimmed_cut p hp, trimmed_pass q (fun h => hq h.2)]
  constructor
  · intro heq
    by_contra hcs
    obtain ⟨part, later, hpart, hlt⟩ := head_trimmed_lt q (Bool.not_eq_true _ ▸ hcs) (before ++ [';']) (piece ++ [';'])
    rw [hpart] at heq
    rw [← (List.cons.inj heq).1, textSize_trim] at hlt
    exact lt_irrefl _ hlt
  · intro hcs
    have hblank : Blank cs := List.all_eq_true.mp hcs
    rw [trimmed_blank p hblank, trimmed_blank q hblank, kept_semicolon]
    rfl

/-- At every semicolon with text behind it, two conditions on the text before it agree. -/
def Agree (p q : Line → Prop) (before cs : Line) : Prop :=
  ∀ as bs, cs = as ++ ';' :: bs → allBlank bs = false → (p (before ++ as) ↔ q (before ++ as))

theorem agree_cons {p q : Line → Prop} {before : Line} {c : Char} {cs : Line} :
    Agree p q before (c :: cs) ↔
      (c = ';' → allBlank cs = false → (p before ↔ q before)) ∧ Agree p q (before ++ [c]) cs := by
  constructor
  · intro h
    refine ⟨fun hc hcs => by simpa using h [] cs (by rw [hc]; rfl) hcs, fun as bs heq hbs => ?_⟩
    simpa using h (c :: as) bs (by rw [heq]; rfl) hbs
  · rintro ⟨hfirst, hlater⟩ as bs heq hbs
    cases as with
    | nil =>
      obtain ⟨rfl, rfl⟩ := List.cons.inj heq
      simpa using hfirst rfl hbs
    | cons d as =>
      obtain ⟨rfl, rfl⟩ := List.cons.inj heq
      simpa using hlater as bs rfl hbs

theorem agree_blank (p q : Line → Prop) (before : Line) {cs : Line} (h : allBlank cs = true) : Agree p q before cs := by
  rintro as bs rfl -
  have hblank := List.all_eq_true.mp h ';' (List.mem_append_right as List.mem_cons_self)
  cases hblank

/-- Two ways to end pieces give the same parts exactly if they agree on every semicolon with text behind it. -/
theorem trimmed_eq_iff {p q : Line → Prop} [DecidablePred p] [DecidablePred q] (before piece cs : Line) :
    trimmed (piecesFrom p before piece cs) = trimmed (piecesFrom q before piece cs) ↔ Agree p q before cs := by
  induction cs generalizing before piece with
  | nil => simp [trimmed_nil, Agree]
  | cons c cs ih =>
    rw [agree_cons]
    by_cases hc : c = ';'
    · subst hc
      have hdiffer (hne : ¬ (p before ↔ q before)) :
          allBlank cs = true ↔
            (';' = ';' → allBlank cs = false → (p before ↔ q before)) ∧ Agree p q (before ++ [';']) cs := by
        refine ⟨fun hcs => ⟨fun _ hfalse => ?_, agree_blank p q _ hcs⟩, fun h => ?_⟩
        · rw [hcs] at hfalse
          cases hfalse
        · by_contra hcs
          exact hne (h.1 rfl (Bool.not_eq_true _ ▸ hcs))
      by_cases hp : p before <;> by_cases hq : q before
      · rw [trimmed_cut p hp, trimmed_cut q hq, List.cons.injEq, ih]
        simp [hp, hq]
      · rw [trimmed_cut_eq_pass_iff hp hq, hdiffer fun h => hq (h.mp hp)]
      · rw [eq_comm, trimmed_cut_eq_pass_iff hq hp, hdiffer fun h => hp (h.mpr hq)]
      · rw [trimmed_pass p fun h => hp h.2, trimmed_pass q fun h => hq h.2, ih]
        simp [hp, hq]
    · rw [trimmed_pass p fun h => hc h.1, trimmed_pass q fun h => hc h.1, ih]
      simp [hc]

/-! ### The cut without escapes -/

/-- A text without its backslashes, which is what is read where nothing is escaped. -/
def unescaped (cs : Line) : Line := cs.filter (· ≠ '\\')

theorem unescaped_append (as bs : Line) : unescaped (as ++ bs) = unescaped as ++ unescaped bs := List.filter_append as bs

/-- Behind a text, no literal and no parenthesis is open if escapes do not count. -/
def TopLevelUnescaped (before : Line) : Prop := TopLevel (unescaped before)

instance : DecidablePred TopLevelUnescaped := fun before => inferInstanceAs (Decidable (TopLevel (unescaped before)))

/-- Nothing is escaped, and an open literal is one of a quote. -/
structure LineState.Plain (r : LineState) : Prop where
  quote : ∀ q ∈ r.quote, q = '"' ∨ q = '\''
  escaped : r.escaped = false

theorem LineState.Plain.step {r : LineState} (h : r.Plain) {c : Char} (hc : c ≠ '\\') : (r.step c).Plain := by
  obtain ⟨quote, escaped, parens, braces⟩ := r
  obtain ⟨hquote, rfl⟩ := h
  cases quote with
  | some q =>
    rw [LineState.step]
    simp only [Bool.false_eq_true, if_false, if_neg hc]
    split_ifs
    · exact ⟨by simp, rfl⟩
    · exact ⟨hquote, rfl⟩
  | none =>
    rw [LineState.step]
    simp only
    split_ifs with hopen
    · exact ⟨by simpa using hopen, rfl⟩
    all_goals exact ⟨by simp, rfl⟩

theorem LineState.Plain.through {r : LineState} (h : r.Plain) (cs : Line) : (r.through (unescaped cs)).Plain := by
  induction cs generalizing r with
  | nil => exact h
  | cons c cs ih =>
    rw [unescaped]
    by_cases hc : c = '\\'
    · rw [List.filter_cons_of_neg (by simp [hc])]
      exact ih h
    · rw [List.filter_cons_of_pos (by simpa using hc)]
      exact ih (h.step hc)

/-- One character of the cut: the statement ends, or what is open behind the character is read without escapes. -/
theorem statementsFrom_step {r : LineState} (h : r.Plain) (piece : Line) (c : Char) (cs : Line) :
    statementsFrom piece r.parens r.quote (c :: cs) =
      if c = ';' ∧ r.quote = none ∧ r.parens = 0 then trim (piece ++ [c]) :: statementsFrom [] 0 none cs
      else statementsFrom (piece ++ [c]) (r.through (unescaped [c])).parens (r.through (unescaped [c])).quote cs := by
  obtain ⟨quote, escaped, parens, braces⟩ := r
  obtain ⟨hquote, rfl⟩ := h
  by_cases hslash : c = '\\'
  · subst hslash
    cases quote with
    | some q =>
      have hq : '\\' ≠ q := by rcases hquote q rfl with rfl | rfl <;> decide
      simp [statementsFrom, unescaped, LineState.through, hq]
    | none => simp [statementsFrom, unescaped, LineState.through]
  · have hthrough (r : LineState) : r.through (unescaped [c]) = r.step c := by
      rw [unescaped, List.filter_cons_of_pos (by simpa using hslash)]
      rfl
    rw [hthrough]
    cases quote with
    | some q =>
      have hq : q ≠ '\\' := by rcases hquote q rfl with rfl | rfl <;> decide
      by_cases hc : c = q <;> simp [statementsFrom, LineState.step, hslash, hq, hc]
    | none =>
      simp only [statementsFrom, LineState.step, Bool.or_eq_true, Bool.and_eq_true, decide_eq_true_eq, true_and]
      split_ifs <;> simp_all

/-- The cut takes the pieces that end at a semicolon outside of literals and parentheses if escapes do not count. -/
theorem statementsFrom_eq (before piece : Line) {r : LineState} (hr : LineState.start.through (unescaped before) = r)
    (cs : Line) :
    statementsFrom piece r.parens r.quote cs = trimmed (piecesFrom TopLevelUnescaped before piece cs) := by
  induction cs generalizing before piece r with
  | nil =>
    rw [statementsFrom, trimmed_nil, kept]
    split_ifs <;> rfl
  | cons c cs ih =>
    have hplain : r.Plain := by
      rw [← hr]
      exact LineState.Plain.through ⟨by simp [LineState.start], rfl⟩ before
    have htop : TopLevelUnescaped before ↔ r.quote = none ∧ r.parens = 0 := by rw [TopLevelUnescaped, TopLevel, hr]
    have hnext : LineState.start.through (unescaped (before ++ [c])) = r.through (unescaped [c]) := by
      rw [unescaped_append, LineState.through_append, hr]
    rw [statementsFrom_step hplain]
    by_cases hcut : c = ';' ∧ r.quote = none ∧ r.parens = 0
    · rw [if_pos hcut]
      obtain ⟨rfl, hquote, hparens⟩ := hcut
      have hsame : r.through (unescaped [';']) = r := by simp [unescaped, LineState.through, LineState.step, hquote]
      have hrest := ih (before ++ [';']) [] (hnext.trans hsame)
      rw [hquote, hparens] at hrest
      rw [trimmed_cut _ (htop.mpr ⟨hquote, hparens⟩), hrest]
    · rw [if_neg hcut, trimmed_pass _ fun h => hcut ⟨h.1, htop.mp h.2⟩, ih _ _ hnext]

/-- The statements of a line are its pieces up to the semicolons outside of literals and parentheses, and the rest if it
is not blank, all without the blanks at their ends, exactly if at every semicolon with text behind it this is where it
stands with escapes as without. Together the pieces are the line. -/
theorem statements_eq_iff (line : Line) :
    (pieces TopLevel line).flatten = line ∧
      (statements line = trimmed (pieces TopLevel line) ↔
        ∀ before after, line = before ++ ';' :: after → allBlank after = false →
          (TopLevel before ↔ TopLevel (unescaped before))) := by
  refine ⟨by rw [pieces, flatten_piecesFrom, List.nil_append], ?_⟩
  have hcut : statements line = trimmed (piecesFrom TopLevelUnescaped [] [] line) := statementsFrom_eq [] [] rfl line
  rw [hcut, eq_comm, pieces, trimmed_eq_iff, Agree]
  rfl

/-! ### An escaped quote -/

def quoteCheck : Line := "c = '\\''; x = 1;".toList

/-- The escaped quote leaves a literal open, and the semicolon behind it ends no statement. -/
theorem quoteCheck_unsplit :
    trimmed (pieces TopLevel quoteCheck) = ["c = '\\'';".toList, "x = 1;".toList] ∧ statements quoteCheck = [quoteCheck] :=
  ⟨by decide, by decide⟩

end FlowSketch.SystemsRegion
