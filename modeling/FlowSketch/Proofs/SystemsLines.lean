import FlowSketch.Proofs.TextEnds
import FlowSketch.SystemsFlow

/-!
# Braces, literals and parentheses on a line

How the counts of a line behave on texts put together: a text without braces moves no depth, a text that closes
its literals hides no brace, and parentheses that are balanced are read to their end.
-/
namespace FlowSketch.SystemsRegion
open TextBlank

def NoBraces (cs : Line) : Prop := '{' ∉ cs ∧ '}' ∉ cs

instance : DecidablePred NoBraces := fun cs => inferInstanceAs (Decidable ('{' ∉ cs ∧ '}' ∉ cs))

theorem NoBraces.append {a b : Line} (ha : NoBraces a) (hb : NoBraces b) : NoBraces (a ++ b) := by
  simpa [NoBraces] using ⟨⟨ha.1, hb.1⟩, ha.2, hb.2⟩

theorem NoBraces.tail {c : Char} {cs : Line} (h : NoBraces (c :: cs)) : NoBraces cs :=
  ⟨fun hc => h.1 (List.mem_cons_of_mem _ hc), fun hc => h.2 (List.mem_cons_of_mem _ hc)⟩

theorem NoBraces.head {c : Char} {cs : Line} (h : NoBraces (c :: cs)) : c ≠ '{' ∧ c ≠ '}' :=
  ⟨fun hc => h.1 (by simp [hc]), fun hc => h.2 (by simp [hc])⟩

theorem NoBraces.of_sublist {a b : Line} (h : NoBraces b) (hs : a.Sublist b) : NoBraces a :=
  ⟨fun hc => h.1 (hs.subset hc), fun hc => h.2 (hs.subset hc)⟩

theorem noBraces_of_blank {b : Line} (h : Blank b) : NoBraces b :=
  ⟨fun hc => absurd (h _ hc) (by decide), fun hc => absurd (h _ hc) (by decide)⟩

/-! ### Depth in a region -/

def Scan.prepend (cs : Line) : Scan → Scan
  | closed piece rest => closed (cs ++ piece) rest
  | inside piece depth started => inside (cs ++ piece) depth started

theorem scan_append {cs : Line} (h : NoBraces cs) (d : ℤ) (rest : Line) :
    scan d true (cs ++ rest) = (scan d true rest).prepend cs := by
  induction cs with
  | nil => cases hs : scan d true rest <;> simp [Scan.prepend, hs]
  | cons c cs ih =>
    rw [List.cons_append, scan, if_neg h.head.1, if_neg h.head.2, if_pos rfl, ih h.tail]
    cases scan d true rest <;> rfl

theorem scan_noBraces {cs : Line} (h : NoBraces cs) (d : ℤ) : scan d true cs = .inside cs d true := by
  simpa [scan, Scan.prepend] using scan_append h d []

theorem scan_open {a b : Line} (ha : NoBraces a) (hb : NoBraces b) (d : ℤ) :
    scan d true (a ++ '{' :: b) = .inside (a ++ '{' :: b) (d + 1) true := by
  simp [scan_append ha, scan, scan_noBraces hb, Scan.push, Scan.prepend]

theorem scan_close {a b : Line} (ha : NoBraces a) (hb : NoBraces b) {d : ℤ} (hd : d ≠ 1) :
    scan d true (a ++ '}' :: b) = .inside (a ++ '}' :: b) (d - 1) true := by
  simp [scan_append ha, scan, scan_noBraces hb, Scan.push, Scan.prepend, hd]

theorem scan_turn {a b c : Line} (ha : NoBraces a) (hb : NoBraces b) (hc : NoBraces c) {d : ℤ} (hd : d ≠ 1) :
    scan d true (a ++ '}' :: (b ++ '{' :: c)) = .inside (a ++ '}' :: (b ++ '{' :: c)) d true := by
  simp [scan_append ha, scan, scan_open hb hc, Scan.push, Scan.prepend, hd]

/-- A region ends at the brace that closes its first one. -/
theorem scan_end {a : Line} (ha : NoBraces a) (b : Line) : scan 1 true (a ++ '}' :: b) = .closed a b := by
  simp [scan_append ha, scan, Scan.prepend]

/-- A region begins behind its first brace. -/
theorem scan_opens {a : Line} (ha : NoBraces a) (rest : Line) : scan 0 false (a ++ '{' :: rest) = scan 1 true rest := by
  induction a with
  | nil => simp [scan]
  | cons c a ih => rw [List.cons_append, scan, if_neg ha.head.1, if_neg ha.head.2]; simpa using ih ha.tail

theorem scan_start {a : Line} (ha : NoBraces a) : scan 0 false (a ++ ['{']) = .inside [] 1 true := scan_opens ha []

/-! ### Braces outside literals -/

/-- The quote of the literal that is open after a text. -/
def openQuote (quote : Option Char) (escaped : Bool) : Line → Option Char
  | [] => quote
  | c :: cs =>
    match quote with
    | some q =>
      if escaped then openQuote quote false cs
      else if c = '\\' then openQuote quote true cs
      else openQuote (if c = q then none else some q) false cs
    | none => openQuote (if c = '"' || c = '\'' then some c else none) false cs

/-- A text closes every literal it opens. -/
def ClosesLiterals (cs : Line) : Prop := openQuote none false cs = none

instance : DecidablePred ClosesLiterals := fun cs => inferInstanceAs (Decidable (openQuote none false cs = none))

theorem braceBalanceFrom_none (escaped : Bool) (cs : Line) :
    braceBalanceFrom none escaped cs = braceBalanceFrom none false cs := by
  cases cs <;> rfl

theorem braceBalanceFrom_noBraces {cs : Line} (h : NoBraces cs) (quote : Option Char) (escaped : Bool) :
    braceBalanceFrom quote escaped cs = 0 := by
  induction cs generalizing quote escaped with
  | nil => cases quote <;> rfl
  | cons c cs ih =>
    unfold braceBalanceFrom
    cases quote with
    | none => simp [h.head.1, h.head.2, ih h.tail]
    | some q => simp [ih h.tail]

theorem braceBalanceFrom_none_cons (escaped : Bool) (c : Char) (cs : Line) :
    braceBalanceFrom none escaped (c :: cs) =
      if c = '"' || c = '\'' then braceBalanceFrom (some c) false cs
      else if c = '{' then 1 + braceBalanceFrom none false cs
      else if c = '}' then braceBalanceFrom none false cs - 1
      else braceBalanceFrom none false cs := rfl

theorem braceBalanceFrom_some_cons (q : Char) (escaped : Bool) (c : Char) (cs : Line) :
    braceBalanceFrom (some q) escaped (c :: cs) =
      if escaped then braceBalanceFrom (some q) false cs
      else if c = '\\' then braceBalanceFrom (some q) true cs
      else braceBalanceFrom (if c = q then none else some q) false cs := rfl

/-- Behind a text that closes its literals the braces count. -/
theorem braceBalanceFrom_append {cs : Line} (h : NoBraces cs) {quote : Option Char} {escaped : Bool}
    (hq : openQuote quote escaped cs = none) (rest : Line) :
    braceBalanceFrom quote escaped (cs ++ rest) = braceBalanceFrom none false rest := by
  induction cs generalizing quote escaped with
  | nil =>
    obtain rfl : quote = none := hq
    exact braceBalanceFrom_none escaped rest
  | cons c cs ih =>
    unfold openQuote at hq
    cases quote with
    | none =>
      rw [List.cons_append, braceBalanceFrom_none_cons, if_neg h.head.1, if_neg h.head.2]
      simp only at hq
      by_cases hc : (c = '"' || c = '\'') = true
      · rw [if_pos hc] at hq ⊢
        exact ih h.tail hq
      · rw [if_neg hc] at hq ⊢
        exact ih h.tail hq
    | some q =>
      rw [List.cons_append, braceBalanceFrom_some_cons]
      simp only at hq
      by_cases he : escaped = true
      · rw [if_pos he] at hq ⊢
        exact ih h.tail hq
      · rw [if_neg he] at hq ⊢
        by_cases hc : c = '\\'
        · rw [if_pos hc] at hq ⊢
          exact ih h.tail hq
        · rw [if_neg hc] at hq ⊢
          exact ih h.tail hq

theorem openQuote_append {a : Line} {quote : Option Char} {escaped : Bool} (h : openQuote quote escaped a = none)
    (b : Line) : openQuote quote escaped (a ++ b) = openQuote none false b := by
  induction a generalizing quote escaped with
  | nil =>
    obtain rfl : quote = none := h
    cases b <;> rfl
  | cons c a ih =>
    rw [List.cons_append]
    unfold openQuote at h
    cases quote with
    | none => exact ih h
    | some q =>
      simp only at h
      by_cases he : escaped = true
      · rw [if_pos he] at h
        rw [openQuote, he]
        exact ih h
      · rw [if_neg he] at h
        simp only [openQuote, he]
        by_cases hc : c = '\\'
        · rw [if_pos hc] at h ⊢
          exact ih h
        · rw [if_neg hc] at h ⊢
          exact ih h

theorem ClosesLiterals.append {a b : Line} (ha : ClosesLiterals a) (hb : ClosesLiterals b) : ClosesLiterals (a ++ b) :=
  (openQuote_append ha b).trans hb

theorem braceBalance_noBraces {cs : Line} (h : NoBraces cs) : braceBalance cs = 0 := braceBalanceFrom_noBraces h _ _

theorem braceBalance_open {t : Line} (ht : NoBraces t) (hl : ClosesLiterals t) : braceBalance (t ++ ['{']) = 1 := by
  rw [braceBalance, braceBalanceFrom_append ht hl]
  rfl

theorem braceBalance_close {t : Line} (ht : NoBraces t) : braceBalance ('}' :: t) = -1 := by
  have := braceBalanceFrom_noBraces ht none false
  simp [braceBalance, braceBalanceFrom_none_cons, this]

theorem braceBalance_turn {t : Line} (ht : NoBraces t) (hl : ClosesLiterals t) :
    braceBalance ('}' :: (t ++ ['{'])) = 0 := by
  have := braceBalance_open ht hl
  rw [braceBalance] at this
  simp [braceBalance, braceBalanceFrom_none_cons, this]

/-! ### Parentheses -/

/-- No parenthesis is closed before it is opened, and all are closed. -/
def Balanced (cs : Line) : Prop :=
  (∀ p, p <+: cs → p.count ')' ≤ p.count '(') ∧ cs.count ')' = cs.count '('

instance : DecidablePred Balanced := fun cs =>
  decidable_of_iff ((∀ p ∈ cs.inits, p.count ')' ≤ p.count '(') ∧ cs.count ')' = cs.count '(')
    (by simp only [Balanced, List.mem_inits])

/-- Read with `n + 1` parentheses open, a text that closes `n` of them more than it opens goes on to the next one that
closes. -/
theorem closing?_append {cs : Line} {n : ℕ} (hp : ∀ p, p <+: cs → p.count ')' ≤ p.count '(' + n)
    (hall : cs.count ')' = cs.count '(' + n) (after : Line) :
    closing? (n + 1) (cs ++ ')' :: after) = some (cs, after) := by
  induction cs generalizing n with
  | nil =>
    obtain rfl : n = 0 := by simpa using hall.symm
    simp [closing?]
  | cons c cs ih =>
    have hrest (p : Line) (h : p <+: cs) : (c :: p).count ')' ≤ (c :: p).count '(' + n :=
      hp _ (List.cons_prefix_cons.mpr ⟨rfl, h⟩)
    have hstep : ∀ m : ℕ, (∀ p, p <+: cs → p.count ')' ≤ p.count '(' + m) → cs.count ')' = cs.count '(' + m →
        ((if c = '(' then (n + 1 : ℤ) + 1 else if c = ')' then (n + 1 : ℤ) - 1 else n + 1) = m + 1) →
        ¬ (c = ')' ∧ n = 0) → closing? (n + 1) (c :: cs ++ ')' :: after) = some (c :: cs, after) := by
      intro m hp' hall' hdepth hnot
      have hnot' : ¬ ((decide (c = ')') && decide ((n + 1 : ℤ) = 1)) = true) := by
        simp only [Bool.and_eq_true, decide_eq_true_eq]
        rintro ⟨hc, hn⟩
        exact hnot ⟨hc, by omega⟩
      rw [List.cons_append, closing?, if_neg hnot']
      simp only [hdepth, ih hp' hall', Option.map_some]
    by_cases hclose : c = ')'
    · subst hclose
      have hfirst := hrest [] List.nil_prefix
      simp only [List.count_cons, List.count_nil] at hfirst hrest hall
      simp at hfirst hrest hall
      obtain ⟨m, rfl⟩ : ∃ m, n = m + 1 := ⟨n - 1, by omega⟩
      refine hstep m (fun p h => ?_) (by omega) (by simp) (by omega)
      have := hrest p h
      omega
    · by_cases hopen : c = '('
      · subst hopen
        simp at hrest hall
        refine hstep (n + 1) (fun p h => ?_) (by omega) (by simp) (by simp)
        have := hrest p h
        omega
      · simp [hclose, hopen] at hrest hall
        exact hstep n hrest hall (by simp [hclose, hopen]) (by simp [hclose])

theorem parenthesised_append {cs : Line} (h : Balanced cs) (after : Line) :
    parenthesised ('(' :: (cs ++ ')' :: after)) = (cs, after) := by
  have hread : closing? 1 (cs ++ ')' :: after) = some (cs, after) := by
    simpa using closing?_append (n := 0) (by simpa using h.1) (by simpa using h.2) after
  simp [parenthesised, closing?, hread]

end FlowSketch.SystemsRegion

namespace FlowSketch.SystemsFlow
open TextBlank SystemsRegion SystemsHeader

/-! ### Moves between depths -/

/-- Lines that move the depth of braces, never below a floor. Outside braces no line begins a case. -/
inductive Moves (floor : ℕ) : ℕ → List Line → ℕ → Prop where
  | nil (d : ℕ) : Moves floor d [] d
  | plain {d e : ℕ} {l : Line} {ls : List Line} (noBraces : NoBraces l) (text : allBlank l = false)
      (noLabel : clauseAt d l = none) : Moves floor d ls e → Moves floor d (l :: ls) e
  | opens {d e : ℕ} {b t : Line} {ls : List Line} (blank : Blank b) (solid : Solid (t ++ ['{'])) (noBraces : NoBraces t)
      (literals : ClosesLiterals t) (noLabel : clauseAt d (b ++ (t ++ ['{'])) = none) :
      Moves floor (d + 1) ls e → Moves floor d ((b ++ (t ++ ['{'])) :: ls) e
  | closes {d e : ℕ} {b t : Line} {ls : List Line} (above : floor ≤ d) (blank : Blank b) (solid : Solid ('}' :: t))
      (noBraces : NoBraces t) : Moves floor d ls e → Moves floor (d + 1) ((b ++ '}' :: t) :: ls) e
  | turns {d e : ℕ} {b t : Line} {ls : List Line} (above : floor ≤ d) (blank : Blank b) (noBraces : NoBraces t)
      (literals : ClosesLiterals t) :
      Moves floor (d + 1) ls e → Moves floor (d + 1) ((b ++ '}' :: (t ++ ['{'])) :: ls) e

theorem Moves.append {floor d e f : ℕ} {a b : List Line} (ha : Moves floor d a e) (hb : Moves floor e b f) :
    Moves floor d (a ++ b) f := by
  induction ha with
  | nil => exact hb
  | plain noBraces text noLabel _ ih => exact .plain noBraces text noLabel (ih hb)
  | opens blank solid noBraces literals noLabel _ ih => exact .opens blank solid noBraces literals noLabel (ih hb)
  | closes above blank solid noBraces _ ih => exact .closes above blank solid noBraces (ih hb)
  | turns above blank noBraces literals _ ih => exact .turns above blank noBraces literals (ih hb)

theorem clauseAt_succ (d : ℕ) (l : Line) : clauseAt (d + 1) l = none := rfl

theorem solid_turn (t : Line) : Solid ('}' :: (t ++ ['{'])) := by
  refine ⟨?_, ?_⟩
  · intro c hc
    obtain rfl : '}' = c := by simpa using hc
    rfl
  · intro c hc
    rw [← List.cons_append, List.getLast?_concat] at hc
    obtain rfl : '{' = c := Option.some.inj hc
    rfl

theorem not_allBlank {l : Line} {c : Char} (hc : c ∈ l) (h : isBlank c = false) : allBlank l = false := by
  by_contra hb
  rw [Bool.not_eq_false, allBlank, List.all_eq_true] at hb
  rw [hb c hc] at h
  cases h

/-- Lines in front of a cut that are in its body. -/
def takes (ls : List Line) (c : Cut) : Cut := ⟨ls ++ c.body, ls ++ c.passed, c.rest⟩

theorem region_inside {d d' : ℤ} {l : Line} {lines : List Line} (h : scan d true l = .inside l d' true)
    (ht : allBlank l = false) : region d true (l :: lines) = takes [l] (region d' true lines) := by
  simp [region, h, kept, ht, takes]

theorem takes_takes (a b : List Line) (c : Cut) : takes a (takes b c) = takes (a ++ b) c := by
  simp [takes]

/-- Lines that stay above the floor are in the body of a region. -/
theorem Moves.region {floor d e : ℕ} {ls : List Line} (h : Moves floor d ls e) (rest : List Line) :
    region (d - floor + 1) true (ls ++ rest) = takes ls (SystemsRegion.region (e - floor + 1) true rest) := by
  induction h with
  | nil d => rfl
  | @plain d e l ls noBraces text _ _ ih =>
    rw [List.cons_append, region_inside (scan_noBraces noBraces _) text, ih, takes_takes]
    rfl
  | @opens d e b t ls blank _ noBraces _ _ _ ih =>
    have hscan := scan_open ((noBraces_of_blank blank).append noBraces) (b := []) (by simp [NoBraces]) (d - floor + 1)
    rw [List.append_assoc] at hscan
    have hdepth : ((d + 1 : ℕ) - floor + 1 : ℤ) = d - floor + 1 + 1 := by push_cast; ring
    rw [hdepth] at ih
    rw [List.cons_append, region_inside hscan (not_allBlank (c := '{') (by simp) rfl), ih, takes_takes]
    rfl
  | @closes d e b t ls above blank _ noBraces _ ih =>
    have hdepth : ((d + 1 : ℕ) - floor + 1 : ℤ) - 1 = d - floor + 1 := by push_cast; ring
    have hscan := scan_close (noBraces_of_blank blank) noBraces (d := (d + 1 : ℕ) - floor + 1) (by omega)
    rw [hdepth] at hscan
    rw [List.cons_append, region_inside hscan (not_allBlank (c := '}') (by simp) rfl), ih, takes_takes]
    rfl
  | @turns d e b t ls above blank noBraces _ _ ih =>
    have hscan := scan_turn (noBraces_of_blank blank) noBraces (c := []) (by simp [NoBraces])
      (d := (d + 1 : ℕ) - floor + 1) (by omega)
    rw [List.cons_append, region_inside hscan (not_allBlank (c := '}') (by simp) rfl), ih, takes_takes]
    rfl

theorem clausesFrom_none {d d' : ℕ} {l : Line} (h : clauseAt d l = none) (hd : depthAfter d l = d') (lines : List Line) :
    clausesFrom d (l :: lines) = (l :: (clausesFrom d' lines).1, (clausesFrom d' lines).2) := by
  rw [clausesFrom, h, hd]

/-- Lines that begin no case belong to the case before them. -/
theorem Moves.clausesFrom {floor d e : ℕ} {ls : List Line} (h : Moves floor d ls e) (rest : List Line) :
    clausesFrom d (ls ++ rest) = (ls ++ (SystemsFlow.clausesFrom e rest).1, (SystemsFlow.clausesFrom e rest).2) := by
  induction h with
  | nil d => rfl
  | @plain d e l ls noBraces text noLabel _ ih =>
    have hdepth : depthAfter d l = d := by
      simp [depthAfter, braceBalance_noBraces (noBraces.of_sublist (trim_sublist l))]
    rw [List.cons_append, clausesFrom_none noLabel hdepth, ih]
    rfl
  | @opens d e b t ls blank solid noBraces literals noLabel _ ih =>
    have hdepth : depthAfter d (b ++ (t ++ ['{'])) = d + 1 := by
      rw [depthAfter, trim_append blank, trim_solid solid, braceBalance_open noBraces literals]
      rfl
    rw [List.cons_append, clausesFrom_none noLabel hdepth, ih]
    rfl
  | @closes d e b t ls above blank solid noBraces _ ih =>
    have hdepth : depthAfter (d + 1) (b ++ '}' :: t) = d := by
      rw [depthAfter, trim_append blank, trim_solid solid, braceBalance_close noBraces]
      omega
    rw [List.cons_append, clausesFrom_none (clauseAt_succ d _) hdepth, ih]
    rfl
  | @turns d e b t ls above blank noBraces literals _ ih =>
    have hdepth : depthAfter (d + 1) (b ++ '}' :: (t ++ ['{'])) = d + 1 := by
      rw [depthAfter, trim_append blank, trim_solid (solid_turn t), braceBalance_turn noBraces literals]
      simp
    rw [List.cons_append, clausesFrom_none (clauseAt_succ d _) hdepth, ih]
    rfl

end FlowSketch.SystemsFlow
