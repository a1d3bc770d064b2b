import FlowSketch.Proofs.DroppedBreaks

/-!
# Breaks of cases

The lines of a case are read without its breaks. This changes nothing as long as no break is the next line behind a
header that waits for a body, or stands before a line that goes on with a construct. Behind such a header the statement
after the break becomes the body.
-/
namespace FlowSketch.SystemsFlow
open TextBlank SystemsRegion SystemsHeader

/-! ### Nodes -/

theorem nodesOf_filler {l : Line} (h : isFiller (trim l) = true) (ls : List Line) : nodesOf (l :: ls) = nodesOf ls := by
  rw [nodesOf, if_pos h]

theorem weight_le_branchWeight {b : Branch} {bs : List Branch} (h : b ∈ bs) : weight b.body ≤ branchWeight bs := by
  induction bs with
  | nil => cases h
  | cons c bs ih =>
    rw [branchWeight]
    rcases List.mem_cons.mp h with rfl | h
    · omega
    · have := ih h
      omega

/-- A line is read alike in front of lines that are read alike, wherever they are cut. -/
theorem nodesOf_cons_congr {l : Line} {ls ls' : List Line} (h : Thins (waits l) ls ls')
    (ih : ∀ {ks ks' : List Line}, weight ks < weight (l :: ls) → Thins false ks ks' → nodesOf ks = nodesOf ks') :
    nodesOf (l :: ls) = nodesOf (l :: ls') := by
  have hls : nodesOf ls = nodesOf ls' := ih (by rw [weight_cons]; omega) h.low
  cases hf : isFiller (trim l) with
  | true => rw [nodesOf_filler hf, nodesOf_filler hf, hls]
  | false =>
    cases hh : header? (trim l) with
    | none => rw [nodesOf_line hf hh, nodesOf_line hf hh, hls]
    | some header =>
      have hc : condition (trim l) = ((condition (trim l)).1, (condition (trim l)).2) := rfl
      have hlt := bodyAfter_lt ls (condition_trim_length l)
      -- All headers but a do have their body behind a condition.
      have hbody (hdo : header ≠ .doLoop) :
          ThinsCut false (bodyAfter l (condition (trim l)).2 ls) (bodyAfter l (condition (trim l)).2 ls') := by
        have hheaded : headed? l = some (condition (trim l)).2 := by
          rw [headed?, hh]
          cases header <;> first | rfl | exact absurd rfl hdo
        exact thins_bodyAfter h l (waits_of_headed hheaded (condition_suffix _))
      cases header with
      | branch =>
        have hchain := thins_chain hh h
        have hweight := chain_weight l ls
        have hbranches : List.Forall₂ (fun b b' : Branch => b.condition = b'.condition ∧ nodesOf b.body = nodesOf b'.body)
            (chain l ls).branches (chain l ls').branches := by
          refine (List.forall₂_and_left (p := (· ∈ (chain l ls).branches)) _ _).mpr ⟨fun _ hb => hb, hchain.branches⟩ |>.imp ?_
          rintro b b' ⟨hb, hcondition, hthins⟩
          have := weight_le_branchWeight hb
          exact ⟨hcondition, ih (by omega) hthins⟩
        rw [nodesOf_branch hf hh, nodesOf_branch hf hh, ih (by omega) hchain.rest,
          decisions_congr hbranches (ih (by omega) hchain.otherwise)]
      | forLoop =>
        obtain ⟨hcut, hrest⟩ := hbody (by decide)
        rw [nodesOf_forLoop hf hh hc, nodesOf_forLoop hf hh hc, ih (by omega) hcut, ih (by omega) hrest]
      | whileLoop =>
        obtain ⟨hcut, hrest⟩ := hbody (by decide)
        rw [nodesOf_whileLoop hf hh hc, nodesOf_whileLoop hf hh hc, ih (by omega) hcut, ih (by omega) hrest]
      | doLoop =>
        have hheaded : headed? l = some (afterDoWord (trim l)) := by rw [headed?, hh]
        obtain ⟨hcut, hrest⟩ := thins_bodyAfter h l (waits_of_headed hheaded (List.drop_suffix _ _))
        have hdo := bodyAfter_lt ls (afterDoWord_length l)
        have hafter := afterDo_weight (bodyAfter l (afterDoWord (trim l)) ls).rest
        rw [nodesOf_doLoop hf hh rfl, nodesOf_doLoop hf hh rfl, ih (by omega) hcut, ih (by omega) (thins_afterDo hrest)]
      | switch =>
        obtain ⟨hcut, hrest⟩ := hbody (by decide)
        have hcases : switchCases (bodyAfter l (condition (trim l)).2 ls).body =
            switchCases (bodyAfter l (condition (trim l)).2 ls').body := casesOf_congr (thins_clauses hcut 0).2
        rw [nodesOf_switch hf hh hc, nodesOf_switch hf hh hc, hcases, ih (by omega) hrest]

/-- Lines that are the same but for some breaks are read alike. -/
theorem nodesOf_thins {w : Bool} {ls ls' : List Line} (h : Thins w ls ls') : nodesOf ls = nodesOf ls' := by
  -- Bodies and what is left behind them are cut from the lines, so the induction is on the weight and not on `h`.
  induction hn : weight ls using Nat.strong_induction_on generalizing w ls ls' with
  | _ n ih =>
  have hlater {v : Bool} {ks ks' : List Line} (hk : weight ks < weight ls) (h : Thins v ks ks') : nodesOf ks = nodesOf ks' :=
    ih (weight ks) (hn ▸ hk) h rfl
  cases h with
  | nil => rfl
  | @blank _ l ls ls' hl h =>
    have hfiller : isFiller (trim l) = true := by rw [trim_eq_nil.mpr hl]; rfl
    rw [nodesOf_filler hfiller, nodesOf_filler hfiller, hlater (by rw [weight_cons]; omega) h]
  | keep hl h => exact nodesOf_cons_congr h hlater
  | drop hl hnext h => rw [hl.reads, hlater (by rw [weight_cons]; omega) h]

/-! ### Lines next to breaks -/

/-- A line does not wait for the break behind it, and the line behind a break resumes nothing. -/
def Fits (a b : Line) : Prop := (BareBreak b → waits a = false) ∧ (BareBreak a → resumes b = false)

instance : DecidableRel Fits := fun a b =>
  inferInstanceAs (Decidable ((BareBreak b → waits a = false) ∧ (BareBreak a → resumes b = false)))

theorem head?_codeLines (ls : List Line) : (codeLines ls).head? = (nextCode ls).head? := by
  induction ls with
  | nil => rfl
  | cons l ls ih =>
    rw [codeLines_cons, kept, nextCode]
    by_cases hl : allBlank l = true
    · rw [if_pos hl, List.nil_append, List.dropWhile_cons_of_pos hl, ih, nextCode]
    · rw [if_neg hl, List.dropWhile_cons_of_neg hl]
      rfl

theorem thins_filter {w : Bool} {ls : List Line} (hbreaks : ∀ l ∈ ls, isBreak l = true → BareBreak l)
    (hw : ∀ first ∈ (codeLines ls).head?, BareBreak first → w = false) (hfits : (codeLines ls).IsChain Fits) :
    Thins w ls (ls.filter fun l => !isBreak l) := by
  induction ls generalizing w with
  | nil => exact .nil w
  | cons l ls ih =>
    have hlater : ∀ k ∈ ls, isBreak k = true → BareBreak k := fun k hk => hbreaks k (List.mem_cons_of_mem l hk)
    rw [codeLines_cons, kept] at hw hfits
    by_cases hl : allBlank l = true
    · have hnone : isBreak l = false := by
        by_contra hbreak
        rw [Bool.not_eq_false] at hbreak
        have htext := (hbreaks l List.mem_cons_self hbreak).text
        rw [hl] at htext
        cases htext
      rw [if_pos hl, List.nil_append] at hw hfits
      rw [List.filter_cons_of_pos (by simp [hnone])]
      exact .blank hl (ih hlater hw hfits)
    · rw [if_neg hl, List.singleton_append] at hw hfits
      obtain ⟨hnext, hchain⟩ := List.isChain_cons.mp hfits
      by_cases hbreak : isBreak l = true
      · have hbare := hbreaks l List.mem_cons_self hbreak
        obtain rfl : w = false := hw l rfl hbare
        rw [List.filter_cons_of_neg (by simp [hbreak])]
        refine .drop hbare (fun next hmem => ?_) (ih hlater (fun _ _ _ => rfl) hchain)
        rw [← head?_codeLines] at hmem
        exact (hnext next hmem).2 hbare
      · rw [List.filter_cons_of_pos (by simp [hbreak])]
        exact .keep (by simpa using hl) (ih hlater (fun first hfirst => (hnext first hfirst).1) hchain)

/-- A case is read as if its breaks were not dropped, where these are breaks and nothing else, none is the next line of
text behind a line that waits for a body, and none has a line behind it that resumes a construct. -/
theorem nodesOf_code (c : Clause) (hbreaks : ∀ l ∈ c.lines, isBreak l = true → BareBreak l)
    (hfits : (codeLines c.lines).IsChain Fits) : nodesOf c.code = nodesOf c.lines := by
  have hthins : Thins false c.lines c.code := thins_filter hbreaks (fun _ _ _ => rfl) hfits
  exact (nodesOf_thins hthins).symm

def searchLoop : Clause :=
  ⟨"1".toList, ["while (a) \x7b", "  if (b) \x7b", "    x = 1;", "    break;", "  \x7d else", "    y = 1;", "\x7d", "", "break;"].map
    String.toList⟩

theorem nodesOf_searchLoop :
    ((∀ l ∈ searchLoop.lines, isBreak l = true → BareBreak l) ∧ (codeLines searchLoop.lines).IsChain Fits) ∧
      searchLoop.code.length + 2 = searchLoop.lines.length ∧ nodesOf searchLoop.code = nodesOf searchLoop.lines := by
  have hbreaks : ∀ l ∈ searchLoop.lines, isBreak l = true → BareBreak l := by decide
  have hfits : (codeLines searchLoop.lines).IsChain Fits := by decide
  exact ⟨⟨hbreaks, hfits⟩, by decide, nodesOf_code searchLoop hbreaks hfits⟩

end FlowSketch.SystemsFlow

namespace FlowSketch.SystemsStatement
open TextBlank SystemsRegion SystemsHeader SystemsFlow
open SystemsProgram (Shows noElse_nil)

/-! ### Breaks as bodies -/

theorem begins_break {line : Line} (h : BareBreak line) : Begins line where
  text := h.text
  noBrace := by rw [h]; decide
  noElse := h.noElse

theorem Heading.node_inj (h : Heading) {as bs : List Node} (heq : h.node as = h.node bs) : as = bs := by
  rw [Heading.node, Heading.node] at heq
  cases hw : h.word <;> simp only [hw] at heq <;> injection heq

/-- The first line of a statement stands for something if its lines do. -/
theorem Statement.lines_eq_nil (s : Statement) {first : Line} {more : List Line} (hs : Shows (first :: more) s.lines)
    (h : nodesOf [first] = []) : nodesOf (first :: more) = [] := by
  cases s with
  | line s =>
    obtain ⟨b, hb, heq⟩ := SystemsProgram.shows_singleton.1 hs
    obtain ⟨rfl, rfl⟩ := List.cons.inj heq
    exact h
  | bare head body =>
    obtain ⟨b, ts, hb, heq, -⟩ := SystemsProgram.shows_cons.1 hs
    obtain ⟨rfl, rfl⟩ := List.cons.inj heq
    rw [(head.alone_reads hb).1] at h
    cases h
  | braced head body =>
    obtain ⟨b, ts, k, hb, -, -, heq⟩ := shows_braced hs
    obtain ⟨rfl, rfl⟩ := List.cons.inj heq
    rw [(head.alone_reads hb).2] at h
    cases h

/-- The break that is the body of a bare heading can be dropped exactly if the statement behind it stands for nothing:
otherwise this is taken for the body. -/
theorem Heading.break_dropped_iff (h : Heading) (s : Statement) {b line : Line} (hb : Blank b) (hline : BareBreak line)
    {ls rest : List Line} (hs : Shows ls s.lines) (hrest : NoElse rest) :
    nodesOf ((b ++ h.chars) :: (ls ++ rest)) = nodesOf ((b ++ h.chars) :: line :: (ls ++ rest)) ↔ nodesOf ls = [] := by
  obtain ⟨first, more, rfl, hfirst⟩ := s.begins hs
  have hmore : Separate more := (s.separate hs).2
  obtain ⟨hnext, hall⟩ := (s.separate hs).1 rest hrest
  have hbreak : nodesOf [line] = [] := by rw [hline.reads, nodesOf_nil]
  rw [h.bare_reads_append hb hfirst hmore hrest, h.bare_reads hb (begins_break hline) hnext, hall, hbreak]
  constructor
  · intro heq
    exact s.lines_eq_nil hs (h.node_inj (List.cons.inj heq).1)
  · intro hnone
    obtain rfl : more = [] := s.tail_eq_nil hs hnone
    rw [hnone, nodesOf_nil]

def guardHeading : Heading := ⟨.branch, "x".toList, by decide, by decide⟩

def guarded : Clause := ⟨"1".toList, [guardHeading.chars, "break;".toList, assignment.chars]⟩

/-- Without the break, the statement behind it is the body of the branch. -/
theorem guarded_spills :
    (∀ l ∈ guarded.lines, isBreak l = true → BareBreak l) ∧ (clausesFrom 0 guarded.lines).2 = [] ∧
      nodesOf guarded.code ≠ nodesOf guarded.lines := by
  refine ⟨by decide, by decide, fun heq => ?_⟩
  have hblank : Blank [] := by simp [Blank]
  have hshows : Shows [assignment.chars] (Statement.line assignment).lines := .cons ⟨[], hblank, rfl⟩ .nil
  have hbreak : BareBreak "break;".toList := rfl
  have hnone : nodesOf [assignment.chars] = [] :=
    (guardHeading.break_dropped_iff (.line assignment) hblank hbreak hshows noElse_nil).1 heq
  have hsteps : nodesOf [assignment.chars] = stepNodes assignment.chars := by
    have hreads := assignment.reads hblank []
    rwa [nodesOf_nil, List.append_nil] at hreads
  have hstep : (stepNodes assignment.chars).isEmpty = false := by decide +kernel
  rw [← hsteps, hnone] at hstep
  cases hstep

end FlowSketch.SystemsStatement
