import FlowSketch.Proofs.BareHeaders
import FlowSketch.Proofs.SystemsPositions
import FlowSketch.Proofs.SystemsSteps

/-!
# Systems extraction ends without a fault

Every body is lighter than the lines it is taken from, so an amount of fuel that goes by the weight of the lines is enough
for every recursion. No look at a line, a part or a condition fails but that of a chain on a line without a condition, and
a list of lines is read without such a chain.
-/
namespace FlowSketch.SystemsAttempt
open TextBlank SystemsRegion SystemsHeader SystemsFlow SystemsEdit

/-! ### Conditions -/

theorem mem_dropBlanks {c : Char} {cs : Line} (h : c ∈ cs) (hc : isBlank c = false) : c ∈ dropBlanks cs := by
  rw [← List.takeWhile_append_dropWhile (p := isBlank) (l := cs), List.mem_append] at h
  rcases h with h | h
  · simp [List.mem_takeWhile_imp h] at hc
  · exact h

theorem mem_trim {c : Char} {cs : Line} (hc : isBlank c = false) : c ∈ trim cs ↔ c ∈ cs := by
  refine ⟨fun h => (trim_sublist cs).subset h, fun h => ?_⟩
  rw [trim, dropEndBlanks, List.mem_reverse]
  exact mem_dropBlanks (List.mem_reverse.mpr (mem_dropBlanks h hc)) hc

theorem conditionOf_trim (line : Line) :
    conditionOf (trim line) =
      if line.contains '(' then pure (condition (trim line)) else throw (.edit .noCondition) := by
  have hsame : (trim line).contains '(' = line.contains '(' := by
    rw [Bool.eq_iff_iff, List.contains_iff_mem, List.contains_iff_mem, mem_trim rfl]
  rw [conditionOf, hsame]

theorem conditionOf_mem {line : Line} (h : '(' ∈ line) : conditionOf line = pure (condition line) :=
  if_pos (List.contains_iff_mem.mpr h)

theorem mem_of_after? {lead : String} {line rest : Line} {c : Char} (h : after? lead line = some rest) (hc : c ∈ rest) :
    c ∈ line := by
  rw [after?_eq_some.mp h]
  exact List.mem_append_right _ hc

theorem mem_of_calls {w : String} {line : Line} (h : calls w line = true) : '(' ∈ line := by
  unfold calls at h
  cases hrest : after? w line with
  | none => simp [hrest] at h
  | some rest =>
    have hhead : (dropBlanks rest).head? = some '(' := by simpa [hrest] using h
    exact mem_of_after? hrest ((List.dropWhile_sublist _).subset (List.mem_of_mem_head? hhead))

theorem mem_of_isElseIf {line : Line} (h : isElseIf line = true) : '(' ∈ line := by
  unfold isElseIf at h
  cases hrest : after? "else" line with
  | none => simp [hrest] at h
  | some rest =>
    have hcalls : calls "if" (dropBlanks rest) = true := by simp_all
    exact mem_of_after? hrest ((List.dropWhile_sublist _).subset (mem_of_calls hcalls))

/-- The headers that have a condition have a parenthesis for it. -/
theorem mem_of_header? {line : Line} {header : Header} (h : header? line = some header) (hdo : header ≠ .doLoop) :
    '(' ∈ line := by
  unfold header? at h
  split at h
  · next hbranch =>
    rcases Bool.or_eq_true_iff.mp hbranch with hcalls | helse
    · exact mem_of_calls hcalls
    · exact mem_of_isElseIf helse
  split at h
  · exact mem_of_calls ‹_›
  split at h
  · exact mem_of_calls ‹_›
  split at h
  · exact absurd (Option.some.inj h).symm hdo
  split at h
  · exact mem_of_calls ‹_›
  · cases h

/-! ### Labels -/

theorem forLabelOf_eq (inner : Line) : forLabelOf inner = pure (forLabel inner) := by
  unfold forLabelOf forLabel
  rcases cut ';' inner with _ | ⟨first, _ | ⟨test, _ | ⟨last, more⟩⟩⟩
  · rfl
  · rfl
  · rfl
  · have htest : partAt (first :: test :: last :: more) 1 = pure test := rfl
    simp only [List.length_cons, htest, map_pure, pure_bind]
    rw [if_pos (by omega)]
    split <;> rfl

theorem cutOnce_append {separator : Char} {before : Line} (h : separator ∉ before) (after : Line) :
    cutOnce separator (before ++ separator :: after) = [before, after] := by
  have hbefore : ∀ c ∈ before, (decide (c ≠ separator)) = true := fun c hc => by
    simpa using ne_of_mem_of_not_mem hc h
  rw [cutOnce, if_pos (by simp), List.takeWhile_append_of_pos hbefore, List.dropWhile_append_of_pos hbefore]
  simp

theorem defaultLabel?_eq_some {line : Line} {l : Line × Line} (h : defaultLabel? line = some l) :
    ∃ b, line = "default".toList ++ (b ++ ':' :: l.2) ∧ Blank b ∧ l.1 = "default".toList := by
  unfold defaultLabel? at h
  simp only [Option.bind_eq_bind] at h
  obtain ⟨rest, hrest, h⟩ := Option.bind_eq_some_iff.mp h
  split at h
  · next after hafter =>
    obtain rfl := Option.some.inj h
    refine ⟨rest.takeWhile isBlank, ?_, fun c hc => List.mem_takeWhile_imp hc, rfl⟩
    rw [← hafter, dropBlanks, List.takeWhile_append_dropWhile, after?_eq_some.mp hrest]
  · cases h

/-- The text behind the label that a line begins, whatever the label, is what is behind the first colon of a default. -/
theorem defaultLabel?_cut {line : Line} {r : Line × Line} (h : defaultLabel? line = some r) :
    r.1 = "default".toList ∧ ∃ before, cutOnce ':' line = [before, r.2] := by
  obtain ⟨b, rfl, hb, hword⟩ := defaultLabel?_eq_some h
  refine ⟨hword, "default".toList ++ b, ?_⟩
  rw [← List.append_assoc]
  refine cutOnce_append (fun hmem => ?_) r.2
  rcases List.mem_append.mp hmem with hmem | hmem
  · revert hmem
    decide
  · cases hb ':' hmem

theorem labelAt_eq (depth : ℕ) (line : Line) : labelAt depth (trim line) = pure (clauseAt depth line) := by
  unfold labelAt clauseAt clauseLabel?
  split
  · cases caseLabel? (trim line) with
    | some label => rfl
    | none =>
      cases hdefault : defaultLabel? (trim line) with
      | none => rfl
      | some label =>
        obtain ⟨label, after⟩ := label
        obtain ⟨hlabel, before, hcut⟩ := defaultLabel?_cut hdefault
        simp only at hlabel hcut
        rw [hcut, hlabel]
        rfl
  · rfl

/-! ### Cases -/

theorem addToLast_append (line : Line) (clauses : List Clause) (c : Clause) :
    addToLast line (clauses ++ [c]) = clauses ++ [{ c with lines := c.lines ++ [line] }] := by
  induction clauses with
  | nil => rfl
  | cons d ds ih =>
    rw [List.cons_append, List.cons_append, ← ih]
    cases ds <;> rfl

def addAllToLast (clauses : List Clause) (lines : List Line) : List Clause :=
  lines.foldl (fun cs line => addToLast line cs) clauses

theorem addAllToLast_append (clauses : List Clause) (c : Clause) (lines : List Line) :
    addAllToLast (clauses ++ [c]) lines = clauses ++ [{ c with lines := c.lines ++ lines }] := by
  induction lines generalizing c with
  | nil => simp [addAllToLast]
  | cons line lines ih =>
    rw [addAllToLast, List.foldl_cons, addToLast_append, ← addAllToLast, ih]
    simp

theorem addAllToLast_nil (lines : List Line) : addAllToLast [] lines = [] := by
  induction lines with
  | nil => rfl
  | cons line lines ih => exact ih

theorem clausesAfter_eq (clauses : List Clause) (depth : ℕ) (lines : List Line) :
    clausesAfter clauses depth lines =
      pure (addAllToLast clauses (clausesFrom depth lines).1 ++ (clausesFrom depth lines).2) := by
  induction lines generalizing clauses depth with
  | nil => simp [clausesAfter, clausesFrom, addAllToLast]
  | cons line lines ih =>
    rw [clausesAfter, labelAt_eq, pure_bind, clausesFrom]
    cases clauseAt depth line with
    | none => exact ih _ _
    | some label =>
      obtain ⟨label, after⟩ := label
      simp only
      rw [ih, addAllToLast_append]
      simp [addAllToLast]

/-! ### Bodies -/

/-- What a body that was taken has left: the lines behind it, and in front of them those it has passed. -/
structure Leaves (lines : List Line) (i : ℕ) (cut : Cut) (body : Edit (List Line)) : Prop where
  taken : body.taken = cut.body
  ahead : body.lines.drop body.next = cut.rest
  behind : ∀ (nodes : List Node) (passed rest : List Line),
    edit body.lines body.next nodes passed rest = edit lines i nodes (cut.passed ++ passed) rest

variable {lines following : List Line} {header : Line} {i : ℕ}

theorem takeBody_of_drop (h : lines.drop i = header :: following) (after : Line) :
    ∃ body, takeBody lines i after = pure body ∧ Leaves lines i (bodyAfter header after following) body := by
  refine ⟨_, ?_, rfl, edit_drop _ _ _ (lt_of_drop h).le, fun _ _ _ => edit_edit _ _ _ _ _ _ (lt_of_drop h).le⟩
  rw [takeBody_eq, bodyAt, h]
  rfl

theorem Leaves.whole {cut : Cut} {body : Edit (List Line)} (h : Leaves lines i cut body) (nodes : List Node) :
    edit lines i nodes cut.passed cut.rest = ⟨nodes, body.next, body.lines⟩ := by
  have hbehind := h.behind nodes [] cut.rest
  rwa [List.append_nil, edit_whole _ h.ahead, eq_comm] at hbehind

theorem Leaves.code {cut : Cut} {body : Edit (List Line)} (h : Leaves lines i cut body) :
    body.lines.drop (body.next + (blanksAhead cut.rest).length) = nextCode cut.rest := by
  rw [← h.ahead, drop_code]

theorem Leaves.later {cut : Cut} {body : Edit (List Line)} (h : Leaves lines i cut body) (nodes : List Node)
    (passed rest : List Line) :
    edit body.lines (body.next + (blanksAhead cut.rest).length) nodes passed rest =
      edit lines i nodes (cut.passed ++ blanksAhead cut.rest ++ passed) rest := by
  have hahead : body.lines.drop body.next = blanksAhead cut.rest ++ nextCode cut.rest := by
    rw [h.ahead, blanksAhead_append_nextCode]
  rw [edit_append _ _ _ _ hahead, h.behind, List.append_assoc]

/-! ### Reading -/

/-- Fuel for a list of lines is more than twice its weight: each nested call is on lighter lines, but for one between. -/
def ReadBelow (fuel : ℕ) : Prop := ∀ m < fuel, ∀ ls, 2 * weight ls < m → nodesFrom m ls 0 = pure (nodesOf ls)

theorem ReadBelow.mono {m fuel : ℕ} (h : ReadBelow fuel) (hm : m ≤ fuel) : ReadBelow m :=
  fun k hk => h k (hk.trans_le hm)

theorem chainFrom_of_drop {fuel : ℕ} (hread : ReadBelow fuel) (hfuel : 2 * weight (header :: following) ≤ fuel)
    (hcondition : '(' ∈ header) (h : lines.drop i = header :: following) :
    chainFrom fuel lines i =
      pure (edit lines i (decisions (chain header following).branches (chain header following).otherwise)
        (chain header following).passed (chain header following).rest) := by
  induction fuel generalizing header following lines i with
  | zero => simp at hfuel
  | succ fuel ih =>
    have hbody := bodyAfter_lt following (condition_trim_length header)
    obtain ⟨body, htake, hleaves⟩ := takeBody_of_drop h (condition (trim header)).2
    rw [chain]
    generalize bodyAfter header (condition (trim header)).2 following = cut at hbody hleaves ⊢
    have hcode := hleaves.code
    rw [chainFrom, lineAt_of_drop h, pure_bind, conditionOf_mem ((mem_trim rfl).mpr hcondition), pure_bind]
    simp only [htake, pure_bind]
    rw [hleaves.taken, hread fuel (by omega) _ (by omega), pure_bind, codeFrom_eq, hleaves.ahead, pure_bind]
    cases hnext : nextCode cut.rest with
    | nil =>
      rw [hnext] at hcode
      rw [if_neg (not_lt_of_drop hcode), decisions_cons, decisions_nil, nodesOf_nil, hleaves.whole]
    | cons next more =>
      have hmore := nextCode_weight cut.rest
      rw [hnext] at hcode hmore
      rw [if_pos (lt_of_drop hcode), lineAt_of_drop hcode, pure_bind]
      by_cases helse : isElseIf (trim next) = true
      · simp only [if_pos helse]
        rw [ih (hread.mono (Nat.le_succ _)) (by omega) ((mem_trim rfl).mp (mem_of_isElseIf helse)) hcode, pure_bind,
          ← hleaves.later, decisions_cons]
        rfl
      · simp only [if_neg helse]
        have hafter : elseAfter? next = afterWord? "else" (trim next) := rfl
        cases hword : afterWord? "else" (trim next) with
        | none =>
          simp only [hafter, hword]
          rw [decisions_cons, decisions_nil, nodesOf_nil, hleaves.whole]
        | some after =>
          simp only [hafter, hword]
          obtain ⟨otherwise, htake', hleaves'⟩ := takeBody_of_drop hcode after
          have hbody' := bodyAfter_lt more (elseAfter?_length (hafter.trans hword))
          rw [htake', pure_bind, hleaves'.taken, hread fuel (by omega) _ (by omega), pure_bind, ← hleaves.later,
            hleaves'.whole, decisions_cons, decisions_nil]

theorem weight_code_le {clauses : List Clause} {c : Clause} (h : c ∈ clauses) : weight c.code ≤ clauseWeight clauses := by
  induction clauses with
  | nil => cases h
  | cons d ds ih =>
    rw [clauseWeight]
    rcases List.mem_cons.mp h with rfl | h
    · exact (weight_filter_le _ _).trans (Nat.le_add_right _ _)
    · exact (ih h).trans (Nat.le_add_left _ _)

theorem casesOf_of_below {fuel : ℕ} (hread : ReadBelow fuel) (hfuel : 2 * weight lines + 1 < fuel) :
    casesOf fuel lines = pure (switchCases lines) := by
  obtain ⟨fuel, rfl⟩ := Nat.exists_eq_add_one_of_ne_zero (by omega : fuel ≠ 0)
  have hclauses := clausesFrom_weight 0 lines
  have hcode (clauses : List Clause) (hc : ∀ c ∈ clauses, 2 * weight c.code < fuel) :
      (clauses.mapM fun c => (return ⟨text c.label, ← nodesFrom fuel c.code 0⟩ : Attempt Case)) =
        pure (SystemsFlow.casesOf clauses) := by
    induction clauses with
    | nil => rw [List.mapM_nil, SystemsFlow.casesOf]
    | cons c cs ih =>
      rw [List.mapM_cons, hread fuel (Nat.lt_succ_self _) _ (hc c (by simp)), ih fun d hd => hc d (by simp [hd])]
      simp only [pure_bind, SystemsFlow.casesOf]
  rw [casesOf, clausesAfter_eq, pure_bind, addAllToLast_nil, List.nil_append]
  exact hcode _ fun c hc => by have := weight_code_le hc; omega

theorem passWhile_eq (lines : List Line) (i : ℕ) :
    ∃ next, passWhile lines i = pure next ∧ lines.drop next = afterDo (lines.drop i) := by
  have hcode := drop_code lines i
  rw [passWhile, codeFrom_eq, pure_bind, afterDo]
  cases hnext : nextCode (lines.drop i) with
  | nil =>
    rw [hnext] at hcode
    exact ⟨i, if_neg (not_lt_of_drop hcode), rfl⟩
  | cons next more =>
    rw [hnext] at hcode
    rw [if_pos (lt_of_drop hcode), lineAt_of_drop hcode, pure_bind]
    by_cases hwhile : calls "while" (trim next) = true
    · exact ⟨_, if_pos hwhile, (drop_succ_of_drop hcode).trans (if_pos hwhile).symm⟩
    · exact ⟨i, if_neg hwhile, (if_neg hwhile).symm⟩

/-- The induction is on the fuel: every body and everything behind it is lighter than the lines ahead. -/
theorem nodesFrom_eq {fuel : ℕ} {lines : List Line} {i : ℕ} (hfuel : 2 * weight (lines.drop i) < fuel) :
    nodesFrom fuel lines i = pure (nodesOf (lines.drop i)) := by
  induction fuel using Nat.strong_induction_on generalizing lines i with
  | _ fuel ih =>
    obtain ⟨fuel, rfl⟩ := Nat.exists_eq_add_one_of_ne_zero (by omega : fuel ≠ 0)
    have hread : ReadBelow (fuel + 1) := fun m hm ls hls => ih m hm hls
    have htaken {ls : List Line} (hls : 2 * weight ls < fuel) : nodesFrom fuel ls 0 = pure (nodesOf ls) :=
      hread fuel (Nat.lt_succ_self _) ls hls
    have hbehind {ls rest : List Line} {j : ℕ} (hrest : ls.drop j = rest) (hls : 2 * weight rest < fuel) :
        nodesFrom fuel ls j = pure (nodesOf rest) := by
      rw [ih fuel (Nat.lt_succ_self _) (hrest ▸ hls), hrest]
    cases hd : lines.drop i with
    | nil => rw [nodesFrom, if_neg (not_lt_of_drop hd), nodesOf_nil]
    | cons raw following =>
      rw [hd] at hfuel
      have hlater : nodesFrom fuel lines (i + 1) = pure (nodesOf following) :=
        hbehind (drop_succ_of_drop hd) (by rw [weight_cons] at hfuel; omega)
      rw [nodesFrom, if_pos (lt_of_drop hd), lineAt_of_drop hd, pure_bind]
      by_cases hfiller : isFiller (trim raw) = true
      · rw [if_pos hfiller, hlater, nodesOf, if_pos hfiller]
      have hf : isFiller (trim raw) = false := by simpa using hfiller
      rw [if_neg hfiller]
      cases hh : header? (trim raw) with
      | none => simp only [hlater, pure_bind, nodesOf_line hf hh]
      | some header =>
        obtain ⟨body, htake, hleaves⟩ := takeBody_of_drop hd (condition (trim raw)).2
        have hc : condition (trim raw) = ((condition (trim raw)).1, (condition (trim raw)).2) := rfl
        have hbody := bodyAfter_lt following (condition_trim_length raw)
        have hnodes := htaken (by omega : 2 * weight (bodyAfter raw (condition (trim raw)).2 following).body < fuel)
        have hrest := hbehind hleaves.ahead (by omega)
        cases header with
        | branch =>
          have hchain := chain_weight raw following
          have hcondition := (mem_trim rfl).mp (mem_of_header? hh (by decide))
          simp only
          rw [chainFrom_of_drop (hread.mono (Nat.le_succ _)) (by omega) hcondition hd, pure_bind,
            hbehind (edit_drop _ _ _ (lt_of_drop hd).le) (by omega), pure_bind, nodesOf_branch hf hh]
          rfl
        | forLoop =>
          rw [conditionOf_mem (mem_of_header? hh (by decide)), pure_bind]
          simp only [forLabelOf_eq, htake, hleaves.taken, hnodes, hrest, pure_bind]
          rw [nodesOf_forLoop hf hh hc]
        | whileLoop =>
          rw [conditionOf_mem (mem_of_header? hh (by decide)), pure_bind]
          simp only [htake, hleaves.taken, hnodes, hrest, pure_bind]
          rw [nodesOf_whileLoop hf hh hc]
        | switch =>
          rw [conditionOf_mem (mem_of_header? hh (by decide)), pure_bind]
          simp only [htake, hleaves.taken, hrest, pure_bind]
          rw [casesOf_of_below (hread.mono (Nat.le_succ _)) (by omega), pure_bind, nodesOf_switch hf hh hc]
        | doLoop =>
          obtain ⟨body, htake, hleaves⟩ := takeBody_of_drop hd (afterDoWord (trim raw))
          have hbody := bodyAfter_lt following (afterDoWord_length raw)
          have hwhile := afterDo_weight (bodyAfter raw (afterDoWord (trim raw)) following).rest
          obtain ⟨next, hpass, hnext⟩ := passWhile_eq body.lines body.next
          rw [hleaves.ahead] at hnext
          simp only [htake, hleaves.taken, hpass, pure_bind]
          rw [htaken (by omega), pure_bind, hbehind hnext (by omega), pure_bind, nodesOf_doLoop hf hh rfl]

theorem readBelow (fuel : ℕ) : ReadBelow fuel := fun _ _ _ hls => nodesFrom_eq hls

/-- Only a chain on a line without a condition, or behind the last line, fails. -/
theorem chainFrom_eq {fuel : ℕ} (hfuel : 2 * weight (lines.drop i) < fuel) :
    chainFrom fuel lines i = .ofEdit (chainAt lines i) := by
  obtain ⟨fuel, rfl⟩ := Nat.exists_eq_add_one_of_ne_zero (by omega : fuel ≠ 0)
  rw [chainAt]
  cases h : lines.drop i with
  | nil =>
    have hnone : lines[i]? = none := List.getElem?_eq_none (List.drop_eq_nil_iff.mp h)
    rw [chainFrom, lineAt, hnone]
    rfl
  | cons header following =>
    rw [h] at hfuel
    by_cases hcondition : '(' ∈ header
    · simp only [List.contains_iff_mem.mpr hcondition, if_true]
      exact chainFrom_of_drop (readBelow _) hfuel.le hcondition h
    · have hnone : header.contains '(' = false := by simpa using hcondition
      rw [chainFrom, lineAt_of_drop h, pure_bind, conditionOf_trim]
      simp only [hnone, Bool.false_eq_true, if_false]
      rfl

/-- The lines outside of functions are weighed too: they are read once they end. -/
theorem functionsFrom_eq {fuel : ℕ} {lines loose : List Line} {i : ℕ}
    (hfuel : 3 * weight (lines.drop i) + 2 * weight loose + 1 < fuel) :
    functionsFrom fuel lines loose i = pure (SystemsFlow.functionsFrom loose (lines.drop i)) := by
  induction fuel generalizing lines loose i with
  | zero => omega
  | succ fuel ih =>
    have hloose : nodesFrom fuel loose 0 = pure (nodesOf loose) := nodesFrom_eq (by rw [List.drop_zero]; omega)
    cases hd : lines.drop i with
    | nil => rw [functionsFrom, if_neg (not_lt_of_drop hd), hloose, SystemsFlow.functionsFrom]
    | cons line following =>
      rw [hd, weight_cons] at hfuel
      rw [functionsFrom, if_pos (lt_of_drop hd), lineAt_of_drop hd, pure_bind, SystemsFlow.functionsFrom]
      cases function? (trim line) with
      | none =>
        have hlater := drop_succ_of_drop hd
        have hlighter : 3 * weight (lines.drop (i + 1)) + 2 * weight (loose ++ [line]) + 1 < fuel := by
          rw [hlater, weight_append, weight_cons, weight_nil]
          omega
        rw [← hlater]
        exact ih hlighter
      | some header =>
        have hrest : (blockAt lines i).lines.drop (blockAt lines i).next = (block (line :: following)).rest := by
          rw [blockAt, hd]
          exact edit_drop _ _ _ (lt_of_drop hd).le
        have hbody : (blockAt lines i).taken = (block (line :: following)).body := by rw [blockAt, hd, edit]
        have hwithin := block_within (line :: following) (List.cons_ne_nil _ _)
        rw [Cut.Within, weight_cons] at hwithin
        simp only [hloose, takeBlock_eq, hbody, pure_bind]
        rw [nodesFrom_eq (by rw [List.drop_zero]; omega), pure_bind, ih (by rw [hrest, weight_nil]; omega), pure_bind, hrest,
          List.drop_zero]

/-! ### Outcomes -/

/-- Every recursion over a list of lines ends, and with no fault but that of a body or a chain that is asked for behind the
last line, or of a chain on a line without a condition. -/
structure Halts (lines : List Line) : Prop where
  nodes : Ends (fun fuel => nodesFrom fuel lines 0) (pure (nodesOf lines))
  cases : Ends (fun fuel => casesOf fuel lines) (pure (switchCases lines))
  functions : Ends (fun fuel => functionsFrom fuel lines [] 0) (pure (SystemsFlow.functionsFrom [] lines))
  chain : ∀ i, Ends (fun fuel => chainFrom fuel lines i) (.ofEdit (chainAt lines i))
  body : ∀ i after, takeBody lines i after = .ofEdit (bodyAt lines i after)
  block : ∀ i, takeBlock lines i = pure (blockAt lines i)

theorem halts (lines : List Line) : Halts lines where
  nodes := ⟨2 * weight lines + 1, fun _ hfuel => nodesFrom_eq (i := 0) hfuel⟩
  cases := ⟨2 * weight lines + 2, fun fuel hfuel => casesOf_of_below (readBelow fuel) hfuel⟩
  functions := ⟨3 * weight lines + 2, fun _ hfuel => functionsFrom_eq (i := 0) hfuel⟩
  chain i := ⟨2 * weight (lines.drop i) + 1, fun _ hfuel => chainFrom_eq hfuel⟩
  body := takeBody_eq lines
  block := takeBlock_eq lines

theorem ofSource_ends (code : String) : Ends (fun fuel => ofSource fuel code) (pure (SystemsFlow.ofSource code)) :=
  (halts _).functions

end FlowSketch.SystemsAttempt
