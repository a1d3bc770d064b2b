import FlowSketch.Proofs.SystemsProgress

/-!
# Readings of lines and what they call

The nodes from a position on, a chain and the cases of a switch are read by reading others of them. Every reading concludes if
those it calls do, and has fewer characters, fewer lines or fewer constructs ahead than the one that calls it, so no reading
goes on forever.
-/
namespace FlowSketch

/-! ### Conclusions -/

/-- With enough fuel a computation has an outcome, a value or a fault, that more fuel does not change. -/
def Concludes {α : Type} (f : ℕ → Attempt α) : Prop := ∃ outcome : Except Fault α, Ends f (.mk (some outcome))

variable {α β : Type}

theorem Concludes.value (a : α) : Concludes fun _ => (pure a : Attempt α) := ⟨.ok a, 0, fun _ _ => rfl⟩

theorem Concludes.fault (fault : Fault) : Concludes fun _ => (throw fault : Attempt α) := ⟨.error fault, 0, fun _ _ => rfl⟩

theorem Concludes.bind {f : ℕ → Attempt α} {g : ℕ → α → Attempt β} (hf : Concludes f)
    (hg : ∀ a, Ends f (pure a) → Concludes fun fuel => g fuel a) : Concludes fun fuel => f fuel >>= g fuel := by
  obtain ⟨outcome | a, hf⟩ := hf
  · refine ⟨.error outcome, .of_eventually ?_⟩
    filter_upwards [hf.eventually] with fuel hfuel
    rw [hfuel]
    rfl
  · obtain ⟨outcome, hg⟩ := hg a hf
    refine ⟨outcome, .of_eventually ?_⟩
    filter_upwards [hf.eventually, hg.eventually] with fuel hfuel hnext
    rw [hfuel]
    exact hnext

theorem Concludes.map {f : ℕ → Attempt α} (hf : Concludes f) (g : α → β) :
    Concludes fun fuel => f fuel >>= fun a => pure (g a) := hf.bind fun a _ => .value (g a)

theorem Concludes.of_succ {f : ℕ → Attempt α} (h : Concludes fun fuel => f (fuel + 1)) : Concludes f := by
  obtain ⟨outcome, h⟩ := h
  exact ⟨outcome, .of_succ h.eventually⟩

theorem Ends.unique {f : ℕ → α} {a b : α} (ha : Ends f a) (hb : Ends f b) : a = b := by
  obtain ⟨n, ha⟩ := ha
  obtain ⟨m, hb⟩ := hb
  exact (ha (max n m) (le_max_left n m)).symm.trans (hb (max n m) (le_max_right n m))

theorem Attempt.value_inj {a b : α} (h : (pure a : Attempt α) = pure b) : a = b := Except.ok.inj (Option.some.inj h)

theorem Attempt.ofEdit_eq_value {result : Except SystemsEdit.EditError α} {a : α} (h : Attempt.ofEdit result = pure a) :
    result = .ok a := by
  cases result with
  | error e => cases h
  | ok b => rw [value_inj h]

end FlowSketch
namespace FlowSketch.SystemsAttempt
open TextBlank SystemsRegion SystemsHeader SystemsFlow SystemsEdit

/-! ### Calls -/

/-- Readings of lines: of their nodes from a position on, of the chain at a position, and of the cases of a switch body. -/
inductive LineReading where
  | nodes (lines : List Line) (i : ℕ)
  | chain (lines : List Line) (i : ℕ)
  | cases (lines : List Line)

def LineReading.Concluded : LineReading → Prop
  | nodes lines i => Concludes fun fuel => nodesFrom fuel lines i
  | chain lines i => Concludes fun fuel => chainFrom fuel lines i
  | cases lines => Concludes fun fuel => casesOf fuel lines

/-- The text behind the header of a construct that has a body of its own. -/
def textBehind : Header → Line → Line
  | .doLoop, line => afterDoWord line
  | _, line => (condition line).2

/-- The body of the construct that line `i` begins, with the lines as it leaves them. -/
def ConstructAt (header : Header) (lines : List Line) (i : ℕ) (e : Edit (List Line)) : Prop :=
  ∃ raw, lines[i]? = some raw ∧ header? (trim raw) = some header ∧ bodyAt lines i (textBehind header (trim raw)) = .ok e

/-- The body behind the condition on line `i`, with the lines as it leaves them. -/
def ConditionAt (lines : List Line) (i : ℕ) (e : Edit (List Line)) : Prop :=
  ∃ raw, lines[i]? = some raw ∧ '(' ∈ raw ∧ bodyAt lines i (textBehind .branch (trim raw)) = .ok e

/-- What a reading reads next, as soon as it has passed a line or taken a body. -/
inductive LineReading.Calls : LineReading → LineReading → Prop
  | line {lines : List Line} {i : ℕ} {raw : Line} (hraw : lines[i]? = some raw)
      (hline : isFiller (trim raw) = true ∨ header? (trim raw) = none) : Calls (nodes lines i) (nodes lines (i + 1))
  | chain {lines : List Line} {i : ℕ} {raw : Line} (hraw : lines[i]? = some raw)
      (hheader : header? (trim raw) = some .branch) : Calls (nodes lines i) (chain lines i)
  | behindChain {lines : List Line} {i : ℕ} {raw : Line} {e : Edit (List Node)} (hraw : lines[i]? = some raw)
      (hheader : header? (trim raw) = some .branch) (he : chainAt lines i = .ok e) :
      Calls (nodes lines i) (nodes e.lines e.next)
  | body {lines : List Line} {i : ℕ} {header : Header} {e : Edit (List Line)} (he : ConstructAt header lines i e)
      (hloop : header ∈ [.forLoop, .whileLoop, .doLoop]) : Calls (nodes lines i) (nodes e.taken 0)
  | cases {lines : List Line} {i : ℕ} {e : Edit (List Line)} (he : ConstructAt .switch lines i e) :
      Calls (nodes lines i) (cases e.taken)
  | behindBody {lines : List Line} {i : ℕ} {header : Header} {e : Edit (List Line)} (he : ConstructAt header lines i e)
      (hheaded : header ∈ [.forLoop, .whileLoop, .switch]) : Calls (nodes lines i) (nodes e.lines e.next)
  | behindWhile {lines : List Line} {i next : ℕ} {e : Edit (List Line)} (he : ConstructAt .doLoop lines i e)
      (hnext : passWhile e.lines e.next = pure next) : Calls (nodes lines i) (nodes e.lines next)
  | branch {lines : List Line} {i : ℕ} {e : Edit (List Line)} (he : ConditionAt lines i e) :
      Calls (chain lines i) (nodes e.taken 0)
  | elseIf {lines : List Line} {i j : ℕ} {next : Line} {e : Edit (List Line)} (he : ConditionAt lines i e)
      (hj : codeFrom e.lines e.next = pure j) (hnext : e.lines[j]? = some next) (hif : isElseIf (trim next) = true) :
      Calls (chain lines i) (chain e.lines j)
  | otherwise {lines : List Line} {i j : ℕ} {next after : Line} {e e' : Edit (List Line)} (he : ConditionAt lines i e)
      (hj : codeFrom e.lines e.next = pure j) (hnext : e.lines[j]? = some next) (hif : isElseIf (trim next) = false)
      (helse : elseAfter? next = some after) (he' : bodyAt e.lines j after = .ok e') :
      Calls (chain lines i) (nodes e'.taken 0)
  | clause {lines : List Line} {c : Clause} (hc : c ∈ (clausesFrom 0 lines).2) : Calls (cases lines) (nodes c.code 0)

theorem bodyAt_of_drop {lines following : List Line} {raw : Line} {i : ℕ} (h : lines.drop i = raw :: following)
    (after : Line) : ∃ e, bodyAt lines i after = .ok e ∧ takeBody lines i after = pure e := by
  refine ⟨_, by rw [bodyAt, h], ?_⟩
  rw [takeBody_eq, bodyAt, h]
  rfl

variable {lines : List Line} {i : ℕ}

theorem nodesFrom_concludes (h : ∀ callee, (LineReading.nodes lines i).Calls callee → callee.Concluded) :
    Concludes fun fuel => nodesFrom fuel lines i := by
  refine .of_succ ?_
  cases hd : lines.drop i with
  | nil =>
    simp only [nodesFrom, if_neg (not_lt_of_drop hd)]
    exact .value []
  | cons raw following =>
    have hraw := getElem?_of_drop hd
    simp only [nodesFrom, if_pos (lt_of_drop hd), lineAt_of_drop hd, pure_bind]
    by_cases hfiller : isFiller (trim raw) = true
    · simp only [if_pos hfiller]
      exact h _ (.line hraw (.inl hfiller))
    simp only [if_neg hfiller]
    cases hheader : header? (trim raw) with
    | none => exact (h _ (.line hraw (.inr hheader))).map _
    | some header =>
      obtain ⟨e, hat, hbody⟩ := bodyAt_of_drop hd (textBehind header (trim raw))
      have he : ConstructAt header lines i e := ⟨raw, hraw, hheader, hat⟩
      cases header with
      | branch =>
        refine (h _ (.chain hraw hheader)).bind fun chain hchain => ?_
        have hchain' := Attempt.ofEdit_eq_value (((halts lines).chain i).unique hchain)
        exact (h _ (.behindChain hraw hheader hchain')).map _
      | forLoop =>
        simp only [conditionOf_mem (mem_of_header? hheader (by decide)), forLabelOf_eq, pure_bind]
        replace hbody : takeBody lines i (condition (trim raw)).2 = pure e := hbody
        simp only [hbody, pure_bind]
        exact (h _ (.body he (by simp))).bind fun _ _ => (h _ (.behindBody he (by simp))).map _
      | whileLoop =>
        simp only [conditionOf_mem (mem_of_header? hheader (by decide)), pure_bind]
        replace hbody : takeBody lines i (condition (trim raw)).2 = pure e := hbody
        simp only [hbody, pure_bind]
        exact (h _ (.body he (by simp))).bind fun _ _ => (h _ (.behindBody he (by simp))).map _
      | doLoop =>
        obtain ⟨next, hnext, -⟩ := passWhile_eq e.lines e.next
        replace hbody : takeBody lines i (afterDoWord (trim raw)) = pure e := hbody
        simp only [hbody, hnext, pure_bind]
        exact (h _ (.body he (by simp))).bind fun _ _ => (h _ (.behindWhile he hnext)).map _
      | switch =>
        simp only [conditionOf_mem (mem_of_header? hheader (by decide)), pure_bind]
        replace hbody : takeBody lines i (condition (trim raw)).2 = pure e := hbody
        simp only [hbody, pure_bind]
        exact (h _ (.cases he)).bind fun _ _ => (h _ (.behindBody he (by simp))).map _

theorem chainFrom_concludes (h : ∀ callee, (LineReading.chain lines i).Calls callee → callee.Concluded) :
    Concludes fun fuel => chainFrom fuel lines i := by
  refine .of_succ ?_
  cases hd : lines.drop i with
  | nil =>
    have hnone : lines[i]? = none := List.getElem?_eq_none (List.drop_eq_nil_iff.mp hd)
    simp only [chainFrom, lineAt, hnone]
    exact .fault _
  | cons raw following =>
    have hraw := getElem?_of_drop hd
    simp only [chainFrom, lineAt_of_drop hd, pure_bind]
    by_cases hcondition : '(' ∈ raw
    swap
    · have hnone : raw.contains '(' = false := by simpa using hcondition
      simp only [conditionOf_trim, hnone]
      exact .fault _
    obtain ⟨e, hat, hbody⟩ := bodyAt_of_drop hd (textBehind .branch (trim raw))
    have he : ConditionAt lines i e := ⟨raw, hraw, hcondition, hat⟩
    replace hbody : takeBody lines i (condition (trim raw)).2 = pure e := hbody
    simp only [conditionOf_mem ((mem_trim rfl).mpr hcondition), hbody, pure_bind]
    refine (h _ (.branch he)).bind fun yes _ => ?_
    have hj := codeFrom_eq e.lines e.next
    generalize e.next + (blanksAhead (e.lines.drop e.next)).length = j at hj
    simp only [hj, pure_bind]
    cases hdrop : e.lines.drop j with
    | nil =>
      simp only [if_neg (not_lt_of_drop hdrop)]
      exact .value _
    | cons next more =>
      have hnext := getElem?_of_drop hdrop
      simp only [if_pos (lt_of_drop hdrop), lineAt_of_drop hdrop, pure_bind]
      by_cases hif : isElseIf (trim next) = true
      · simp only [if_pos hif]
        exact (h _ (.elseIf he hj hnext hif)).map _
      simp only [if_neg hif]
      cases helse : afterWord? "else" (trim next) with
      | none => exact .value _
      | some after =>
        obtain ⟨e', he', hbody'⟩ := bodyAt_of_drop hdrop after
        simp only [hbody', pure_bind]
        exact (h _ (.otherwise he hj hnext (by simpa using hif) helse he')).map _

theorem casesOf_concludes (h : ∀ callee, (LineReading.cases lines).Calls callee → callee.Concluded) :
    Concludes fun fuel => casesOf fuel lines := by
  refine .of_succ ?_
  simp only [casesOf, clausesAfter_eq, addAllToLast_nil, List.nil_append, pure_bind]
  have hclauses (clauses : List Clause) (hc : ∀ c ∈ clauses, c ∈ (clausesFrom 0 lines).2) :
      Concludes fun fuel =>
        clauses.mapM fun c => (return ⟨text c.label, ← nodesFrom fuel c.code 0⟩ : Attempt Case) := by
    induction clauses with
    | nil => exact .value []
    | cons c cs ih =>
      simp only [List.mapM_cons]
      have hcode : Concludes fun fuel => nodesFrom fuel c.code 0 := h _ (.clause (hc c (by simp)))
      exact (hcode.map _).bind fun _ _ => (ih fun d hd => hc d (by simp [hd])).map _
  exact hclauses _ fun _ hc => hc

/-- A reading calls no others than those it is said to call: it concludes as soon as they do. -/
theorem LineReading.concluded_of_calls {r : LineReading} (h : ∀ callee, r.Calls callee → callee.Concluded) : r.Concluded := by
  cases r with
  | nodes lines i => exact nodesFrom_concludes h
  | chain lines i => exact chainFrom_concludes h
  | cases lines => exact casesOf_concludes h

/-! ### Less to read -/

theorem firstLine_characters {depth : ℕ} {line label after : Line} (h : clauseAt depth line = some (label, after)) :
    characters (firstLine after) ≤ line.length := by
  unfold clauseAt at h
  split at h
  · have hafter : after.length ≤ (trim line).length := clauseLabel?_length h
    have htrim := trim_length line
    have htrim' := trim_length after
    unfold firstLine
    split
    · exact Nat.zero_le _
    · simp only [characters_cons, characters_nil]
      omega
  · cases h

theorem clausesFrom_characters (depth : ℕ) (lines : List Line) :
    characters (clausesFrom depth lines).1 ≤ characters lines ∧
      ∀ c ∈ (clausesFrom depth lines).2, characters c.lines ≤ characters lines := by
  induction lines generalizing depth with
  | nil => simp [clausesFrom]
  | cons line lines ih =>
    obtain ⟨hfirst, hlater⟩ := ih (depthAfter depth line)
    rw [clausesFrom, characters_cons]
    cases hclause : clauseAt depth line with
    | none =>
      refine ⟨?_, fun c hc => (hlater c hc).trans (Nat.le_add_left _ _)⟩
      rw [characters_cons]
      exact Nat.add_le_add_left hfirst _
    | some label =>
      obtain ⟨label, after⟩ := label
      refine ⟨Nat.zero_le _, fun c hc => ?_⟩
      rcases List.mem_cons.mp hc with rfl | hc
      · rw [characters_append]
        exact Nat.add_le_add (firstLine_characters hclause) hfirst
      · exact (hlater c hc).trans (Nat.le_add_left _ _)

theorem code_characters_le {lines : List Line} {c : Clause} (hc : c ∈ (clausesFrom 0 lines).2) :
    characters c.code ≤ characters lines := by
  have hfilter : (c.code.map List.length).Sublist (c.lines.map List.length) := List.filter_sublist.map _
  exact (hfilter.sum_le_sum fun _ _ => Nat.zero_le _).trans ((clausesFrom_characters 0 lines).2 c hc)

theorem textBehind_suffix (header : Header) (line : Line) : textBehind header line <:+ line := by
  cases header with
  | doLoop => exact List.drop_suffix 2 line
  | branch | forLoop | whileLoop | switch => exact condition_suffix line

theorem textBehind_length {line : Line} (h : line ≠ []) (header : Header) :
    (textBehind header line).length < line.length := by
  have hpos := List.length_pos_iff.mpr h
  cases header with
  | doLoop =>
    rw [textBehind, afterDoWord, List.length_drop]
    omega
  | branch | forLoop | whileLoop | switch =>
    rcases condition_length line with hlength | hnone
    · exact hlength
    · exact (congrArg List.length hnone).trans_lt hpos

theorem ne_nil_of_header? {line : Line} {header : Header} (h : header? line = some header) : line ≠ [] := by
  rintro rfl
  revert h
  cases header <;> decide

theorem le_of_codeFrom {lines : List Line} {i j : ℕ} (h : codeFrom lines i = pure j) : i ≤ j := by
  rw [codeFrom_eq] at h
  exact (Nat.le_add_right _ _).trans (Attempt.value_inj h).le

theorem le_of_passWhile {lines : List Line} {i next : ℕ} (h : passWhile lines i = pure next) : i ≤ next := by
  have hcode := drop_code lines i
  rw [passWhile, codeFrom_eq, pure_bind] at h
  cases hnext : nextCode (lines.drop i) with
  | nil =>
    rw [hnext] at hcode
    rw [if_neg (not_lt_of_drop hcode)] at h
    exact (Attempt.value_inj h).le
  | cons line more =>
    rw [hnext] at hcode
    rw [if_pos (lt_of_drop hcode), lineAt_of_drop hcode, pure_bind] at h
    split at h
    · have hnext' := Attempt.value_inj h
      omega
    · exact (Attempt.value_inj h).le

/-- What a reading has ahead: its characters, the lines among which cases are still to be found, its lines, and the line on
which a chain has still to be found. -/
def LineReading.ahead : LineReading → ℕ ×ₗ ℕ ×ₗ ℕ ×ₗ ℕ
  | nodes lines i => toLex (characters (lines.drop i), toLex (0, toLex (lines.length - i, 1)))
  | chain lines i => toLex (characters (lines.drop i), toLex (0, toLex (lines.length - i, 0)))
  | cases lines => toLex (characters lines, toLex (1, toLex (0, 0)))

section

variable {lines : List Line} {i : ℕ} {e : Edit (List Line)}

theorem advances_of_line {raw : Line} (hraw : lines[i]? = some raw) (hne : trim raw ≠ []) {header : Header}
    (he : bodyAt lines i (textBehind header (trim raw)) = .ok e) :
    i < lines.length ∧ Advances lines i e ∧ characters e.taken < characters (lines.drop i) := by
  obtain ⟨hi, rfl⟩ := List.getElem?_eq_some_iff.mp hraw
  have hpart := (textBehind_suffix header (trim lines[i])).isInfix.trans (trim_isInfix lines[i])
  have hlength := (textBehind_length hne header).trans_le (trim_length lines[i])
  obtain ⟨e', he', h⟩ := bodyAt_advances hi hpart hlength
  obtain rfl := Except.ok.inj (he'.symm.trans he)
  exact ⟨hi, h⟩

theorem ConstructAt.advances {header : Header} (h : ConstructAt header lines i e) :
    i < lines.length ∧ Advances lines i e ∧ characters e.taken < characters (lines.drop i) := by
  obtain ⟨raw, hraw, hheader, he⟩ := h
  exact advances_of_line hraw (ne_nil_of_header? hheader) he

theorem ConditionAt.advances (h : ConditionAt lines i e) :
    i < lines.length ∧ Advances lines i e ∧ characters e.taken < characters (lines.drop i) := by
  obtain ⟨raw, hraw, hcondition, he⟩ := h
  exact advances_of_line hraw (List.ne_nil_of_mem ((mem_trim rfl).mpr hcondition)) he

end

section

variable {lines body : List Line} {i j : ℕ} {α : Type} {e : Edit α}

/-- A body has less to read than a reading at the construct it belongs to. -/
theorem LineReading.nodes_ahead_lt (h : characters body < characters (lines.drop i)) (rest : ℕ ×ₗ ℕ ×ₗ ℕ) :
    (nodes body 0).ahead < toLex (characters (lines.drop i), rest) :=
  Prod.Lex.toLex_lt_toLex.mpr (.inl h)

/-- Behind a construct there is less to read than at it. -/
theorem LineReading.behind_ahead_lt (h : Advances lines i e) (hi : i < lines.length) (hj : e.next ≤ j) (found : ℕ) :
    toLex (characters (e.lines.drop j), toLex (0, toLex (e.lines.length - j, found))) <
      (toLex (characters (lines.drop i), toLex (0, toLex (lines.length - i, found))) : ℕ ×ₗ ℕ ×ₗ ℕ ×ₗ ℕ) := by
  have hlength := h.length
  obtain ⟨hle, hlt⟩ := h.lowers hj
  simp only [Prod.Lex.toLex_lt_toLex, true_and]
  omega

end

theorem LineReading.Calls.ahead_lt {caller callee : LineReading} (h : caller.Calls callee) : callee.ahead < caller.ahead := by
  cases h with
  | @line lines i raw hraw hline =>
    have hi := (List.getElem?_eq_some_iff.mp hraw).1
    have hle := characters_drop_le 1 (lines.drop i)
    rw [List.drop_drop] at hle
    simp only [ahead, Prod.Lex.toLex_lt_toLex, true_and]
    omega
  | chain hraw hheader => simp [ahead, Prod.Lex.toLex_lt_toLex]
  | behindChain hraw hheader he =>
    obtain ⟨hi, rfl⟩ := List.getElem?_eq_some_iff.mp hraw
    have hcondition := (mem_trim rfl).mp (mem_of_header? hheader (by decide))
    obtain ⟨e', he', h⟩ := chainAt_advances hi hcondition
    obtain rfl := Except.ok.inj (he'.symm.trans he)
    exact behind_ahead_lt h hi le_rfl 1
  | body he hloop => exact nodes_ahead_lt he.advances.2.2 _
  | cases he => exact Prod.Lex.toLex_lt_toLex.mpr (.inl he.advances.2.2)
  | behindBody he hheaded =>
    obtain ⟨hi, hadvances, -⟩ := he.advances
    exact behind_ahead_lt hadvances hi le_rfl 1
  | behindWhile he hnext =>
    obtain ⟨hi, hadvances, -⟩ := he.advances
    exact behind_ahead_lt hadvances hi (le_of_passWhile hnext) 1
  | branch he => exact nodes_ahead_lt he.advances.2.2 _
  | elseIf he hj hnext hif =>
    obtain ⟨hi, hadvances, -⟩ := he.advances
    exact behind_ahead_lt hadvances hi (le_of_codeFrom hj) 0
  | otherwise he hj hnext hif helse he' =>
    have hfewer := (he.advances.2.1.lowers (le_of_codeFrom hj)).1
    obtain ⟨hj, rfl⟩ := List.getElem?_eq_some_iff.mp hnext
    obtain ⟨e'', he'', -, hbody⟩ := bodyAt_advances hj (elseAfter?_isInfix helse) (elseAfter?_shorter helse)
    obtain rfl := Except.ok.inj (he''.symm.trans he')
    exact nodes_ahead_lt (hbody.trans_le hfewer) _
  | @clause lines c hc =>
    have hle := code_characters_le hc
    simp only [ahead, Prod.Lex.toLex_lt_toLex, List.drop_zero]
    omega

/-- No reading calls others without end. -/
theorem LineReading.calls_wellFounded : WellFounded fun callee caller : LineReading => caller.Calls callee :=
  (InvImage.wf ahead wellFounded_lt).mono fun _ _ h => h.ahead_lt

theorem LineReading.concluded (r : LineReading) : r.Concluded :=
  calls_wellFounded.induction (C := Concluded) r fun _ h => concluded_of_calls h

/-! ### Progress -/

/-- Every body and every chain goes on at a later line, or on its own line, which is shorter then; it changes no lines but
those from its own up to that one, to parts of what they were, and a body has fewer characters than the lines ahead had. No
reading of lines calls others without end, and each of them concludes. -/
theorem constructs_advance (lines : List Line) (i : ℕ) (hi : i < lines.length) :
    (∀ after, after <:+ trim lines[i] → after ≠ trim lines[i] →
      ∃ e, bodyAt lines i after = .ok e ∧ Advances lines i e ∧ characters e.taken < characters (lines.drop i)) ∧
    (header? (trim lines[i]) = some .branch → ∃ e, chainAt lines i = .ok e ∧ Advances lines i e) ∧
    (WellFounded fun callee caller : LineReading => caller.Calls callee) ∧ ∀ r : LineReading, r.Concluded := by
  refine ⟨fun after hsuffix hne => ?_, fun hheader => ?_, LineReading.calls_wellFounded, LineReading.concluded⟩
  · have hproper : after.length < (trim lines[i]).length :=
      lt_of_le_of_ne hsuffix.length_le fun hlength => hne (hsuffix.eq_of_length hlength)
    exact bodyAt_advances hi (hsuffix.isInfix.trans (trim_isInfix _)) (hproper.trans_le (trim_length _))
  · exact chainAt_advances hi ((mem_trim rfl).mp (mem_of_header? hheader (by decide)))

/-- An if whose body ends on its own line, in front of its else. -/
def joinedBranches : List Line := ["if (a) \x7b f(); \x7d else \x7b", "g();", "\x7d"].map String.toList

theorem joinedBranches_advance :
    (0 < joinedBranches.length ∧ " \x7b f(); \x7d else \x7b".toList <:+ trim joinedBranches[0] ∧
      " \x7b f(); \x7d else \x7b".toList ≠ trim joinedBranches[0] ∧
      header? (trim joinedBranches[0]) = some .branch) ∧
    (∃ e, bodyAt joinedBranches 0 " \x7b f(); \x7d else \x7b".toList = .ok e ∧ Advances joinedBranches 0 e ∧
      characters e.taken < characters joinedBranches) ∧
    ∃ e, chainAt joinedBranches 0 = .ok e ∧ Advances joinedBranches 0 e := by
  have hsuffix : " \x7b f(); \x7d else \x7b".toList <:+ trim joinedBranches[0] := by decide
  have hne : " \x7b f(); \x7d else \x7b".toList ≠ trim joinedBranches[0] := by decide
  have hheader : header? (trim joinedBranches[0]) = some .branch := by decide
  have hlines : 0 < joinedBranches.length := by decide
  obtain ⟨hbody, hchain, -⟩ := constructs_advance joinedBranches 0 hlines
  exact ⟨⟨hlines, hsuffix, hne, hheader⟩, hbody _ hsuffix hne, hchain hheader⟩

end FlowSketch.SystemsAttempt
