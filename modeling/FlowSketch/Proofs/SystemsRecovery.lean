import FlowSketch.Proofs.SystemsConstructs
import FlowSketch.Proofs.SystemsSteps

/-!
# Recovering structured programs

The control flow of a fully braced program is recovered from its lines, in both styles and with any indentation.
-/
namespace FlowSketch.SystemsProgram
open TextBlank SystemsRegion SystemsHeader SystemsFlow

/-! ### Reading -/

theorem header?_if (c after : Line) : header? (calling "if" c ++ after) = some .branch := rfl

theorem header?_for (c after : Line) : header? (calling "for" c ++ after) = some .forLoop := rfl

theorem header?_while (c after : Line) : header? (calling "while" c ++ after) = some .whileLoop := rfl

theorem header?_switch (c after : Line) : header? (calling "switch" c ++ after) = some .switch := rfl

theorem isElseIf_calling (c after : Line) : isElseIf (calling "else if" c ++ after) = true := rfl

theorem noFiller_simple (s : SimpleLine) : isFiller (trim s.chars) = false := by
  have hbraces : NoBraces (trim s.chars) := s.noBraces.of_sublist (trim_sublist s.chars)
  have hne : trim s.chars ≠ [] := by
    rw [Ne, trim_eq_nil, s.text]
    simp
  have hopen : trim s.chars ≠ ['{'] := fun h => hbraces.1 (by simp [h])
  have hclose : trim s.chars ≠ ['}'] := fun h => hbraces.2 (by simp [h])
  have hend : trim s.chars ≠ ['}', ';'] := fun h => hbraces.2 (by simp [h])
  simp [isFiller, hne, hopen, hclose, hend]

/-- What follows a word at which a body begins is its brace or nothing. -/
theorem Begins.cases {head raw : Line} {following inner : List Line} (h : Begins head raw following inner) :
    ∃ after, (after = " \x7b".toList ∨ after = []) ∧ trim raw = head ++ after ∧ Enters after following inner := by
  obtain ⟨after, htrim, henters⟩ := h
  exact ⟨after, henters.imp And.left And.left, htrim, henters⟩

/-- The lines of a body end where its nodes do. -/
theorem body_reads {body : List Item} {ls : List Line}
    (h : ∀ {rest}, NoElse rest → nodesOf (ls ++ rest) = nodes body ++ nodesOf rest) : nodesOf ls = nodes body := by
  simpa [nodesOf_nil] using h noElse_nil

section
variable {style : Style} {dropBreaks : Bool}

theorem line_reads (s : SimpleLine) {ls rest : List Line} (hs : Shows ls (itemLines style dropBreaks (.line s))) :
    nodesOf (ls ++ rest) = stepNodes (trim s.chars) ++ nodesOf rest := by
  rw [itemLines] at hs
  split at hs
  · rename_i hdrop
    obtain rfl := shows_nil.1 hs
    have hbreak : isBreak s.chars = true := (Bool.and_eq_true_iff.mp hdrop).2
    obtain ⟨b, hb, htext⟩ := s.onlyBreak hbreak
    rw [stepNodes_break hb htext]
    rfl
  · obtain ⟨b, hb, rfl⟩ := shows_singleton.1 hs
    have htrim : trim (b ++ s.chars) = trim s.chars := trim_append hb _
    have hfiller : isFiller (trim (b ++ s.chars)) = false := by rw [htrim, noFiller_simple]
    have hheader : header? (trim (b ++ s.chars)) = none := by rw [htrim, s.noHeader]
    rw [List.singleton_append, nodesOf_line hfiller hheader, htrim]

/-- The line that closes a do loop is passed with its loop. -/
theorem doLoop_reads (c : Expression) {body : List Item} {ls rest : List Line}
    (hread : ∀ {bs}, Shows bs (lines style dropBreaks body) → nodesOf bs = nodes body)
    (hs : Shows ls (itemLines style dropBreaks (.doLoop body c))) :
    nodesOf (ls ++ rest) = .loop "do...while loop" "do-while" (nodes body) :: nodesOf rest := by
  rw [itemLines] at hs
  obtain ⟨as, ls', rfl, has, hs⟩ := shows_append hs
  obtain ⟨bs, ks, rfl, hbs, hks⟩ := shows_append hs
  obtain ⟨b, close, more, last, hb, hks', hrem, hlast⟩ := closing_remains (head_while c) (by simp [calling]) hks rest
  obtain ⟨raw, following, hls, hbegins⟩ := opening_begins head_do has (bs ++ (ks ++ rest))
  obtain ⟨after, hafter, htrim, henters⟩ := hbegins.cases
  have hheader : isFiller (trim raw) = false ∧ header? (trim raw) = some .doLoop ∧ afterDoWord (trim raw) = after := by
    rw [htrim]
    rcases hafter with rfl | rfl <;> exact ⟨rfl, rfl, rfl⟩
  rw [hks'] at henters
  obtain ⟨hbody, hrest⟩ := bodyAfter_body (moves_items style dropBreaks body (Nat.le_refl 0) hbs) hb henters raw
  have hdone : afterDo (last :: rest) = rest := by
    have hwhile : calls "while" (trim last) = true := by rw [hlast]; rfl
    rw [afterDo, nextCode_cons (by rw [hlast]; exact (head_while c).ne_nil)]
    simp [hwhile]
  rw [List.append_assoc, List.append_assoc, hls, nodesOf_doLoop hheader.1 hheader.2.1 hheader.2.2, hbody, hrest, hrem,
    hdone, hread hbs]

/-- An else clause is the no side of the decision before it, and the chain ends with its body. -/
theorem else_reads {raw c after : Line} {following bs ts rest : List Line} {floor : ℕ} {body : List Item}
    (hcond : condition (trim raw) = (c, after)) (henters : Enters after following (bs ++ (ts ++ rest)))
    (hm : Moves floor floor bs floor)
    (hread : ∀ {os}, Shows os (lines style dropBreaks body) → nodesOf os = nodes body)
    (hts : Shows ts (tailLines style dropBreaks (.otherwise body))) :
    decisions (chain raw following).branches (chain raw following).otherwise =
      [.decision (clipped 60 c) (nodesOf bs) (nodes body)] ∧ (chain raw following).rest = rest := by
  rw [tailLines] at hts
  obtain ⟨as, ts', rfl, has, hts⟩ := shows_append hts
  obtain ⟨os, ks, rfl, hos, hks⟩ := shows_append hts
  obtain ⟨k, hk, rfl⟩ := shows_singleton.1 hks
  obtain ⟨b, close, more, next, lines, hb, hlines, hrem, hbegins⟩ :=
    turning_begins head_else has (os ++ (k ++ '}' :: []) :: rest)
  obtain ⟨rest', hafter, htrim, henters'⟩ := hbegins.cases
  have hnext : isElseIf (trim next) = false ∧ elseAfter? next = some rest' := by
    rw [elseAfter?, htrim]
    rcases hafter with rfl | rfl <;> exact ⟨rfl, rfl⟩
  have hahead : as ++ (os ++ [k ++ ['}']]) ++ rest = (b ++ '}' :: close) :: more := by
    rw [← hlines]
    simp
  rw [hahead] at henters
  obtain ⟨hbody, hrest⟩ := bodyAfter_body hm hb henters raw
  have hcode : nextCode (bodyAfter raw after following).rest = next :: lines := by
    rw [hrest, hrem, nextCode_cons (by rw [htrim]; simp)]
  obtain ⟨hbranches, hotherwise, hend⟩ := chain_else hcond hbody hcode hnext.1 hnext.2
  obtain ⟨hobody, horest⟩ := bodyAfter_body (moves_items style dropBreaks body (Nat.le_refl 0) hos) hk henters' next
  refine ⟨?_, hend.trans horest⟩
  rw [hbranches, hotherwise, decisions_cons, decisions_nil, hobody, hread hos]

/-- A case is read from the lines up to the next one, without its breaks. -/
theorem clause_reads {part label : Line} (hsolid : Solid part) (hbraces : NoBraces part)
    (hlabel : clauseLabel? part = some (label, [])) {b : Line} (hb : Blank b) {body : List Item} {bs ts : List Line}
    (hbs : Shows bs (lines style dropBreaks body))
    (hread : ∀ {cs}, Shows cs (lines style true body) → nodesOf cs = nodes body) {cases : List Case}
    (hts : (clausesFrom 0 ts).1 = [] ∧ casesOf (clausesFrom 0 ts).2 = cases) :
    (clausesFrom 0 ((b ++ part) :: (bs ++ ts))).1 = [] ∧
      casesOf (clausesFrom 0 ((b ++ part) :: (bs ++ ts))).2 = ⟨text label, nodes body⟩ :: cases := by
  have hmoves := (moves_items style dropBreaks body (Nat.le_refl 0) hbs).clausesFrom ts
  have hcode : Shows (Clause.code ⟨label, bs⟩) (lines style true body) := by
    have := shows_filter hbs
    rwa [filter_items] at this
  rw [hts.1, List.append_nil] at hmoves
  rw [clausesFrom_label hsolid hbraces hlabel hb, hmoves]
  refine ⟨rfl, ?_⟩
  rw [casesOf, hread hcode, hts.2]

mutual

theorem item_reads : ∀ (i : Item) {dropBreaks : Bool} {ls rest : List Line},
    Shows ls (itemLines style dropBreaks i) → NoElse rest → nodesOf (ls ++ rest) = itemNodes i ++ nodesOf rest
  | .line s, dropBreaks, ls, rest, hs, _ => by rw [itemNodes, line_reads s hs]
  | .branch c body tail, dropBreaks, ls, rest, hs, h => by
    have hif : "if" ∈ callWords := by simp [callWords]
    rw [itemLines] at hs
    obtain ⟨as, ls', rfl, has, hs⟩ := shows_append hs
    obtain ⟨bs, ts, rfl, hbs, hts⟩ := shows_append hs
    obtain ⟨raw, following, hls, after, htrim, henters⟩ := opening_begins (head_calling hif c) has (bs ++ (ts ++ rest))
    have hcond : condition (trim raw) = (c.chars, after) := by
      rw [htrim, condition_calling (parenthesis_callWords hif) c.balanced]
    obtain ⟨hdecisions, hrest⟩ := tail_reads tail hcond henters (moves_items style dropBreaks body (Nat.le_refl 0) hbs) hts h
    have hbody : nodesOf bs = nodes body := body_reads (items_read body hbs)
    rw [List.append_assoc, List.append_assoc, hls, nodesOf_branch (by rw [htrim, noFiller_calling hif])
      (by rw [htrim, header?_if]), hdecisions, hrest, hbody, itemNodes]
  | .forLoop e body, dropBreaks, ls, rest, hs, _ => by
    have hfor : "for" ∈ callWords := by simp [callWords]
    rw [itemLines] at hs
    obtain ⟨raw, following, after, bs, hls, hbs, hread⟩ := construct_of_shows hfor e
      (fun hbs => ⟨0, moves_items style dropBreaks body (Nat.le_refl 0) hbs⟩) hs rest
    have hbody : nodesOf bs = nodes body := body_reads (items_read body hbs)
    rw [hls, nodesOf_forLoop (by rw [hread.text, noFiller_calling hfor]) (by rw [hread.text, header?_for]) hread.condition,
      hread.body, hread.rest, hbody, itemNodes, List.singleton_append]
  | .whileLoop c body, dropBreaks, ls, rest, hs, _ => by
    have hwhile : "while" ∈ callWords := by simp [callWords]
    rw [itemLines] at hs
    obtain ⟨raw, following, after, bs, hls, hbs, hread⟩ := construct_of_shows hwhile c
      (fun hbs => ⟨0, moves_items style dropBreaks body (Nat.le_refl 0) hbs⟩) hs rest
    have hbody : nodesOf bs = nodes body := body_reads (items_read body hbs)
    rw [hls, nodesOf_whileLoop (by rw [hread.text, noFiller_calling hwhile]) (by rw [hread.text, header?_while])
      hread.condition, hread.body, hread.rest, hbody, itemNodes, List.singleton_append]
  | .doLoop body c, dropBreaks, ls, rest, hs, _ => by
    rw [doLoop_reads c (fun hbs => body_reads (items_read body hbs)) hs, itemNodes, List.singleton_append]
  | .switch e arms, dropBreaks, ls, rest, hs, _ => by
    have hswitch : "switch" ∈ callWords := by simp [callWords]
    rw [itemLines] at hs
    obtain ⟨raw, following, after, bs, hls, hbs, hread⟩ := construct_of_shows hswitch e
      (fun hbs => ⟨1, moves_arms style dropBreaks arms (Nat.le_refl 1) hbs⟩) hs rest
    rw [hls, nodesOf_switch (by rw [hread.text, noFiller_calling hswitch]) (by rw [hread.text, header?_switch])
      hread.condition, hread.body, hread.rest, switchCases, (arms_read arms hbs).2, itemNodes, List.singleton_append]

theorem items_read : ∀ (is : List Item) {dropBreaks : Bool} {ls rest : List Line},
    Shows ls (lines style dropBreaks is) → NoElse rest → nodesOf (ls ++ rest) = nodes is ++ nodesOf rest
  | [], _, ls, rest, hs, _ => by
    obtain rfl := shows_nil.1 hs
    rfl
  | i :: is, dropBreaks, ls, rest, hs, h => by
    rw [lines] at hs
    obtain ⟨as, bs, rfl, has, hbs⟩ := shows_append hs
    rw [List.append_assoc, item_reads i has (noElse_items hbs h), items_read is hbs h, nodes, List.append_assoc]

/-- An if with its else clauses is one chain of decisions. -/
theorem tail_reads : ∀ (t : Tail) {dropBreaks : Bool} {raw c after : Line} {following bs ts rest : List Line} {floor : ℕ},
    condition (trim raw) = (c, after) → Enters after following (bs ++ (ts ++ rest)) → Moves floor floor bs floor →
    Shows ts (tailLines style dropBreaks t) → NoElse rest →
    decisions (chain raw following).branches (chain raw following).otherwise =
      [.decision (clipped 60 c) (nodesOf bs) (tailNodes t)] ∧ (chain raw following).rest = rest
  | .none, _, raw, c, after, following, bs, ts, rest, floor, hcond, henters, hm, hts, h => by
    obtain ⟨b, hb, rfl⟩ := shows_singleton.1 hts
    obtain ⟨hbody, hrest⟩ := bodyAfter_body hm hb henters raw
    obtain ⟨hbranches, hotherwise, hend⟩ := chain_end hcond hbody hrest h
    refine ⟨?_, hend⟩
    rw [hbranches, hotherwise, decisions_cons, decisions_nil, nodesOf_nil, tailNodes]
  | .otherwise body, dropBreaks, raw, c, after, following, bs, ts, rest, floor, hcond, henters, hm, hts, _ => by
    rw [tailNodes]
    exact else_reads hcond henters hm (fun hos => body_reads (items_read body hos)) hts
  | .elseIf c' body tail, dropBreaks, raw, c, after, following, bs, ts, rest, floor, hcond, henters, hm, hts, h => by
    have hword : "else if" ∈ callWords := by simp [callWords]
    rw [tailLines] at hts
    obtain ⟨as, ts', rfl, has, hts⟩ := shows_append hts
    obtain ⟨os, ks, rfl, hos, hks⟩ := shows_append hts
    obtain ⟨b, close, more, next, lines, hb, hlines, hrem, rest', htrim, henters'⟩ :=
      turning_begins (head_calling hword c') has (os ++ (ks ++ rest))
    have hcond' : condition (trim next) = (c'.chars, rest') := by
      rw [htrim, condition_calling (parenthesis_callWords hword) c'.balanced]
    rw [List.append_assoc, List.append_assoc, hlines] at henters
    obtain ⟨hbody, hrest⟩ := bodyAfter_body hm hb henters raw
    have hcode : nextCode (bodyAfter raw after following).rest = next :: lines := by
      rw [hrest, hrem, nextCode_cons (by rw [htrim]; simp [calling])]
    obtain ⟨hbranches, hotherwise, hend⟩ := chain_elseIf hcond hbody hcode (by rw [htrim, isElseIf_calling])
    obtain ⟨hlater, hlast⟩ :=
      tail_reads tail hcond' henters' (moves_items style dropBreaks body (Nat.le_refl 0) hos) hks h
    have hnodes : nodesOf os = nodes body := body_reads (items_read body hos)
    refine ⟨?_, hend.trans hlast⟩
    rw [hbranches, hotherwise, decisions_cons, hlater, hnodes, tailNodes]

theorem arms_read : ∀ (arms : List Arm) {dropBreaks : Bool} {ls : List Line},
    Shows ls (armLines style dropBreaks arms) →
    (clausesFrom 0 ls).1 = [] ∧ casesOf (clausesFrom 0 ls).2 = armCases arms
  | [], _, ls, hs => by
    obtain rfl := shows_nil.1 hs
    rw [clausesFrom, casesOf, armCases]
    exact ⟨rfl, rfl⟩
  | .case l body :: arms, dropBreaks, ls, hs => by
    rw [armLines] at hs
    obtain ⟨b, ls', hb, rfl, hrest⟩ := shows_cons.1 hs
    obtain ⟨bs, ts, rfl, hbs, hts⟩ := shows_append hrest
    rw [armCases]
    exact clause_reads (labelLine_solid l) (NoBraces.append (by simp [NoBraces]) (l.noBraces.append (by simp [NoBraces])))
      (clauseLabel?_labelLine l) hb hbs (fun hcs => body_reads (items_read body hcs))
      (arms_read arms hts)
  | .default body :: arms, dropBreaks, ls, hs => by
    rw [armLines] at hs
    obtain ⟨b, ls', hb, rfl, hrest⟩ := shows_cons.1 hs
    obtain ⟨bs, ts, rfl, hbs, hts⟩ := shows_append hrest
    have hlabel : clauseLabel? "default:".toList = some ("default".toList, []) := rfl
    rw [armCases]
    exact clause_reads (by simp [Solid]; decide) (by simp [NoBraces]) hlabel hb hbs
      (fun hcs => body_reads (items_read body hcs)) (arms_read arms hts)

end

end

/-- A program is read back from its lines, in both styles and with any indentation. -/
theorem nodesOf_lines (style : Style) (p : List Item) {ls : List Line} (h : Shows ls (lines style false p)) :
    nodesOf ls = nodes p :=
  body_reads (items_read p h)

/-! ### Breaks -/

def breakLine : SimpleLine where
  chars := "break;".toList
  noBraces := by decide
  text := by decide
  noHeader := rfl
  noElse := rfl
  noLabel := rfl
  onlyBreak _ := ⟨[], by simp [Blank], rfl⟩

/-- A loop over a switch in which every case is left at once. -/
def leaving : List Item :=
  [.whileLoop ⟨"n > f(0)".toList, by decide, by decide, by decide⟩
    [.switch ⟨"n".toList, by decide, by decide, by decide⟩
      [.case ⟨"1".toList, by decide, by decide, by decide, by decide, by decide⟩ [.line breakLine],
        .default [.line breakLine]]]]

/-- The lines of `leaving`, indented. -/
def leavingLines : List Line :=
  ["while (n > f(0)) \x7b".toList, "  switch (n) \x7b".toList, "  case 1:".toList, "    break;".toList,
    "  default:".toList, "    break;".toList, "  \x7d".toList, "\x7d".toList]

theorem shows_leavingLines : Shows leavingLines (lines .sameLine false leaving) :=
  .cons ⟨[], by decide, rfl⟩ <| .cons ⟨"  ".toList, by decide, rfl⟩ <| .cons ⟨"  ".toList, by decide, rfl⟩ <|
    .cons ⟨"    ".toList, by decide, rfl⟩ <| .cons ⟨"  ".toList, by decide, rfl⟩ <|
    .cons ⟨"    ".toList, by decide, rfl⟩ <| .cons ⟨"  ".toList, by decide, rfl⟩ <| .cons ⟨[], by decide, rfl⟩ .nil

theorem nodesOf_leavingLines :
    nodesOf leavingLines = [.loop "While: n > f(0)" "while" [.switch "Switch on n" [⟨"1", []⟩, ⟨"default", []⟩]]] := by
  rw [nodesOf_lines .sameLine leaving shows_leavingLines]
  have hbreak : stepNodes (trim breakLine.chars) = [] := stepNodes_break (b := []) (by simp [Blank]) rfl
  have hwhile : "While: " ++ clipped 40 "n > f(0)".toList = "While: n > f(0)" := by decide +kernel
  have hswitch : "Switch on " ++ clipped 30 "n".toList = "Switch on n" := by decide +kernel
  have hlabel : text "1".toList = "1" := by decide
  simp only [leaving, nodes, itemNodes, armCases, hbreak, hwhile, hswitch, hlabel, List.append_nil]

/-- A statement behind a break that is written with a blank in front of its semicolon. -/
def behindBreak : Line := "break ; x = 1;".toList

/-- A line that begins with such a break is dropped from its case whole, although it does not begin with `break;`. -/
theorem behindBreak_dropped :
    (NoBraces behindBreak ∧ ClosesLiterals behindBreak ∧ allBlank behindBreak = false ∧
      header? (trim behindBreak) = none ∧ elseAfter? behindBreak = none ∧ clauseLabel? (trim behindBreak) = none ∧
      after? "break;" (trim behindBreak) = none) ∧
    nodesOf ["switch (e) \x7b".toList, "case 1:".toList, behindBreak, "\x7d".toList] ≠
      [.switch "Switch on e" [⟨"1", stepNodes (trim behindBreak)⟩]] := by
  refine ⟨by decide, ?_⟩
  have hcondition : condition (trim "switch (e) \x7b".toList) = ("e".toList, " \x7b".toList) := rfl
  have hread : nodesOf ["switch (e) \x7b".toList, "case 1:".toList, behindBreak, "\x7d".toList] =
      [.switch "Switch on e" [⟨"1", []⟩]] := by
    have hbody : (bodyAfter "switch (e) \x7b".toList " \x7b".toList
        ["case 1:".toList, behindBreak, "\x7d".toList]).body = ["case 1:".toList, behindBreak] := by decide
    have hrest : (bodyAfter "switch (e) \x7b".toList " \x7b".toList
        ["case 1:".toList, behindBreak, "\x7d".toList]).rest = [] := by decide
    have hclauses : (clausesFrom 0 ["case 1:".toList, behindBreak]).2 = [⟨"1".toList, [behindBreak]⟩] := by rfl
    have hcode : Clause.code ⟨"1".toList, [behindBreak]⟩ = [] := by decide
    have hswitch : "Switch on " ++ clipped 30 "e".toList = "Switch on e" := by decide +kernel
    have hlabel : text "1".toList = "1" := by decide
    rw [nodesOf_switch rfl rfl hcondition, hbody, hrest, nodesOf_nil, switchCases, hclauses, casesOf, casesOf, hcode,
      nodesOf_nil, hswitch]
    rw [hlabel]
  have hstep : (stepNodes (trim behindBreak)).isEmpty = false := by decide +kernel
  intro h
  simp only [hread, List.cons.injEq, Node.switch.injEq, Case.mk.injEq] at h
  rw [← h.1.2.1.2] at hstep
  cases hstep

end FlowSketch.SystemsProgram
