import FlowSketch.Proofs.BlockPrinting
import FlowSketch.BraceFlow

/-!
# Two ways to find the last statement

A token list is cut into statements from its front, with a count of the parentheses that are open, and the last statement is
found from its end, with a count of those that are closed. Where parentheses are in pairs the counts are zero at the same
places, and both come to the same last statement.
-/
namespace FlowSketch.BraceStatement

/-! ### Levels -/

/-- Every parenthesis is closed behind where it is opened, and no other is closed. -/
structure InPairs (ts : List Token) : Prop where
  selfContained : SelfContained ts
  even : ts.countP Token.isOpen = ts.countP Token.isClose

/-- The parentheses that are open behind some tokens, from the front. -/
def level (ts : List Token) : ℕ := ts.foldl BraceFlow.depthAfter 0

theorem level_append (xs ys : List Token) : level (xs ++ ys) = ys.foldl BraceFlow.depthAfter (level xs) := List.foldl_append

theorem level_concat (ts : List Token) (t : Token) : level (ts ++ [t]) = BraceFlow.depthAfter (level ts) t := level_append ts [t]

theorem SelfContained.left {xs ys : List Token} (h : SelfContained (xs ++ ys)) : SelfContained xs :=
  fun p hp => h p (hp.trans (List.prefix_append xs ys))

theorem SelfContained.level_add {ts : List Token} (h : SelfContained ts) :
    level ts + ts.countP Token.isClose = ts.countP Token.isOpen := by
  induction ts using List.reverseRecOn with
  | nil => rfl
  | append_singleton ts t ih =>
    have hbefore := ih h.left
    have hwhole := h _ (List.prefix_refl _)
    rw [level_concat, BraceFlow.depthAfter]
    rw [List.countP_append, List.countP_append, List.countP_singleton, List.countP_singleton] at *
    by_cases hopen : t.isOpen = true
    · have hclose : t.isClose = false := values_disjoint (by decide) hopen
      simp [hopen, hclose]
      omega
    · by_cases hclose : t.isClose = true
      · simp [hopen, hclose] at hwhole ⊢
        omega
      · simp [hopen, hclose]
        omega

/-- From the front no parenthesis is open at a place exactly if from the end none is. -/
theorem InPairs.level_eq_zero_iff {xs ys : List Token} (h : InPairs (xs ++ ys)) : level xs = 0 ↔ SelfContained ys := by
  have hlevel := h.selfContained.left.level_add
  have heven := h.even
  rw [List.countP_append, List.countP_append] at heven
  constructor
  · intro hzero p hp
    have hwhole := h.selfContained (xs ++ p) ((List.prefix_append_right_inj xs).mpr hp)
    rw [List.countP_append, List.countP_append] at hwhole
    omega
  · intro hself
    have hrest := hself ys (List.prefix_refl ys)
    omega

/-! ### The cut from the end -/

theorem isNewline_of_isSemicolon {t : Token} (h : t.isSemicolon = true) : t.isNewline = false := by
  by_contra hnewline
  have hnot : t.isSemicolon = false := kinds_disjoint (by simpa using hnewline)
  simp [hnot] at h

theorem hasText_eq_false {ts : List Token} : hasText ts = false ↔ ∀ t ∈ ts, t.isNewline = true := by
  simp [hasText]

theorem hasText_eq_not_all (ts : List Token) : hasText ts = !ts.all Token.isNewline := by
  rw [hasText, List.not_all_eq_any_not]

theorem hasText_append (xs ys : List Token) : hasText (xs ++ ys) = (hasText xs || hasText ys) := List.any_append

theorem level_append_newlines {blank : List Token} (h : hasText blank = false) (ts : List Token) :
    level (ts ++ blank) = level ts := by
  induction blank using List.reverseRecOn with
  | nil => rw [List.append_nil]
  | append_singleton blank t ih =>
    rw [hasText_append, Bool.or_eq_false_iff] at h
    have hnewline : t.isNewline = true := hasText_eq_false.mp h.2 t (by simp)
    have hopen : t.isOpen = false := kinds_disjoint hnewline
    have hclose : t.isClose = false := kinds_disjoint hnewline
    rw [← List.append_assoc, level_concat, ih h.1, BraceFlow.depthAfter, hopen, hclose]
    rfl

/-- Without case clauses only semicolons and newlines end statements. -/
theorem EndsBetween.exists_end {kept later : List Token} (h : EndsBetween kept later [])
    (hcase : ∀ t ∈ kept ++ later, t.isCaseWord = false) :
    ∃ before t after, later = before ++ t :: after ∧ SelfContained after ∧
      (t.isSemicolon = true ∨ (t.isNewline = true ∧ hasText after = true)) := by
  obtain ⟨before, t, after, rfl, hself, hstop⟩ := h
  rw [List.append_nil] at hself hstop
  refine ⟨before, t, after, rfl, hself, ?_⟩
  have hcolon : closesCase (kept ++ before).reverse = false := by
    have hnone : closesCase ((kept ++ before).reverse ++ []) = false :=
      Block.closesCase_append (fun u hu => hcase u (by simp at hu; simp; tauto)) rfl
    rwa [List.append_nil] at hnone
  rw [terminates, hcolon, Bool.and_false, Bool.or_false] at hstop
  split at hstop
  · next hnewline => exact .inr ⟨hnewline, hstop⟩
  · exact .inl hstop

/-- What is complete ends where no statement ends behind it. -/
theorem pending_append {kept later : List Token} (hself : SelfContained later) (hends : ¬ EndsBetween kept later [])
    (hlast : ∀ t ∈ kept.getLast?, t.isSemicolon = true ∨ (t.isNewline = true ∧ hasText later = true)) :
    pending (kept ++ later) = later := by
  have hcut : complete (kept ++ later) = kept := by
    have hscan := (completeBefore_append kept later []).2 hends
    rw [List.append_nil, unopened_eq_zero.mpr hself] at hscan
    rw [complete]
    refine (congrArg List.reverse hscan).trans ?_
    cases hr : kept.reverse with
    | nil => exact (List.reverse_eq_nil_iff.mp hr).symm
    | cons t earlier =>
      have ht : t ∈ kept.getLast? := by rw [← List.head?_reverse, hr]; rfl
      have hstop : terminates (hasText later) earlier t = true := by
        rcases hlast t ht with hsemi | ⟨hnewline, htext⟩
        · simp [terminates, isNewline_of_isSemicolon hsemi, hsemi]
        · simp [terminates, hnewline, htext]
      rw [completeBefore_cons, if_pos ⟨rfl, hstop⟩, ← hr, List.reverse_reverse]
  rw [pending, hcut, List.drop_left]

theorem flatten_append_newlines {blank : List Token} (h : hasText blank = false) (ts : List Token) :
    flatten (ts ++ blank) = flatten ts := by
  have hblank : visible blank = [] := by simpa [visible] using hasText_eq_false.mp h
  have hvisible : visible (ts ++ blank) = visible ts ++ visible blank := List.filter_append ..
  rw [flatten, hvisible, hblank, List.append_nil, flatten]

theorem flatten_dropWhile_newlines (ts : List Token) : flatten (ts.dropWhile Token.isNewline) = flatten ts := by
  induction ts with
  | nil => rfl
  | cons t ts ih =>
    by_cases hnewline : t.isNewline = true
    · have hvisible : visible (t :: ts) = visible ts := by simp [visible, hnewline]
      rw [List.dropWhile_cons_of_pos hnewline, ih, flatten, flatten, hvisible]
    · rw [List.dropWhile_cons_of_neg hnewline]

end FlowSketch.BraceStatement

namespace FlowSketch.BraceFlow
open BraceStatement

/-! ### The cuts from the front -/

/-- No statement ends within the tokens. -/
def Unended (ts : List Token) : Prop :=
  ∀ before t after, ts = before ++ t :: after → level (before ++ [t]) = 0 →
    t.isSemicolon = false ∧ (t.isNewline = true → hasText before = false)

/-- A statement that is cut off: its last token ends it. -/
structure Ended (s : List Token) : Prop where
  level : BraceStatement.level s = 0
  last : ∃ t ∈ s.getLast?, t.isSemicolon = true ∨ t.isNewline = true

theorem unended_nil : Unended [] := by
  intro before t after h
  simp at h

theorem Unended.left {xs ys : List Token} (h : Unended (xs ++ ys)) : Unended xs := by
  rintro before t after rfl hlevel
  exact h before t (after ++ ys) (by simp) hlevel

theorem unended_concat {ts : List Token} (h : Unended ts) {t : Token}
    (ht : level (ts ++ [t]) = 0 → t.isSemicolon = false ∧ (t.isNewline = true → hasText ts = false)) :
    Unended (ts ++ [t]) := by
  intro before u after hsplit hlevel
  rcases List.eq_nil_or_concat after with rfl | ⟨after, v, rfl⟩
  · obtain ⟨rfl, hu⟩ := List.append_inj' hsplit rfl
    obtain rfl : t = u := by simpa using hu
    exact ht hlevel
  · rw [List.concat_eq_append, ← List.cons_append, ← List.append_assoc] at hsplit
    exact h before u after (List.append_inj' hsplit rfl).1 hlevel

/-- What the cuts from the front leave: statements with text, each up to the first place where it ends, and newlines. -/
structure Cuts (ts : List Token) (ss : List (List Token)) (blank : List Token) : Prop where
  whole : ts = ss.flatten ++ blank
  blank : hasText blank = false
  text : ∀ s ∈ ss, hasText s = true
  unended : ∀ s ∈ ss, Unended s.dropLast
  ended : ∀ s ∈ ss.dropLast, Ended s

theorem Cuts.cons {s ts : List Token} {ss : List (List Token)} {blank : List Token} (h : Cuts ts ss blank)
    (htext : hasText s = true) (hunended : Unended s.dropLast) (hended : Ended s) :
    Cuts (s ++ ts) (s :: ss) blank := by
  refine ⟨?_, h.blank, List.forall_mem_cons.mpr ⟨htext, h.text⟩, List.forall_mem_cons.mpr ⟨hunended, h.unended⟩, ?_⟩
  · rw [List.flatten_cons, List.append_assoc, ← h.whole]
  · cases ss with
    | nil => simp
    | cons u ss =>
      rw [List.dropLast_cons_cons]
      exact List.forall_mem_cons.mpr ⟨hended, h.ended⟩

theorem statementsFrom_cuts {current : List Token} {depth : ℕ} (hcurrent : Unended current)
    (hdepth : depth = level current) (ts : List Token) :
    ∃ blank, Cuts (current ++ ts) (statementsFrom current depth ts) blank := by
  fun_induction statementsFrom current depth ts with
  | case1 current depth hblank =>
    exact ⟨current, by simp, hasText_eq_false.mpr (by simpa using hblank), by simp, by simp, by simp⟩
  | case2 current depth htext =>
    refine ⟨[], by simp, rfl, ?_, ?_, by simp⟩
    · rw [List.forall_mem_singleton, hasText_eq_not_all]
      simpa using htext
    · rw [List.forall_mem_singleton]
      obtain ⟨rest, hrest⟩ := List.dropLast_prefix current
      rw [← hrest] at hcurrent
      exact hcurrent.left
  | case3 current depth t ts read hcut ih =>
    obtain ⟨hlevel, hstop⟩ := Bool.and_eq_true_iff.mp hcut
    obtain ⟨blank, hlater⟩ := ih unended_nil rfl
    rw [decide_eq_true_eq, hdepth, ← level_concat] at hlevel
    have htext : hasText read = true := by
      rcases Bool.or_eq_true_iff.mp hstop with hsemi | hnewline
      · exact List.any_eq_true.mpr ⟨t, by simp [read], by simp [isNewline_of_isSemicolon hsemi]⟩
      · rw [hasText_eq_not_all]
        exact (Bool.and_eq_true_iff.mp hnewline).2
    have hended : Ended read := ⟨hlevel, t, by simp [read], by grind⟩
    have hunended : Unended read.dropLast := by rwa [List.dropLast_concat]
    have hcuts := hlater.cons htext hunended hended
    rw [List.nil_append, List.append_assoc] at hcuts
    exact ⟨blank, hcuts⟩
  | case4 current depth t ts read hcut ih =>
    have hread : Unended read := by
      refine unended_concat hcurrent fun hlevel => ?_
      rw [level_concat, ← hdepth] at hlevel
      simp only [hlevel, decide_true, Bool.true_and, Bool.or_eq_true, Bool.and_eq_true, not_or, not_and,
        Bool.not_eq_true, ← hasText_eq_not_all] at hcut
      refine ⟨hcut.1, fun hnewline => ?_⟩
      have hread := hcut.2 hnewline
      rw [hasText_eq_false] at hread ⊢
      exact fun u hu => hread u (List.mem_append_left _ hu)
    have hlater := ih hread (by rw [level_concat, hdepth])
    rwa [List.append_assoc] at hlater

/-! ### The last statement -/

def endsInSemicolon (s : List Token) : Bool := s.getLast?.any Token.isSemicolon

theorem level_flatten {ss : List (List Token)} (h : ∀ s ∈ ss, Ended s) : level ss.flatten = 0 := by
  induction ss with
  | nil => rfl
  | cons s ss ih =>
    rw [List.forall_mem_cons] at h
    rw [List.flatten_cons, level_append, h.1.level]
    exact ih h.2

theorem flatten_ended {ss : List (List Token)} (h : ∀ s ∈ ss, Ended s) :
    ∀ t ∈ ss.flatten.getLast?, t.isSemicolon = true ∨ t.isNewline = true := by
  rcases List.eq_nil_or_concat ss with rfl | ⟨ss, s, rfl⟩
  · simp
  · obtain ⟨t, ht, hstop⟩ := (h s (by simp)).last
    rw [Option.mem_def] at ht
    intro u hu
    rw [List.concat_eq_append, List.flatten_concat, List.getLast?_append, ht] at hu
    obtain rfl := Option.some.inj hu
    exact hstop

/-- Behind its leading newlines a statement has no end, other than a newline as its last token. -/
theorem not_ends_within {lead before after : List Token} {t : Token}
    (hunended : Unended (lead ++ (before ++ t :: after)).dropLast)
    (hopen : endsInSemicolon (lead ++ (before ++ t :: after)) = false) (hlevel : level (lead ++ before ++ [t]) = 0)
    (hbody : ∀ u ∈ (before ++ t :: after).head?, u.isNewline = false) :
    ¬ (t.isSemicolon = true ∨ (t.isNewline = true ∧ hasText after = true)) := by
  rcases List.eq_nil_or_concat after with rfl | ⟨after, u, rfl⟩
  · have hlast : t.isSemicolon = false := by simpa [endsInSemicolon] using hopen
    simp [hlast, hasText]
  · have hsplit : (lead ++ (before ++ t :: after.concat u)).dropLast = lead ++ before ++ t :: after := by
      rw [List.concat_eq_append, ← List.cons_append, ← List.append_assoc, ← List.append_assoc, List.dropLast_concat]
    obtain ⟨hsemi, hnewline⟩ := hunended _ _ _ hsplit hlevel
    rw [hsemi]
    rintro (h | ⟨hend, -⟩)
    · simp at h
    · have hblank := hnewline hend
      rw [hasText_append, Bool.or_eq_false_iff] at hblank
      -- the first token of the body is text, so it is neither before `t` nor `t`
      cases before with
      | nil => simp [hend] at hbody
      | cons v before =>
        have hv : v.isNewline = false := hbody v rfl
        simp [hasText, hv] at hblank

theorem selfContained_newlines {blank : List Token} (h : hasText blank = false) : SelfContained blank := by
  intro p hp
  have hclose : p.countP Token.isClose = 0 :=
    List.countP_eq_zero.mpr fun t ht => by simp [Token.isClose, kinds_disjoint (hasText_eq_false.mp h t (hp.subset ht))]
  omega

theorem not_ends_newlines {before after : List Token} {t : Token} (h : hasText (before ++ t :: after) = false) :
    ¬ (t.isSemicolon = true ∨ (t.isNewline = true ∧ hasText after = true)) := by
  rw [hasText_eq_false] at h
  rintro (hsemi | ⟨-, htext⟩)
  · have hnewline := h t (by simp)
    rw [isNewline_of_isSemicolon hsemi] at hnewline
    exact Bool.false_ne_true hnewline
  · obtain ⟨u, hu, hvisible⟩ := List.any_eq_true.mp htext
    simp [h u (by simp [hu])] at hvisible

/-- Newlines behind complete tokens are all that is pending. -/
theorem pending_newlines {kept blank : List Token} (hblank : hasText blank = false)
    (hcase : ∀ t ∈ kept ++ blank, t.isCaseWord = false) (hlast : ∀ t ∈ kept.getLast?, t.isSemicolon = true) :
    pending (kept ++ blank) = blank := by
  refine pending_append (selfContained_newlines hblank) (fun hends => ?_) fun t ht => .inl (hlast t ht)
  obtain ⟨before, t, after, rfl, -, hstop⟩ := hends.exists_end hcase
  exact not_ends_newlines hblank hstop

/-- A last statement that no semicolon ends is pending from its first text on. -/
theorem pending_open {earlier : List (List Token)} {s blank : List Token}
    (hpairs : InPairs (earlier.flatten ++ s ++ blank))
    (hcase : ∀ t ∈ earlier.flatten ++ s ++ blank, t.isCaseWord = false) (hended : ∀ u ∈ earlier, Ended u)
    (htext : hasText s = true) (hunended : Unended s.dropLast) (hopen : endsInSemicolon s = false)
    (hblank : hasText blank = false) :
    pending (earlier.flatten ++ s ++ blank) = s.dropWhile Token.isNewline ++ blank := by
  obtain ⟨lead, body, hs, hlead, hbody, hdrop⟩ : ∃ lead body, s = lead ++ body ∧ hasText lead = false ∧
      (∀ u ∈ body.head?, u.isNewline = false) ∧ s.dropWhile Token.isNewline = body := by
    refine ⟨s.takeWhile Token.isNewline, _, List.takeWhile_append_dropWhile.symm, ?_, fun u hu => ?_, rfl⟩
    · exact hasText_eq_false.mpr fun u hu => List.mem_takeWhile_imp hu
    · have hstop := List.head?_dropWhile_not Token.isNewline s
      rwa [Option.mem_def.mp hu] at hstop
  have hwhole : earlier.flatten ++ s ++ blank = (earlier.flatten ++ lead) ++ (body ++ blank) := by simp [hs]
  have hlevel (xs : List Token) : level (earlier.flatten ++ xs) = level xs := by
    rw [level_append, level_flatten hended, level]
  rw [hdrop, hwhole]
  rw [hwhole] at hpairs hcase
  have hself : SelfContained (body ++ blank) := by
    rw [← hpairs.level_eq_zero_iff, hlevel, ← List.nil_append lead, level_append_newlines hlead]
    rfl
  have hbodyText : hasText body = true := by
    rw [hs, hasText_append, hlead] at htext
    exact htext
  refine pending_append hself (fun hends => ?_) fun t ht => ?_
  · obtain ⟨before, t, after, hsplit, hafter, hstop⟩ := hends.exists_end hcase
    have hzero : level (lead ++ before ++ [t]) = 0 := by
      have hplace : earlier.flatten ++ lead ++ (body ++ blank) =
          (earlier.flatten ++ (lead ++ before ++ [t])) ++ after := by rw [hsplit]; simp
      rw [hplace] at hpairs
      rw [← hlevel, hpairs.level_eq_zero_iff]
      exact hafter
    rcases List.append_eq_append_iff.mp hsplit with ⟨within, rfl, hlater⟩ | ⟨within, rfl, hlater⟩
    · rw [hlater] at hblank
      exact not_ends_newlines hblank hstop
    · cases within with
      | nil =>
        rw [List.nil_append] at hlater
        rw [← hlater, ← List.nil_append (t :: after)] at hblank
        exact not_ends_newlines hblank hstop
      | cons u within =>
        rw [List.cons_append] at hlater
        obtain ⟨rfl, rfl⟩ := List.cons.inj hlater
        rw [hasText_append, hblank, Bool.or_false] at hstop
        rw [hs] at hunended hopen
        exact not_ends_within hunended hopen hzero hbody hstop
  · have hlater : hasText (body ++ blank) = true := by rw [hasText_append, hbodyText, Bool.true_or]
    rw [hlater, eq_self, and_true]
    rcases List.eq_nil_or_concat lead with rfl | ⟨lead, u, rfl⟩
    · rw [List.append_nil] at ht
      exact flatten_ended hended t ht
    · have hlast : t = u := by simpa [eq_comm] using ht
      exact .inr (hasText_eq_false.mp hlead t (by simp [hlast]))

/-- In code with paired parentheses and without case clauses the statements cut from the front are the code but for newlines
at its end, each with text in it, and what is pending at the end reads as the last of them, or as nothing if a semicolon ends
that one. -/
theorem statements_pending {ts : List Token} (hpairs : InPairs ts) (hcase : ∀ t ∈ ts, t.isCaseWord = false) :
    (∃ blank, ts = (statements ts).flatten ++ blank ∧ ∀ t ∈ blank, t.isNewline = true) ∧
      (∀ s ∈ statements ts, ∃ t ∈ s, t.isNewline = false) ∧
        flatten (pending ts) =
          (statements ts).getLast?.elim "" fun s => if endsInSemicolon s then "" else flatten s := by
  obtain ⟨blank, hcuts⟩ : ∃ blank, Cuts ts (statements ts) blank := statementsFrom_cuts unended_nil rfl ts
  refine ⟨⟨blank, hcuts.whole, hasText_eq_false.mp hcuts.blank⟩, fun s hs => ?_, ?_⟩
  · simpa [hasText] using hcuts.text s hs
  have hnothing : flatten blank = "" := flatten_append_newlines hcuts.blank []
  generalize statements ts = ss at hcuts
  obtain ⟨hwhole, hblank, htext, hunended, hended⟩ := hcuts
  rcases List.eq_nil_or_concat ss with rfl | ⟨earlier, s, rfl⟩
  · rw [List.flatten_nil] at hwhole
    rw [hwhole] at hcase ⊢
    rw [pending_newlines hblank hcase (by simp), hnothing]
    rfl
  · rw [List.concat_eq_append] at *
    rw [List.flatten_concat] at hwhole
    rw [List.dropLast_concat] at hended
    have hs : s ∈ earlier ++ [s] := by simp
    rw [List.getLast?_concat, Option.elim_some]
    rw [hwhole] at hpairs hcase ⊢
    cases hsemi : endsInSemicolon s with
    | true =>
      obtain ⟨t, ht, hlast⟩ : ∃ t, s.getLast? = some t ∧ t.isSemicolon = true := by
        simpa [endsInSemicolon, Option.any_eq_true] using hsemi
      have hkept : ∀ u ∈ (earlier.flatten ++ s).getLast?, u.isSemicolon = true := by simp [List.getLast?_append, ht, hlast]
      rw [pending_newlines hblank hcase hkept, hnothing, if_pos rfl]
    | false =>
      rw [pending_open hpairs hcase hended (htext s hs) (hunended s hs) hsemi hblank,
        flatten_append_newlines hblank, flatten_dropWhile_newlines, if_neg Bool.false_ne_true]

/-- A loop header over two lines, behind blank lines and a call that is broken inside of its parentheses. -/
def brokenHeader : List Token := BraceLexer.tokens "f(a\n;b)\n\n\nfor (i = 0;\ni < n; i++)\n\n"

theorem brokenHeader_pending :
    (InPairs brokenHeader ∧ ∀ t ∈ brokenHeader, t.isCaseWord = false) ∧
      (∃ blank, brokenHeader = (statements brokenHeader).flatten ++ blank ∧ ∀ t ∈ blank, t.isNewline = true) ∧
        (∀ s ∈ statements brokenHeader, ∃ t ∈ s, t.isNewline = false) ∧
          flatten (pending brokenHeader) =
            (statements brokenHeader).getLast?.elim "" fun s => if endsInSemicolon s then "" else flatten s := by
  have hpairs : InPairs brokenHeader := ⟨unopened_eq_zero.mp (by decide +kernel), by decide +kernel⟩
  have hcase : ∀ t ∈ brokenHeader, t.isCaseWord = false := by decide +kernel
  exact ⟨⟨hpairs, hcase⟩, statements_pending hpairs hcase⟩

example : flatten (pending (BraceLexer.tokens "f(a\n;b)\n\n\nfor (i = 0;\ni < n; i++)\n\n")) = "for ( i = 0 ; i < n ; i ++ )" := by
  decide +kernel

end FlowSketch.BraceFlow
