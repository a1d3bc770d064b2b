import FlowSketch.Proofs.BareHeaders
import FlowSketch.Proofs.SystemsMatching

/-!
# Lines without some breaks

Where a break is the next line behind no header that waits for a body, and no line behind it goes on with a construct,
the lines without it are cut like those with it: what one cut takes differs from what the other takes by breaks of this
kind only.
-/
namespace FlowSketch.SystemsFlow
open TextBlank SystemsRegion SystemsHeader

/-! ### Breaks -/

/-- A line that is a break and nothing else. -/
def BareBreak (line : Line) : Prop := trim line = "break;".toList

instance : DecidablePred BareBreak := fun line => inferInstanceAs (Decidable (trim line = "break;".toList))

namespace BareBreak
variable {line : Line} (h : BareBreak line)
include h

theorem exists_blanks : ∃ a b, Blank a ∧ Blank b ∧ line = a ++ ("break;".toList ++ b) := by
  obtain ⟨a, b, ha, hb, hline⟩ := exists_trim line
  rw [h] at hline
  exact ⟨a, b, ha, hb, hline⟩

theorem noBraces : NoBraces line := by
  obtain ⟨a, b, ha, hb, rfl⟩ := h.exists_blanks
  exact (noBraces_of_blank ha).append (NoBraces.append (by decide) (noBraces_of_blank hb))

theorem isBreak : SystemsHeader.isBreak line = true := by
  obtain ⟨a, b, ha, -, rfl⟩ := h.exists_blanks
  rw [SystemsProgram.isBreak_append ha]
  rfl

theorem text : allBlank line = false := by
  rw [← Bool.not_eq_true, ← trim_eq_nil, h]
  simp

theorem noElse : elseAfter? line = none := by rw [elseAfter?, h]; rfl

theorem resumes : SystemsFlow.resumes line = false := by rw [SystemsFlow.resumes, h.noElse, h]; rfl

theorem depth (d : ℕ) : depthAfter d line = d := by
  rw [depthAfter, braceBalance_noBraces (h.noBraces.of_sublist (trim_sublist line)), add_zero, Int.toNat_natCast]

theorem noClause (d : ℕ) : clauseAt d line = none := by
  rw [clauseAt, h]
  split <;> rfl

theorem reads (following : List Line) : nodesOf (line :: following) = nodesOf following := by
  have hsteps : stepNodes (trim line) = [] := stepNodes_break (b := []) (by simp [Blank]) h
  rw [nodesOf_line (by rw [h]; rfl) (by rw [h]; rfl), hsteps, List.nil_append]

end BareBreak

/-! ### Lines without some breaks -/

/-- The second lines are the first ones without some breaks, none of which is the next line with text behind a line that
waits, or before a line that resumes a construct. The flag says that a line before them waits. -/
inductive Thins : Bool → List Line → List Line → Prop
  | nil (w : Bool) : Thins w [] []
  | blank {w : Bool} {l : Line} {ls ls' : List Line} (hl : allBlank l = true) (h : Thins w ls ls') :
    Thins w (l :: ls) (l :: ls')
  | keep {w : Bool} {l : Line} {ls ls' : List Line} (hl : allBlank l = false) (h : Thins (waits l) ls ls') :
    Thins w (l :: ls) (l :: ls')
  | drop {l : Line} {ls ls' : List Line} (hl : BareBreak l) (hnext : ∀ next ∈ (nextCode ls).head?, resumes next = false)
    (h : Thins false ls ls') : Thins false (l :: ls) ls'

theorem Thins.refl (w : Bool) (ls : List Line) : Thins w ls ls := by
  induction ls generalizing w with
  | nil => exact .nil w
  | cons l ls ih =>
    by_cases hl : allBlank l = true
    · exact .blank hl (ih w)
    · exact .keep (Bool.not_eq_true _ ▸ hl) (ih _)

theorem Thins.weaken {w v : Bool} {ls ls' : List Line} (h : Thins w ls ls') (hv : v = true → w = true) :
    Thins v ls ls' := by
  induction h generalizing v with
  | nil w => exact .nil v
  | blank hl _ ih => exact .blank hl (ih hv)
  | keep hl h _ => exact .keep hl h
  | drop hl hnext h _ =>
    cases v with
    | false => exact .drop hl hnext h
    | true => exact absurd (hv rfl) (by decide)

theorem Thins.low {w : Bool} {ls ls' : List Line} (h : Thins w ls ls') : Thins false ls ls' := h.weaken (by simp)

/-- A line in front of both, where what waits in it was waited for. -/
theorem Thins.cons {w : Bool} {l : Line} {ls ls' : List Line} (h : Thins w ls ls') (hl : waits l = true → w = true) :
    Thins false (l :: ls) (l :: ls') := by
  by_cases hblank : allBlank l = true
  · exact .blank hblank h.low
  · exact .keep (Bool.not_eq_true _ ▸ hblank) (h.weaken hl)

/-- The next line with text stays, or it is a break that is dropped and nothing resumes a construct behind it. -/
theorem thins_nextCode {w : Bool} {ls ls' : List Line} (h : Thins w ls ls') :
    (nextCode ls = [] ∧ nextCode ls' = []) ∨
      (∃ l more more', nextCode ls = l :: more ∧ nextCode ls' = l :: more' ∧ Thins (waits l) more more') ∨
      (∃ l more, nextCode ls = l :: more ∧ BareBreak l) ∧ ∀ next ∈ (nextCode ls').head?, resumes next = false := by
  induction h with
  | nil => exact .inl ⟨rfl, rfl⟩
  | blank hl _ ih => rwa [nextCode, List.dropWhile_cons_of_pos hl, nextCode, List.dropWhile_cons_of_pos hl]
  | @keep w l ls ls' hl h _ =>
    have hnext (ks : List Line) : nextCode (l :: ks) = l :: ks := List.dropWhile_cons_of_neg (by simp [hl])
    exact .inr (.inl ⟨l, ls, ls', hnext ls, hnext ls', h⟩)
  | @drop l ls ls' hl hnext _ ih =>
    refine .inr (.inr ⟨⟨l, ls, List.dropWhile_cons_of_neg (by simp [hl.text]), hl⟩, ?_⟩)
    rcases ih with ⟨-, hnil⟩ | ⟨k, more, more', hk, hk', -⟩ | ⟨-, hresumes⟩
    · simp [hnil]
    · rw [hk] at hnext
      rwa [hk']
    · exact hresumes

/-! ### Cuts -/

/-- In a region, a line is cut at the brace that closes it, or is in it as a whole. -/
theorem scan_started (d : ℤ) (line : Line) :
    (∃ piece after, scan d true line = .closed piece after ∧ line = piece ++ '}' :: after) ∨
      ∃ e, scan d true line = .inside line e true := by
  induction line generalizing d with
  | nil => exact .inr ⟨d, rfl⟩
  | cons c cs ih =>
    have hpush (e : ℤ) (h : scan d true (c :: cs) = (scan e true cs).push c) :
        (∃ piece after, scan d true (c :: cs) = .closed piece after ∧ c :: cs = piece ++ '}' :: after) ∨
          ∃ e, scan d true (c :: cs) = .inside (c :: cs) e true := by
      rcases ih e with ⟨piece, after, hscan, rfl⟩ | ⟨e', hscan⟩
      · exact .inl ⟨c :: piece, after, by rw [h, hscan]; rfl, rfl⟩
      · exact .inr ⟨e', by rw [h, hscan]; rfl⟩
    by_cases hopen : c = '{'
    · exact hpush (d + 1) (by rw [scan, if_pos hopen, if_pos rfl])
    by_cases hclose : c = '}'
    · by_cases hd : d = 1
      · exact .inl ⟨[], cs, by rw [scan, if_neg hopen, if_pos hclose, if_pos rfl, if_pos hd], by rw [hclose]; rfl⟩
      · exact hpush (d - 1) (by rw [scan, if_neg hopen, if_pos hclose, if_pos rfl, if_neg hd])
    · exact hpush d (by rw [scan, if_neg hopen, if_neg hclose, if_pos rfl])

theorem region_closed {d : ℤ} {l piece after : Line} (h : scan d true l = .closed piece after) (ls : List Line) :
    (region d true (l :: ls)).body = kept piece ∧ (region d true (l :: ls)).rest = remaining after ls := by
  rw [region, h, remaining]
  cases hleft : leftover after <;> simp [hleft]

theorem region_goes_on {d e : ℤ} {l : Line} (h : scan d true l = .inside l e true) (ls : List Line) :
    (region d true (l :: ls)).body = kept l ++ (region e true ls).body ∧
      (region d true (l :: ls)).rest = (region e true ls).rest := by
  rw [region, h]
  exact ⟨rfl, rfl⟩

/-- The first line of a region is the next line with text, or this up to the brace that closes the region. -/
theorem head_region (d : ℤ) (ls : List Line) :
    ∀ next ∈ (nextCode (region d true ls).body).head?,
      ∃ first ∈ (nextCode ls).head?, next = first ∨ ∃ after, first = next ++ '}' :: after := by
  induction ls generalizing d with
  | nil => simp [region, nextCode]
  | cons l ls ih =>
    intro next hnext
    rcases scan_started d l with ⟨piece, after, hscan, rfl⟩ | ⟨e, hscan⟩
    · rw [(region_closed hscan ls).1, kept] at hnext
      have hline : allBlank (piece ++ '}' :: after) = false := not_allBlank (c := '}') (by simp) rfl
      have hhead : (nextCode ((piece ++ '}' :: after) :: ls)).head? = some (piece ++ '}' :: after) := by
        rw [nextCode, List.dropWhile_cons_of_neg (by simp [hline]), List.head?_cons]
      split at hnext
      · simp [nextCode] at hnext
      · next hpiece =>
        rw [nextCode, List.dropWhile_cons_of_neg hpiece] at hnext
        obtain rfl := Option.some.inj hnext
        exact ⟨_, hhead, .inr ⟨after, rfl⟩⟩
    · rw [(region_goes_on hscan ls).1] at hnext
      by_cases hl : allBlank l = true
      · rw [kept, if_pos hl] at hnext
        rw [nextCode, List.dropWhile_cons_of_pos hl]
        exact ih e next hnext
      · rw [kept, if_neg hl, nextCode, List.singleton_append, List.dropWhile_cons_of_neg hl] at hnext
        obtain rfl := Option.some.inj hnext
        exact ⟨l, by rw [nextCode, List.dropWhile_cons_of_neg hl]; rfl, .inl rfl⟩

/-- What a cut takes and what it leaves are both the same but for some breaks. -/
def ThinsCut (w : Bool) (c c' : Cut) : Prop := Thins w c.body c'.body ∧ Thins false c.rest c'.rest

theorem eq_trim_of_leftover {after rest : Line} (h : leftover after = some rest) : rest = trim after := by
  rw [leftover] at h
  split at h
  · cases h
  · exact (Option.some.inj h).symm

/-- A region takes the same lines with and without the breaks, but for the breaks in it. -/
theorem thins_region {w : Bool} {ls ls' : List Line} (h : Thins w ls ls') (d : ℤ) :
    ThinsCut w (region d true ls) (region d true ls') := by
  induction h generalizing d with
  | nil w => exact ⟨.nil w, .nil false⟩
  | @blank w l ls ls' hl _ ih =>
    have hscan := scan_noBraces (noBraces_of_blank (List.all_eq_true.mp hl)) d
    rw [ThinsCut, (region_goes_on hscan ls).1, (region_goes_on hscan ls').1, (region_goes_on hscan ls).2,
      (region_goes_on hscan ls').2, kept, if_pos hl]
    exact ih d
  | @keep w l ls ls' hl h ih =>
    rcases scan_started d l with ⟨piece, after, hscan, rfl⟩ | ⟨e, hscan⟩
    · rw [ThinsCut, (region_closed hscan ls).1, (region_closed hscan ls').1, (region_closed hscan ls).2,
        (region_closed hscan ls').2]
      refine ⟨.refl w _, ?_⟩
      cases hleft : leftover after with
      | none => simpa [remaining, hleft] using h.low
      | some rest =>
        obtain rfl := eq_trim_of_leftover hleft
        have hrest : Thins false (trim after :: ls) (trim after :: ls') := h.cons fun hwaits =>
          Bool.or_eq_true_iff.mpr (.inr (waitsBehind_of_brace (.inr rfl) piece (waits_trim hwaits)))
        simpa [remaining, hleft] using hrest
    · rw [ThinsCut, (region_goes_on hscan ls).1, (region_goes_on hscan ls').1, (region_goes_on hscan ls).2,
        (region_goes_on hscan ls').2, kept, if_neg (by simp [hl])]
      exact ⟨.keep hl (ih e).1, (ih e).2⟩
  | @drop l ls ls' hl hnext _ ih =>
    have hscan := scan_noBraces hl.noBraces d
    rw [ThinsCut, (region_goes_on hscan ls).1, (region_goes_on hscan ls).2, kept, if_neg (by simp [hl.text])]
    refine ⟨.drop hl (fun next hmem => ?_) (ih d).1, (ih d).2⟩
    obtain ⟨first, hfirst, rfl | ⟨after, rfl⟩⟩ := head_region d ls next hmem
    · exact hnext _ hfirst
    · by_contra hresumes
      rw [Bool.not_eq_false] at hresumes
      have hline := hnext _ hfirst
      rw [resumes_brace hresumes] at hline
      cases hline

theorem thins_block {w : Bool} {l : Line} {ls ls' : List Line} (h : Thins w ls ls') (hbrace : (trim l).head? = some '{')
    (hw : waitsBehind l = true → w = true) :
    ThinsCut false (block (l :: ls)) (block (l :: ls')) := by
  obtain ⟨a, b, ha, -, hline⟩ := exists_trim l
  obtain ⟨t, ht⟩ := List.head?_eq_some_iff.mp hbrace
  obtain ⟨first, rfl⟩ : ∃ first, l = a ++ '{' :: first := ⟨t ++ b, by rw [hline, ht]; rfl⟩
  have hblock (ks : List Line) :
      (block ((a ++ '{' :: first) :: ks)).body = (region 1 true (first :: ks)).body ∧
        (block ((a ++ '{' :: first) :: ks)).rest = (region 1 true (first :: ks)).rest := by
    have hopen : '{' ∈ a ++ '{' :: first := by simp
    have hahead := block_ahead noOpening_nil hopen ks
    rw [List.nil_append, region_opens (noBraces_of_blank ha)] at hahead
    rw [hahead]
    exact ⟨rfl, rfl⟩
  rw [ThinsCut, (hblock ls).1, (hblock ls').1, (hblock ls).2, (hblock ls').2]
  exact thins_region (h.cons fun hwaits => hw (waitsBehind_of_brace (.inl rfl) a hwaits)) 1

theorem thins_nextBody {ls ls' : List Line} (h : Thins true ls ls') : ThinsCut false (nextBody ls) (nextBody ls') := by
  generalize hw : true = w at h
  induction h with
  | nil => exact ⟨.nil false, .nil false⟩
  | blank hl _ ih =>
    rw [nextBody, if_pos hl, nextBody, if_pos hl]
    exact ih hw
  | @keep w l ls ls' hl h _ =>
    have hcut (ks : List Line) : nextBody (l :: ks) =
        if (trim l).head? = some '{' then block (l :: ks) else ⟨[l], [l], ks⟩ := by
      rw [nextBody, if_neg (by simp [hl])]
    rw [hcut ls, hcut ls']
    by_cases hbrace : (trim l).head? = some '{'
    · rw [if_pos hbrace, if_pos hbrace]
      exact thins_block h hbrace fun hwaits => Bool.or_eq_true_iff.mpr (.inr hwaits)
    · rw [if_neg hbrace, if_neg hbrace]
      exact ⟨.refl false [l], h.low⟩
  | drop => cases hw

/-- A body is cut from the same lines behind its header with and without the breaks. -/
theorem thins_bodyAfter {w : Bool} {ls ls' : List Line} (h : Thins w ls ls') (header : Line) {after : Line}
    (hw : (allBlank after = true → w = true) ∧ (waitsBehind after = true → w = true)) :
    ThinsCut false (bodyAfter header after ls) (bodyAfter header after ls') := by
  unfold bodyAfter
  by_cases hbrace : (trim after).head? = some '{'
  · rw [if_pos hbrace, if_pos hbrace]
    exact thins_block h (by rwa [trim_trim]) fun hwaits => hw.2 (waitsBehind_trim hwaits)
  rw [if_neg hbrace, if_neg hbrace]
  by_cases hsemi : trim after = [';']
  · rw [if_pos hsemi, if_pos hsemi]
    exact ⟨.nil false, h.low⟩
  rw [if_neg hsemi, if_neg hsemi]
  by_cases hnone : trim after = []
  · rw [if_pos hnone, if_pos hnone]
    obtain rfl : w = true := hw.1 (trim_eq_nil.mp hnone)
    exact thins_nextBody h
  · rw [if_neg hnone, if_neg hnone]
    exact ⟨.refl false _, h.low⟩

/-! ### Chains and loops -/

theorem header?_else {line after : Line} (hif : isElseIf (trim line) = false) (h : elseAfter? line = some after) :
    header? (trim line) = none := by
  have hline := eq_of_elseAfter? h
  have hcalls : isBranch (trim line) = false := by
    rw [isBranch, hif, hline]
    rfl
  rw [header?, hcalls, hline]
  rfl

theorem header?_elseIf {line : Line} (h : isElseIf (trim line) = true) : header? (trim line) = some .branch := by
  rw [header?, isBranch, h, Bool.or_true]
  rfl

/-- The same condition over lines that are the same but for some breaks. -/
def ThinsBranch (b b' : Branch) : Prop := b.condition = b'.condition ∧ Thins false b.body b'.body

structure ThinsChain (c c' : Chain) : Prop where
  branches : List.Forall₂ ThinsBranch c.branches c'.branches
  otherwise : Thins false c.otherwise c'.otherwise
  rest : Thins false c.rest c'.rest

theorem ThinsChain.of_parts {c c' : Chain} {bs bs' : List Branch} {os os' rest rest' : List Line}
    (h : c.branches = bs ∧ c.otherwise = os ∧ c.rest = rest) (h' : c'.branches = bs' ∧ c'.otherwise = os' ∧ c'.rest = rest')
    (hbranches : List.Forall₂ ThinsBranch bs bs') (hotherwise : Thins false os os') (hrest : Thins false rest rest') :
    ThinsChain c c' := by
  obtain ⟨rfl, rfl, rfl⟩ := h
  obtain ⟨rfl, rfl, rfl⟩ := h'
  exact ⟨hbranches, hotherwise, hrest⟩

theorem noElse_of_resumes {ls : List Line} (h : ∀ next ∈ (nextCode ls).head?, resumes next = false) : NoElse ls := by
  intro next hnext
  have hresumes := (Bool.or_eq_false_iff.mp (h next hnext)).1
  simpa using hresumes

theorem thins_chain {header : Line} {ls ls' : List Line} (hheader : header? (trim header) = some .branch)
    (h : Thins (waits header) ls ls') : ThinsChain (chain header ls) (chain header ls') := by
  induction hn : weight (header :: ls) using Nat.strong_induction_on generalizing header ls ls' with
  | _ n ih =>
  have hc : condition (trim header) = ((condition (trim header)).1, (condition (trim header)).2) := rfl
  have hheaded : headed? header = some (condition (trim header)).2 := by rw [headed?, hheader]
  obtain ⟨hbody, hrest⟩ := thins_bodyAfter h header (waits_of_headed hheaded (condition_suffix _))
  have hlt := bodyAfter_lt ls (condition_trim_length header)
  have hend (hnone : NoElse (bodyAfter header (condition (trim header)).2 ls).rest)
      (hnone' : NoElse (bodyAfter header (condition (trim header)).2 ls').rest) :
      ThinsChain (chain header ls) (chain header ls') :=
    .of_parts (chain_end hc rfl rfl hnone) (chain_end hc rfl rfl hnone') (.cons ⟨rfl, hbody⟩ .nil) (.nil false) hrest
  rcases thins_nextCode hrest with ⟨hnext, hnext'⟩ | ⟨l, more, more', hnext, hnext', hmore⟩ | ⟨⟨l, more, hnext, hl⟩, hresumes⟩
  · exact hend (by simp [NoElse, hnext]) (by simp [NoElse, hnext'])
  · by_cases hif : isElseIf (trim l) = true
    · have hless := nextCode_weight (bodyAfter header (condition (trim header)).2 ls).rest
      rw [hnext] at hless
      have hlater := ih _ (by omega) (header?_elseIf hif) hmore rfl
      exact .of_parts (chain_elseIf hc rfl hnext hif) (chain_elseIf hc rfl hnext' hif)
        (.cons ⟨rfl, hbody⟩ hlater.branches) hlater.otherwise hlater.rest
    · rw [Bool.not_eq_true] at hif
      cases helse : elseAfter? l with
      | none => exact hend (by simp [NoElse, hnext, helse]) (by simp [NoElse, hnext', helse])
      | some tail =>
        have hheaded : headed? l = some tail := by rw [headed?, header?_else hif helse, helse]
        obtain ⟨hother, hleft⟩ := thins_bodyAfter hmore l (waits_of_headed hheaded (elseAfter?_suffix helse))
        exact .of_parts (chain_else hc rfl hnext hif helse) (chain_else hc rfl hnext' hif helse)
          (.cons ⟨rfl, hbody⟩ .nil) hother hleft
  · exact hend (by simpa [NoElse, hnext] using hl.noElse) (noElse_of_resumes hresumes)

theorem thins_afterDo {w : Bool} {ls ls' : List Line} (h : Thins w ls ls') : Thins false (afterDo ls) (afterDo ls') := by
  have hkeep {ks : List Line} (hks : ∀ next ∈ (nextCode ks).head?, resumes next = false) : afterDo ks = ks := by
    unfold afterDo
    split
    · rfl
    · next l more hnext =>
      have hcalls := (Bool.or_eq_false_iff.mp (hks l (by rw [hnext]; rfl))).2
      rw [hcalls]
      rfl
  rcases thins_nextCode h with ⟨hnext, hnext'⟩ | ⟨l, more, more', hnext, hnext', hmore⟩ | ⟨⟨l, more, hnext, hl⟩, hresumes⟩
  · rw [hkeep (by simp [hnext]), hkeep (by simp [hnext'])]
    exact h.low
  · unfold afterDo
    simp only [hnext, hnext']
    split
    · exact hmore.low
    · exact h.low
  · rw [hkeep (by simpa [hnext] using hl.resumes), hkeep hresumes]
    exact h.low

/-! ### Cases -/

/-- Cases of the same labels and the same lines without breaks. -/
def SameCode (c c' : Clause) : Prop := c.label = c'.label ∧ c.code = c'.code

/-- Lines before the first case, and cases, that are the same without breaks. -/
def SameClauses (p p' : List Line × List Clause) : Prop :=
  p.1.filter (fun l => !isBreak l) = p'.1.filter (fun l => !isBreak l) ∧ List.Forall₂ SameCode p.2 p'.2

theorem SameClauses.cons {d : ℕ} {l : Line} {ls ls' : List Line}
    (h : SameClauses (clausesFrom (depthAfter d l) ls) (clausesFrom (depthAfter d l) ls')) :
    SameClauses (clausesFrom d (l :: ls)) (clausesFrom d (l :: ls')) := by
  rw [SameClauses, clausesFrom, clausesFrom]
  cases clauseAt d l with
  | none => exact ⟨by simp only [List.filter_cons, h.1], h.2⟩
  | some label =>
    refine ⟨rfl, .cons ⟨rfl, ?_⟩ h.2⟩
    rw [Clause.code, Clause.code, List.filter_append, List.filter_append, h.1]

/-- The cases of a switch are read without their breaks. -/
theorem thins_clauses {w : Bool} {ls ls' : List Line} (h : Thins w ls ls') (d : ℕ) :
    SameClauses (clausesFrom d ls) (clausesFrom d ls') := by
  induction h generalizing d with
  | nil => exact ⟨rfl, .nil⟩
  | blank _ _ ih => exact .cons (ih _)
  | keep _ _ ih => exact .cons (ih _)
  | drop hl _ _ ih =>
    rw [SameClauses, clausesFrom_none (hl.noClause d) (hl.depth d), List.filter_cons_of_neg (by simp [hl.isBreak])]
    exact ih d

theorem casesOf_congr {cs cs' : List Clause} (h : List.Forall₂ SameCode cs cs') : casesOf cs = casesOf cs' := by
  induction h with
  | nil => rfl
  | cons hc _ ih => rw [casesOf, casesOf, hc.1, hc.2, ih]

theorem decisions_congr {bs bs' : List Branch} {otherwise otherwise' : List Line}
    (h : List.Forall₂ (fun b b' : Branch => b.condition = b'.condition ∧ nodesOf b.body = nodesOf b'.body) bs bs')
    (ho : nodesOf otherwise = nodesOf otherwise') : decisions bs otherwise = decisions bs' otherwise' := by
  induction h with
  | nil => rw [decisions_nil, decisions_nil, ho]
  | cons hb _ ih => rw [decisions_cons, decisions_cons, hb.1, hb.2, ih]

end FlowSketch.SystemsFlow
