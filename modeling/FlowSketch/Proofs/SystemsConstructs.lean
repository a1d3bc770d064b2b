import FlowSketch.Proofs.SystemsCuts

/-!
# Constructs on their lines

Where the lines of a program begin a construct, a case or an else clause, and what is read from the line there.
-/
namespace FlowSketch.SystemsProgram
open TextBlank SystemsRegion SystemsHeader SystemsFlow

/-! ### Where headers stand -/

/-- A line holds a header, and the body begins after it on the lines `inner`. -/
def Begins (head raw : Line) (following inner : List Line) : Prop :=
  ∃ after, trim raw = head ++ after ∧ Enters after following inner

theorem trim_head_brace {h : Line} (hh : Head h) {b : Line} (hb : Blank b) :
    trim (b ++ (h ++ " \x7b".toList)) = h ++ " \x7b".toList := by
  have hsolid : Solid (h ++ [' '] ++ ['{']) := solid_snoc hh '{' rfl [' ']
  rw [trim_append hb]
  exact trim_solid (by simpa using hsolid)

theorem opening_begins {style : Style} {h : Line} (hh : Head h) {ls : List Line} (hs : Shows ls (opening style h))
    (inner : List Line) : ∃ raw following, ls ++ inner = raw :: following ∧ Begins h raw following inner := by
  cases style with
  | sameLine =>
    obtain ⟨b, hb, rfl⟩ := shows_singleton.1 hs
    exact ⟨_, _, rfl, _, trim_head_brace hh hb, .inl ⟨rfl, rfl⟩⟩
  | ownLine =>
    obtain ⟨b, ls', hb, rfl, hrest⟩ := shows_cons.1 hs
    obtain ⟨b', hb', rfl⟩ := shows_singleton.1 hrest
    refine ⟨_, _, rfl, [], ?_, .inr ⟨rfl, b', hb', rfl⟩⟩
    rw [trim_append hb, trim_solid hh.solid, List.append_nil]

theorem remaining_solid {after text : Line} (htrim : trim after = text) (hne : text ≠ []) (hsemi : text ≠ [';'])
    (lines : List Line) : remaining after lines = text :: lines := by
  simp [remaining, leftover, htrim, hne, hsemi]

/-- Behind a body that ends, the next header is on what remains of its line or on the next one. -/
theorem turning_begins {style : Style} {h : Line} (hh : Head h) {ls : List Line} (hs : Shows ls (turning style h))
    (inner : List Line) :
    ∃ b close more raw following, Blank b ∧ ls ++ inner = (b ++ '}' :: close) :: more ∧
      remaining close more = raw :: following ∧ Begins h raw following inner := by
  cases style with
  | sameLine =>
    obtain ⟨b, hb, rfl⟩ := shows_singleton.1 hs
    have htrim : trim (' ' :: h ++ " \x7b".toList) = h ++ " \x7b".toList := by
      have := trim_head_brace hh (b := [' ']) (by simp [Blank]; decide)
      simpa using this
    have hsemi : h ++ " \x7b".toList ≠ [';'] := by
      obtain ⟨c, cs, rfl⟩ := List.exists_cons_of_ne_nil hh.ne_nil
      simp
    refine ⟨b, _, inner, _, inner, hb, rfl, remaining_solid htrim (by simp) hsemi inner, _, ?_, .inl ⟨rfl, rfl⟩⟩
    exact trim_head_brace hh (b := []) (by simp [Blank])
  | ownLine =>
    obtain ⟨b, ls', hb, rfl, hrest⟩ := shows_cons.1 hs
    have hopening : Shows ls' (opening .ownLine h) := hrest
    obtain ⟨raw, following, hls, hbegins⟩ := opening_begins hh hopening inner
    exact ⟨b, [], _, raw, following, hb, rfl, hls, hbegins⟩

theorem closing_remains {style : Style} {t : Line} (ht : Head t) (hsemi : t ≠ [';']) {ls : List Line}
    (hs : Shows ls (closing style t)) (rest : List Line) :
    ∃ b close more raw, Blank b ∧ ls ++ rest = (b ++ '}' :: close) :: more ∧ remaining close more = raw :: rest ∧
      trim raw = t := by
  cases style with
  | sameLine =>
    obtain ⟨b, hb, rfl⟩ := shows_singleton.1 hs
    have htrim : trim (' ' :: t) = t := by
      have := trim_append (b := [' ']) (by simp [Blank]; decide) t
      rw [trim_solid ht.solid] at this
      exact this
    exact ⟨b, ' ' :: t, rest, t, hb, rfl, remaining_solid htrim ht.ne_nil hsemi rest, trim_solid ht.solid⟩
  | ownLine =>
    obtain ⟨b, ls', hb, rfl, hrest⟩ := shows_cons.1 hs
    obtain ⟨b', hb', rfl⟩ := shows_singleton.1 hrest
    refine ⟨b, [], _, b' ++ t, hb, rfl, rfl, ?_⟩
    rw [trim_append hb', trim_solid ht.solid]

/-! ### Constructs -/

theorem noFiller_calling {w : String} (h : w ∈ callWords) (c after : Line) :
    isFiller (calling w c ++ after) = false := by
  simp only [callWords, List.mem_cons, List.not_mem_nil, or_false] at h
  rcases h with rfl | rfl | rfl | rfl | rfl <;> simp [isFiller, calling]

theorem parenthesis_callWords {w : String} (h : w ∈ callWords) : '(' ∉ w.toList := by
  simp only [callWords, List.mem_cons, List.not_mem_nil, or_false] at h
  rcases h with rfl | rfl | rfl | rfl | rfl <;> simp

/-- A construct with a condition and a body in braces, with what is read from it. -/
structure Construct (w : String) (c : Line) (body rest : List Line) (raw : Line) (following : List Line) (after : Line) :
    Prop where
  text : trim raw = calling w c ++ after
  condition : SystemsHeader.condition (trim raw) = (c, after)
  body : (bodyAfter raw after following).body = body
  rest : (bodyAfter raw after following).rest = rest

theorem construct_of_begins {w : String} (hw : w ∈ callWords) (c : Expression) {raw : Line} {following : List Line}
    {floor : ℕ} {body lines : List Line} {b close : Line} (hm : Moves floor floor body floor) (hb : Blank b)
    (h : Begins (calling w c.chars) raw following (body ++ (b ++ '}' :: close) :: lines)) :
    ∃ after, Construct w c.chars body (remaining close lines) raw following after := by
  obtain ⟨after, htrim, henters⟩ := h
  obtain ⟨hbody, hrest⟩ := bodyAfter_body hm hb henters raw
  refine ⟨after, htrim, ?_, hbody, hrest⟩
  rw [htrim, condition_calling (parenthesis_callWords hw) c.balanced]

/-- A construct whose body ends on a line of its own. -/
theorem construct_of_shows {style : Style} {w : String} (hw : w ∈ callWords) (c : Expression) {body ls : List Line}
    (hm : ∀ {bs}, Shows bs body → ∃ floor, Moves floor floor bs floor)
    (hs : Shows ls (opening style (calling w c.chars) ++ (body ++ [['}']]))) (rest : List Line) :
    ∃ raw following after bs, ls ++ rest = raw :: following ∧ Shows bs body ∧
      Construct w c.chars bs rest raw following after := by
  obtain ⟨as, ls', rfl, has, hs⟩ := shows_append hs
  obtain ⟨bs, ks, rfl, hbs, hks⟩ := shows_append hs
  obtain ⟨b, hb, rfl⟩ := shows_singleton.1 hks
  obtain ⟨floor, hmoves⟩ := hm hbs
  obtain ⟨raw, following, hls, hbegins⟩ :=
    opening_begins (head_calling hw c) has (bs ++ (b ++ '}' :: []) :: rest)
  obtain ⟨after, hconstruct⟩ := construct_of_begins hw c hmoves hb hbegins
  exact ⟨raw, following, after, bs, by simpa using hls, hbs, hconstruct⟩

/-! ### Labels -/

theorem endsLabel_text {xs : Line} (hblank : allBlank xs = false) (hcolon : ':' ∉ xs) (rest : Line) :
    endsLabel (xs ++ rest) = none := by
  induction xs with
  | nil => simp [allBlank] at hblank
  | cons x xs ih =>
    have hx : x ≠ ':' := fun h => hcolon (by simp [h])
    by_cases hb : isBlank x = true
    · have hskip : dropBlanks (x :: xs ++ rest) = dropBlanks (xs ++ rest) := List.dropWhile_cons_of_pos hb
      rw [endsLabel, hskip, ← endsLabel]
      exact ih (by simpa [allBlank, hb] using hblank) fun h => hcolon (List.mem_cons_of_mem _ h)
    · have hkeep : dropBlanks (x :: xs ++ rest) = x :: (xs ++ rest) := List.dropWhile_cons_of_neg hb
      rw [endsLabel, hkeep]
      split
      · rename_i he
        exact absurd (List.cons.inj he).1 hx
      · rfl

theorem endsLabel_colon {b : Line} (hb : Blank b) {rest : Line} (h : rest.head? ≠ some ':') :
    endsLabel (b ++ ':' :: rest) = some rest := by
  rw [endsLabel, dropBlanks_append hb, dropBlanks, List.dropWhile_cons_of_neg (by decide)]
  exact if_neg h

theorem shortestLabel_text {l : Line} (hne : l ≠ []) (hline : '\n' ∉ l) (hcolon : ':' ∉ l)
    (hlast : ∀ c ∈ l.getLast?, isBlank c = false) {b : Line} (hb : Blank b) {rest : Line}
    (hrest : rest.head? ≠ some ':') : shortestLabel (l ++ (b ++ ':' :: rest)) = some (l, rest) := by
  induction l with
  | nil => exact absurd rfl hne
  | cons c l ih =>
    have hc : c ≠ '\n' := fun h => hline (by simp [h])
    rw [List.cons_append, shortestLabel, if_neg hc]
    cases l with
    | nil => rw [List.nil_append, endsLabel_colon hb hrest]
    | cons d l =>
      have hend : ∀ e ∈ (d :: l).getLast?, isBlank e = false := by
        intro e he
        exact hlast e (by rwa [List.getLast?_cons_cons])
      have hblank : allBlank (d :: l) = false := by
        have he := List.getLast?_eq_some_getLast (List.cons_ne_nil d l)
        exact not_allBlank (List.getLast_mem (List.cons_ne_nil d l)) (hend _ he)
      have hcolon' : ':' ∉ d :: l := fun h => hcolon (List.mem_cons_of_mem _ h)
      rw [endsLabel_text hblank hcolon',
        ih (by simp) (fun h => hline (List.mem_cons_of_mem _ h)) hcolon' hend]
      rfl

theorem clauseLabel?_labelLine (l : CaseLabel) : clauseLabel? (labelLine l.chars) = some (l.chars, []) := by
  obtain ⟨c, cs, hl⟩ := List.exists_cons_of_ne_nil l.ne_nil
  have hc : isBlank c = false := l.trimmed.1 c (by rw [hl]; rfl)
  have hshort : shortestLabel (l.chars ++ [':']) = some (l.chars, []) :=
    shortestLabel_text (b := []) l.ne_nil l.oneLine l.noColon l.trimmed.2 (by simp [Blank]) (by simp)
  have hafter : after? "case" (labelLine l.chars) = some (' ' :: (l.chars ++ [':'])) := rfl
  have hblanks : afterBlanks (' ' :: (l.chars ++ [':'])) = [l.chars ++ [':']] := by
    have hspace : isBlank ' ' = true := rfl
    simp [afterBlanks, hspace, hl, hc]
  have hcase : caseLabel? (labelLine l.chars) = some (l.chars, []) := by
    simp [caseLabel?, hafter, hblanks, hshort]
  rw [clauseLabel?, hcase]
  rfl

/-- A label with nothing after it begins a case with the lines up to the next one. -/
theorem clausesFrom_label {part label : Line} (hsolid : Solid part) (hbraces : NoBraces part)
    (hlabel : clauseLabel? part = some (label, [])) {b : Line} (hb : Blank b) (lines : List Line) :
    clausesFrom 0 ((b ++ part) :: lines) =
      ([], ⟨label, (clausesFrom 0 lines).1⟩ :: (clausesFrom 0 lines).2) := by
  have htrim : trim (b ++ part) = part := by rw [trim_append hb, trim_solid hsolid]
  have hat : clauseAt 0 (b ++ part) = some (label, []) := by rw [clauseAt, if_pos rfl, htrim, hlabel]
  have hdepth : depthAfter 0 (b ++ part) = 0 := by rw [depthAfter, htrim, braceBalance_noBraces hbraces]; rfl
  rw [clausesFrom, hat, hdepth]
  rfl

/-! ### Else -/

theorem noElse_nil : NoElse [] := by simp [NoElse, nextCode]

theorem noElse_cons {raw : Line} (hne : trim raw ≠ []) (h : elseAfter? raw = none) (following : List Line) :
    NoElse (raw :: following) := by
  intro next hnext
  rw [nextCode_cons hne] at hnext
  obtain rfl := Option.some.inj hnext
  exact h

/-- The words that begin an item. -/
def itemWords : List String := ["if", "for", "while", "switch"]

theorem noElse_opening {style : Style} {h : Line} (hh : Head h) (he : ∀ after, afterWord? "else" (h ++ after) = none)
    {ls : List Line} (hs : Shows ls (opening style h)) (inner : List Line) : NoElse (ls ++ inner) := by
  obtain ⟨raw, following, hls, after, htrim, -⟩ := opening_begins hh hs inner
  rw [hls]
  refine noElse_cons ?_ ?_ following
  · rw [htrim]
    exact List.append_ne_nil_of_left_ne_nil hh.ne_nil after
  · rw [elseAfter?, htrim, he]

theorem noElse_calling {w : String} (hw : w ∈ itemWords) (c after : Line) :
    afterWord? "else" (calling w c ++ after) = none := by
  simp only [itemWords, List.mem_cons, List.not_mem_nil, or_false] at hw
  rcases hw with rfl | rfl | rfl | rfl <;> rfl

theorem itemWords_callWords {w : String} (h : w ∈ itemWords) : w ∈ callWords := by
  simp only [itemWords, callWords, List.mem_cons, List.not_mem_nil, or_false] at h ⊢
  tauto

theorem noElse_simple (s : SimpleLine) {b : Line} (hb : Blank b) (rest : List Line) : NoElse ((b ++ s.chars) :: rest) := by
  refine noElse_cons ?_ ?_ rest
  · rw [trim_append hb, Ne, trim_eq_nil, s.text]
    simp
  · rw [elseAfter?, trim_append hb, ← elseAfter?, s.noElse]

section
variable {style : Style} {dropBreaks : Bool}

theorem noElse_item {i : Item} {ls rest : List Line} (hs : Shows ls (itemLines style dropBreaks i)) (h : NoElse rest) :
    NoElse (ls ++ rest) := by
  have construct {w : String} (hw : w ∈ itemWords) (c : Expression) {more : List Line}
      (hs : Shows ls (opening style (calling w c.chars) ++ more)) : NoElse (ls ++ rest) := by
    obtain ⟨as, bs, rfl, has, -⟩ := shows_append hs
    rw [List.append_assoc]
    exact noElse_opening (head_calling (itemWords_callWords hw) c) (noElse_calling hw c.chars) has _
  cases i with
  | line s =>
    rw [itemLines] at hs
    split at hs
    · obtain rfl := shows_nil.1 hs
      exact h
    · obtain ⟨b, hb, rfl⟩ := shows_singleton.1 hs
      exact noElse_simple s hb rest
  | branch c body tail => exact construct (w := "if") (by simp [itemWords]) c (by rwa [itemLines] at hs)
  | forLoop e body => exact construct (w := "for") (by simp [itemWords]) e (by rwa [itemLines] at hs)
  | whileLoop c body => exact construct (w := "while") (by simp [itemWords]) c (by rwa [itemLines] at hs)
  | switch e arms => exact construct (w := "switch") (by simp [itemWords]) e (by rwa [itemLines] at hs)
  | doLoop body c =>
    rw [itemLines] at hs
    obtain ⟨as, bs, rfl, has, -⟩ := shows_append hs
    rw [List.append_assoc]
    exact noElse_opening head_do (fun _ => rfl) has _

theorem noElse_items {is : List Item} {ls rest : List Line} (hs : Shows ls (lines style dropBreaks is)) (h : NoElse rest) :
    NoElse (ls ++ rest) := by
  induction is generalizing ls with
  | nil =>
    obtain rfl := shows_nil.1 hs
    exact h
  | cons i is ih =>
    rw [lines] at hs
    obtain ⟨as, bs, rfl, has, hbs⟩ := shows_append hs
    rw [List.append_assoc]
    exact noElse_item has (ih hbs)

end

end FlowSketch.SystemsProgram
