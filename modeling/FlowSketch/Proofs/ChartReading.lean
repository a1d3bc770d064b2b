import FlowSketch.ChartGraph
import FlowSketch.Proofs.PatternMatch
import FlowSketch.Proofs.TextLines

/-!
# Reading the lines of a chart

A definition or an edge that stands between names is read back as what was written: blanks, names and
brackets are of different character classes, so that a line falls into its parts in one way only.
-/
namespace FlowSketch.ChartGraph
open Pattern TextBlank

/-- One or more word characters. -/
def IsName (cs : List Char) : Prop := cs ≠ [] ∧ ∀ c ∈ cs, TextWord.isWord c = true

/-- A text begins with no character of a class. -/
def Leaves (p : Char → Bool) (cs : List Char) : Prop := ∀ c ∈ cs.head?, p c = false

theorem span_unique {p : Char → Bool} {a b x y : List Char} (ha : ∀ c ∈ a, p c = true) (hb : ∀ c ∈ b, p c = true)
    (hx : Leaves p x) (hy : Leaves p y) (h : a ++ x = b ++ y) : a = b ∧ x = y := by
  induction a generalizing b with
  | nil =>
    cases b with
    | nil => exact ⟨rfl, h⟩
    | cons d b =>
      obtain rfl : x = d :: (b ++ y) := by simpa using h
      have hd := hx d rfl
      simp [hb d (by simp)] at hd
  | cons c a ih =>
    cases b with
    | nil =>
      obtain rfl : y = c :: (a ++ x) := by simpa using h.symm
      have hc := hy c rfl
      simp [ha c (by simp)] at hc
    | cons d b =>
      rw [List.cons_append, List.cons_append] at h
      obtain ⟨rfl, htail⟩ := List.cons.inj h
      obtain ⟨rfl, hxy⟩ := ih (fun e he => ha e (by simp [he])) (fun e he => hb e (by simp [he])) htail
      exact ⟨rfl, hxy⟩

theorem IsName.leaves_blank {v : List Char} (h : IsName v) (x : List Char) : Leaves isBlank (v ++ x) := by
  obtain ⟨c, v, rfl⟩ := List.exists_cons_of_ne_nil h.1
  intro d hd
  obtain rfl : c = d := by simpa using hd
  exact isBlank_of_isWord (h.2 c (by simp))

/-- Indentation, name and the text after it are found in one way. -/
theorem name_unique {a b u v x y : List Char} (ha : ∀ c ∈ a, isBlank c = true) (hb : ∀ c ∈ b, isBlank c = true)
    (hu : IsName u) (hv : IsName v) (hx : Leaves TextWord.isWord x) (hy : Leaves TextWord.isWord y)
    (h : a ++ (u ++ x) = b ++ (v ++ y)) : u = v ∧ x = y :=
  span_unique hu.2 hv.2 hx hy (span_unique ha hb (hu.leaves_blank x) (hv.leaves_blank y) h).2

/-- The name at the end of a text is found in one way. -/
theorem last_name_unique {u v x y : List Char} (hu : IsName u) (hv : IsName v)
    (h : x ++ (' ' :: u) = y ++ (' ' :: v)) : x = y ∧ u = v := by
  have hr : u.reverse ++ (' ' :: x.reverse) = v.reverse ++ (' ' :: y.reverse) := by
    simpa using congrArg List.reverse h
  have hs : ∀ z, Leaves TextWord.isWord (' ' :: z) := by
    intro z c hc
    obtain rfl : ' ' = c := by simpa using hc
    decide
  obtain ⟨huv, hxy⟩ := span_unique (by simpa using hu.2) (by simpa using hv.2) (hs _) (hs _) hr
  exact ⟨by simpa using hxy, List.reverse_injective huv⟩

theorem IsName.newline_notMem {v : List Char} (h : IsName v) : '\n' ∉ v := fun hc =>
  absurd (h.2 _ hc) (by decide)

/-! ### Definitions -/

def opening (shape : Shape) : List Char := shape.brackets.1.toList ++ ['"']

def closing (shape : Shape) : List Char := '"' :: shape.brackets.2.toList

theorem opening_leaves (shape : Shape) (x : List Char) : Leaves TextWord.isWord (opening shape ++ x) := by
  cases shape <;> simp [Leaves, opening, Shape.brackets] <;> decide

theorem opening_ne_space (shape : Shape) (x y : List Char) : opening shape ++ x ≠ ' ' :: y := by
  cases shape <;> simp [opening, Shape.brackets]

/-- No opening begins another one. -/
theorem opening_unique {s t : Shape} {x y : List Char} (h : opening s ++ x = opening t ++ y) : s = t := by
  cases s <;> cases t <;> simp_all [opening, Shape.brackets]

theorem chars_of_groups {m : Place} {groups : List (ℕ × Span)} (h : m.groups = groups) (i : ℕ) :
    m.chars i = ((groups.lookup i).map Span.chars).getD [] := by
  rw [Place.chars, Place.group?, h]

/-- What a definition pattern has read. -/
theorem nodePattern_reads {shape : Shape} {line : List Char} {m : Place}
    (h : (nodePattern shape).Matches ⟨none, line, []⟩ m) :
    ∃ b tail, (∀ c ∈ b, isBlank c = true) ∧ IsName (m.chars 1) ∧ (tail = [] ∨ tail = ['\n']) ∧
      line = b ++ (m.chars 1 ++ (opening shape ++ (m.chars 2 ++ (closing shape ++ tail)))) := by
  obtain ⟨_, ⟨_, ⟨_, ⟨_, ⟨_, ⟨_, ⟨_, h1, h2⟩, h3⟩, h4⟩, h5⟩, h6⟩, h7⟩, rfl, h8⟩ := h
  obtain ⟨b, hb, e1, g1⟩ := reps_reads h1
  obtain ⟨u2, h2, e2, g2⟩ := group_reads h2
  obtain ⟨v, hne, hv, e2', g2'⟩ := plus_reads h2
  obtain ⟨e3, g3⟩ := word_reads h3
  obtain ⟨e4, g4⟩ := word_reads h4
  obtain ⟨u5, h5, e5, g5⟩ := group_reads h5
  obtain ⟨label, -, e5', g5'⟩ := reps_reads h5
  obtain ⟨e6, g6⟩ := word_reads h6
  obtain ⟨e7, g7⟩ := word_reads h7
  have groups : m.groups = [(2, ⟨label ++ u5.rest, u5.rest⟩), (1, ⟨v ++ u2.rest, u2.rest⟩)] := by
    rw [g7, g6, g5, g5', g4, g3, g2, g2', g1, e5', e2']
  have h1 : m.chars 1 = v := (chars_of_groups groups 1).trans (Span.chars_append ..)
  have h2 : m.chars 2 = label := (chars_of_groups groups 2).trans (Span.chars_append ..)
  rw [h1, h2]
  refine ⟨b, m.rest, hb, ⟨hne, hv⟩, h8, ?_⟩
  change line = _ at e1
  rw [e1, e2', ← e2, e3, e4, e5', ← e5, e6, e7]
  simp [opening, closing]

/-- A line made as a definition is accepted as one. -/
theorem nodePattern_accepts (shape : Shape) {b v label : List Char} (hb : ∀ c ∈ b, isBlank c = true) (hv : IsName v)
    (hl : '\n' ∉ label) :
    ∃ m, (nodePattern shape).Matches ⟨none, b ++ (v ++ (opening shape ++ (label ++ closing shape))), []⟩ m := by
  have hl' : ∀ c ∈ label, (c != '\n') = true := fun c hc => bne_iff_ne.mpr fun he => hl (he ▸ hc)
  obtain ⟨u1, h1, e1⟩ : ∃ t, gap.Matches ⟨none, _, []⟩ t ∧ t.rest = _ := reps_takes hb rfl
  obtain ⟨u2, h2, e2⟩ := group_takes 1 (plus_takes hv.1 hv.2 e1)
  obtain ⟨u3, h3, e3⟩ := word_takes shape.brackets.1 (e2.trans (List.append_assoc ..))
  obtain ⟨u4, h4, e4⟩ := word_takes "\"" e3
  obtain ⟨u5, h5, e5⟩ := group_takes 2 (reps_takes hl' e4)
  obtain ⟨u6, h6, e6⟩ := word_takes "\"" e5
  obtain ⟨u7, h7, e7⟩ := word_takes shape.brackets.2 (e6.trans (List.append_nil _).symm)
  exact ⟨u7, u7, ⟨u6, ⟨u5, ⟨u4, ⟨u3, ⟨u2, ⟨u1, h1, h2⟩, h3⟩, h4⟩, h5⟩, h6⟩, h7⟩, rfl, .inl e7⟩

theorem definition_toList (id label : String) (shape : Shape) :
    (ChartLine.definition id shape label).toList =
      [' ', ' '] ++ (id.toList ++ (opening shape ++ (label.toList ++ closing shape))) := by
  cases shape <;> simp [ChartLine.definition, opening, closing, Shape.brackets]

theorem indentation_blank : ∀ c ∈ [' ', ' '], isBlank c = true := by
  intro c hc
  obtain rfl : c = ' ' := by simpa using hc
  rfl

theorem closing_newline (shape : Shape) : '\n' ∉ closing shape := by
  cases shape <;> simp [closing, Shape.brackets]

/-- The end of a text without line feeds is no line feed. -/
theorem tail_eq_nil {x y tail : List Char} (hx : '\n' ∉ x) (ht : tail = [] ∨ tail = ['\n']) (h : x = y ++ tail) :
    tail = [] := by
  refine ht.resolve_right ?_
  rintro rfl
  exact hx (h ▸ by simp)

/-- Only the shape that was written accepts a definition, and it reads the name and the label back. -/
theorem nodePattern_definition {s t : Shape} {v label : List Char} {m : Place} (hv : IsName v) (hl : '\n' ∉ label)
    (h : (nodePattern t).Matches ⟨none, [' ', ' '] ++ (v ++ (opening s ++ (label ++ closing s))), []⟩ m) :
    s = t ∧ m.chars 1 = v ∧ m.chars 2 = label := by
  obtain ⟨b, tail, hb, hm, ht, e⟩ := nodePattern_reads h
  obtain ⟨hname, e⟩ := name_unique indentation_blank hb hv hm (opening_leaves _ _) (opening_leaves _ _) e
  obtain rfl := opening_unique e
  have e := List.append_cancel_left e
  have hn : '\n' ∉ label ++ closing s := by simpa using ⟨hl, closing_newline s⟩
  obtain rfl := tail_eq_nil hn ht (e.trans (List.append_assoc ..).symm)
  rw [List.append_nil] at e
  exact ⟨rfl, hname.symm, (List.append_cancel_right e).symm⟩

theorem definition?_definition {id label : String} {s : Shape} (hid : IsName id.toList) (hl : '\n' ∉ label.toList)
    (t : Shape) :
    definition? (ChartLine.definition id s label).toList t = if s = t then some (.node id label s) else none := by
  rw [definition_toList, definition?]
  split
  · rename_i he
    subst he
    obtain ⟨m, hm⟩ := nodePattern_accepts s indentation_blank hid hl
    refine matchStart_map hm fun u hu => ?_
    obtain ⟨-, h1, h2⟩ := nodePattern_definition hid hl hu
    simp [Place.text, h1, h2]
  · rename_i he
    rw [matchStart_eq_none fun m hm => he (nodePattern_definition hid hl hm).1, Option.map_none]

/-! ### Edges -/

/-- The text between an arrow and its target. -/
def tag (label : List Char) : List Char := if label = [] then [] else '|' :: label ++ ['|']

theorem tag_newline {label : List Char} (h : '\n' ∉ label) : '\n' ∉ tag label := by
  unfold tag
  split
  · simp
  · simpa using h

theorem label_of_tag {label mark l : List Char} (h : tag label = mark)
    (hm : mark = [] ∧ l = [] ∨ mark = '|' :: l ++ ['|']) : l = label := by
  subst h
  unfold tag at hm
  split at hm
  · rename_i he
    simpa [he] using hm
  · rcases hm with ⟨hm, -⟩ | hm
    · simp at hm
    · exact (List.cons.inj (List.append_cancel_right hm)).2.symm

theorem edge_toList (source target label : String) :
    (ChartLine.edge source target label).toList =
      [' ', ' '] ++ (source.toList ++ (" -->".toList ++ (tag label.toList ++ ' ' :: target.toList))) := by
  unfold ChartLine.edge tag
  by_cases h : label = "" <;> simp [h, String.isEmpty_iff]

/-- A label between bars, if there is one. -/
def tagPattern : Pattern := opt ("|" ++ group 2 (reps any) ++ "|")

theorem tagPattern_reads {s t : Place} (h : tagPattern.Matches s t) :
    s.rest = t.rest ∧ t.groups = s.groups ∨
      ∃ label rest, s.rest = ('|' :: label ++ ['|']) ++ t.rest ∧ t.groups = (2, ⟨label ++ rest, rest⟩) :: s.groups := by
  rcases matches_opt.1 h with rfl | ⟨-, _, ⟨_, h1, h2⟩, h3⟩
  · exact .inl ⟨rfl, rfl⟩
  · obtain ⟨e1, g1⟩ := word_reads h1
    obtain ⟨u, h2, e2, g2⟩ := group_reads h2
    obtain ⟨label, -, e2', g2'⟩ := reps_reads h2
    obtain ⟨e3, g3⟩ := word_reads h3
    refine .inr ⟨label, u.rest, ?_, ?_⟩
    · rw [e1, e2', ← e2, e3]
      simp
    · rw [g3, g2, g2', g1, e2']

theorem tagPattern_takes {s : Place} {label rest : List Char} (hl : '\n' ∉ label)
    (hr : s.rest = tag label ++ rest) : ∃ t, tagPattern.Matches s t ∧ t.rest = rest := by
  unfold tag at hr
  split at hr
  · exact ⟨s, matches_opt.2 (.inl rfl), hr⟩
  · have hl' : ∀ c ∈ label, (c != '\n') = true := fun c hc => bne_iff_ne.mpr fun he => hl (he ▸ hc)
    have htag : s.rest = "|".toList ++ (label ++ (['|'] ++ rest)) := by simp [hr]
    obtain ⟨u1, h1, e1⟩ := word_takes "|" htag
    obtain ⟨u2, h2, e2⟩ := group_takes 2 (reps_takes hl' e1)
    obtain ⟨u3, h3, e3⟩ := word_takes "|" e2
    exact ⟨u3, matches_opt.2 (.inr ⟨by simp [hr], u2, ⟨u1, h1, h2⟩, h3⟩), e3⟩

/-- What an edge pattern has read. -/
theorem edgePattern_reads {line : List Char} {m : Place} (h : edgePattern.Matches ⟨none, line, []⟩ m) :
    ∃ b mark tail, (∀ c ∈ b, isBlank c = true) ∧ IsName (m.chars 1) ∧ IsName (m.chars 3) ∧
      (tail = [] ∨ tail = ['\n']) ∧ (mark = [] ∧ m.chars 2 = [] ∨ mark = '|' :: m.chars 2 ++ ['|']) ∧
      line = b ++ (m.chars 1 ++ (" -->".toList ++ (mark ++ (' ' :: (m.chars 3 ++ tail))))) := by
  obtain ⟨_, ⟨_, ⟨_, ⟨_, ⟨_, ⟨_, h1, h2⟩, h3⟩, h4⟩, h5⟩, h6⟩, rfl, h7⟩ := h
  obtain ⟨b, hb, e1, g1⟩ := reps_reads h1
  obtain ⟨u2, h2, e2, g2⟩ := group_reads h2
  obtain ⟨v, hne, hv, e2', g2'⟩ := plus_reads h2
  obtain ⟨e3, g3⟩ := word_reads h3
  obtain ⟨e5, g5⟩ := word_reads h5
  obtain ⟨u6, h6, e6, g6⟩ := group_reads h6
  obtain ⟨w, hwne, hw, e6', g6'⟩ := plus_reads h6
  change line = _ at e1
  rcases tagPattern_reads h4 with ⟨e4, g4⟩ | ⟨label, rest, e4, g4⟩
  · have groups : m.groups = [(3, ⟨w ++ u6.rest, u6.rest⟩), (1, ⟨v ++ u2.rest, u2.rest⟩)] := by
      rw [g6, g6', g5, g4, g3, g2, g2', g1, e6', e2']
    have h1 : m.chars 1 = v := (chars_of_groups groups 1).trans (Span.chars_append ..)
    have h2 : m.chars 2 = [] := chars_of_groups groups 2
    have h3 : m.chars 3 = w := (chars_of_groups groups 3).trans (Span.chars_append ..)
    rw [h1, h2, h3]
    refine ⟨b, [], m.rest, hb, ⟨hne, hv⟩, ⟨hwne, hw⟩, h7, .inl ⟨rfl, rfl⟩, ?_⟩
    rw [e1, e2', ← e2, e3, e4, e5, e6', ← e6]
    simp
  · have groups : m.groups =
        [(3, ⟨w ++ u6.rest, u6.rest⟩), (2, ⟨label ++ rest, rest⟩), (1, ⟨v ++ u2.rest, u2.rest⟩)] := by
      rw [g6, g6', g5, g4, g3, g2, g2', g1, e6', e2']
    have h1 : m.chars 1 = v := (chars_of_groups groups 1).trans (Span.chars_append ..)
    have h2 : m.chars 2 = label := (chars_of_groups groups 2).trans (Span.chars_append ..)
    have h3 : m.chars 3 = w := (chars_of_groups groups 3).trans (Span.chars_append ..)
    rw [h1, h2, h3]
    refine ⟨b, _, m.rest, hb, ⟨hne, hv⟩, ⟨hwne, hw⟩, h7, .inr rfl, ?_⟩
    rw [e1, e2', ← e2, e3, e4, e5, e6', ← e6]
    simp

/-- A line made as an edge is accepted as one. -/
theorem edgePattern_accepts {b v label w : List Char} (hb : ∀ c ∈ b, isBlank c = true) (hv : IsName v)
    (hl : '\n' ∉ label) (hw : IsName w) :
    ∃ m, edgePattern.Matches ⟨none, b ++ (v ++ (" -->".toList ++ (tag label ++ ' ' :: w))), []⟩ m := by
  obtain ⟨u1, h1, e1⟩ : ∃ t, gap.Matches ⟨none, _, []⟩ t ∧ t.rest = _ := reps_takes hb rfl
  obtain ⟨u2, h2, e2⟩ := group_takes 1 (plus_takes hv.1 hv.2 e1)
  obtain ⟨u3, h3, e3⟩ := word_takes " -->" e2
  obtain ⟨u4, h4, e4⟩ := tagPattern_takes hl e3
  obtain ⟨u5, h5, e5⟩ := word_takes " " e4
  obtain ⟨u6, h6, e6⟩ := group_takes 3 (plus_takes hw.1 hw.2 (e5.trans (List.append_nil _).symm))
  exact ⟨u6, u6, ⟨u5, ⟨u4, ⟨u3, ⟨u2, ⟨u1, h1, h2⟩, h3⟩, h4⟩, h5⟩, h6⟩, rfl, .inl e6⟩

theorem arrow_leaves (x : List Char) : Leaves TextWord.isWord (" -->".toList ++ x) := by
  intro c hc
  obtain rfl : ' ' = c := by simpa using hc
  decide

/-- An edge is read as it was written. -/
theorem edgePattern_edge {v label w : List Char} {m : Place} (hv : IsName v) (hl : '\n' ∉ label) (hw : IsName w)
    (h : edgePattern.Matches ⟨none, [' ', ' '] ++ (v ++ (" -->".toList ++ (tag label ++ ' ' :: w))), []⟩ m) :
    m.chars 1 = v ∧ m.chars 2 = label ∧ m.chars 3 = w := by
  obtain ⟨b, mark, tail, hb, h1, h3, ht, h2, e⟩ := edgePattern_reads h
  obtain ⟨hname, e⟩ := name_unique indentation_blank hb hv h1 (arrow_leaves _) (arrow_leaves _) e
  have e := List.append_cancel_left e
  have hn : '\n' ∉ tag label ++ ' ' :: w := by simpa using ⟨tag_newline hl, hw.newline_notMem⟩
  have happ : tag label ++ ' ' :: w = (mark ++ ' ' :: m.chars 3) ++ tail := by
    rw [e, List.append_assoc, List.cons_append]
  obtain rfl := tail_eq_nil hn ht happ
  rw [List.append_nil] at e
  obtain ⟨e, hlast⟩ := last_name_unique hw h3 e
  exact ⟨hname.symm, label_of_tag e h2, hlast.symm⟩

theorem definition_not_edge {s : Shape} {v label : List Char} {m : Place} (hv : IsName v) :
    ¬ edgePattern.Matches ⟨none, [' ', ' '] ++ (v ++ (opening s ++ (label ++ closing s))), []⟩ m := by
  intro h
  obtain ⟨b, mark, tail, hb, h1, -, -, -, e⟩ := edgePattern_reads h
  obtain ⟨-, e⟩ := name_unique indentation_blank hb hv h1 (opening_leaves _ _) (arrow_leaves _) e
  exact opening_ne_space s _ _ e

/-! ### Lines -/

theorem line?_definition {id label : String} (shape : Shape) (hid : IsName id.toList) (hl : '\n' ∉ label.toList) :
    line? (ChartLine.definition id shape label).toList = some (.node id label shape) := by
  have hedge : edgePattern.matchStart (ChartLine.definition id shape label).toList = none := by
    rw [definition_toList]
    exact matchStart_eq_none fun m => definition_not_edge hid
  unfold line?
  rw [hedge]
  simp only [shapes, List.findSome?_cons, List.findSome?_nil, definition?_definition hid hl]
  cases shape <;> rfl

theorem line?_edge {source target label : String} (hs : IsName source.toList) (ht : IsName target.toList)
    (hl : '\n' ∉ label.toList) :
    line? (ChartLine.edge source target label).toList = some (.edge source target label) := by
  obtain ⟨m, hm⟩ := edgePattern_accepts indentation_blank hs hl ht
  rw [edge_toList]
  obtain ⟨u, hu⟩ := Option.isSome_iff_exists.mp (matchStart_isSome hm)
  obtain ⟨h1, h2, h3⟩ := edgePattern_edge hs hl ht (matchStart_matches hu)
  simp only [line?, hu, Place.text, h1, h2, h3, String.ofList_toList]

end FlowSketch.ChartGraph
