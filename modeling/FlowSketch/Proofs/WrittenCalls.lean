import FlowSketch.Proofs.FlattenedText
import FlowSketch.Proofs.OwnerReading
import FlowSketch.Proofs.PatternMatch
import FlowSketch.Proofs.TextLines

/-!
# Calls written in a text

A subscription is looked for in the text of a statement, as a subject, a point, a method and a name in quotes. What stands
at a place is one call at most, and the owner of a block is an event exactly if a call is written in the text of the
statement before it: the first one.
-/
namespace FlowSketch.Owner
open Pattern BraceStatement TextBlank

/-! ### Calls -/

/-- A call of a method that subscribes to an event. -/
structure EventCall where
  subject : List Char
  method : String
  name : List Char

namespace EventCall

def methods : List String := ["on", "once", "addEventListener"]

/-- Characters of the names of events. -/
def isMark (c : Char) : Bool := TextWord.isWord c || ":.-".toList.contains c

/-- The owner of a block behind the call. -/
def owner (c : EventCall) : Owner := event (.ofList c.subject) c.method (.ofList c.name)

/-- The text begins with the call, with blanks between its parts or without. -/
structure Begins (c : EventCall) (text : List Char) : Prop where
  subject : c.subject ≠ [] ∧ ∀ d ∈ c.subject, TextWord.isWord d = true
  method : c.method ∈ methods
  name : c.name ≠ [] ∧ ∀ d ∈ c.name, isMark d = true
  written : ∃ a b d e rest, (∀ x ∈ a ++ b ++ d ++ e, isBlank x = true) ∧
    text = c.subject ++ (a ++ '.' :: (b ++ (c.method.toList ++ (d ++ '(' :: (e ++ '\'' :: (c.name ++ '\'' :: rest))))))

/-- The call is the first that is written in the text, and `rest` is the text from it on. -/
structure First (c : EventCall) (text rest : List Char) : Prop where
  suffix : rest <:+ text
  begins : c.Begins rest
  first : ∀ rest', rest' <:+ text → rest.length < rest'.length → ∀ c' : EventCall, ¬ c'.Begins rest'

/-! ### Matches -/

theorem marks_matches : (plus (letter <|> oneOf ":.-")).Matches = (plus (one isMark)).Matches :=
  plus_congr (matches_either _ _)

theorem text_of_groups {m : Place} {i : ℕ} {w start rest : List Char} (h : m.groups.lookup i = some ⟨start, rest⟩)
    (hstart : start = w ++ rest) : m.text i = .ofList w := by
  rw [Place.text, Place.chars, Place.group?, h, hstart, Option.map_some, Option.getD_some, Span.chars_append]

theorem eventPattern_reads {before : Option Char} {text : List Char} {m : Place}
    (h : eventPattern.Matches ⟨before, text, []⟩ m) :
    ∃ c : EventCall, c.Begins text ∧ event (m.text 1) (m.text 2) (m.text 3) = c.owner := by
  obtain ⟨u10, ⟨u9, ⟨u8, ⟨u7, ⟨u6, ⟨u5, ⟨u4, ⟨u3, ⟨u2, ⟨u1, h1, h2⟩, h3⟩, h4⟩, h5⟩, h6⟩, h7⟩, h8⟩, h9⟩, h10⟩, h11⟩ := h
  obtain ⟨v1, hsubject, hrest1, hgroups1⟩ := group_reads h1
  obtain ⟨v5, hmethod, hrest5, hgroups5⟩ := group_reads h5
  obtain ⟨v10, hname, hrest10, hgroups10⟩ := group_reads h10
  rw [marks_matches] at hname
  -- what each part takes of the text
  obtain ⟨subject, hne1, hwords, hread1, hsame1⟩ := plus_reads hsubject
  obtain ⟨a, ha, hread2, hgroups2⟩ := reps_reads h2
  obtain ⟨hread3, hgroups3⟩ := word_reads h3
  obtain ⟨b, hb, hread4, hgroups4⟩ := reps_reads h4
  obtain ⟨method, hmem, hread5⟩ := choice_reads hmethod
  obtain ⟨d, hd, hread6, hgroups6⟩ := reps_reads h6
  obtain ⟨hread7, hgroups7⟩ := word_reads h7
  obtain ⟨e, he, hread8, hgroups8⟩ := reps_reads h8
  obtain ⟨hread9, hgroups9⟩ := word_reads h9
  obtain ⟨name, hne10, hmarks, hread10, hsame10⟩ := plus_reads hname
  obtain ⟨hread11, hgroups11⟩ := word_reads h11
  have hgroups : m.groups = [(3, ⟨u9.rest, v10.rest⟩), (2, ⟨u4.rest, v5.rest⟩), (1, ⟨text, v1.rest⟩)] := by
    rw [hgroups11, hgroups10, hsame10, hgroups9, hgroups8, hgroups7, hgroups6, hgroups5, choice_groups hmethod, hgroups4,
      hgroups3, hgroups2, hgroups1, hsame1]
  have htext1 := text_of_groups (m := m) (i := 1) (by rw [hgroups]; rfl) hread1
  have htext2 := text_of_groups (m := m) (i := 2) (by rw [hgroups]; rfl) hread5
  have htext3 := text_of_groups (m := m) (i := 3) (by rw [hgroups]; rfl) hread10
  refine ⟨⟨subject, method, name⟩, ⟨⟨hne1, hwords⟩, hmem, ⟨hne10, hmarks⟩, a, b, d, e, m.rest, ?_, ?_⟩, ?_⟩
  · simp only [List.forall_mem_append]
    exact ⟨⟨⟨ha, hb⟩, hd⟩, he⟩
  · calc text
        = subject ++ v1.rest := hread1
      _ = subject ++ (a ++ '.' :: (b ++ (method.toList ++ v5.rest))) := by
          rw [← hrest1, hread2, hread3, hread4, hread5]
          rfl
      _ = _ := by
          rw [← hrest5, hread6, hread7, hread8, hread9, hread10, ← hrest10, hread11]
          rfl
  · rw [htext1, htext2, htext3, owner, String.ofList_toList]

/-- A text that begins with a call is matched, wherever it stands. -/
theorem Begins.matches {c : EventCall} {text : List Char} (h : c.Begins text) (before : Option Char) :
    ∃ m, eventPattern.Matches ⟨before, text, []⟩ m := by
  obtain ⟨⟨hne1, hwords⟩, hmem, ⟨hne10, hmarks⟩, a, b, d, e, rest, hblank, rfl⟩ := h
  simp only [List.forall_mem_append] at hblank
  obtain ⟨⟨⟨ha, hb⟩, hd⟩, he⟩ := hblank
  obtain ⟨u1, h1, hrest1⟩ := group_takes 1 (plus_takes (s := ⟨before, _, []⟩) hne1 hwords rfl)
  obtain ⟨u2, h2, hrest2⟩ := reps_takes ha hrest1
  obtain ⟨u3, h3, hrest3⟩ := word_takes "." hrest2
  obtain ⟨u4, h4, hrest4⟩ := reps_takes hb hrest3
  obtain ⟨u5, h5, hrest5⟩ := group_takes 2 (choice_takes hmem hrest4)
  obtain ⟨u6, h6, hrest6⟩ := reps_takes hd hrest5
  obtain ⟨u7, h7, hrest7⟩ := word_takes "(" hrest6
  obtain ⟨u8, h8, hrest8⟩ := reps_takes he hrest7
  obtain ⟨u9, h9, hrest9⟩ := word_takes "'" hrest8
  obtain ⟨u10, h10, hrest10⟩ := group_takes 3 (plus_takes hne10 hmarks hrest9)
  obtain ⟨u11, h11, -⟩ := word_takes "'" hrest10
  have hname : (group 3 (plus (letter <|> oneOf ":.-"))).Matches u9 u10 := by
    rw [Matches, marks_matches]
    exact h10
  exact ⟨u11, u10, ⟨u9, ⟨u8, ⟨u7, ⟨u6, ⟨u5, ⟨u4, ⟨u3, ⟨u2, ⟨u1, h1, h2⟩, h3⟩, h4⟩, h5⟩, h6⟩, h7⟩, h8⟩, h9⟩, hname⟩, h11⟩

/-! ### One call at a place -/

/-- Two ways to take what a class of characters has in front of a text are one. -/
theorem eq_of_stops {p : Char → Bool} {v w rest later : List Char} (h : v ++ rest = w ++ later) (hv : ∀ c ∈ v, p c = true)
    (hrest : ∀ c ∈ rest.head?, p c = false) (hw : ∀ c ∈ w, p c = true) (hlater : ∀ c ∈ later.head?, p c = false) :
    v = w ∧ rest = later := by
  obtain ⟨htake, hdrop⟩ := BraceLexer.takeWhile_append_stop hrest v
  obtain ⟨htake', hdrop'⟩ := BraceLexer.takeWhile_append_stop hlater w
  rw [h] at htake hdrop
  rw [htake', List.takeWhile_eq_self_iff.mpr hv, List.takeWhile_eq_self_iff.mpr hw] at htake
  rw [hdrop', List.dropWhile_eq_nil_iff.mpr hv, List.dropWhile_eq_nil_iff.mpr hw] at hdrop
  exact ⟨htake.symm, hdrop.symm⟩

/-- Blanks with a character behind them that is none. -/
theorem head?_gap {p : Char → Bool} (hp : ∀ x, isBlank x = true → p x = false) {a : List Char}
    (ha : ∀ x ∈ a, isBlank x = true) {c : Char} (hc : p c = false) (rest : List Char) :
    ∀ x ∈ (a ++ c :: rest).head?, p x = false := by
  cases a with
  | nil => simpa using hc
  | cons b a => simpa using hp b (ha b List.mem_cons_self)

theorem methods_word {w : String} (h : w ∈ methods) : w.toList ≠ [] ∧ ∀ d ∈ w.toList, TextWord.isWord d = true := by
  have hall : methods.all (fun w => !w.toList.isEmpty && w.toList.all TextWord.isWord) = true := by decide
  have hw := List.all_eq_true.mp hall w h
  rw [Bool.and_eq_true, List.all_eq_true] at hw
  exact ⟨by simpa using hw.1, hw.2⟩

/-- Behind blanks the same is left, whichever way they are taken, up to a character that is none. -/
theorem eq_behind_gap {a a' rest rest' : List Char} {c : Char} (h : a ++ c :: rest = a' ++ c :: rest')
    (ha : ∀ x ∈ a, isBlank x = true) (ha' : ∀ x ∈ a', isBlank x = true) (hc : isBlank c = false) : rest = rest' := by
  have hstop (later : List Char) : ∀ x ∈ (c :: later).head?, isBlank x = false := by simpa using hc
  exact List.tail_eq_of_cons_eq (eq_of_stops h ha (hstop rest) ha' (hstop rest')).2

/-- At most one call stands at the front of a text. -/
theorem Begins.unique {c c' : EventCall} {text : List Char} (h : c.Begins text) (h' : c'.Begins text) : c = c' := by
  obtain ⟨⟨-, hwords⟩, hmem, ⟨-, hmarks⟩, a, b, d, e, rest, hblank, htext⟩ := h
  obtain ⟨⟨-, hwords'⟩, hmem', ⟨-, hmarks'⟩, a', b', d', e', rest', hblank', rfl⟩ := h'
  simp only [List.forall_mem_append] at hblank hblank'
  obtain ⟨⟨⟨ha, hb⟩, hd⟩, he⟩ := hblank
  obtain ⟨⟨⟨ha', hb'⟩, hd'⟩, he'⟩ := hblank'
  have hgap {g : List Char} (hg : ∀ x ∈ g, isBlank x = true) {x : Char} (hx : TextWord.isWord x = false)
      (later : List Char) :=
    head?_gap (fun _ => isWord_of_isBlank) hg hx later
  have hstart {w : String} (hw : w ∈ methods) (later : List Char) : ∀ x ∈ (w.toList ++ later).head?, isBlank x = false := by
    obtain ⟨hne, hword⟩ := methods_word hw
    obtain ⟨x, xs, hxs⟩ := List.exists_cons_of_ne_nil hne
    rw [hxs] at hword ⊢
    simpa using isBlank_of_isWord (hword x List.mem_cons_self)
  obtain ⟨hsubject, htext⟩ := eq_of_stops htext hwords' (hgap ha' (by decide) _) hwords (hgap ha (by decide) _)
  replace htext := eq_behind_gap htext ha' ha (by decide)
  obtain ⟨-, htext⟩ := eq_of_stops htext hb' (hstart hmem' _) hb (hstart hmem _)
  obtain ⟨hmethod, htext⟩ := eq_of_stops htext (methods_word hmem').2 (hgap hd' (by decide) _) (methods_word hmem).2
    (hgap hd (by decide) _)
  replace htext := eq_behind_gap htext hd' hd (by decide)
  replace htext := eq_behind_gap htext he' he (by decide)
  have hquote (later : List Char) : ∀ x ∈ ('\'' :: later).head?, isMark x = false := by
    have hmark : isMark '\'' = false := by decide
    simpa using hmark
  obtain ⟨hname, -⟩ := eq_of_stops htext hmarks' (hquote _) hmarks (hquote _)
  cases c
  cases c'
  simp only [mk.injEq]
  exact ⟨hsubject.symm, String.toList_inj.mp hmethod.symm, hname.symm⟩

/-! ### The first call -/

variable {c : EventCall} {text rest : List Char}

theorem First.unique {c' : EventCall} {rest' : List Char} (h : c.First text rest) (h' : c'.First text rest') :
    c = c' ∧ rest = rest' := by
  have hlength : rest.length = rest'.length := by
    rcases Nat.lt_trichotomy rest.length rest'.length with hlt | heq | hlt
    · exact absurd h'.begins (h.first rest' h'.suffix hlt c')
    · exact heq
    · exact absurd h.begins (h'.first rest h.suffix hlt c)
  have hrest : rest = rest' := (List.suffix_of_suffix_length_le h.suffix h'.suffix hlength.le).eq_of_length hlength
  exact ⟨h.begins.unique (hrest ▸ h'.begins), hrest⟩

/-- The pattern finds a call exactly if one is written in the text, and then it finds the first. -/
theorem search_eq_first (text : List Char) :
    (∀ m, eventPattern.search text = some m →
      ∃ c rest, First c text rest ∧ event (m.text 1) (m.text 2) (m.text 3) = c.owner) ∧
      ∀ c rest, First c text rest → (eventPattern.search text).isSome := by
  constructor
  · intro m hm
    obtain ⟨passed, rest, rfl, hmatch, hfirst⟩ := search_leftmost hm
    obtain ⟨c, hbegins, howner⟩ := eventPattern_reads hmatch
    refine ⟨c, rest, ⟨List.suffix_append passed rest, hbegins, fun rest' hrest' hlt c' hbegins' => ?_⟩, howner⟩
    obtain ⟨passed', htext⟩ := hrest'
    obtain ⟨t, ht⟩ := hbegins'.matches passed'.getLast?
    have hlengths := congrArg List.length htext
    rw [List.length_append, List.length_append] at hlengths
    exact hfirst passed' rest' htext.symm (by omega) t ht
  · intro c rest hfirst
    obtain ⟨passed, htext⟩ := hfirst.suffix
    obtain ⟨m, hm⟩ := hfirst.begins.matches passed.getLast?
    exact htext ▸ search_isSome hm

end EventCall

open EventCall

/-- A block is an event exactly if a call is written in the text of the statement before it. -/
theorem classify_event_iff {ts : List Token} {s m n : String} :
    classify ts = event s m n ↔
      ∃ (c : EventCall) (rest : List Char), c.First (flatten (pending ts)).toList rest ∧ c.owner = event s m n := by
  obtain ⟨hfound, hsome⟩ := search_eq_first (flatten (pending ts)).toList
  constructor
  · intro h
    have hreads := classify_reads ts
    rw [h] at hreads
    cases hreads with
    | event hm =>
      obtain ⟨c, rest, hfirst, howner⟩ := hfound _ hm
      exact ⟨c, rest, hfirst, howner.symm⟩
    | fixed htexts => cases htexts
  · rintro ⟨c, rest, hfirst, howner⟩
    obtain ⟨place, hplace⟩ := Option.isSome_iff_exists.mp (hsome c rest hfirst)
    obtain ⟨c', rest', hfirst', howner'⟩ := hfound place hplace
    obtain ⟨rfl, -⟩ := hfirst.unique hfirst'
    rw [classify, ofStatement, rules, List.findSome?_cons, event?, hplace]
    exact howner'.trans howner

end FlowSketch.Owner
