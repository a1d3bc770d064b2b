import FlowSketch.Proofs.ChartOutlets

/-!
# The form of a chart

What the lines of a chart say: each name is defined on one line, before the edges that use it, and no line is
repeated. The names are given out by number, and none of them is the name of an end.
-/
namespace FlowSketch.ChartDrawing
open ChartGraph

/-- The name that a line defines. -/
def definedName? (line : String) : Option String :=
  match line? line.toList with
  | some (.node id _ _) => some id
  | _ => none

def definedNames (ls : List String) : List String := ls.filterMap definedName?

/-- Lines none of which is repeated, that define each name once and before the edges that use it. -/
structure WellFormed (ls : List String) : Prop where
  distinct_eq : distinct ls = ls
  nodup : ls.Nodup
  once : (definedNames ls).Nodup
  before_use : ∀ before line after source target label, ls = before ++ line :: after →
    line? line.toList = some (.edge source target label) → source ∈ definedNames before ∧ target ∈ definedNames before

/-! ### Names -/

/-- A numbered name ends in a digit. -/
theorem numberedName_ne {s : String} (h : ∀ c ∈ s.toList, c.isDigit = false) (letters : String) (n : ℕ) :
    numberedName letters n ≠ s := by
  rintro rfl
  obtain ⟨c, hc⟩ := List.exists_mem_of_ne_nil _ (Nat.toDigits_ne_nil (n := n) (b := 10))
  have hdigit : c.isDigit = true := Nat.isDigit_of_mem_toDigits (by decide) (by decide) hc
  have hnone := h c (by simp [numberedName_toList, hc])
  rw [hdigit] at hnone
  cases hnone

theorem numberedNames_ne {s : String} (h : ∀ c ∈ s.toList, c.isDigit = false) (letters : List String) :
    s ∉ numberedNames letters := by
  intro hs
  obtain ⟨p, -, hp⟩ := List.mem_map.mp hs
  exact numberedName_ne h _ _ hp

/-- The names of elements are those that one numbering gives out for their letters. -/
theorem numbered_id (es : List Element) :
    (numbered 0 es).map GraphNode.id = numberedNames (es.map fun e => e.mark.letters) := by
  rw [numbered, numberedNames, List.map_map, Nat.zero_add, List.zipIdx_map, List.map_map, List.zipIdx_eq_map_add,
    List.map_map]
  simp [Function.comp_def, Nat.add_comm]

/-! ### Lines -/

theorem line?_header : line? header.toList = none := by cbv

theorem definedNames_map_line {is : List Item} (h : ∀ i ∈ is, i.Plain) :
    definedNames (is.map Item.line) = (nodeIds is).map Id.text := by
  induction is with
  | nil => rfl
  | cons i is ih =>
    rw [List.forall_mem_cons] at h
    have hread := Item.line?_line h.1
    rw [List.map_cons, definedNames, List.filterMap_cons, ← definedNames, ih h.2, definedName?, hread]
    cases i <;> rfl

theorem definedNames_header {is : List Item} (h : ∀ i ∈ is, i.Plain) :
    definedNames (header :: is.map Item.line) = (nodeIds is).map Id.text := by
  rw [definedNames, List.filterMap_cons, definedName?, line?_header]
  exact definedNames_map_line h

theorem lines_before_use {nodes : List Node} {before after : List String} {line source target label : String}
    (hlines : lines nodes = before ++ line :: after) (hline : line? line.toList = some (.edge source target label)) :
    source ∈ definedNames before ∧ target ∈ definedNames before := by
  cases before with
  | nil =>
    obtain ⟨rfl, -⟩ := List.cons.inj hlines
    rw [line?_header] at hline
    cases hline
  | cons first before =>
    obtain ⟨rfl, hitems⟩ := List.cons.inj hlines
    obtain ⟨is, js, hsplit, rfl, hjs⟩ := List.map_eq_append_iff.1 hitems
    obtain ⟨i, js, rfl, rfl, rfl⟩ := List.map_eq_cons_iff.1 hjs
    have hsound := items_sound nodes
    rw [hsplit] at hsound
    have hplain := hsound.plain
    rw [List.forall_mem_append, List.forall_mem_cons] at hplain
    rw [Item.line?_line hplain.2.1] at hline
    cases i with
    | node => cases hline
    | edge a b l =>
      obtain ⟨rfl, rfl, rfl⟩ := Line.edge.inj (Option.some.inj hline)
      have hends := (scoped_append.1 hsound.inScope).2.1
      rw [definedNames_header hplain.1]
      exact ⟨List.mem_map_of_mem hends.1, List.mem_map_of_mem hends.2⟩

/-- The lines of a chart are well-formed: they define the two ends, and the names that the numbering gives out to the
elements of the flow, each once. No numbering gives out the name of an end. -/
theorem lines_wellFormed (nodes : List Node) :
    WellFormed (lines nodes) ∧
      definedNames (lines nodes) = "S" :: "Z" :: numberedNames ((elements nodes).map fun e => e.mark.letters) ∧
        ∀ letters, "S" ∉ numberedNames letters ∧ "Z" ∉ numberedNames letters := by
  have hsound := items_sound nodes
  refine ⟨⟨distinct_lines nodes, lines_nodup nodes, ?_, fun _ _ _ _ _ _ => lines_before_use⟩, ?_, fun letters => ?_⟩
  · rw [lines, definedNames_header hsound.plain]
    exact hsound.inScope.nodup.1.map fun _ _ => Id.text_injective
  · rw [lines, definedNames_header hsound.plain, ← graphNodes_id, graphNodes_items, ← numbered_id]
    rfl
  · exact ⟨numberedNames_ne (by simp) letters, numberedNames_ne (by simp) letters⟩

end FlowSketch.ChartDrawing
