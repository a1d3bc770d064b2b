import FlowSketch.FlowRecord
import Mathlib

/-!
# Exported trees read back

A record says what its fields say, in whatever order they stand. The record of a tree reads back as the tree, so two trees
are told apart by their records, even where the kind of a step is the name of a construct.
-/
namespace FlowSketch

/-! ### Records up to the order of fields -/

/-- The same texts, lists and fields; the order of the fields of a record does not matter. -/
inductive Record.Same : Record → Record → Prop where
  | text (s : String) : Same (.text s) (.text s)
  | list {items items' : List Record} (h : List.Forall₂ Same items items') : Same (.list items) (.list items')
  | fields {entries entries' : List (String × Record)}
      (h : ∀ name, Option.Rel Same (entries.lookup name) (entries'.lookup name)) : Same (.fields entries) (.fields entries')

namespace Record

mutual

theorem Same.refl : ∀ r : Record, Same r r
  | .text s => .text s
  | .list items => .list (same_items items)
  | .fields entries => .fields (same_fields entries)

theorem same_items : ∀ items : List Record, List.Forall₂ Same items items
  | [] => .nil
  | r :: items => .cons (Same.refl r) (same_items items)

theorem same_fields : ∀ (entries : List (String × Record)) (name : String),
    Option.Rel Same (entries.lookup name) (entries.lookup name)
  | [], _ => .none
  | (key, r) :: entries, name => by
    rw [List.lookup_cons]
    split
    · exact .some (Same.refl r)
    · exact same_fields entries name

end

theorem lookup_perm {entries entries' : List (String × Record)} (h : entries.Perm entries')
    (hkeys : (entries.map Prod.fst).Nodup) (name : String) : entries.lookup name = entries'.lookup name := by
  induction h with
  | nil => rfl
  | cons entry _ ih =>
    obtain ⟨key, r⟩ := entry
    rw [List.lookup_cons, List.lookup_cons, ih (List.nodup_cons.mp hkeys).2]
  | swap a b entries =>
    obtain ⟨key, r⟩ := a
    obtain ⟨key', r'⟩ := b
    have hne : key' ≠ key := by
      rintro rfl
      simp at hkeys
    cases hname : name == key with
    | false => simp only [List.lookup_cons, hname]
    | true =>
      have hother : (name == key') = false := by rw [eq_of_beq hname, beq_false_of_ne hne.symm]
      simp only [List.lookup_cons, hname, hother]
  | trans h _ ih ih' => exact (ih hkeys).trans (ih' ((h.map Prod.fst).nodup_iff.mp hkeys))

/-- Fields with names of their own can stand in any order. -/
theorem Same.of_perm {entries entries' : List (String × Record)} (h : entries.Perm entries')
    (hkeys : (entries.map Prod.fst).Nodup) : Same (.fields entries) (.fields entries') := by
  refine .fields fun name => ?_
  rw [lookup_perm h hkeys]
  exact same_fields entries' name

theorem lookup_fieldReadings (entries : List (String × Record)) (name : String) :
    (fieldReadings entries).lookup name = (entries.lookup name).map reading := by
  induction entries with
  | nil => rfl
  | cons entry entries ih =>
    obtain ⟨key, r⟩ := entry
    rw [fieldReadings, List.lookup_cons, List.lookup_cons, ih]
    split <;> rfl

/-- A record of fields says what can be looked up in it. -/
theorem ofFields_congr {fields fields' : List (String × Reading)} (h : ∀ name, fields.lookup name = fields'.lookup name) :
    Reading.ofFields fields = Reading.ofFields fields' := by
  simp only [Reading.ofFields, Reading.nodeOfFields, Reading.caseOfFields, Reading.textField, Reading.nodesField,
    Reading.casesField, h]

mutual

/-- The order of fields does not change what a record says. -/
theorem Same.reading_eq : ∀ {r r' : Record}, Same r r' → r.reading = r'.reading
  | .text _, _, .text _ => rfl
  | .list items, _, .list h => by
    rw [reading, reading, readings_eq items h]
  | .fields entries, _, .fields h => by
    rw [reading, reading]
    refine ofFields_congr fun name => ?_
    rw [lookup_fieldReadings, lookup_fieldReadings]
    exact field_reading_eq entries name (h name)

theorem readings_eq : ∀ (items : List Record) {items' : List Record}, List.Forall₂ Same items items' →
    readings items = readings items'
  | [], _, .nil => rfl
  | _ :: items, _, .cons h hs => by
    rw [readings, readings, h.reading_eq, readings_eq items hs]

theorem field_reading_eq : ∀ (entries : List (String × Record)) (name : String) {field : Option Record},
    Option.Rel Same (entries.lookup name) field → (entries.lookup name).map reading = field.map reading
  | [], _, _, .none => rfl
  | (key, r) :: entries, name, field, h => by
    rw [List.lookup_cons] at h ⊢
    split at h
    · cases h with
      | some h => rw [Option.map_some, Option.map_some, h.reading_eq]
    · exact field_reading_eq entries name h

end

end Record

/-! ### Reading back -/

namespace Record

@[simp] theorem reading_text (s : String) : (text s).reading = .ofText s := rfl

@[simp] theorem reading_list (items : List Record) : (list items).reading = .ofList (readings items) := rfl

@[simp] theorem node_fields (entries : List (String × Record)) :
    (fields entries).reading.node = Reading.nodeOfFields (fieldReadings entries) := rfl

@[simp] theorem case_fields (entries : List (String × Record)) :
    (fields entries).reading.case = Reading.caseOfFields (fieldReadings entries) := rfl

@[simp] theorem fieldReadings_nil : fieldReadings [] = [] := rfl

@[simp] theorem fieldReadings_cons (name : String) (r : Record) (entries : List (String × Record)) :
    fieldReadings ((name, r) :: entries) = (name, r.reading) :: fieldReadings entries := rfl

end Record

namespace Reading

@[simp] theorem ofText_text (s : String) : (ofText s).text = some s := rfl

@[simp] theorem ofList_nodes (rs : List Reading) : (ofList rs).nodes = rs.mapM Reading.node := rfl

@[simp] theorem ofList_cases (rs : List Reading) : (ofList rs).cases = rs.mapM Reading.case := rfl

end Reading

open Reading

mutual

/-- The name of a construct is looked at only where there is no kind, so a step reads back whatever its kind is. -/
theorem Node.reading_toRecord : ∀ n : Node, n.toRecord.reading.node = some n
  | .step s => by
    simp [Node.toRecord, nodeOfFields, textField, List.lookup]
  | .decision condition yes no => by
    simp [Node.toRecord, nodeOfFields, textField, nodesField, List.lookup, Flow.nodes_toRecords yes, Flow.nodes_toRecords no]
  | .loop label kind body => by
    simp [Node.toRecord, nodeOfFields, textField, nodesField, List.lookup, Flow.nodes_toRecords body]
  | .switch label cases => by
    simp [Node.toRecord, nodeOfFields, textField, casesField, List.lookup, Flow.cases_caseRecords cases]
  | .tryCatch body param handler cleanup => by
    simp [Node.toRecord, nodeOfFields, textField, nodesField, List.lookup, Flow.nodes_toRecords body,
      Flow.nodes_toRecords handler, Flow.nodes_toRecords cleanup]
  | .event subject name label body => by
    simp [Node.toRecord, nodeOfFields, textField, nodesField, List.lookup, Flow.nodes_toRecords body]
  | .function label body => by
    simp [Node.toRecord, nodeOfFields, textField, nodesField, List.lookup, Flow.nodes_toRecords body]
  | .promise label body => by
    simp [Node.toRecord, nodeOfFields, textField, nodesField, List.lookup, Flow.nodes_toRecords body]

theorem Flow.nodes_toRecords : ∀ nodes : List Node,
    (Record.readings (Flow.toRecords nodes)).mapM Reading.node = some nodes
  | [] => rfl
  | n :: nodes => by
    rw [Flow.toRecords, Record.readings, List.mapM_cons, n.reading_toRecord, Flow.nodes_toRecords nodes]
    rfl

theorem Flow.cases_caseRecords : ∀ cases : List Case,
    (Record.readings (Flow.caseRecords cases)).mapM Reading.case = some cases
  | [] => rfl
  | ⟨label, body⟩ :: cases => by
    have hcase : (Record.fields [("case_label", .text label), ("body", .list (Flow.toRecords body))]).reading.case =
        some ⟨label, body⟩ := by
      simp [caseOfFields, textField, nodesField, List.lookup, Flow.nodes_toRecords body]
    rw [Flow.caseRecords, Record.readings, List.mapM_cons, hcase, Flow.cases_caseRecords cases]
    rfl

end

theorem Node.ofRecord?_of_same {n : Node} {r : Record} (h : Record.Same n.toRecord r) : Node.ofRecord? r = some n := by
  rw [Node.ofRecord?, ← h.reading_eq, n.reading_toRecord]

theorem Flow.ofRecords?_of_same {nodes : List Node} {rs : List Record}
    (h : List.Forall₂ Record.Same (Flow.toRecords nodes) rs) : Flow.ofRecords? rs = some nodes := by
  induction nodes generalizing rs with
  | nil =>
    cases h with
    | nil => rfl
  | cons n nodes ih =>
    cases h with
    | cons hn hnodes =>
      have hlater := ih hnodes
      rw [Flow.ofRecords?] at hlater
      rw [Flow.ofRecords?, List.mapM_cons, Node.ofRecord?_of_same hn, hlater]
      rfl

/-- Only a list of nodes itself has its records, in whatever order their fields stand, and every node, on its own or in a
list, reads back from them. -/
theorem Flow.records_lossless (as bs : List Node) :
    (List.Forall₂ Record.Same (Flow.toRecords as) (Flow.toRecords bs) ↔ as = bs) ∧
      (∀ rs, List.Forall₂ Record.Same (Flow.toRecords as) rs → Flow.ofRecords? rs = some as) ∧
        ∀ n r, Record.Same (Node.toRecord n) r → Node.ofRecord? r = some n := by
  refine ⟨⟨fun h => ?_, ?_⟩, fun _ => Flow.ofRecords?_of_same, fun _ _ => Node.ofRecord?_of_same⟩
  · have has : Flow.ofRecords? (Flow.toRecords bs) = some as := Flow.ofRecords?_of_same h
    have hbs : Flow.ofRecords? (Flow.toRecords bs) = some bs := Flow.ofRecords?_of_same (Record.same_items _)
    exact Option.some.inj (has.symm.trans hbs)
  · rintro rfl
    exact Record.same_items _

/-- A step whose kind is the name of a construct, with its fields in another order. -/
theorem Flow.step_named_decision_reads_back :
    Record.Same (Node.step ⟨"decision", "a"⟩).toRecord
        (.fields [("type", .text "decision"), ("kind", .text "decision"), ("label", .text "a")]) ∧
      Node.ofRecord? (.fields [("type", .text "decision"), ("kind", .text "decision"), ("label", .text "a")]) =
        some (.step ⟨"decision", "a"⟩) := by
  have hsame : Record.Same (Node.step ⟨"decision", "a"⟩).toRecord
      (.fields [("type", .text "decision"), ("kind", .text "decision"), ("label", .text "a")]) := by
    refine Record.Same.of_perm ?_ (by simp)
    exact List.perm_append_singleton _ [_, _]
  exact ⟨hsame, (Flow.records_lossless [] []).2.2 _ _ hsame⟩

end FlowSketch
