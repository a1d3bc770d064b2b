import FlowSketch.BraceFlow
import FlowSketch.Proofs.PatternMatch

/-!
# What the labels of steps tell

The label of a step tells its kind: labels of steps of different kinds differ. So leaving out steps whose label has
been seen leaves out no kind of step.
-/
namespace FlowSketch.BraceActions
open Pattern StatementRule TextBlank

/-- The kinds with the beginnings of their labels. Only the steps that create a value begin as others do. -/
def leads : List (String × String) := [
  ("io", "Create read stream: "), ("io", "Create write stream: "), ("process", "Pipe "), ("process", "Stream pipeline"),
  ("io", "Read file: "), ("io", "Write file: "), ("io", "fs."), ("output", "Log: "), ("output", "Send response ("),
  ("io", "Listen on port "), ("io", "Fetch "), ("io", "GET "), ("io", "POST "), ("io", "PUT "), ("io", "DELETE "),
  ("io", "PATCH "), ("io", "DB query: "), ("io", "DB insert"), ("io", "DB update"), ("io", "DB delete"),
  ("process", "Await "), ("process", "Promise."), ("throw", "Throw "), ("return", "Return")]

/-- A text that labels steps of the kind. -/
inductive Labels (kind : String) (label : List Char) : Prop where
  | lead {lead : String} (hlead : (kind, lead) ∈ leads) (hl : lead.toList <+: label) : Labels kind label
  | creation {w rest : List Char} (hkind : kind = "process") (hw : ' ' ∉ w)
      (hl : label <+: "Create ".toList ++ (w ++ ' ' :: '→' :: rest)) : Labels kind label

theorem leads_unlike : ∀ a ∈ leads, ∀ b ∈ leads, a.2.toList <+: b.2.toList → a.1 = b.1 := by
  decide +kernel

/-- Which leads begin like the label of a step that creates a value. -/
theorem leads_create : ∀ a ∈ leads, a.2.toList <+: "Create ".toList ∨ "Create ".toList <+: a.2.toList →
    a.2.toList = "Create ".toList ++ ("read".toList ++ ' ' :: 's' :: "tream: ".toList) ∨
      a.2.toList = "Create ".toList ++ ("write".toList ++ ' ' :: 's' :: "tream: ".toList) := by
  decide +kernel

/-- Up to the first space and one character more, texts that begin alike are the same. -/
theorem not_prefix_of_second_word {v w rest later : List Char} {c d : Char} (hv : ' ' ∉ v) (hw : ' ' ∉ w) (hcd : c ≠ d) :
    ¬ v ++ ' ' :: c :: rest <+: w ++ ' ' :: d :: later := by
  -- the first words end together, or one of them would have a space in it
  induction v generalizing w with
  | nil =>
    cases w with
    | nil => simp [List.cons_prefix_cons, hcd]
    | cons b w => simp_all [List.cons_prefix_cons]
  | cons a v ih =>
    obtain ⟨ha, hv⟩ : ' ' ≠ a ∧ ' ' ∉ v := by simpa using hv
    cases w with
    | nil =>
      rw [List.cons_append, List.nil_append, List.cons_prefix_cons]
      exact fun h => ha h.1.symm
    | cons b w =>
      rw [List.cons_append, List.cons_append, List.cons_prefix_cons]
      exact fun h => ih hv (by simp_all) h.2

/-- No label that begins with a lead is that of a step that creates a value. -/
theorem lead_not_creation {kind lead : String} {label w rest : List Char} (hlead : (kind, lead) ∈ leads)
    (hl : lead.toList <+: label) (hw : ' ' ∉ w) : ¬ label <+: "Create ".toList ++ (w ++ ' ' :: '→' :: rest) := by
  intro hlabel
  have hboth := hl.trans hlabel
  have halike := List.prefix_or_prefix_of_prefix hboth (List.prefix_append _ _)
  rcases leads_create _ hlead halike with h | h
  all_goals
    rw [h, List.prefix_append_right_inj] at hboth
    exact not_prefix_of_second_word (by decide +kernel) hw (by decide) hboth

/-- A text labels steps of one kind only. -/
theorem Labels.kind_eq {kind kind' : String} {label : List Char} (h : Labels kind label) (h' : Labels kind' label) :
    kind = kind' := by
  cases h with
  | lead hlead hl =>
    cases h' with
    | lead hlead' hl' =>
      rcases List.prefix_or_prefix_of_prefix hl hl' with h | h
      · exact leads_unlike _ hlead _ hlead' h
      · exact (leads_unlike _ hlead' _ hlead h).symm
    | creation hkind' hw' hl' => exact absurd hl' (lead_not_creation hlead hl hw')
  | creation hkind hw hl =>
    cases h' with
    | lead hlead' hl' => exact absurd hl (lead_not_creation hlead' hl' hw)
    | creation hkind' hw' hl' => rw [hkind, hkind']

/-! ### The table -/

/-- The steps of a rule have labels of their kind. -/
def Labelled (rule : StatementRule) : Prop :=
  ∀ {text m s}, rule.pattern.search text = some m → rule.stepOf labelLimit m = some s → Labels s.kind s.label.toList

theorem labelled_ignore (p : Pattern) : Labelled (ignore p) := by
  intro text m s _ hs
  cases hs

theorem stepOf_step {kind : String} {p : Pattern} {label : Place → String} {m : Place} {s : FlowSketch.Step}
    (h : (step kind p label).stepOf labelLimit m = some s) : s = ⟨kind, clip labelLimit (label m)⟩ := by
  have hlabel : (if (clip labelLimit (label m)).isEmpty then none else some ⟨kind, clip labelLimit (label m)⟩) = some s := h
  split at hlabel
  · cases hlabel
  · exact (Option.some.inj hlabel).symm

theorem leads_short : ∀ a ∈ leads, a.2.toList.length ≤ labelLimit := by
  decide +kernel

/-- A rule whose labels all begin with a lead of its kind. -/
theorem labelled_step {kind : String} {p : Pattern} {label : Place → String}
    (h : ∀ {text m}, p.search text = some m → ∃ rest lead, (kind, lead) ∈ leads ∧ label m = lead ++ rest) :
    Labelled (step kind p label) := by
  intro text m s hm hs
  obtain ⟨rest, lead, hlead, hlabel⟩ := h hm
  rw [stepOf_step hs]
  refine .lead hlead ?_
  rw [clip, String.toList_ofList, List.prefix_take_iff, hlabel, String.toList_append]
  exact ⟨List.prefix_append _ _, leads_short _ hlead⟩

/-- A rule all of whose labels begin with the same lead. -/
theorem labelled_lead {kind : String} {p : Pattern} {label : Place → String} (lead : String) (hlead : (kind, lead) ∈ leads)
    (h : ∀ m, ∃ rest, label m = lead ++ rest) : Labelled (step kind p label) :=
  labelled_step fun {_ m} _ => (h m).imp fun _ hrest => ⟨lead, hlead, hrest⟩

theorem labelled_fixed {kind label : String} {p : Pattern} (h : (kind, label) ∈ leads) : Labelled (fixed kind p label) :=
  labelled_lead label h fun _ => ⟨"", (String.append_empty).symm⟩

theorem upper_verbs : ∀ verb ∈ ["get", "post", "put", "delete", "patch"], ("io", TextCase.upper verb ++ " ") ∈ leads := by
  decide +kernel

/-- What stands for the verb of a request is one of the verbs that the rule names. -/
theorem request_verb {text : List Char} {m : Place} (h : ("axios." ++ group 1 (choice ["get", "post", "put", "delete",
      "patch"]) ++ "(" ++ quotedText 2 (within 1 40 inString) : Pattern).search text = some m) :
    m.text 1 ∈ ["get", "post", "put", "delete", "patch"] := by
  obtain ⟨before, rest, u, ⟨v, ⟨w, -, hverb⟩, hparen⟩, haddress⟩ := search_matches h
  have hlater : m.groups.lookup 1 = v.groups.lookup 1 := by
    rw [haddress.lookup_eq (by decide), hparen.lookup_eq (by decide)]
  obtain ⟨x, hx, hchars⟩ := group_chars hverb hlater
  obtain ⟨verb, hmem, hread⟩ := choice_reads hx
  rw [hread, Span.chars_append] at hchars
  rwa [Place.text, hchars, String.ofList_toList]

theorem labelled_requests : ∀ rule ∈ requests, Labelled rule := by
  simp only [requests, List.forall_mem_cons]
  refine ⟨labelled_lead "Fetch " (by simp [leads]) fun m => ⟨_, rfl⟩, labelled_step fun {text m} hm => ?_, by simp⟩
  exact ⟨clip 30 (m.text 2), TextCase.upper (m.text 1) ++ " ", upper_verbs _ (request_verb hm), rfl⟩

theorem space_not_word : TextWord.isWord ' ' = false := by decide

/-- What is created is a name, and so has no space in it. -/
theorem labelled_creation : ∀ rule ∈ creation, Labelled rule := by
  simp only [creation, List.forall_mem_cons]
  refine ⟨fun {text m s} hm hs => ?_, by simp⟩
  obtain ⟨before, rest, u, ⟨v, -, hname⟩, hparen⟩ := search_matches hm
  obtain ⟨x, hx, hchars⟩ := group_chars hname (hparen.lookup_eq (by decide))
  obtain ⟨w, -, hword, hread, -⟩ := plus_reads hx
  rw [hread, Span.chars_append] at hchars
  have hspace : ' ' ∉ w := fun h => by simpa [space_not_word] using hword ' ' h
  have hlabel : (clip labelLimit ("Create " ++ m.text 2 ++ " → " ++ m.text 1)).toList <+:
      "Create ".toList ++ (w ++ ' ' :: '→' :: ' ' :: m.chars 1) := by
    rw [clip, String.toList_ofList]
    refine (List.take_prefix _ _).trans ?_
    simp [Place.text, hchars]
  rw [stepOf_step hs]
  exact .creation rfl hspace hlabel

theorem labelled_streams : ∀ rule ∈ streams, Labelled rule := by
  simp only [streams, List.forall_mem_cons]
  exact ⟨labelled_lead "Create read stream: " (by simp [leads]) fun m => ⟨_, rfl⟩,
    labelled_lead "Create write stream: " (by simp [leads]) fun m => ⟨_, rfl⟩,
    labelled_lead "Pipe " (by simp [leads]) fun m => ⟨m.text 1 ++ (" to " ++ m.text 2), by simp [String.append_assoc]⟩,
    labelled_fixed (by simp [leads]), by simp⟩

theorem labelled_files : ∀ rule ∈ files, Labelled rule := by
  simp only [files, List.forall_mem_cons]
  exact ⟨labelled_lead "Read file: " (by simp [leads]) fun m => ⟨_, rfl⟩,
    labelled_lead "Write file: " (by simp [leads]) fun m => ⟨_, rfl⟩,
    labelled_lead "fs." (by simp [leads]) fun m => ⟨_, rfl⟩, by simp⟩

theorem labelled_messages : ∀ rule ∈ messages, Labelled rule := by
  simp only [messages, List.forall_mem_cons]
  exact ⟨labelled_lead "Log: " (by simp [leads]) fun m => ⟨_, rfl⟩,
    labelled_lead "Log: " (by simp [leads]) fun m => ⟨_, rfl⟩,
    labelled_lead "Send response (" (by simp [leads]) fun m => ⟨m.text 1 ++ ")", by simp [String.append_assoc]⟩,
    labelled_lead "Listen on port " (by simp [leads]) fun m => ⟨_, rfl⟩, by simp⟩

theorem labelled_storage : ∀ rule ∈ storage, Labelled rule := by
  simp only [storage, List.forall_mem_cons]
  exact ⟨labelled_lead "DB query: " (by simp [leads]) fun m => ⟨_, rfl⟩, labelled_fixed (by simp [leads]),
    labelled_fixed (by simp [leads]), labelled_fixed (by simp [leads]), by simp⟩

theorem labelled_waiting : ∀ rule ∈ waiting, Labelled rule := by
  simp only [waiting, List.forall_mem_cons]
  exact ⟨labelled_lead "Await " (by simp [leads]) fun m => ⟨_, rfl⟩,
    labelled_lead "Promise." (by simp [leads]) fun m => ⟨_, rfl⟩, by simp⟩

theorem labelled_leaving : ∀ rule ∈ leaving, Labelled rule := by
  have hreturn (m : Place) : ∃ rest, returnLabel m = "Return" ++ rest := by
    simp only [returnLabel]
    split
    · exact ⟨"", rfl⟩
    · exact ⟨": " ++ _, by rw [← String.append_assoc]; rfl⟩
  simp only [leaving, List.forall_mem_cons]
  exact ⟨labelled_lead "Throw " (by simp [leads]) fun m => ⟨_, rfl⟩,
    labelled_lead "Throw " (by simp [leads]) fun m => ⟨_, rfl⟩,
    labelled_lead "Throw " (by simp [leads]) fun m => ⟨_, rfl⟩,
    labelled_lead "Return" (by simp [leads]) fun m => ⟨" response", rfl⟩,
    labelled_lead "Return" (by simp [leads]) hreturn, by simp⟩

theorem labelled_table : ∀ rule ∈ table, Labelled rule := by
  have himports : ∀ rule ∈ imports, Labelled rule := by simp [imports, labelled_ignore]
  simp only [table, List.forall_mem_append]
  exact ⟨⟨⟨⟨⟨⟨⟨⟨himports, labelled_streams⟩, labelled_files⟩, labelled_messages⟩, labelled_requests⟩, labelled_storage⟩,
    labelled_waiting⟩, labelled_leaving⟩, labelled_creation⟩

/-! ### Steps of statements -/

theorem labels_of_stepOf {text : String} {s : FlowSketch.Step} (h : stepOf text = some s) :
    Labels s.kind s.label.toList := by
  unfold stepOf at h
  split at h
  · cases h
  · exact StatementTable.classify_all (fun rule hrule _ hm _ hs => labelled_table rule hrule hm hs) h

end FlowSketch.BraceActions

namespace FlowSketch.BraceFlow
open BraceActions

theorem firstByLabel_sublist (seen : List String) (steps : List Step) : (firstByLabel seen steps).Sublist steps := by
  induction steps generalizing seen with
  | nil => exact List.Sublist.slnil
  | cons s steps ih =>
    rw [firstByLabel]
    split
    · exact (ih seen).cons s
    · exact (ih _).cons_cons s

/-- Every label that has not been seen is kept once. -/
theorem exists_label_firstByLabel {seen : List String} {steps : List Step} {s : Step} (hs : s ∈ steps)
    (hnew : s.label ∉ seen) : ∃ r ∈ firstByLabel seen steps, r.label = s.label := by
  induction steps generalizing seen with
  | nil => cases hs
  | cons t steps ih =>
    rw [firstByLabel]
    rcases List.mem_cons.mp hs with rfl | hs
    · rw [if_neg (by simpa using hnew)]
      exact ⟨s, List.mem_cons_self, rfl⟩
    · split
      · exact ih hs hnew
      · by_cases hlabel : s.label = t.label
        · exact ⟨t, List.mem_cons_self, hlabel.symm⟩
        · have hnew' : s.label ∉ t.label :: seen := by simp [hlabel, hnew]
          obtain ⟨r, hr, heq⟩ := ih hs hnew'
          exact ⟨r, List.mem_cons_of_mem t hr, heq⟩

/-- A statement is read as a step of the kind. -/
def ReadAs (kind : String) (statement : List Token) : Prop :=
  ∃ s ∈ stepOf (compact statement), s.kind = kind

instance (kind : String) (statement : List Token) : Decidable (ReadAs kind statement) :=
  inferInstanceAs (Decidable (∃ s ∈ stepOf (compact statement), s.kind = kind))

/-- The kinds of the steps are those that the statements are read as, though repeated labels are left out. -/
theorem exists_stepsOf_iff {tokens : List Token} {kind : String} :
    (∃ s ∈ stepsOf tokens, s.kind = kind) ↔ ∃ statement ∈ statements tokens, ReadAs kind statement := by
  constructor
  · rintro ⟨s, hs, rfl⟩
    obtain ⟨statement, hstatement, hread⟩ := List.mem_filterMap.mp ((firstByLabel_sublist _ _).mem hs)
    exact ⟨statement, hstatement, s, hread, rfl⟩
  · rintro ⟨statement, hstatement, s, hread, rfl⟩
    -- the step itself may be left out; the one that is kept for its label has the same kind
    have hs : s ∈ (statements tokens).filterMap fun st => stepOf (compact st) :=
      List.mem_filterMap.mpr ⟨statement, hstatement, hread⟩
    obtain ⟨r, hr, hlabel⟩ := exists_label_firstByLabel hs List.not_mem_nil
    obtain ⟨other, -, hother⟩ := List.mem_filterMap.mp ((firstByLabel_sublist _ _).mem hr)
    exact ⟨r, hr, (labels_of_stepOf hother).kind_eq (hlabel ▸ labels_of_stepOf hread)⟩

end FlowSketch.BraceFlow
