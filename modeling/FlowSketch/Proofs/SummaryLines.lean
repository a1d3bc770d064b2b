import FlowSketch.Proofs.SummaryOutline
import FlowSketch.Proofs.TextCuts

/-!
# The lines of an outline

An outline has one header, one footer and one line for each step of the top level, and what it writes for a node begins
like none of these. So only the lines that a text breaks off, behind its first, can be mistaken for one of them.
-/
namespace FlowSketch.Summary
open TextBlank

/-! ### Texts of several lines -/

def firstLine (text : String) : String := (sourceLines text).headD ""

/-- The lines of a text behind its first. -/
def later (text : String) : List String := (sourceLines text).tail

theorem sourceLines_eq (text : String) : sourceLines text = firstLine text :: later text := by
  have hne : sourceLines text ≠ [] := by simpa [sourceLines] using cut_ne_nil '\n' text.toList
  obtain ⟨line, lines, hlines⟩ := List.exists_cons_of_ne_nil hne
  rw [firstLine, later, hlines]
  rfl

/-- What comes before the first newline stays on the first line. -/
theorem sourceLines_append {before : String} (h : Unbroken before) (text : String) :
    sourceLines (before ++ text) = (before ++ firstLine text) :: later text := by
  have htext := sourceLines_eq text
  rw [sourceLines] at htext
  obtain ⟨line, lines, hcut, hfirst, hlater⟩ := List.map_eq_cons_iff.mp htext
  rw [sourceLines, String.toList_append, cut_append h, hcut, List.modifyHead_cons, List.map_cons, hlater, ← hfirst,
    String.ofList_append, String.ofList_toList]

theorem firstLine_append {before : String} (h : Unbroken before) (text : String) :
    firstLine (before ++ text) = before ++ firstLine text := by
  rw [firstLine, sourceLines_append h]
  rfl

theorem later_append {before : String} (h : Unbroken before) (text : String) :
    later (before ++ text) = later text := by
  rw [later, sourceLines_append h]
  rfl

theorem later_of_unbroken {text : String} (h : Unbroken text) : later text = [] := by
  rw [later, sourceLines_of_notMem h]
  rfl

theorem sourceLines_newline (text : String) : sourceLines ("\n" ++ text) = "" :: sourceLines text := by
  rw [sourceLines, String.toList_append]
  rfl

/-! ### Marks -/

/-- A line that is read as a step of the top level. -/
def isStepLine (line : String) : Bool := "  Step ".toList.isPrefixOf line.toList

/-- A line that says where an outline begins or ends, or what one of its steps is. -/
def IsMark (line : String) : Prop := line = header ∨ line = footer ∨ isStepLine line = true

instance : DecidablePred IsMark := fun line =>
  inferInstanceAs (Decidable (line = header ∨ line = footer ∨ isStepLine line = true))

/-- A text that begins like no mark, however it is indented. -/
def Opens (text : String) : Prop := (text.toList.head?.any fun c => c ∉ ['\n', ' ', '=', 'S']) = true

instance : DecidablePred Opens := fun text =>
  inferInstanceAs (Decidable ((text.toList.head?.any fun c => c ∉ ['\n', ' ', '=', 'S']) = true))

theorem opens_iff {text : String} : Opens text ↔ ∃ c cs, text.toList = c :: cs ∧ c ∉ ['\n', ' ', '=', 'S'] := by
  rw [Opens]
  cases text.toList with
  | nil => simp
  | cons c cs => simp

theorem Opens.append {text : String} (h : Opens text) (rest : String) : Opens (text ++ rest) := by
  obtain ⟨c, cs, hcs, hc⟩ := opens_iff.mp h
  exact opens_iff.mpr ⟨c, cs ++ rest.toList, by rw [String.toList_append, hcs, List.cons_append], hc⟩

theorem Opens.firstLine {text : String} (h : Opens text) : Opens (firstLine text) := by
  obtain ⟨c, cs, hcs, hc⟩ := opens_iff.mp h
  have htext : text = String.ofList [c] ++ String.ofList cs := by
    rw [← String.toList_inj, hcs, String.toList_append, String.toList_ofList, String.toList_ofList]
    rfl
  have hnewline : Unbroken (.ofList [c]) := by
    refine unbroken_ofList.mpr fun hmem => ?_
    obtain rfl := List.mem_singleton.mp hmem
    exact hc List.mem_cons_self
  have hfirst : Opens (String.ofList [c]) := opens_iff.mpr ⟨c, [], String.toList_ofList, hc⟩
  rw [htext, firstLine_append hnewline]
  exact hfirst.append _

theorem Opens.not_isMark {text : String} (h : Opens text) (indent : ℕ) : ¬ IsMark (spaces indent ++ text) := by
  obtain ⟨c, cs, hcs, hne⟩ := opens_iff.mp h
  have hchars : (spaces indent ++ text).toList = List.replicate indent ' ' ++ c :: cs := by
    rw [String.toList_append, spaces, String.toList_ofList, hcs]
  simp only [List.mem_cons, List.not_mem_nil, or_false, not_or] at hne
  have hedge {mark : String} (hmark : mark.toList.head? = some '=') : spaces indent ++ text ≠ mark := by
    rintro rfl
    rw [hchars] at hmark
    cases indent with
    | zero => exact hne.2.2.1 (Option.some.inj hmark)
    | succ indent => cases hmark
  rintro (hheader | hfooter | hstep)
  · exact hedge rfl hheader
  · exact hedge rfl hfooter
  · rw [isStepLine, hchars] at hstep
    match indent with
    | 0 => simp [List.isPrefixOf, Ne.symm hne.2.1] at hstep
    | 1 => simp [List.isPrefixOf, List.replicate, Ne.symm hne.2.1] at hstep
    | 2 => simp [List.isPrefixOf, List.replicate, Ne.symm hne.2.2.2] at hstep
    | n + 3 => simp [List.isPrefixOf, List.replicate] at hstep

/-! ### Entries -/

/-- What an entry says behind its indentation. -/
def Entry.body : Entry → String
  | heading _ text | note _ text => text
  | step _ s | numbered _ s => stepText s

/-- The lines that an entry opens, up to the first newline of what it says. -/
def Entry.opening : Entry → List String
  | heading indent text => ["", spaces indent ++ firstLine text]
  | note indent text => [spaces indent ++ firstLine text]
  | step indent s => [spaces indent ++ "→ " ++ firstLine (stepText s)]
  | numbered index s => ["  Step " ++ toString index ++ ": " ++ firstLine (stepText s)]

theorem unbroken_spaces (n : ℕ) : Unbroken (spaces n) :=
  unbroken_ofList.mpr fun h => absurd (List.eq_of_mem_replicate h) (by decide)

theorem unbroken_toString (n : ℕ) : Unbroken (toString n) := by
  rw [Unbroken, Nat.toString_eq_repr, Nat.toList_repr]
  exact fun h => absurd (Nat.isDigit_of_mem_toDigits (by decide) (by decide) h) (by decide)

theorem Entry.sourceLines_text (e : Entry) : sourceLines e.text = e.opening ++ later e.body := by
  cases e with
  | heading indent text =>
    have htext : (heading indent text).text = "\n" ++ (spaces indent ++ text) := String.append_assoc
    rw [htext, sourceLines_newline, sourceLines_append (unbroken_spaces indent)]
    rfl
  | note indent text =>
    have htext : (note indent text).text = spaces indent ++ text := rfl
    rw [htext, sourceLines_append (unbroken_spaces indent), Entry.opening, Entry.body, List.singleton_append]
  | step indent s =>
    have htext : (step indent s).text = spaces indent ++ "→ " ++ stepText s := rfl
    have hlead : Unbroken (spaces indent ++ "→ ") :=
      unbroken_append.mpr ⟨unbroken_spaces indent, by decide⟩
    rw [htext, sourceLines_append hlead, Entry.opening, Entry.body, List.singleton_append]
  | numbered index s =>
    have htext : (numbered index s).text = "  Step " ++ toString index ++ ": " ++ stepText s := rfl
    have hlead : Unbroken ("  Step " ++ toString index ++ ": ") :=
      framed_unbroken (by decide) (unbroken_toString index) (by decide)
    rw [htext, sourceLines_append hlead, Entry.opening, Entry.body, List.singleton_append]

/-- The lines that are broken off in some entries. -/
def brokenOff (es : List Entry) : List String := es.flatMap fun e => later e.body

theorem countP_sourceLines (p : String → Bool) {es : List Entry} (h : es ≠ []) :
    (sourceLines (textOf es)).countP p = (es.flatMap Entry.opening).countP p + (brokenOff es).countP p := by
  have hlines : sourceLines (textOf es) = es.flatMap fun e => sourceLines e.text := by
    rw [textOf, ← joinLines, sourceLines_joinLines (by simpa using h), List.flatMap_map]
  rw [hlines]
  clear h hlines
  induction es with
  | nil => rfl
  | cons e es ih =>
    rw [List.flatMap_cons, List.flatMap_cons, brokenOff, List.flatMap_cons, List.countP_append, List.countP_append,
      List.countP_append, ih, e.sourceLines_text, List.countP_append, brokenOff]
    omega

/-- An entry that opens no mark. -/
def Entry.Quiet (e : Entry) : Prop := ∀ line ∈ e.opening, ¬ IsMark line

theorem quiet_note {text : String} (h : Opens text) (indent : ℕ) : (Entry.note indent text).Quiet :=
  List.forall_mem_singleton.mpr (h.firstLine.not_isMark indent)

theorem quiet_heading {text : String} (h : Opens text) (indent : ℕ) : (Entry.heading indent text).Quiet :=
  List.forall_mem_cons.mpr ⟨by simp [IsMark, header, footer, isStepLine], quiet_note h indent⟩

theorem quiet_step (indent : ℕ) (s : Step) : (Entry.step indent s).Quiet := by
  have harrow : Opens "→ " := by decide
  rw [Entry.Quiet, Entry.opening, List.forall_mem_singleton, String.append_assoc]
  exact (harrow.append _).not_isMark indent

/-! ### What is written for a node -/

/-- The remarks that an outline makes. -/
def remarks : List String :=
  ["YES branch:", "NO branch:", "NO branch: (continue)", "(empty)", "(loops back to condition check)", "TRY:", "FINALLY:"]

/-- What stands before the texts that an outline quotes. -/
def leads : List String :=
  ["[DECISION - if (", "[LOOP - ", "CATCH (", "[SWITCH: ", "CASE [", "[EVENT HANDLER: ", "[FUNCTION: ", "[PROMISE: "]

theorem remarks_open : ∀ text ∈ remarks, Opens text ∧ Unbroken text := by decide

theorem leads_open : ∀ lead ∈ leads, Opens lead := by decide

/-- The texts that an outline writes for a node itself. -/
def textsOf : Node → List String
  | .step s => [stepText s]
  | .decision c _ _ => ["[DECISION - if (" ++ c ++ ")]:"]
  | .loop l _ _ => ["[LOOP - " ++ l ++ "]:"]
  | .switch l cases => ("[SWITCH: " ++ l ++ "]:") :: cases.map fun c => "CASE [" ++ c.label ++ "]:"
  | .tryCatch _ p _ _ => ["CATCH (" ++ p ++ "):"]
  | .event s n l _ => ["[EVENT HANDLER: " ++ l ++ "]:", "!! ASYNC BRANCH - separate path. ID: " ++ s ++ "_" ++ n]
  | .function l _ => ["[FUNCTION: " ++ l ++ "]:"]
  | .promise l _ => ["[PROMISE: " ++ l ++ "]:"]

section Keeps
variable {Q : String → Prop}

/-- All lines that a text breaks off are of some kind. -/
def Breaks (Q : String → Prop) (text : String) : Prop := ∀ line ∈ later text, Q line

theorem breaks_of_unbroken {text : String} (h : Unbroken text) : Breaks Q text := by
  rw [Breaks, later_of_unbroken h]
  exact nofun

/-- An outline opens no marks, and all lines that are broken off in it are of some kind. -/
def Outline.Keeps (Q : String → Prop) (o : Outline) : Prop := ∀ e ∈ o.entries, e.Quiet ∧ Breaks Q e.body

/-- All lines that are broken off in the texts for a node are of some kind. -/
def Own (Q : String → Prop) (n : Node) : Prop := ∀ text ∈ textsOf n, Breaks Q text

theorem keeps_append {o p : Outline} : (o ++ p).Keeps Q ↔ o.Keeps Q ∧ p.Keeps Q := List.forall_mem_append

theorem keeps_empty : Outline.empty.Keeps Q := nofun

theorem keeps_ofSeen (seen : Seen) : (Outline.ofSeen seen).Keeps Q := nofun

theorem keeps_heading {text : String} (h : Opens text) (indent : ℕ) :
    (Summary.heading indent text).Keeps Q ↔ Breaks Q text :=
  List.forall_mem_singleton.trans (and_iff_right (quiet_heading h indent))

theorem keeps_note {text : String} (h : Opens text) (indent : ℕ) : (Summary.note indent text).Keeps Q ↔ Breaks Q text :=
  List.forall_mem_singleton.trans (and_iff_right (quiet_note h indent))

theorem keeps_step (indent : ℕ) (s : Step) : (Outline.ofEntry (.step indent s)).Keeps Q ↔ Breaks Q (stepText s) :=
  List.forall_mem_singleton.trans (and_iff_right (quiet_step indent s))

theorem keeps_remark {text : String} (h : text ∈ remarks) (indent : ℕ) : (Summary.note indent text).Keeps Q :=
  (keeps_note (remarks_open text h).1 indent).mpr (breaks_of_unbroken (remarks_open text h).2)

theorem keeps_headed (lead : String) (h : lead ∈ leads) (text tail : String) (indent : ℕ) :
    (Summary.heading indent (lead ++ text ++ tail)).Keeps Q ↔ Breaks Q (lead ++ text ++ tail) :=
  keeps_heading (((leads_open lead h).append text).append tail) indent

theorem keeps_noted (lead : String) (h : lead ∈ leads) (text tail : String) (indent : ℕ) :
    (Summary.note indent (lead ++ text ++ tail)).Keeps Q ↔ Breaks Q (lead ++ text ++ tail) :=
  keeps_note (((leads_open lead h).append text).append tail) indent

mutual

theorem ofNode_keeps (indent : ℕ) : ∀ n : Node, (ofNode indent n).Keeps Q ↔ ∀ m ∈ n.preorder, Own Q m
  | .step s => by
    have hown : Own Q (.step s) ↔ Breaks Q (stepText s) := List.forall_mem_singleton
    rw [Flow.forall_mem_preorder, hown, ofNode, keeps_step]
    simp [Node.children]
  | .decision c yes no => by
    have hyes := ofBody_keeps (indent + 4) yes
    have hno := ofNoSide_keeps indent no
    have hheading := @keeps_headed Q "[DECISION - if (" (by simp [leads]) c ")]:" indent
    have hremark : (Summary.note (indent + 2) "YES branch:").Keeps Q := keeps_remark (by simp [remarks]) _
    have hown : Own Q (.decision c yes no) ↔ Breaks Q ("[DECISION - if (" ++ c ++ ")]:") := List.forall_mem_singleton
    rw [Flow.forall_mem_preorder, hown, ofNode]
    simp only [keeps_append, keeps_ofSeen, hheading, hremark, hyes, hno, true_and, and_assoc, Node.children,
      List.forall_mem_cons, List.not_mem_nil, false_implies, implies_true, and_true]
  | .loop l k body => by
    have hbody := ofBody_keeps (indent + 2) body
    have hheading := @keeps_headed Q "[LOOP - " (by simp [leads]) l "]:" indent
    have hremark : (Summary.note (indent + 2) "(loops back to condition check)").Keeps Q := keeps_remark (by simp [remarks]) _
    have hown : Own Q (.loop l k body) ↔ Breaks Q ("[LOOP - " ++ l ++ "]:") := List.forall_mem_singleton
    rw [Flow.forall_mem_preorder, hown, ofNode]
    simp only [keeps_append, keeps_ofSeen, hheading, hremark, hbody, true_and, and_true, Node.children,
      List.forall_mem_singleton]
  | .tryCatch body p handler cleanup => by
    have hbody := ofBody_keeps (indent + 4) body
    have hhandler := ofBody_keeps (indent + 4) handler
    have hcleanup := ofCleanup_keeps indent cleanup
    have hheading : (Summary.heading indent "[TRY/CATCH BLOCK]:").Keeps Q :=
      (keeps_heading (by decide) indent).mpr (breaks_of_unbroken (by decide))
    have hremark : (Summary.note (indent + 2) "TRY:").Keeps Q := keeps_remark (by simp [remarks]) _
    have hparam := @keeps_noted Q "CATCH (" (by simp [leads]) p "):" (indent + 2)
    have hown : Own Q (.tryCatch body p handler cleanup) ↔ Breaks Q ("CATCH (" ++ p ++ "):") :=
      List.forall_mem_singleton
    rw [Flow.forall_mem_preorder, hown, ofNode]
    simp only [keeps_append, keeps_ofSeen, hheading, hremark, hparam, hbody, hhandler, hcleanup, true_and, Node.children,
      List.forall_mem_cons, List.not_mem_nil, false_implies, implies_true, and_true]
    tauto
  | .switch l cases => by
    have hcases := ofCases_keeps indent cases
    have hheading := @keeps_headed Q "[SWITCH: " (by simp [leads]) l "]:" indent
    have hown : Own Q (.switch l cases) ↔ Breaks Q ("[SWITCH: " ++ l ++ "]:") ∧
        ∀ c ∈ cases, Breaks Q ("CASE [" ++ c.label ++ "]:") := by
      rw [Own, textsOf, List.forall_mem_cons, List.forall_mem_map]
    rw [Flow.forall_mem_preorder, hown, ofNode]
    simp only [keeps_append, keeps_ofSeen, hheading, hcases, true_and, Node.children, List.forall_mem_map, forall_and,
      and_assoc]
  | .event s n l body => by
    have hbody := ofBody_keeps (indent + 2) body
    have hheading := @keeps_headed Q "[EVENT HANDLER: " (by simp [leads]) l "]:" indent
    have hnote : (Summary.note (indent + 2) ("!! ASYNC BRANCH - separate path. ID: " ++ s ++ "_" ++ n)).Keeps Q ↔
        Breaks Q ("!! ASYNC BRANCH - separate path. ID: " ++ s ++ "_" ++ n) :=
      keeps_note ((Opens.append (by decide) s |>.append "_").append n) _
    have hown : Own Q (.event s n l body) ↔ Breaks Q ("[EVENT HANDLER: " ++ l ++ "]:") ∧
        Breaks Q ("!! ASYNC BRANCH - separate path. ID: " ++ s ++ "_" ++ n) := by
      rw [Own, textsOf, List.forall_mem_cons, List.forall_mem_singleton]
    rw [Flow.forall_mem_preorder, hown, ofNode]
    simp only [keeps_append, keeps_ofSeen, hheading, hnote, hbody, true_and, Node.children, List.forall_mem_singleton]
  | .function l body => by
    have hbody := ofBody_keeps (indent + 2) body
    have hheading := @keeps_headed Q "[FUNCTION: " (by simp [leads]) l "]:" indent
    have hown : Own Q (.function l body) ↔ Breaks Q ("[FUNCTION: " ++ l ++ "]:") := List.forall_mem_singleton
    rw [Flow.forall_mem_preorder, hown, ofNode, keeps_append, hheading, hbody, Node.children, List.forall_mem_singleton]
  | .promise l body => by
    have hbody := ofBody_keeps (indent + 2) body
    have hheading := @keeps_headed Q "[PROMISE: " (by simp [leads]) l "]:" indent
    have hown : Own Q (.promise l body) ↔ Breaks Q ("[PROMISE: " ++ l ++ "]:") := List.forall_mem_singleton
    rw [Flow.forall_mem_preorder, hown, ofNode, keeps_append, hheading, hbody, Node.children, List.forall_mem_singleton]

theorem ofNodes_keeps (indent : ℕ) : ∀ ns : List Node, (ofNodes indent ns).Keeps Q ↔ Flow.Every (Own Q) ns
  | [] => by simp [ofNodes, keeps_empty, Flow.every_nil]
  | n :: ns => by
    have hn := ofNode_keeps indent n
    have hns := ofNodes_keeps indent ns
    rw [ofNodes, keeps_append, hn, hns, Flow.every_node_cons]

theorem ofBody_keeps (indent : ℕ) : ∀ ns : List Node, (ofBody indent ns).Keeps Q ↔ Flow.Every (Own Q) ns
  | [] => by
    have hremark : (Summary.note indent "(empty)").Keeps Q := keeps_remark (by simp [remarks]) _
    simp [ofBody, hremark, Flow.every_nil]
  | n :: ns => by
    have hn := ofNode_keeps indent n
    have hns := ofNodes_keeps indent ns
    rw [ofBody, keeps_append, hn, hns, Flow.every_node_cons]

theorem ofNoSide_keeps (indent : ℕ) : ∀ ns : List Node, (ofNoSide indent ns).Keeps Q ↔ Flow.Every (Own Q) ns
  | [] => by
    have hremark : (Summary.note (indent + 2) "NO branch: (continue)").Keeps Q := keeps_remark (by simp [remarks]) _
    simp [ofNoSide, hremark, Flow.every_nil]
  | n :: ns => by
    have hn := ofNode_keeps (indent + 4) n
    have hns := ofNodes_keeps (indent + 4) ns
    have hremark : (Summary.note (indent + 2) "NO branch:").Keeps Q := keeps_remark (by simp [remarks]) _
    rw [ofNoSide, keeps_append, keeps_append, and_iff_right hremark, hn, hns, Flow.every_node_cons]

theorem ofCleanup_keeps (indent : ℕ) : ∀ ns : List Node, (ofCleanup indent ns).Keeps Q ↔ Flow.Every (Own Q) ns
  | [] => by simp [ofCleanup, keeps_empty, Flow.every_nil]
  | n :: ns => by
    have hn := ofNode_keeps (indent + 4) n
    have hns := ofNodes_keeps (indent + 4) ns
    have hremark : (Summary.note (indent + 2) "FINALLY:").Keeps Q := keeps_remark (by simp [remarks]) _
    rw [ofCleanup, keeps_append, keeps_append, and_iff_right hremark, hn, hns, Flow.every_node_cons]

theorem ofCases_keeps (indent : ℕ) : ∀ cases : List Case, (ofCases indent cases).Keeps Q ↔
    ∀ c ∈ cases, Breaks Q ("CASE [" ++ c.label ++ "]:") ∧ Flow.Every (Own Q) c.body
  | [] => by simp [ofCases, keeps_empty]
  | ⟨l, body⟩ :: cases => by
    have hbody := ofBody_keeps (indent + 4) body
    have hcases := ofCases_keeps indent cases
    rw [ofCases, keeps_append, keeps_append, keeps_noted "CASE [" (by simp [leads]), hbody, hcases, List.forall_mem_cons]
    rfl

end

end Keeps

/-! ### The whole outline -/

/-- What the hint says of the events of a flow. -/
def handlersText (nodes : List Node) : String :=
  "EventWait branches to: " ++ ", ".intercalate ((Flow.events nodes).map subscription)

/-- The texts that the outline of a flow writes for its nodes, and for its events together. -/
def written (nodes : List Node) : List String := (Flow.preorder nodes).flatMap textsOf ++ [handlersText nodes]

section Whole
variable {Q : String → Prop} {nodes : List Node}

theorem written_breaks : (∀ text ∈ written nodes, Breaks Q text) ↔
    Flow.Every (Own Q) nodes ∧ Breaks Q (handlersText nodes) := by
  rw [written, List.forall_mem_append, List.forall_mem_singleton, List.forall_mem_flatMap]
  rfl

theorem numbered_breaks (first : ℕ) (steps : List Step) :
    (∀ e ∈ numbered first steps, Breaks Q e.body) ↔ ∀ s ∈ steps, Own Q (.step s) := by
  induction steps generalizing first with
  | nil => simp [numbered]
  | cons s steps ih =>
    have hown : Own Q (.step s) ↔ Breaks Q (stepText s) := List.forall_mem_singleton
    rw [numbered, List.forall_mem_cons, List.forall_mem_cons, ih, hown]
    rfl

/-- A flow is made of the steps of its top level and of its constructs. -/
theorem every_split {P : Node → Prop} (nodes : List Node) :
    Flow.Every P nodes ↔ (∀ s ∈ nodes.filterMap Node.step?, P (.step s)) ∧ Flow.Every P (constructs nodes) := by
  induction nodes with
  | nil => simp [constructs, Flow.every_nil]
  | cons n ns ih =>
    rw [Flow.every_cons, ih]
    cases hn : n.step? with
    | some s =>
      obtain rfl : n = .step s := by
        cases n <;> cases hn
        rfl
      have hleft : constructs (.step s :: ns) = constructs ns := rfl
      have hleaf : ∀ body ∈ (Node.step s).children, Flow.Every P body := nofun
      rw [hleft, List.filterMap_cons_some hn, List.forall_mem_cons, and_iff_left hleaf, and_assoc]
    | none =>
      have hleft : constructs (n :: ns) = n :: constructs ns := List.filter_cons_of_pos (by simp [Node.isStep, hn])
      rw [hleft, List.filterMap_cons_none hn, Flow.every_cons]
      exact and_left_comm

theorem handlersText_one_line (h : Flow.events nodes = []) : Breaks Q (handlersText nodes) := by
  have hnone : ", ".intercalate ((Flow.events nodes).map subscription) = "" := by simp [h]
  have htext : handlersText nodes = "EventWait branches to: " := by
    unfold handlersText
    rw [hnone]
    exact String.append_empty
  have hline : Unbroken "EventWait branches to: " := by decide
  rw [htext]
  exact breaks_of_unbroken hline

theorem stepNames_unbroken (count : ℕ) : Unbroken (String.join ((stepNames count).map (· ++ " → "))) := by
  rw [stepNames, List.map_map]
  exact unbroken_join (List.forall_mem_map.mpr fun i _ =>
    unbroken_append.mpr ⟨unbroken_append.mpr ⟨by decide, unbroken_toString (i + 1)⟩, by decide⟩)

/-- The lines of a hint are no marks, and only what it says of the events can be broken. -/
theorem hint_lines {hint : Hint} (h : hint.Suits nodes) :
    (∀ text ∈ hint.lines, Opens text) ∧ ((∀ text ∈ hint.lines, Breaks Q text) ↔ Breaks Q (handlersText nodes)) := by
  have hfixed {texts : List String} (hnone : Flow.events nodes = [])
      (htexts : ∀ text ∈ texts, Opens text ∧ Unbroken text) : (∀ text ∈ texts, Opens text) ∧
        ((∀ text ∈ texts, Breaks Q text) ↔ Breaks Q (handlersText nodes)) :=
    ⟨fun text ht => (htexts text ht).1, iff_of_true (fun text ht => breaks_of_unbroken (htexts text ht).2)
      (handlersText_one_line hnone)⟩
  cases hint with
  | events count handlers =>
    obtain ⟨-, rfl, -⟩ := h
    have hpath : Opens "Main path: Start → " ∧ Unbroken "Main path: Start → " := by decide
    have hmain : Unbroken ("Main path: Start → " ++ String.join ((stepNames count).map (· ++ " → ")) ++ "EventWait") :=
      framed_unbroken hpath.2 (stepNames_unbroken count) (by decide)
    have hwait : Opens "EventWait branches to: " := by decide
    have hends : ∀ text ∈ ["Each handler branch ends at: End",
        "!! CRITICAL: each handler = its own unique node. NEVER merge same-event handlers."],
        Opens text ∧ Unbroken text := by decide
    rw [Hint.lines]
    simp only [List.forall_mem_cons] at hends ⊢
    exact ⟨⟨(hpath.1.append _).append _, hwait.append _, hends.1.1, hends.2.1.1, nofun⟩,
      fun hall => hall.2.1, fun htext => ⟨breaks_of_unbroken hmain, htext, breaks_of_unbroken hends.1.2,
        breaks_of_unbroken hends.2.1.2, nofun⟩⟩
  | tries => exact hfixed h.1 (by decide)
  | decisions => exact hfixed h.1 (by decide)
  | loops => exact hfixed h.1 (by decide)
  | linear => exact hfixed h.1 (by decide)

/-- The entries between the header and the numbered steps. -/
def preamble (nodes : List Node) (language : String) : List Entry :=
  [.note 0 ("Language: " ++ language ++ "\n"), .note 0 "[SEQUENTIAL STEPS - execute in this exact order]:"] ++
    stepsRemark (topSteps nodes) (constructs nodes)

/-- The entries between the numbered steps and the footer. -/
def remainder (nodes : List Node) : List Entry :=
  (ofNodes 0 (constructs nodes)).entries ++ .heading 0 "[FLOWCHART STRUCTURE HINT]:" ::
    (hint (topSteps nodes).length (seenAfter .none nodes)).lines.map (.note 2)

theorem entries_eq (nodes : List Node) (language : String) : entries .none nodes language =
    .note 0 header :: (preamble nodes language ++ (numbered 1 (topSteps nodes) ++
      (remainder nodes ++ [.heading 0 footer]))) := by
  simp [entries, preamble, remainder]

theorem preamble_quiet (nodes : List Node) (language : String) : ∀ e ∈ preamble nodes language, e.Quiet := by
  have hlanguage : Opens "Language: " := by decide
  have hremark : ∀ e ∈ stepsRemark (topSteps nodes) (constructs nodes), e.Quiet := by
    unfold stepsRemark
    split
    · exact nofun
    · split
      · exact List.forall_mem_singleton.mpr (quiet_note (by decide) 2)
      · exact List.forall_mem_singleton.mpr (quiet_note (by decide) 2)
  rw [preamble, List.forall_mem_append, List.forall_mem_cons, List.forall_mem_singleton]
  exact ⟨⟨quiet_note ((hlanguage.append _).append _) 0, quiet_note (by decide) 0⟩, hremark⟩

theorem preamble_breaks {language : String} (hlanguage : Unbroken language) (hempty : Q "") (nodes : List Node) :
    ∀ e ∈ preamble nodes language, Breaks Q e.body := by
  have hline : Breaks Q ("Language: " ++ language ++ "\n") := by
    have hlead : Unbroken ("Language: " ++ language) := unbroken_append.mpr ⟨by decide, hlanguage⟩
    rw [Breaks, later_append hlead]
    exact List.forall_mem_singleton.mpr hempty
  have hremark : ∀ e ∈ stepsRemark (topSteps nodes) (constructs nodes), Breaks Q e.body := by
    unfold stepsRemark
    split
    · exact nofun
    · split
      · exact List.forall_mem_singleton.mpr (breaks_of_unbroken (by decide))
      · exact List.forall_mem_singleton.mpr (breaks_of_unbroken (by decide))
  rw [preamble, List.forall_mem_append, List.forall_mem_cons, List.forall_mem_singleton]
  exact ⟨⟨hline, breaks_of_unbroken (by decide)⟩, hremark⟩

theorem ofNodes_quiet (ns : List Node) : ∀ e ∈ (ofNodes 0 ns).entries, e.Quiet := by
  have hall : (ofNodes 0 ns).Keeps fun _ => True := (ofNodes_keeps 0 ns).mpr fun _ _ _ _ _ _ => trivial
  exact fun e he => (hall e he).1

theorem ofNodes_breaks (ns : List Node) :
    (∀ e ∈ (ofNodes 0 ns).entries, Breaks Q e.body) ↔ Flow.Every (Own Q) ns := by
  rw [← ofNodes_keeps 0 ns]
  exact ⟨fun h e he => ⟨ofNodes_quiet ns e he, h e he⟩, fun h e he => (h e he).2⟩

theorem remainder_quiet (hcount : (topSteps nodes).length = (nodes.filter Node.isStep).length) :
    ∀ e ∈ remainder nodes, e.Quiet := by
  have hhint := (hint_lines (Q := fun _ => True) (hint_suits hcount)).1
  rw [remainder, List.forall_mem_append, List.forall_mem_cons, List.forall_mem_map]
  exact ⟨ofNodes_quiet _, quiet_heading (by decide) 0, fun text ht => quiet_note (hhint text ht) 2⟩

theorem remainder_breaks (hcount : (topSteps nodes).length = (nodes.filter Node.isStep).length) :
    (∀ e ∈ remainder nodes, Breaks Q e.body) ↔
      Flow.Every (Own Q) (constructs nodes) ∧ Breaks Q (handlersText nodes) := by
  have hheading : Breaks Q (Entry.heading 0 "[FLOWCHART STRUCTURE HINT]:").body := breaks_of_unbroken (by decide)
  rw [remainder, List.forall_mem_append, List.forall_mem_cons, List.forall_mem_map, ofNodes_breaks,
    and_iff_right hheading]
  exact and_congr_right fun _ => (hint_lines (hint_suits hcount)).2

/-- Without lines that are broken off, what is written opens one header, one footer and a line for each numbered step. -/
theorem entries_breaks {language : String} (hlanguage : Unbroken language) (hempty : Q "")
    (hknown : ∀ s, .step s ∈ nodes → s.kind ∈ Step.kinds) :
    (∀ line ∈ brokenOff (entries .none nodes language), Q line) ↔ ∀ text ∈ written nodes, Breaks Q text := by
  have hends : Breaks Q (Entry.note 0 header).body ∧ Breaks Q (Entry.heading 0 footer).body :=
    ⟨breaks_of_unbroken (by decide), breaks_of_unbroken (by decide)⟩
  have hall : (∀ line ∈ brokenOff (entries .none nodes language), Q line) ↔
      ∀ e ∈ entries .none nodes language, Breaks Q e.body := List.forall_mem_flatMap
  rw [hall, entries_eq, List.forall_mem_cons, List.forall_mem_append, List.forall_mem_append, List.forall_mem_append,
    List.forall_mem_singleton, and_iff_right hends.1, and_iff_left hends.2,
    and_iff_right (preamble_breaks hlanguage hempty nodes), numbered_breaks, remainder_breaks (length_topSteps hknown),
    topSteps_eq hknown, written_breaks, every_split nodes, and_assoc]

/-- The lines that are opened in a list of quiet entries hold no marks. -/
theorem countP_quiet {p : String → Bool} (hp : ∀ line, p line = true → IsMark line) {es : List Entry}
    (h : ∀ e ∈ es, e.Quiet) : (es.flatMap Entry.opening).countP p = 0 := by
  rw [List.countP_eq_zero, List.forall_mem_flatMap]
  exact fun e he line hline hmark => h e he line hline (hp line hmark)

theorem numbered_opening (first : ℕ) (steps : List Step) :
    ((numbered first steps).flatMap Entry.opening).length = steps.length ∧
      ∀ line ∈ (numbered first steps).flatMap Entry.opening, isStepLine line = true := by
  induction steps generalizing first with
  | nil => exact ⟨rfl, nofun⟩
  | cons s steps ih =>
    obtain ⟨hlength, hlines⟩ := ih (first + 1)
    have hline : isStepLine ("  Step " ++ toString first ++ ": " ++ firstLine (stepText s)) = true := by
      rw [isStepLine, List.isPrefixOf_iff_prefix, String.append_assoc, String.append_assoc, String.toList_append]
      exact List.prefix_append _ _
    rw [numbered, List.flatMap_cons, Entry.opening]
    exact ⟨by rw [List.length_append, hlength, List.length_singleton, List.length_cons, Nat.add_comm],
      List.forall_mem_cons.mpr ⟨hline, hlines⟩⟩

/-- The marks that an outline opens. -/
theorem countP_opening {p : String → Bool} (hp : ∀ line, p line = true → IsMark line)
    (hknown : ∀ s, .step s ∈ nodes → s.kind ∈ Step.kinds) (language : String) :
    ((entries .none nodes language).flatMap Entry.opening).countP p =
      [header, footer].countP p + ((numbered 1 (topSteps nodes)).flatMap Entry.opening).countP p := by
  have hpreamble := countP_quiet hp (preamble_quiet nodes language)
  have hremainder := countP_quiet hp (remainder_quiet (length_topSteps hknown))
  have hheader : (Entry.note 0 header).opening = [header] := by decide
  have hfooter : [Entry.heading 0 footer].flatMap Entry.opening = ["", footer] := by decide
  have hempty : p "" = false := by
    by_contra htrue
    exact absurd (hp "" (Bool.not_eq_false _ ▸ htrue)) (by decide)
  rw [entries_eq, List.flatMap_cons, List.flatMap_append, List.flatMap_append, List.flatMap_append, hheader, hfooter]
  simp only [List.countP_append, hpreamble, hremainder, List.countP_cons, List.countP_nil, hempty, Bool.false_eq_true,
    if_false]
  omega

/-- An outline has one header and one footer, and as many lines for steps as given. -/
structure Marked (text : String) (steps : ℕ) : Prop where
  header : (sourceLines text).count header = 1
  footer : (sourceLines text).count footer = 1
  steps : (sourceLines text).countP isStepLine = steps

/-- What is counted of the marks of an outline, apart from those that are broken off. -/
theorem count_marks (hknown : ∀ s, .step s ∈ nodes → s.kind ∈ Step.kinds) (language : String) :
    (sourceLines (summarize nodes language)).count header = 1 + (brokenOff (entries .none nodes language)).count header ∧
      (sourceLines (summarize nodes language)).count footer =
        1 + (brokenOff (entries .none nodes language)).count footer ∧
      (sourceLines (summarize nodes language)).countP isStepLine =
        (nodes.filter Node.isStep).length + (brokenOff (entries .none nodes language)).countP isStepLine := by
  have hne : entries .none nodes language ≠ [] := by
    rw [entries_eq]
    exact List.cons_ne_nil _ _
  obtain ⟨hlength, hsteps⟩ := numbered_opening 1 (topSteps nodes)
  have hall {p : String → Bool} (hp : ∀ line, p line = true → IsMark line) :
      (sourceLines (summarize nodes language)).countP p = [header, footer].countP p +
        ((numbered 1 (topSteps nodes)).flatMap Entry.opening).countP p +
          (brokenOff (entries .none nodes language)).countP p := by
    rw [← countP_opening hp hknown language]
    exact countP_sourceLines p hne
  have hother {mark : String} (hmark : isStepLine mark = false) :
      ((numbered 1 (topSteps nodes)).flatMap Entry.opening).countP (· == mark) = 0 := by
    refine List.count_eq_zero.mpr fun hmem => ?_
    rw [hsteps mark hmem] at hmark
    cases hmark
  have hnumbered : ((numbered 1 (topSteps nodes)).flatMap Entry.opening).countP isStepLine =
      (nodes.filter Node.isStep).length := by
    rw [List.countP_eq_length.mpr hsteps, hlength, length_topSteps hknown]
  refine ⟨?_, ?_, ?_⟩
  · have hends : [header, footer].countP (· == header) = 1 := by decide
    rw [List.count, hall fun line h => .inl (eq_of_beq h), hends, hother (by decide)]
  · have hends : [header, footer].countP (· == footer) = 1 := by decide
    rw [List.count, hall fun line h => .inr (.inl (eq_of_beq h)), hends, hother (by decide)]
  · have hends : [header, footer].countP isStepLine = 0 := by decide
    rw [hall fun line h => .inr (.inr h), hends, hnumbered, Nat.zero_add]

/-- An outline of known steps is marked right exactly if no text that it writes for a node breaks off a line that is a
mark. -/
theorem summarize_marked_iff {language : String} (hlanguage : Unbroken language)
    (hknown : ∀ s, .step s ∈ nodes → s.kind ∈ Step.kinds) :
    Marked (summarize nodes language) (nodes.filter Node.isStep).length ↔
      ∀ text ∈ written nodes, ∀ line ∈ later text, ¬ IsMark line := by
  obtain ⟨hheader, hfooter, hsteps⟩ := count_marks hknown language
  refine Iff.trans ?_ (entries_breaks hlanguage (by decide) hknown)
  constructor
  · rintro ⟨h1, h2, h3⟩ line hline (rfl | rfl | hstep)
    · have hpos := List.count_pos_iff.mpr hline
      omega
    · have hpos := List.count_pos_iff.mpr hline
      omega
    · have hpos := List.countP_pos_iff.mpr ⟨line, hline, hstep⟩
      omega
  · intro hnone
    have h1 : (brokenOff (entries .none nodes language)).count header = 0 :=
      List.count_eq_zero.mpr fun hmem => hnone _ hmem (.inl rfl)
    have h2 : (brokenOff (entries .none nodes language)).count footer = 0 :=
      List.count_eq_zero.mpr fun hmem => hnone _ hmem (.inr (.inl rfl))
    have h3 : (brokenOff (entries .none nodes language)).countP isStepLine = 0 :=
      List.countP_eq_zero.mpr fun line hmem hstep => hnone line hmem (.inr (.inr hstep))
    exact ⟨by omega, by omega, by omega⟩

end Whole

end FlowSketch.Summary
