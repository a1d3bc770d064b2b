import FlowSketch.Proofs.FlowNodes
import FlowSketch.Proofs.IndentedTree
import FlowSketch.Proofs.TextCuts
import FlowSketch.Proofs.TextWords

/-!
# The tree of a mind map

The texts of a mind map are plain and stay on their lines, so the indentation of the lines gives back the outline of the
flow.
-/
namespace FlowSketch
namespace Mindmap
open TextBlank FlowSketch.Flow

/-! ### Plain texts -/

/-- Words with single spaces between them, and the signs `.,-`. -/
structure Plain (text : String) : Prop where
  ne_nil : text.toList ≠ []
  chars : ∀ c ∈ text.toList, TextWord.isWord c ∨ c = ' ' ∨ c = '.' ∨ c = ',' ∨ c = '-'
  single : SingleSpaced text.toList
  first : text.toList.head? ≠ some ' '
  last : text.toList.getLast? ≠ some ' '

theorem Plain.newline_notMem {text : String} (h : Plain text) : '\n' ∉ text.toList := by
  intro hmem
  have hchar := h.chars '\n' hmem
  rw [isWord_of_isBlank (by decide)] at hchar
  simp at hchar

theorem mem_safeChars {c : Char} {cs : List Char} (h : c ∈ safeChars cs) :
    TextWord.isWord c ∨ c = ' ' ∨ c = '.' ∨ c = ',' ∨ c = '-' := by
  rcases mem_joinWords (List.mem_of_mem_take (mem_dropEndBlanks h)) with hspace | ⟨w, hw, hc⟩
  · exact .inr (.inl hspace)
  · obtain ⟨d, -, hd⟩ := List.mem_map.mp (words_subset hw hc)
    have hblank : isBlank c = false := words_not_blank hw c hc
    split at hd
    · next hsafe =>
      rw [hd, isSafe, hblank, Bool.or_false] at hsafe
      refine .imp_right .inr ?_
      simpa [or_assoc] using hsafe
    · exact .inr (.inl hd.symm)

theorem safe_plain {text : String} (h : safe text ≠ "") : Plain (safe text) := by
  have hwords {cs : List Char} : AreWords cs (words cs) := fun _ hw => hw
  have hfront {cs : List Char} : dropEndBlanks ((squeeze cs).take maxLength) <+: squeeze cs :=
    (dropEndBlanks_isPrefix _).trans (List.take_prefix _ _)
  have hchars : (safe text).toList = safeChars text.toList := String.toList_ofList
  have hne : safeChars text.toList ≠ [] := fun hnil => h (String.toList_inj.mp (hchars.trans hnil))
  refine ⟨hchars ▸ hne, ?_, ?_, ?_, ?_⟩
  · exact hchars ▸ fun c hc => mem_safeChars hc
  · exact hchars ▸ List.IsChain.prefix (singleSpaced_joinWords hwords) hfront
  · intro hspace
    obtain ⟨rest, hrest⟩ := hfront
    rw [hchars, safeChars] at hspace
    have hfirst : (squeeze (text.toList.map fun c => if isSafe c then c else ' ')).head? ≠ some ' ' :=
      head?_joinWords hwords
    rw [← hrest, List.head?_append, hspace] at hfirst
    exact hfirst rfl
  · exact hchars ▸ getLast?_dropEndBlanks _

/-- A text that begins with a safe character has something to show. -/
theorem safe_ne_empty {text : String} {c : Char} {cs : List Char} (htext : text.toList = c :: cs) (hsafe : isSafe c = true)
    (hblank : isBlank c = false) : safe text ≠ "" := by
  intro hempty
  have hnil : safeChars (c :: cs) = [] := by rw [← htext, ← String.toList_ofList (l := safeChars _), ← safe, hempty]; rfl
  obtain ⟨rest, hrest⟩ := squeeze_cons hblank (cs.map fun d => if isSafe d then d else ' ')
  rw [safeChars, List.map_cons, if_pos hsafe, hrest] at hnil
  exact dropEndBlanks_ne_nil List.mem_cons_self hblank hnil

/-! ### Outlines -/

mutual

/-- The trees that one node is drawn as. -/
def outlineOf : Node → List Tree
  | .step s => if (safe s.label).isEmpty then [] else [.node (safe s.label) []]
  | .function l body => [.node (safe ("Function " ++ l)) (outline body)]
  | .decision c yes no => [.node (safe ("If " ++ c)) (side "Yes" yes ++ side "No" no)]
  | .loop l _ body => [.node (safe ("Loop " ++ l)) (outline body)]
  | .tryCatch body p handler cleanup =>
    .node "Try" (outline body) :: .node (safe ("Catch " ++ p)) (outline handler) :: side "Finally" cleanup
  | .switch l cases => [.node (safe l) (outlineCases cases)]
  | .event s n _ body => [.node (safe ("On " ++ n ++ " of " ++ s)) (outline body)]
  | .promise l body => [.node (safe l) (outline body)]

/-- The outline of a flow: a step is a leaf, if there is anything to show of it, and a construct stands over what it
owns. -/
def outline : List Node → List Tree
  | [] => []
  | n :: ns => outlineOf n ++ outline ns

/-- A side that is not empty has a tree of its own. -/
def side (name : String) : List Node → List Tree
  | [] => []
  | n :: ns => [.node name (outlineOf n ++ outline ns)]

def outlineCases : List Case → List Tree
  | [] => []
  | ⟨l, body⟩ :: cases => .node (safe ("Case " ++ l)) (outline body) :: outlineCases cases

end

/-- A node that has no text in front of its label has something to show. -/
def Titled : Node → Prop
  | .switch l _ | .promise l _ => safe l ≠ ""
  | _ => True

instance : DecidablePred Titled := fun n =>
  match n with
  | .switch l _ | .promise l _ => inferInstanceAs (Decidable (safe l ≠ ""))
  | .step _ | .decision .. | .loop .. | .tryCatch .. | .event .. | .function .. => .isTrue trivial

theorem safe_append_ne {name : String} {c : Char} {cs : List Char} (hname : name.toList = c :: cs)
    (hsafe : isSafe c = true) (hblank : isBlank c = false) (l : String) : safe (name ++ l) ≠ "" :=
  safe_ne_empty (by rw [String.toList_append, hname, List.cons_append]) hsafe hblank

theorem under_entry {text : String} (h : safe text ≠ "") (depth : ℕ) (children : List Tree) :
    entry depth text ++ rows (depth + 1) children = rows depth [.node (safe text) children] := by
  have hentry : entry depth text = [⟨depth, safe text⟩] := if_neg (by simpa [String.isEmpty_iff] using h)
  rw [hentry, rows, Tree.rows, rows, List.append_nil]
  rfl

mutual

theorem ofNode_eq (depth : ℕ) : ∀ n : Node, (∀ m ∈ n.preorder, Titled m) → ofNode depth n = rows depth (outlineOf n)
  | .step s, _ => by
    rw [ofNode, outlineOf, entry]
    split <;> rfl
  | .function l body, h => by
    have hbody := ofNodes_eq (depth + 1) body ((forall_mem_preorder.mp h).2 body (by simp [Node.children]))
    rw [ofNode, outlineOf, hbody, under_entry (safe_append_ne rfl (by decide) (by decide) l)]
  | .decision c yes no, h => by
    obtain ⟨-, hbodies⟩ := forall_mem_preorder.mp h
    have hyes : ofSide (depth + 1) "Yes" yes = _ := ofSide_eq (depth + 1) (by decide) yes (hbodies yes (by simp [Node.children]))
    have hno : ofSide (depth + 1) "No" no = _ := ofSide_eq (depth + 1) (by decide) no (hbodies no (by simp [Node.children]))
    rw [ofNode, outlineOf, hyes, hno, List.append_assoc, ← rows_append,
      under_entry (safe_append_ne rfl (by decide) (by decide) c)]
  | .loop l k body, h => by
    have hbody := ofNodes_eq (depth + 1) body ((forall_mem_preorder.mp h).2 body (by simp [Node.children]))
    rw [ofNode, outlineOf, hbody, under_entry (safe_append_ne rfl (by decide) (by decide) l)]
  | .tryCatch body p handler cleanup, h => by
    obtain ⟨-, hbodies⟩ := forall_mem_preorder.mp h
    have hbody := ofNodes_eq (depth + 1) body (hbodies body (by simp [Node.children]))
    have hhandler := ofNodes_eq (depth + 1) handler (hbodies handler (by simp [Node.children]))
    have hcleanup : ofSide depth "Finally" cleanup = _ :=
      ofSide_eq depth (by decide) cleanup (hbodies cleanup (by simp [Node.children]))
    have htry : safe "Try" = "Try" := by decide
    have hcatch : safe ("Catch " ++ p) ≠ "" := safe_append_ne rfl (by decide) (by decide) p
    rw [ofNode, outlineOf, hbody, hhandler, hcleanup, under_entry (by decide), htry, List.append_assoc _ (entry _ _),
      under_entry hcatch, ← rows_append, ← rows_append]
    rfl
  | .switch l cases, h => by
    obtain ⟨hlabel, hbodies⟩ := forall_mem_preorder.mp h
    have hcases := ofCases_eq (depth + 1) cases (by simpa [Node.children] using hbodies)
    rw [ofNode, outlineOf, hcases, under_entry hlabel]
  | .event s n l body, h => by
    have hbody := ofNodes_eq (depth + 1) body ((forall_mem_preorder.mp h).2 body (by simp [Node.children]))
    have htext : safe ("On " ++ n ++ " of " ++ s) ≠ "" := by
      rw [String.append_assoc, String.append_assoc]
      exact safe_append_ne rfl (by decide) (by decide) _
    rw [ofNode, outlineOf, hbody, under_entry htext]
  | .promise l body, h => by
    obtain ⟨hlabel, hbodies⟩ := forall_mem_preorder.mp h
    have hbody := ofNodes_eq (depth + 1) body (hbodies body (by simp [Node.children]))
    rw [ofNode, outlineOf, hbody, under_entry hlabel]

theorem ofNodes_eq (depth : ℕ) : ∀ ns : List Node, Every Titled ns → ofNodes depth ns = rows depth (outline ns)
  | [], _ => rfl
  | n :: ns, h => by
    obtain ⟨hn, hns⟩ := List.forall_mem_append.mp h
    rw [ofNodes, outline, rows_append, ofNode_eq depth n hn, ofNodes_eq depth ns hns]

theorem ofSide_eq (depth : ℕ) {name : String} (hname : safe name = name ∧ name ≠ "") : ∀ ns : List Node, Every Titled ns →
    ofSide depth name ns = rows depth (side name ns)
  | [], _ => rfl
  | n :: ns, h => by
    obtain ⟨hn, hns⟩ := List.forall_mem_append.mp h
    rw [ofSide, side, ofNode_eq (depth + 1) n hn, ofNodes_eq (depth + 1) ns hns, ← rows_append,
      under_entry (hname.1.symm ▸ hname.2), hname.1]

theorem ofCases_eq (depth : ℕ) : ∀ cases : List Case, (∀ c ∈ cases, Every Titled c.body) →
    ofCases depth cases = rows depth (outlineCases cases)
  | [], _ => rfl
  | ⟨l, body⟩ :: cases, h => by
    obtain ⟨hfirst, hlater⟩ := List.forall_mem_cons.mp h
    rw [ofCases, outlineCases, ofNodes_eq (depth + 1) body hfirst, ofCases_eq depth cases hlater,
      under_entry (safe_append_ne rfl (by decide) (by decide) l), ← rows_append]
    rfl

end

/-! ### Texts of entries -/

theorem entry_plain (depth : ℕ) (text : String) : ∀ e ∈ entry depth text, Plain e.text := by
  rw [entry]
  split
  · simp
  · next hne => exact List.forall_mem_singleton.mpr (safe_plain (by simpa [String.isEmpty_iff] using hne))

mutual

theorem ofNode_plain (depth : ℕ) : ∀ n : Node, ∀ e ∈ ofNode depth n, Plain e.text
  | .step s => entry_plain depth s.label
  | .function l body => List.forall_mem_append.mpr ⟨entry_plain depth _, ofNodes_plain (depth + 1) body⟩
  | .decision c yes no => by
    simp only [ofNode, List.forall_mem_append]
    exact ⟨⟨entry_plain depth _, ofSide_plain (depth + 1) "Yes" yes⟩, ofSide_plain (depth + 1) "No" no⟩
  | .loop l k body => List.forall_mem_append.mpr ⟨entry_plain depth _, ofNodes_plain (depth + 1) body⟩
  | .tryCatch body p handler cleanup => by
    simp only [ofNode, List.forall_mem_append]
    exact ⟨⟨⟨⟨entry_plain depth _, ofNodes_plain (depth + 1) body⟩, entry_plain depth _⟩,
      ofNodes_plain (depth + 1) handler⟩, ofSide_plain depth "Finally" cleanup⟩
  | .switch l cases => List.forall_mem_append.mpr ⟨entry_plain depth _, ofCases_plain (depth + 1) cases⟩
  | .event s n l body => List.forall_mem_append.mpr ⟨entry_plain depth _, ofNodes_plain (depth + 1) body⟩
  | .promise l body => List.forall_mem_append.mpr ⟨entry_plain depth _, ofNodes_plain (depth + 1) body⟩

/-- Every text of a mind map is plain. -/
theorem ofNodes_plain (depth : ℕ) : ∀ ns : List Node, ∀ e ∈ ofNodes depth ns, Plain e.text
  | [] => nofun
  | n :: ns => List.forall_mem_append.mpr ⟨ofNode_plain depth n, ofNodes_plain depth ns⟩

theorem ofSide_plain (depth : ℕ) (name : String) : ∀ ns : List Node, ∀ e ∈ ofSide depth name ns, Plain e.text
  | [] => nofun
  | n :: ns => by
    simp only [ofSide, List.forall_mem_append]
    exact ⟨entry_plain depth name, ofNode_plain (depth + 1) n, ofNodes_plain (depth + 1) ns⟩

theorem ofCases_plain (depth : ℕ) : ∀ cases : List Case, ∀ e ∈ ofCases depth cases, Plain e.text
  | [] => nofun
  | ⟨l, body⟩ :: cases => by
    simp only [ofCases, List.forall_mem_append]
    exact ⟨⟨entry_plain depth _, ofNodes_plain (depth + 1) body⟩, ofCases_plain depth cases⟩

end

/-! ### Lines -/

def indentation (line : String) : ℕ := (line.toList.takeWhile (· == ' ')).length

/-- The indentation of a line and the text behind it. -/
def readLine (line : String) : ℕ × String := (indentation line, .ofList (line.toList.dropWhile (· == ' ')))

/-- Indentation is read back where the text does not begin with a space itself. -/
theorem readLine_line {e : Entry} (h : e.text.toList.head? ≠ some ' ') : readLine e.line = e.indented := by
  have hspaces : ∀ c ∈ List.replicate (2 * e.depth) ' ', (c == ' ') = true := fun c hc => by
    rw [List.eq_of_mem_replicate hc]
    rfl
  have hchars : e.line.toList = List.replicate (2 * e.depth) ' ' ++ e.text.toList := by
    rw [Entry.line, String.toList_append, String.toList_ofList]
  have htext : e.text.toList.takeWhile (· == ' ') = [] ∧ e.text.toList.dropWhile (· == ' ') = e.text.toList := by
    cases htail : e.text.toList with
    | nil => exact ⟨rfl, rfl⟩
    | cons c cs =>
      have hc : ¬ (c == ' ') = true := fun heq => h (by rw [htail, List.head?_cons, eq_of_beq heq])
      exact ⟨List.takeWhile_cons_of_neg hc, List.dropWhile_cons_of_neg hc⟩
  rw [readLine, indentation, hchars, List.takeWhile_append_of_pos hspaces, List.dropWhile_append_of_pos hspaces,
    htext.1, htext.2, List.append_nil, List.length_replicate, String.ofList_toList]
  rfl

/-- What the root shows: the title, if there is anything to show of it. -/
def rootName (title : String) : String := if (safe title).isEmpty then defaultTitle else safe title

def rootText (title : String) : String := "root((\"" ++ rootName title ++ "\"))"

theorem rootName_plain (title : String) : Plain (rootName title) := by
  rw [rootName]
  split
  · have hdefault : safe defaultTitle = defaultTitle := by decide
    exact hdefault ▸ safe_plain (by decide)
  · next hne => exact safe_plain (by simpa [String.isEmpty_iff] using hne)

/-- The whole map as one tree. -/
def tree (nodes : List Node) (title : String) : Tree := .node header [.node (rootText title) (outline nodes)]

theorem rows_tree (nodes : List Node) (title : String) :
    rows 0 [tree nodes title] = ⟨0, header⟩ :: ⟨1, rootText title⟩ :: rows 2 (outline nodes) := by
  simp [tree, rows, Tree.rows]

theorem lines_eq {nodes : List Node} (h : Every Titled nodes) (title : String) :
    lines nodes title = (rows 0 [tree nodes title]).map Entry.line := by
  have hroot : rootLine title = (Entry.mk 1 (rootText title)).line := by
    have hspaces : String.ofList (List.replicate (2 * 1) ' ') = "  " := rfl
    rw [rootLine, Entry.line, rootText, hspaces, ← rootName, ← String.append_assoc, ← String.append_assoc]
    rfl
  rw [lines, ofNodes_eq 2 nodes h, hroot, rows_tree]
  rfl

/-- The texts of the map stay on their lines, and none begins with a space. -/
theorem rows_tree_texts {nodes : List Node} (h : Every Titled nodes) (title : String) :
    ∀ e ∈ rows 0 [tree nodes title], '\n' ∉ e.text.toList ∧ e.text.toList.head? ≠ some ' ' := by
  have hplain := ofNodes_plain 2 nodes
  rw [ofNodes_eq 2 nodes h] at hplain
  have hroot : (rootText title).toList = "root((\"".toList ++ (rootName title).toList ++ "\"))".toList := by
    rw [rootText, String.toList_append, String.toList_append]
  rw [rows_tree, List.forall_mem_cons, List.forall_mem_cons]
  refine ⟨by decide, ⟨?_, ?_⟩, fun e he => ⟨(hplain e he).newline_notMem, (hplain e he).first⟩⟩
  · simp [hroot, (rootName_plain title).newline_notMem]
  · simp [hroot]

/-- Lines that lay out a forest below a title. -/
structure LaysOut (lines : List String) (title : String) (forest : List Tree) : Prop where
  count : lines.length = 2 + size forest
  top : lines.take 2 = [header, rootLine title]
  indented : lines.drop 2 = (rows 2 forest).map Entry.line
  plain : Plain (rootName title) ∧ ∀ e ∈ rows 2 forest, Plain e.text
  gradual : lines.IsChain fun line next => indentation next ≤ indentation line + 2
  nested : Mindmap.forest (lines.map readLine) = [.node header [.node (rootText title) forest]]

/-- The lines of a mind map lay out the outline of the flow: there is one line for each tree in it, and to hang every line
under the nearest earlier one with a smaller indentation gives the outline back. -/
theorem render_laysOut (nodes : List Node) (title : String) (h : ∀ n ∈ preorder nodes, Titled n) :
    LaysOut (sourceLines (render nodes title)) title (outline nodes) := by
  have htexts := rows_tree_texts h title
  have hread : (lines nodes title).map readLine = (rows 0 [tree nodes title]).map Entry.indented := by
    rw [lines_eq h, List.map_map]
    exact List.map_congr_left fun e he => readLine_line (htexts e he).2
  have hlines : sourceLines (render nodes title) = lines nodes title := by
    refine sourceLines_lines (List.append_ne_nil_of_left_ne_nil (List.cons_ne_nil _ _) _) ?_
    rw [lines_eq h, List.forall_mem_map]
    intro e he hnewline
    rw [Entry.line, String.toList_append, String.toList_ofList, List.mem_append] at hnewline
    rcases hnewline with hspaces | htext
    · exact absurd (List.eq_of_mem_replicate hspaces) (by decide)
    · exact (htexts e he).1 htext
  rw [hlines]
  refine ⟨?_, rfl, ?_, ⟨rootName_plain title, ?_⟩, ?_, ?_⟩
  · rw [lines, List.length_append, List.length_map, ofNodes_eq 2 nodes h, length_rows]
    rfl
  · rw [← ofNodes_eq 2 nodes h]
    rfl
  · rw [← ofNodes_eq 2 nodes h]
    exact ofNodes_plain 2 nodes
  · have hrows : ((rows 0 [tree nodes title]).map Entry.indented).IsChain fun row next => next.1 ≤ row.1 + 2 := by
      rw [List.isChain_map]
      refine (rows_gradual 0 [tree nodes title]).imp fun e f hdepth => ?_
      simp only [Entry.indented]
      omega
    rw [← hread, List.isChain_map] at hrows
    exact hrows
  · rw [hread, forest_rows]
    rfl

/-- Labels with signs, line ends and nothing to show among them: the step is left out, and the case stays below its
switch. -/
theorem exotic_labels_laidOut :
    let nodes := [Node.switch "x\n (y)" [⟨"\u2028", [.step ⟨"output", "()"⟩, .promise "then" []]⟩]]
    (∀ n ∈ preorder nodes, Titled n) ∧
      forest ((sourceLines (render nodes "")).map readLine) =
        [.node "mindmap" [.node "root((\"Code structure\"))"
          [.node "x y" [.node "Case" [.node "then" []]]]]] := by
  intro nodes
  have htitled : ∀ n ∈ preorder nodes, Titled n := by decide +kernel
  have hlaysOut := render_laysOut nodes "" htitled
  have hroot : rootText "" = "root((\"Code structure\"))" := by decide +kernel
  have houtline : outline nodes = [.node (safe "x\n (y)") [.node (safe "Case \u2028")
      ((if (safe "()").isEmpty then [] else [.node (safe "()") []]) ++ [.node (safe "then") []])]] := rfl
  have hswitch : safe "x\n (y)" = "x y" := by decide +kernel
  have hcase : safe "Case \u2028" = "Case" := by decide +kernel
  have hstep : (safe "()").isEmpty = true := by decide +kernel
  have hpromise : safe "then" = "then" := by decide +kernel
  refine ⟨htitled, hlaysOut.nested.trans ?_⟩
  rw [hroot, houtline, hswitch, hcase, if_pos hstep, hpromise]
  rfl

end Mindmap
end FlowSketch
