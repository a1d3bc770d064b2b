import FlowSketch.Proofs.ChartElements
import FlowSketch.Proofs.ChartReading
import FlowSketch.Proofs.ChartScope

/-!
# The text of a chart read back

The items of a chart come back from its text as they were drawn. Node names are told apart by letters and
number, and the lines are distinct, so that dropping repeated lines changes nothing.
-/
namespace FlowSketch.ChartDrawing
open TextBlank ChartLabel ChartGraph

/-! ### Names -/

def Id.letters : Id → String
  | start => "S"
  | stop => "Z"
  | drawn mark _ => mark.letters

def Id.digits : Id → List Char
  | drawn _ number => Nat.toDigits 10 number
  | _ => []

theorem numberedName_toList (letters : String) (n : ℕ) :
    (numberedName letters n).toList = letters.toList ++ Nat.toDigits 10 n := by
  rw [numberedName, String.toList_append, Nat.toString_eq_repr, Nat.toList_repr]

theorem Id.text_toList (id : Id) : id.text.toList = id.letters.toList ++ id.digits := by
  cases id <;> simp [Id.text, Id.letters, Id.digits, numberedName_toList]

theorem Id.digits_digit (id : Id) : ∀ c ∈ id.digits, c.isDigit = true := by
  cases id with
  | drawn mark number => exact fun c hc => Nat.isDigit_of_mem_toDigits (by decide) (by decide) hc
  | start => simp [Id.digits]
  | stop => simp [Id.digits]

theorem Mark.letters_word (mark : Mark) :
    ∀ c ∈ mark.letters.toList, (!c.isDigit) = true ∧ TextWord.isWord c = true := by
  cases mark <;> simp [Mark.letters] <;> decide

theorem Mark.letters_ne_nil (mark : Mark) : mark.letters.toList ≠ [] := by
  cases mark <;> simp [Mark.letters]

theorem Mark.letters_injective {m n : Mark} (h : m.letters = n.letters) : m = n := by
  cases m <;> cases n <;> simp_all [Mark.letters]

/-- The names of the two ends are no marks. -/
theorem Mark.letters_ne (mark : Mark) : mark.letters ≠ "S" ∧ mark.letters ≠ "Z" := by
  cases mark <;> decide

theorem Id.letters_word (id : Id) :
    ∀ c ∈ id.letters.toList, (!c.isDigit) = true ∧ TextWord.isWord c = true := by
  cases id with
  | start => simp [Id.letters]; decide
  | stop => simp [Id.letters]; decide
  | drawn mark number => exact mark.letters_word

theorem Id.letters_ne_nil (id : Id) : id.letters.toList ≠ [] := by
  cases id with
  | start => simp [Id.letters]
  | stop => simp [Id.letters]
  | drawn mark number => exact mark.letters_ne_nil

theorem isWord_of_isDigit {c : Char} (h : c.isDigit = true) : TextWord.isWord c = true := by
  have hnine : '9'.toNat = 57 := rfl
  have hlow : c.toNat < 128 := by
    have := Char.isDigit_iff_toNat.mp h
    omega
  simp [TextWord.isWord, TextWord.isAlphanumeric, hlow, Char.isAlphanum, h]

theorem Id.text_isName (id : Id) : IsName id.text.toList := by
  rw [Id.text_toList]
  refine ⟨by simp [id.letters_ne_nil], fun c hc => ?_⟩
  rcases List.mem_append.mp hc with hc | hc
  · exact (id.letters_word c hc).2
  · exact isWord_of_isDigit (id.digits_digit c hc)

/-- A name falls into letters and digits in one way. -/
theorem Id.text_injective {a b : Id} (h : a.text = b.text) : a = b := by
  have hleaves (id : Id) : Leaves (fun c => !c.isDigit) id.digits := fun c hc => by
    simp [id.digits_digit c (List.mem_of_mem_head? hc)]
  have happ := congrArg String.toList h
  rw [Id.text_toList, Id.text_toList] at happ
  obtain ⟨hletters, hdigits⟩ := span_unique (fun c hc => (a.letters_word c hc).1) (fun c hc => (b.letters_word c hc).1)
    (hleaves a) (hleaves b) happ
  have hletters : a.letters = b.letters := String.toList_injective hletters
  match a, b with
  | .start, .start => rfl
  | .stop, .stop => rfl
  | .start, .stop => simp [Id.letters] at hletters
  | .stop, .start => simp [Id.letters] at hletters
  | .start, .drawn mark _ => exact absurd hletters.symm mark.letters_ne.1
  | .stop, .drawn mark _ => exact absurd hletters.symm mark.letters_ne.2
  | .drawn mark _, .start => exact absurd hletters mark.letters_ne.1
  | .drawn mark _, .stop => exact absurd hletters mark.letters_ne.2
  | .drawn mark m, .drawn mark' n =>
    obtain rfl := Mark.letters_injective hletters
    have hnumber : m = n := by simpa [Id.digits] using congrArg (Nat.ofDigitChars 10 · 0) hdigits
    rw [hnumber]

@[simp] theorem Id.text_inj {a b : Id} : a.text = b.text ↔ a = b := ⟨Id.text_injective, congrArg _⟩

/-! ### Lines -/

/-- What the line of an item says. -/
def Item.read : Item → Line
  | node id shape label => .node id.text label shape
  | edge source target label => .edge source.text target.text label

theorem Item.line?_line {i : Item} (h : i.Plain) : line? i.line.toList = some i.read := by
  cases i with
  | node id shape label => exact line?_definition shape id.text_isName (OneLine.newline_notMem h)
  | edge source target label => exact line?_edge source.text_isName target.text_isName (OneLine.newline_notMem h)

theorem Item.read_injective {i j : Item} (h : i.read = j.read) : i = j := by
  cases i <;> cases j <;> simp_all [Item.read]

theorem Item.line_injective {i j : Item} (hi : i.Plain) (hj : j.Plain) (h : i.line = j.line) : i = j := by
  refine Item.read_injective (Option.some.inj ?_)
  rw [← Item.line?_line hi, ← Item.line?_line hj, h]

theorem isName_oneLine {cs : List Char} (h : IsName cs) : OneLine cs := by
  intro c hc
  by_contra hl
  rw [Bool.not_eq_false] at hl
  have hb := isBlank_of_isWord (h.2 c hc)
  rw [isBlank_of_isLineEnd hl] at hb
  cases hb

theorem opening_oneLine (shape : Shape) : OneLine (opening shape) := by
  cases shape <;> simp [opening, Shape.brackets, OneLine, isLineEnd]

theorem closing_oneLine (shape : Shape) : OneLine (closing shape) := by
  cases shape <;> simp [closing, Shape.brackets, OneLine, isLineEnd]

theorem tag_oneLine {label : List Char} (h : OneLine label) : OneLine (tag label) := by
  unfold tag
  split
  · simp [OneLine]
  · have bar : OneLine ['|'] := by simp [OneLine, isLineEnd]
    exact (bar.append h).append bar

theorem Item.line_oneLine {i : Item} (h : i.Plain) : OneLine i.line.toList := by
  have indentation : OneLine [' ', ' '] := by simp [OneLine, isLineEnd]
  cases i with
  | node id shape label =>
    rw [Item.line, definition_toList]
    exact indentation.append ((isName_oneLine id.text_isName).append
      ((opening_oneLine shape).append (.append h (closing_oneLine shape))))
  | edge source target label =>
    have arrow : OneLine " -->".toList := by simp [OneLine, isLineEnd]
    have gap : OneLine [' '] := by simp [OneLine, isLineEnd]
    rw [Item.line, edge_toList]
    exact indentation.append ((isName_oneLine source.text_isName).append
      (arrow.append ((tag_oneLine h).append (gap.append (isName_oneLine target.text_isName)))))

theorem Item.line_indented (i : Item) : ∃ cs, i.line.toList = ' ' :: cs := by
  cases i with
  | node id shape label => exact ⟨_, definition_toList ..⟩
  | edge source target label => exact ⟨_, edge_toList ..⟩

/-- Lines that differ are all kept. -/
theorem distinctFrom_eq {seen ls : List String} (h : ls.Nodup) (hs : ∀ l ∈ ls, l ∉ seen) : distinctFrom seen ls = ls := by
  induction ls generalizing seen with
  | nil => rfl
  | cons l ls ih =>
    obtain ⟨hl, hls⟩ := List.nodup_cons.mp h
    have hkeep : ∀ m ∈ ls, m ∉ l :: seen := by
      intro m hm hin
      rcases List.mem_cons.mp hin with rfl | hin
      · exact hl hm
      · exact hs m (by simp [hm]) hin
    rw [distinctFrom, if_neg (by simpa using hs l (by simp)), ih hls hkeep]

theorem lines_nodup (nodes : List Node) : (lines nodes).Nodup := by
  have h := items_sound nodes
  refine List.nodup_cons.mpr ⟨?_, ?_⟩
  · intro hm
    obtain ⟨i, -, hi⟩ := List.mem_map.mp hm
    obtain ⟨cs, hcs⟩ := i.line_indented
    simp [hi, header] at hcs
  · exact h.distinct.map_on fun i hi j hj => Item.line_injective (h.plain i hi) (h.plain j hj)

theorem distinct_lines (nodes : List Node) : distinct (lines nodes) = lines nodes :=
  distinctFrom_eq (lines_nodup nodes) (by simp)

/-- Below its header, the text of a chart says what was drawn. -/
theorem render_reads (nodes : List Node) :
    ((textLines (render nodes).toList).drop 1).filterMap line? = (items nodes).map Item.read := by
  have hplain := (items_sound nodes).plain
  have hlines : ∀ l ∈ (lines nodes).map String.toList, OneLine l ∧ l ≠ [] := by
    intro l hl
    simp only [lines, List.map_cons, List.map_map, List.mem_cons, List.mem_map, Function.comp] at hl
    rcases hl with rfl | ⟨i, hi, rfl⟩
    · simp [header, OneLine, isLineEnd]
    · obtain ⟨cs, hcs⟩ := i.line_indented
      exact ⟨Item.line_oneLine (hplain i hi), by simp [hcs]⟩
  have hsep : "\n".toList = ['\n'] := rfl
  rw [render, distinct_lines, String.toList_intercalate, hsep, textLines_intercalate hlines, lines, List.map_cons,
    List.drop_succ_cons, List.drop_zero, List.map_map, List.filterMap_map]
  exact List.filterMap_eq_map_iff_forall_eq_some.mpr fun i hi => Item.line?_line (hplain i hi)

/-! ### Graphs -/

def Item.graphEdge? : Item → Option GraphEdge
  | node .. => none
  | edge source target label => some ⟨source.text, target.text, label⟩

def graphEdges (items : List Item) : List GraphEdge := items.filterMap Item.graphEdge?

@[simp] theorem graphEdges_node (id : Id) (s : Shape) (l : String) (items : List Item) :
    graphEdges (.node id s l :: items) = graphEdges items := rfl

@[simp] theorem graphEdges_edge (a b : Id) (l : String) (items : List Item) :
    graphEdges (.edge a b l :: items) = ⟨a.text, b.text, l⟩ :: graphEdges items := rfl

theorem mem_graphEdges {e : GraphEdge} {items : List Item} :
    e ∈ graphEdges items ↔ ∃ a b l, .edge a b l ∈ items ∧ e = ⟨a.text, b.text, l⟩ := by
  induction items with
  | nil => simp [graphEdges]
  | cons i items ih => cases i <;> simp [ih, exists_or, or_and_right]

/-- What a graph knows of is what was drawn. -/
theorem has_eq {g : ChartGraph} {there : List Id} (h : g.nodes.map GraphNode.id = there.map Id.text) (id : Id) :
    g.has id.text = decide (id ∈ there) := by
  have : (∃ n ∈ g.nodes, n.id = id.text) ↔ id ∈ there := by
    rw [← List.mem_map, h]
    simp
  rw [Bool.eq_iff_iff]
  simpa [ChartGraph.has] using this

/-- Items that define their nodes before use add these nodes and their edges, in order. -/
theorem foldl_add {items : List Item} {g : ChartGraph} {there : List Id}
    (h : g.nodes.map GraphNode.id = there.map Id.text) (hs : Scoped there items) :
    (items.map Item.read).foldl ChartGraph.add g = ⟨g.nodes ++ graphNodes items, g.edges ++ graphEdges items⟩ := by
  induction items generalizing g there with
  | nil => simp [graphEdges]
  | cons i items ih =>
    cases i with
    | node id shape label =>
      have hadd : g.add (.node id.text label shape) = ⟨g.nodes ++ [⟨id.text, some (label, shape)⟩], g.edges⟩ := by
        simp [ChartGraph.add, ChartGraph.define, has_eq h, hs.1]
      rw [List.map_cons, Item.read, List.foldl_cons, hadd, ih (by simp [h]) hs.2]
      simp
    | edge source target label =>
      have hadd : g.add (.edge source.text target.text label) =
          ⟨g.nodes, g.edges ++ [⟨source.text, target.text, label⟩]⟩ := by
        simp [ChartGraph.add, ChartGraph.connect, ChartGraph.mention, has_eq h, hs.1]
      rw [List.map_cons, Item.read, List.foldl_cons, hadd, ih (by simpa using h) hs.2]
      simp

theorem ofText_render_eq (nodes : List Node) :
    ChartGraph.ofText (render nodes) = ⟨graphNodes (items nodes), graphEdges (items nodes)⟩ := by
  rw [ChartGraph.ofText, render_reads, foldl_add rfl (items_sound nodes).inScope]
  rfl

theorem graphNodes_items (nodes : List Node) :
    graphNodes (items nodes) =
      ⟨"S", some ("Start", .terminator)⟩ :: ⟨"Z", some ("End", .terminator)⟩ :: numbered 0 (elements nodes) := by
  have titles : safe "Start" = "Start" ∧ safe "End" = "End" := by decide +kernel
  simp [items, body, graphNodes_drawNodes, Id.text, titles]

/-- The graph read back from a rendered chart has the elements of the flow between its terminators, in drawing
order and with their labels and shapes, and all edges that were drawn, in order. -/
theorem ofText_render (nodes : List Node) :
    ChartGraph.ofText (render nodes) =
      ⟨⟨"S", some ("Start", .terminator)⟩ :: ⟨"Z", some ("End", .terminator)⟩ :: numbered 0 (elements nodes),
        (items nodes).filterMap Item.graphEdge?⟩ := by
  rw [ofText_render_eq, graphNodes_items, graphEdges]

end FlowSketch.ChartDrawing
