import FlowSketch.Flow

/-! The exported form of a tree: records of named fields, lists and texts, and how a tree is read back from it. -/
namespace FlowSketch

inductive Record where
  | text (s : String)
  | list (items : List Record)
  | fields (entries : List (String × Record))
  deriving Inhabited

mutual

def Node.toRecord : Node → Record
  | .step s => .fields [("kind", .text s.kind), ("label", .text s.label), ("type", .text s.kind)]
  | .decision c yes no => .fields [("condition", .text c), ("yes_branch", .list (Flow.toRecords yes)),
      ("no_branch", .list (Flow.toRecords no)), ("type", .text "decision")]
  | .loop l k body => .fields [("label", .text l), ("loop_kind", .text k), ("body", .list (Flow.toRecords body)),
      ("type", .text "loop")]
  | .switch l cases => .fields [("label", .text l), ("cases", .list (Flow.caseRecords cases)), ("type", .text "switch")]
  | .tryCatch body p handler cleanup => .fields [("try_body", .list (Flow.toRecords body)), ("catch_param", .text p),
      ("catch_body", .list (Flow.toRecords handler)), ("finally_body", .list (Flow.toRecords cleanup)),
      ("type", .text "tryCatch")]
  | .event s n l body => .fields [("subject", .text s), ("event_name", .text n), ("label", .text l),
      ("body", .list (Flow.toRecords body)), ("type", .text "event")]
  | .function l body => .fields [("label", .text l), ("body", .list (Flow.toRecords body)), ("type", .text "function")]
  | .promise l body => .fields [("label", .text l), ("body", .list (Flow.toRecords body)), ("type", .text "promise")]

def Flow.toRecords : List Node → List Record
  | [] => []
  | n :: ns => n.toRecord :: Flow.toRecords ns

def Flow.caseRecords : List Case → List Record
  | [] => []
  | ⟨l, body⟩ :: cases =>
    .fields [("case_label", .text l), ("body", .list (Flow.toRecords body))] :: Flow.caseRecords cases

end

/-- What a record says as a text, as a node, as a case, as a list of nodes and as a list of cases. -/
structure Reading where
  text : Option String
  node : Option Node
  case : Option Case
  nodes : Option (List Node)
  cases : Option (List Case)

namespace Reading

def ofText (s : String) : Reading := ⟨some s, none, none, none, none⟩

def ofList (rs : List Reading) : Reading := ⟨none, none, none, rs.mapM Reading.node, rs.mapM Reading.case⟩

def textField (fields : List (String × Reading)) (name : String) (missing : String) : Option String :=
  ((fields.lookup name).map Reading.text).getD (some missing)

def nodesField (fields : List (String × Reading)) (name : String) : Option (List Node) :=
  ((fields.lookup name).map Reading.nodes).getD (some [])

def casesField (fields : List (String × Reading)) : Option (List Case) :=
  ((fields.lookup "cases").map Reading.cases).getD (some [])

/-- A record with a `kind` is a step; otherwise its `type` says what it is. -/
def nodeOfFields (fields : List (String × Reading)) : Option Node := do
  let text := textField fields
  let nodes := nodesField fields
  if (fields.lookup "kind").isSome then
    return .step ⟨← text "kind" "", ← text "label" ""⟩
  match ← text "type" "" with
  | "decision" => return .decision (← text "condition" "") (← nodes "yes_branch") (← nodes "no_branch")
  | "loop" => return .loop (← text "label" "") (← text "loop_kind" "while") (← nodes "body")
  | "switch" => return .switch (← text "label" "") (← casesField fields)
  | "tryCatch" =>
    return .tryCatch (← nodes "try_body") (← text "catch_param" "e") (← nodes "catch_body") (← nodes "finally_body")
  | "event" => return .event (← text "subject" "") (← text "event_name" "") (← text "label" "") (← nodes "body")
  | "function" => return .function (← text "label" "") (← nodes "body")
  | "promise" => return .promise (← text "label" "") (← nodes "body")
  | _ => none

def caseOfFields (fields : List (String × Reading)) : Option Case := do
  return ⟨← textField fields "case_label" "", ← nodesField fields "body"⟩

def ofFields (fields : List (String × Reading)) : Reading :=
  ⟨none, nodeOfFields fields, caseOfFields fields, none, none⟩

end Reading

mutual

def Record.reading : Record → Reading
  | .text s => .ofText s
  | .list items => .ofList (readings items)
  | .fields entries => .ofFields (fieldReadings entries)

def Record.readings : List Record → List Reading
  | [] => []
  | r :: rs => r.reading :: readings rs

def Record.fieldReadings : List (String × Record) → List (String × Reading)
  | [] => []
  | (name, r) :: rs => (name, r.reading) :: fieldReadings rs

end

def Node.ofRecord? (r : Record) : Option Node := r.reading.node

def Flow.ofRecords? (rs : List Record) : Option (List Node) := rs.mapM Node.ofRecord?

end FlowSketch
