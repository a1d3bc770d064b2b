import FlowSketch.TextBlank

/-! The expressions inside formatted strings of scripts, as texts. Fields stand in braces; a field may carry a
conversion and a format, which can hold fields in turn, one level deep. -/
namespace FlowSketch.ScriptTemplate

/-- A place inside the expression of a field: the string it is in, and the brackets open. -/
structure Inside where
  quote : Option (Char × Bool)
  brackets : List Char

def closerOf (c : Char) : Char := if c = '(' then ')' else if c = '[' then ']' else '}'

def isOpener (c : Char) : Bool := c = '(' || c = '[' || c = '{'

def isCloser (c : Char) : Bool := c = ')' || c = ']' || c = '}'

def push (c : Char) (r : List Char × List Char) : List Char × List Char := (c :: r.1, r.2)

/-- The text of a field up to its conversion, format or closing brace, which begins the rest. -/
def fieldText : Nat → Inside → List Char → Option (List Char × List Char)
  | 0, _, _ => none
  | _, _, [] => none
  | fuel + 1, s, c :: cs =>
    if c = '\\' then none
    else match s.quote with
      | some (q, tripled) =>
        if c = q && tripled && cs.take 2 = [q, q] then
          (fieldText fuel { s with quote := none } (cs.drop 2)).map fun r => push q (push q (push q r))
        else
          let quote := if c = q && !tripled then none else s.quote
          (fieldText fuel { s with quote := quote } cs).map (push c)
      | none =>
        if c = '\'' || c = '"' then
          if cs.take 2 = [c, c] then
            (fieldText fuel { s with quote := some (c, true) } (cs.drop 2)).map fun r => push c (push c (push c r))
          else (fieldText fuel { s with quote := some (c, false) } cs).map (push c)
        else if isOpener c then (fieldText fuel { s with brackets := closerOf c :: s.brackets } cs).map (push c)
        else if c = '#' then none
        else if s.brackets.isEmpty && "!:\x7d=><".toList.contains c then
          if "!=><".toList.contains c && cs.head? = some '=' then
            (fieldText fuel s (cs.drop 1)).map fun r => push c (push '=' r)
          else if c = '>' || c = '<' then (fieldText fuel s cs).map (push c)
          else some ([], c :: cs)
        else if isCloser c then
          match s.brackets with
          | b :: bs => if b = c then (fieldText fuel { s with brackets := bs } cs).map (push c) else none
          | [] => none
        else (fieldText fuel s cs).map (push c)

/-- After an equals sign that asks for the text of the expression too. -/
def afterEcho (cs : List Char) : List Char :=
  match cs with
  | '=' :: rest => rest.dropWhile fun c => c = ' ' || ('\t' ≤ c && c ≤ '\r')
  | _ => cs

def afterConversion? (cs : List Char) : Option (List Char) :=
  match cs with
  | '!' :: c :: rest => if c = 's' || c = 'r' || c = 'a' then some rest else none
  | '!' :: [] => none
  | _ => some cs

/-- The fields of a text, and what follows it; inside a format the text ends at a closing brace. -/
def fieldsFrom (raw : Bool) : Nat → Nat → List Char → Option (List (List Char) × List Char)
  | 0, _, _ => none
  | _, _, [] => some ([], [])
  | fuel + 1, level, c :: cs =>
    if c = '\\' && !raw then
      match cs with
      | 'N' :: '{' :: rest => fieldsFrom raw fuel level ((rest.dropWhile (· ≠ '}')).drop 1)
      | d :: rest => if d = '{' || d = '}' then fieldsFrom raw fuel level cs else fieldsFrom raw fuel level rest
      | [] => some ([], [])
    else if c ≠ '{' && c ≠ '}' then fieldsFrom raw fuel level cs
    else if level = 0 && cs.head? = some c then fieldsFrom raw fuel level cs.tail
    else if c = '}' then if level = 0 then none else some ([], c :: cs)
    else if 2 ≤ level then none
    else do
      let (text, rest) ← fieldText (cs.length + 1) ⟨none, []⟩ cs
      if TextBlank.allBlank text then none
      let rest ← afterConversion? (afterEcho rest)
      let (inner, rest) ←
        match rest with
        | ':' :: format => fieldsFrom raw fuel (level + 1) format
        | _ => some ([], rest)
      match rest with
      | '}' :: after =>
        let (later, final) ← fieldsFrom raw fuel level after
        return (text :: inner ++ later, final)
      | _ => none

/-- The expressions of a formatted string, from its inside. -/
def fields? (raw : Bool) (body : List Char) : Option (List (List Char)) := do
  let (found, rest) ← fieldsFrom raw (body.length + 1) 0 body
  if rest.isEmpty then some found else none

end FlowSketch.ScriptTemplate
