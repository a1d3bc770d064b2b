import FlowSketch.PatternBuild
import FlowSketch.ScriptSyntax
import FlowSketch.TextName

/-! Number and string literals of scripts: where they end and what their values are. -/
namespace FlowSketch.ScriptLiteral
open Pattern

/-! ### Strings -/

/-- How a string begins: letters before the quote, the quote, and whether it is tripled. -/
structure Opening where
  letters : List Char
  quote : Char
  tripled : Bool

def prefixes : List String := ["", "r", "u", "b", "f", "br", "rb", "fr", "rf"]

def Opening.has (o : Opening) (c : Char) : Bool := o.letters.contains c

/-- The opening of a string at the front, and the text after it. -/
def opening? (cs : List Char) : Option (Opening × List Char) :=
  let letters := (cs.takeWhile Char.isAlpha).map Char.toLower
  match cs.dropWhile Char.isAlpha with
  | q :: rest =>
    if (q = '\'' || q = '"') && prefixes.contains (String.ofList letters) then
      if rest.take 2 = [q, q] then some (⟨letters, q, true⟩, rest.drop 2) else some (⟨letters, q, false⟩, rest)
    else none
  | [] => none

def push (c : Char) (r : List Char × List Char) : List Char × List Char := (c :: r.1, r.2)

/-- The inside of a string up to three closing quotes, and the text after them. -/
def tripledBody (q : Char) : List Char → Option (List Char × List Char)
  | [] => none
  | '\\' :: c :: cs => (tripledBody q cs).map fun r => push '\\' (push c r)
  | c :: cs => if c = q && cs.take 2 = [q, q] then some ([], cs.drop 2) else (tripledBody q cs).map (push c)

/-- The inside of a string that ends on its line. -/
def singleBody (q : Char) : List Char → Option (List Char × List Char)
  | [] => none
  | '\\' :: c :: cs => (singleBody q cs).map fun r => push '\\' (push c r)
  | c :: cs => if c = q then some ([], cs) else if c = '\n' then none else (singleBody q cs).map (push c)

def Opening.body? (o : Opening) (cs : List Char) : Option (List Char × List Char) :=
  if o.tripled then tripledBody o.quote cs else singleBody o.quote cs

def Opening.length (o : Opening) : Nat := o.letters.length + if o.tripled then 3 else 1

def hexDigit? (c : Char) : Option Nat :=
  if c.isDigit then some (c.toNat - '0'.toNat)
  else if 'a' ≤ c && c ≤ 'f' then some (c.toNat - 'a'.toNat + 10)
  else if 'A' ≤ c && c ≤ 'F' then some (c.toNat - 'A'.toNat + 10)
  else none

/-- A number of exactly `count` hexadecimal digits at the front. -/
def hexNumber? : Nat → Nat → List Char → Option Nat
  | 0, value, _ => some value
  | _ + 1, _, [] => none
  | count + 1, value, c :: cs => do hexNumber? count (16 * value + (← hexDigit? c)) cs

def isOctal (c : Char) : Bool := '0' ≤ c && c ≤ '7'

def octalNumber (cs : List Char) : Nat := cs.foldl (fun n c => 8 * n + (c.toNat - '0'.toNat)) 0

/-- Escapes of one letter. -/
def letterEscapes : List (Char × Nat) :=
  [('\\', 92), ('\'', 39), ('"', 34), ('a', 7), ('b', 8), ('f', 12), ('n', 10), ('r', 13), ('t', 9), ('v', 11)]

/-- The value of an escape after its backslash, and how many characters it takes. -/
def escape? (inBytes : Bool) (c : Char) (cs : List Char) : Option (List Nat × Nat) :=
  match letterEscapes.lookup c with
  | some n => some ([n], 1)
  | none =>
    if c = '\n' then some ([], 1)
    else if isOctal c then
      let digits := (c :: cs).take 3 |>.takeWhile isOctal
      some ([if inBytes then octalNumber digits % 256 else octalNumber digits], digits.length)
    else if c = 'x' then (hexNumber? 2 0 cs).map fun n => ([n], 3)
    else if inBytes then some ([92, c.toNat], 1)
    else if c = 'u' then (hexNumber? 4 0 cs).map fun n => ([n], 5)
    else if c = 'U' then
      (hexNumber? 8 0 cs).bind fun n => if n ≤ 0x10FFFF then some ([n], 9) else none
    else if c = 'N' then
      match cs with
      | '{' :: named =>
        let name := named.takeWhile (· ≠ '}')
        if name.length < named.length then (TextName.find? name).map fun n => ([n], name.length + 3) else none
      | _ => none
    else some ([92, c.toNat], 1)

/-- The code points of the inside of a string. -/
def decode (raw inBytes : Bool) : Nat → List Char → Option (List Nat)
  | 0, _ => some []
  | _, [] => some []
  | fuel + 1, c :: cs =>
    if c = '\\' && !raw then do
      let d ← cs.head?
      let (points, count) ← escape? inBytes d cs.tail
      return points ++ (← decode raw inBytes fuel (cs.drop count))
    else do return c.toNat :: (← decode raw inBytes fuel cs)

def Opening.value? (o : Opening) (body : List Char) : Option ScriptConstant :=
  let raw := o.has 'r'
  if o.has 'b' then
    if body.all fun c => c.toNat < 128 then (decode raw true body.length body).map .bytes else none
  else (decode raw false body.length body).map .text

/-! ### Numbers -/

def digits : Pattern := one Char.isDigit ++ reps (opt "_" ++ one Char.isDigit)

def basedDigits (letters : String) (p : Char → Bool) : Pattern := "0" ++ oneOf letters ++ plus (opt "_" ++ one p)

def exponentPart : Pattern := oneOf "eE" ++ opt (oneOf "-+") ++ digits

def floatPattern : Pattern :=
  (digits ++ "." ++ opt digits <|> "." ++ digits) ++ opt exponentPart <|> digits ++ exponentPart

def integerPattern : Pattern :=
  basedDigits "xX" (fun c => (hexDigit? c).isSome) <|> basedDigits "bB" (fun c => c = '0' || c = '1')
    <|> basedDigits "oO" isOctal
    <|> "0" ++ reps (opt "_" ++ "0") <|> one (fun c => c.isDigit && c ≠ '0') ++ reps (opt "_" ++ one Char.isDigit)

/-- Imaginary before floating before whole. -/
def numberPattern : Pattern :=
  digits ++ oneOf "jJ" <|> floatPattern ++ oneOf "jJ" <|> floatPattern <|> integerPattern

/-- A whole decimal number has at most 4300 digits, unless it is zero. -/
def isShort (literal : List Char) : Bool :=
  !(literal.all fun c => c.isDigit || c = '_') || literal.head? = some '0'
    || literal.countP Char.isDigit ≤ 4300

/-- A number at the front, and the text after it. -/
def number? (cs : List Char) : Option (List Char × List Char) :=
  (numberPattern.matchStart cs).map fun m => (cs.take (cs.length - m.rest.length), m.rest)

/-- Takes factors of two out of a number. -/
def normalize : Nat → Nat → Int → Nat × Int
  | 0, m, e => (m, e)
  | fuel + 1, m, e => if m = 0 then (0, 0) else if m % 2 = 0 then normalize fuel (m / 2) (e + 1) else (m, e)

def ofNat (n : Nat) : ScriptConstant := let r := normalize n.log2.succ n 0; .number r.1 r.2

def digitValue (base n : Nat) (cs : List Char) : Nat :=
  cs.foldl (fun n c => base * n + (hexDigit? c).getD 0) n

/-- The parts of a decimal literal: whole digits, fraction digits, exponent. -/
def decimalParts (cs : List Char) : List Char × List Char × Int :=
  let mantissa := cs.takeWhile fun c => c ≠ 'e' && c ≠ 'E'
  let exponent := (cs.dropWhile fun c => c ≠ 'e' && c ≠ 'E').drop 1
  let magnitude : Int := digitValue 10 0 (exponent.filter Char.isDigit)
  (mantissa.takeWhile (· ≠ '.'), (mantissa.dropWhile (· ≠ '.')).drop 1,
    if exponent.head? = some '-' then -magnitude else magnitude)

/-- The finite double with the given bits, as mantissa and exponent; nothing for an infinity. -/
def doubleParts (bits : Nat) : Option (Nat × Int) :=
  let fraction : Nat := bits % Nat.pow 2 52
  let biased : Nat := bits / Nat.pow 2 52 % Nat.pow 2 11
  if biased = 2047 then none
  else if biased = 0 then some (fraction, -1074)
  else some (Nat.pow 2 52 + fraction, (biased : Int) - 1075)

/-- The double nearest to a decimal literal; exponents far outside the range are cut back first. -/
def nearestDouble (cs : List Char) : Option (Nat × Int) :=
  let (whole, fraction, exponent) := decimalParts cs
  let mantissa := digitValue 10 0 (whole ++ fraction)
  let scale := exponent - fraction.length
  let size : Int := (whole ++ fraction).length
  if mantissa = 0 then some (0, 0)
  else if 400 < scale then none
  else if scale + size < -400 then some (0, 0)
  else doubleParts (Float.ofScientific mantissa (scale < 0) scale.natAbs).toBits.toNat

def basedNumber? (cs : List Char) : Option Nat :=
  match cs with
  | '0' :: c :: rest =>
    if c = 'x' || c = 'X' then some (digitValue 16 0 rest)
    else if c = 'o' || c = 'O' then some (digitValue 8 0 rest)
    else if c = 'b' || c = 'B' then some (digitValue 2 0 rest)
    else none
  | _ => none

def isFloating (cs : List Char) : Bool := cs.any fun c => c = '.' || c = 'e' || c = 'E'

def floatValue (cs : List Char) : ScriptConstant :=
  match nearestDouble cs with
  | some (m, e) => let r := normalize m.log2.succ m e; .number r.1 r.2
  | none => .infinite

/-- The value times the imaginary unit; zero stays zero. -/
def imaginary : ScriptConstant → ScriptConstant
  | .number m e => if m = 0 then .number m e else .imaginary m e
  | .infinite => .imaginaryInfinite
  | c => c

def numberValue (literal : List Char) : ScriptConstant :=
  let cs := literal.filter (· ≠ '_')
  match basedNumber? cs with
  | some n => ofNat n
  | none =>
    if cs.getLast? = some 'j' || cs.getLast? = some 'J' then imaginary (floatValue cs.dropLast)
    else if isFloating cs then floatValue cs
    else ofNat (digitValue 10 0 cs)

end FlowSketch.ScriptLiteral
