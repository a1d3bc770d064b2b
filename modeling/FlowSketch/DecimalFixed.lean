/-! Numbers with a fixed count of decimal places. The last place is rounded from the exact value, a half to the even
neighbour. -/
namespace FlowSketch.DecimalFixed

/-- A quotient rounded to the nearest whole number, a half to the even one. -/
def roundDiv (num den : Nat) : Nat :=
  let q := num / den
  let r := num % den
  if den < 2 * r || (2 * r = den && q % 2 = 1) then q + 1 else q

/-- The magnitude of a finite double as a fraction. -/
def fraction (bits : Nat) : Nat × Nat :=
  let biased : Nat := bits / Nat.pow 2 52 % Nat.pow 2 11
  let mantissa : Nat := bits % Nat.pow 2 52 + if biased = 0 then 0 else Nat.pow 2 52
  let exponent : Nat := max biased 1
  if 1075 ≤ exponent then (mantissa * Nat.pow 2 (exponent - 1075), 1) else (mantissa, Nat.pow 2 (1075 - exponent))

def padded (width : Nat) (digits : String) : String :=
  .ofList (List.replicate (width - digits.length) '0') ++ digits

/-- A number of units of the last place, with a point. -/
def pointed (places n : Nat) : String :=
  let digits := padded (places + 1) (toString n)
  let whole := digits.length - places
  .ofList (digits.toList.take whole) ++ "." ++ .ofList (digits.toList.drop whole)

/-- A finite number with the given count of places, one or more. -/
def render (places : Nat) (x : Float) : String :=
  let bits := x.toBits.toNat
  let (num, den) := fraction bits
  (if Nat.pow 2 63 ≤ bits then "-" else "") ++ pointed places (roundDiv (num * Nat.pow 10 places) den)

end FlowSketch.DecimalFixed
