import ShaderBundle.Number.Shortest

/-!
# Text of a floating-point number

The shortest digits, in positional notation from a ten-thousandth up to below ten to the sixteenth
and in scientific notation beyond, always with a fraction or an exponent.
-/

namespace ShaderBundle

namespace Layout

/-- Digits with the point after `point` of them, zeros filled in where digits lack. -/
def positional (ds : List Char) (point : Int) : List Char :=
  if point ≤ 0 then '0' :: '.' :: (List.replicate (-point).toNat '0' ++ ds)
  else
    let whole := ds.take point.toNat ++ List.replicate (point.toNat - ds.length) '0'
    let fraction := ds.drop point.toNat
    whole ++ '.' :: (if fraction.isEmpty then ['0'] else fraction)

/-- One digit before the point, a signed exponent of at least two digits after the letter e. -/
def scientific (ds : List Char) (point : Int) : List Char :=
  let exponent := point - 1
  let sign := if exponent < 0 then '-' else '+'
  let digits := Nat.toDigits 10 exponent.natAbs
  let padded := if digits.length < 2 then '0' :: digits else digits
  ds.take 1 ++ (if ds.length > 1 then '.' :: ds.drop 1 else []) ++ 'e' :: sign :: padded

def digits (d : Shortest.Decimal) : List Char :=
  if -4 < d.point ∧ d.point ≤ 16 then positional d.digits d.point else scientific d.digits d.point

end Layout

def Binary64.text : Binary64 → String
  | .nan => "nan"
  | .infinite negative => if negative then "-inf" else "inf"
  | .finite negative m q =>
    let sign := if negative then ['-'] else []
    String.ofList (sign ++ if m = 0 then ['0', '.', '0'] else Layout.digits (Shortest.decimal m q))

def floatText (x : Float) : String := (Binary64.ofFloat x).text

end ShaderBundle
