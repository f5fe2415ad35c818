/-!
# Binary floating point, exactly

A finite double is `m · 2^q` with a sign. Decoding gives these parts as whole numbers; the nearest
double to a quotient of whole numbers is found by exact division, halves to the even neighbour.
Powers are `Nat.pow` by name, since what `^` stands for depends on what is imported.
-/

namespace ShaderBundle

/-- A double taken apart. -/
inductive Binary64
  | nan
  | infinite (negative : Bool)
  | finite (negative : Bool) (m : Nat) (q : Int)
  deriving Repr, DecidableEq

namespace Binary64

def ofFloat (x : Float) : Binary64 :=
  let bits : Nat := x.toBits.toNat
  let negative := decide (bits / Nat.pow 2 63 = 1)
  let exponent : Nat := bits / Nat.pow 2 52 % Nat.pow 2 11
  let fraction : Nat := bits % Nat.pow 2 52
  if exponent = Nat.pow 2 11 - 1 then if fraction = 0 then .infinite negative else .nan
  else if exponent = 0 then .finite negative fraction (-1074)
  else .finite negative (Nat.pow 2 52 + fraction) ((exponent : Int) - 1075)

def signBit (negative : Bool) : Nat := if negative then Nat.pow 2 63 else 0

/-- The double with the given sign, significand and exponent, for `m < 2 ^ 53` that is either at
least `2 ^ 52` or paired with the least exponent. -/
def pack (negative : Bool) (m : Nat) (q : Int) : Float :=
  let magnitude := if m < Nat.pow 2 52 then m else (q + 1075).toNat * Nat.pow 2 52 + (m - Nat.pow 2 52)
  Float.ofBits (UInt64.ofNat (signBit negative + magnitude))

def infinity (negative : Bool) : Float :=
  Float.ofBits (UInt64.ofNat (signBit negative + 2047 * Nat.pow 2 52))

/-- Division to the nearest whole number, halves to the even one. -/
def divNearest (num den : Nat) : Nat :=
  let quotient := num / den
  let twice := 2 * (num % den)
  if twice < den then quotient
  else if twice > den then quotient + 1
  else quotient + quotient % 2

/-- `num / den` as a pair scaled by `2 ^ (-q)`. -/
def scale (num den : Nat) (q : Int) : Nat × Nat :=
  if q ≥ 0 then (num, den * Nat.pow 2 q.toNat) else (num * Nat.pow 2 (-q).toNat, den)

/-- The exponent of the greatest power of two that is not above `num / den`, both not zero. -/
def log2Floor (num den : Nat) : Int :=
  let guess : Int := num.log2 - den.log2
  let (n, d) := scale num den guess
  if d ≤ n then guess else guess - 1

/-- The nearest double to a quotient, or `none` if it is beyond all of them. -/
def nearest? (negative : Bool) (num den : Nat) : Option Float :=
  if num = 0 then some (pack negative 0 (-1074))
  else
    let q := max (log2Floor num den - 52) (-1074)
    let (n, d) := scale num den q
    let m := divNearest n d
    let (m, q) := if m = Nat.pow 2 53 then (Nat.pow 2 52, q + 1) else (m, q)
    if q > 971 then none else some (pack negative m q)

def nearest (negative : Bool) (num den : Nat) : Float :=
  (nearest? negative num den).getD (infinity negative)

/-- The nearest double to `m · 10 ^ e`. An exponent so far out that the answer is zero or infinity
whatever the digits is not multiplied out. -/
def ofDecimal (negative : Bool) (m : Nat) (e : Int) : Float :=
  let digits : Int := m.log2 / 3 + 1
  if m = 0 then pack negative 0 (-1074)
  else if e > 400 then infinity negative
  else if e + digits < -400 then pack negative 0 (-1074)
  else if e ≥ 0 then nearest negative (m * Nat.pow 10 e.toNat) 1
  else nearest negative m (Nat.pow 10 (-e).toNat)

def ofInt? (n : Int) : Option Float := nearest? (decide (n < 0)) n.natAbs 1

end Binary64

end ShaderBundle
