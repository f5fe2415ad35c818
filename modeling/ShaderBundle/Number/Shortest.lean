import ShaderBundle.Number.Binary64

/-!
# The shortest decimal that reads back

Of all decimals that round to a double, those with the fewest digits are candidates, and of these
the nearest is written.
-/

namespace ShaderBundle.Shortest

/-- The reals that round to `m · 2^q`, as numerators over `4 · den`, where the value itself is
`4 · num` over that denominator. The ends belong to the interval when `m` is even. -/
structure Interval where
  low : Nat
  high : Nat
  closed : Bool

/-- The interval of `m · 2^q` scaled to the denominator of `Binary64.scale m 1 q`. A power of two has
a nearer neighbour below than above. -/
def interval (m : Nat) (q : Int) : Interval :=
  let unit := if q ≥ 0 then Nat.pow 2 q.toNat else 1
  let below := if m = Nat.pow 2 52 ∧ q > -1074 then unit else 2 * unit
  ⟨4 * m * unit - below, 4 * m * unit + 2 * unit, m % 2 = 0⟩

def Interval.holds (i : Interval) (n den : Nat) : Bool :=
  if i.closed then i.low * den ≤ n && n ≤ i.high * den
  else i.low * den < n && n < i.high * den

/-- The number of decimal digits before the point of `num / den`, counted below zero for a value
under one tenth: the least `p` with `num / den < 10 ^ p`. -/
def pointFrom (num den : Nat) : (fuel : Nat) → Int → Int
  | 0, p => p
  | fuel + 1, p =>
    if p > 0 then if num < den * Nat.pow 10 (p - 1).toNat then pointFrom num den fuel (p - 1) else p
    else if num * Nat.pow 10 (1 - p).toNat < den then pointFrom num den fuel (p - 1) else p

def point (num den : Nat) : Int := pointFrom num den 700 310

/-- Looks for a hit on the grid of `n` digits: the digits as a number. -/
def onGrid (i : Interval) (num den : Nat) (p : Int) (n : Nat) : Option Nat :=
  let power : Int := p - n
  -- the grid's unit is `up / down`
  let up := if power ≥ 0 then Nat.pow 10 power.toNat else 1
  let down := if power ≥ 0 then 1 else Nat.pow 10 (-power).toNat
  let floor := num * down / (den * up)
  let hit (d : Nat) : Bool := i.holds (4 * d * up * den) (down)
  let twice := 2 * (num * down)
  let middle := (2 * floor + 1) * (den * up)
  match hit floor, hit (floor + 1) with
  | true, true =>
    some (if twice < middle then floor
      else if twice > middle then floor + 1
      else floor + floor % 2)
  | true, false => some floor
  | false, true => some (floor + 1)
  | false, false => none

def search (i : Interval) (num den : Nat) (p : Int) : (fuel n : Nat) → Nat × Nat
  | 0, n => (num, n)
  | fuel + 1, n =>
    match onGrid i num den p n with
    | some d => (d, n)
    | none => search i num den p fuel (n + 1)

/-- Digits without trailing zeros and the position of the decimal point: the value is `0.d₁d₂… ·
10 ^ point`. -/
structure Decimal where
  digits : List Char
  point : Int
  deriving Repr

def dropTrailingZeros (ds : List Char) : List Char :=
  (ds.reverse.dropWhile (· == '0')).reverse

/-- The shortest decimal of `m · 2^q`, for `m` not zero. -/
def decimal (m : Nat) (q : Int) : Decimal :=
  let (num, den) := (if q ≥ 0 then (m * Nat.pow 2 q.toNat, 1) else (m, Nat.pow 2 (-q).toNat) : Nat × Nat)
  let p := point num den
  let (d, n) := search (interval m q) num den p 17 1
  let ds := Nat.toDigits 10 d
  ⟨dropTrailingZeros ds, p + (ds.length - n : Int)⟩

end ShaderBundle.Shortest
