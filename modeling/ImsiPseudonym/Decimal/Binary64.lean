import ImsiPseudonym.Decimal.Integer

/-!
Floating-point numbers of 53 significant bits, as exact fractions: rounding to the nearest one, their
product and quotient, their whole part, and their shortest decimal text.
-/
namespace ImsiPseudonym.Decimal

/-- A finite floating-point number, `± significand · 2 ^ exponent`.  The sign of zero counts. -/
structure Binary64 where
  negative : Bool
  significand : Nat
  exponent : Int
deriving DecidableEq, Repr

namespace Binary64

def minExponent : Int := -1074

def maxExponent : Int := 971

def zero (negative : Bool) : Binary64 := ⟨negative, 0, minExponent⟩

def isZero (x : Binary64) : Bool := x.significand == 0

/-- Numerator and denominator of a scaled whole number `n · 2 ^ e`. -/
def scaled (n : Nat) (e : Int) : Nat × Nat :=
  (n <<< e.toNat, 1 <<< (-e).toNat)

def magnitude (x : Binary64) : Nat × Nat :=
  scaled x.significand x.exponent

/-- The quotient rounded to the nearest whole number, a half to the even neighbour. -/
def roundHalfEven (num den : Nat) : Nat :=
  let quotient := num / den
  let doubled := 2 * (num % den)
  if doubled < den then quotient
  else if den < doubled then quotient + 1
  else quotient + quotient % 2

def fullSignificand : Nat := 0x10000000000000

/-- The exponent at which the fraction has 53 bits before the point, or the smallest one. -/
def exponentOf (num den : Nat) : Int :=
  let guess := max ((num.log2 : Int) - (den.log2 : Int) - 53) minExponent
  let (num', den') := (num <<< (-guess).toNat, den <<< guess.toNat)
  if num' < den' * (2 * fullSignificand) then guess else guess + 1

/-- The number nearest to a fraction, if it is not too large. -/
def round? (negative : Bool) (num den : Nat) : Option Binary64 :=
  let exponent := exponentOf num den
  let significand := roundHalfEven (num <<< (-exponent).toNat) (den <<< exponent.toNat)
  let x := if significand = 2 * fullSignificand then ⟨negative, fullSignificand, exponent + 1⟩
    else Binary64.mk negative significand exponent
  if x.exponent ≤ maxExponent then some x else none

def mul? (x y : Binary64) : Option Binary64 :=
  let ((xn, xd), (yn, yd)) := (x.magnitude, y.magnitude)
  round? (x.negative != y.negative) (xn * yn) (xd * yd)

def div? (x y : Binary64) : Option Binary64 :=
  let ((xn, xd), (yn, yd)) := (x.magnitude, y.magnitude)
  round? (x.negative != y.negative) (xn * yd) (xd * yn)

def withSign (negative : Bool) (x : Binary64) : Binary64 :=
  { x with negative := negative }

/-- The whole part, toward zero. -/
def truncate (x : Binary64) : Int :=
  let (num, den) := x.magnitude
  let whole : Int := (num / den : Nat)
  if x.negative then -whole else whole

/-- The reals from `low / den` to `high / den`, with or without the ends. -/
structure Range where
  low : Nat
  high : Nat
  den : Nat
  closed : Bool

def Range.contains (r : Range) (num den : Nat) : Bool :=
  if r.closed then r.low * den ≤ num * r.den && num * r.den ≤ r.high * den
  else r.low * den < num * r.den && num * r.den < r.high * den

/-- The reals that round to a positive number.  They end halfway to its two neighbours, and the ends
belong to them if the significand is even. -/
def roundingRange (x : Binary64) : Range :=
  let (num, den) := scaled 1 x.exponent
  let closeBelow := x.significand == fullSignificand && minExponent < x.exponent
  { low := (4 * x.significand - (if closeBelow then 1 else 2)) * num
    high := (4 * x.significand + 2) * num
    den := 4 * den
    closed := x.significand % 2 == 0 }

/-- The decimal exponent of a fraction `≥ 10 ^ least`, searched upward from `least`. -/
def decimalExponentFrom (num den : Nat) (least : Int) : Nat → Int
  | 0 => least
  | fuel + 1 =>
    let next := least + 1
    if den * Nat.pow 10 next.toNat ≤ num * Nat.pow 10 (-next).toNat
    then decimalExponentFrom num den next fuel else least

/-- A multiple of a power of ten inside the range, nearest to the number, if there is one. -/
def nearestMultiple? (x : Binary64) (power : Int) : Option Nat :=
  let (num, den) := x.magnitude
  let (up, down) := (Nat.pow 10 power.toNat, Nat.pow 10 (-power).toNat)
  let inside (k : Nat) : Bool := x.roundingRange.contains (k * up) down
  let below := num * down / (den * up)
  let nearest := roundHalfEven (num * down) (den * up)
  let other := if nearest = below then below + 1 else below
  if inside nearest then some nearest else if inside other then some other else none

/-- The first power of ten, from a given one downward, that has a multiple in the range. -/
def shortestFrom (x : Binary64) (power : Int) : Nat → Nat × Int
  | 0 => ((nearestMultiple? x power).getD 0, power)
  | fuel + 1 =>
    match nearestMultiple? x power with
    | some multiple => (multiple, power)
    | none => shortestFrom x (power - 1) fuel

/-- The fewest decimal digits that read back as a positive number, and the power of ten of the last
digit. -/
def shortest (x : Binary64) : List Char × Int :=
  let (num, den) := x.magnitude
  let top := decimalExponentFrom num den (-330) 660
  let (multiple, power) := shortestFrom x top 17
  let cs := digits multiple
  let kept := (cs.reverse.dropWhile (· == '0')).reverse
  (kept, power + (cs.length - kept.length : Nat))

def positional (cs : List Char) (point : Int) : List Char :=
  if point ≤ 0 then "0.".toList ++ List.replicate (-point).toNat '0' ++ cs
  else if cs.length ≤ point.toNat then
    cs ++ List.replicate (point.toNat - cs.length) '0' ++ ".0".toList
  else cs.take point.toNat ++ '.' :: cs.drop point.toNat

def exponential (cs : List Char) (exponent : Int) : List Char :=
  let sign := if exponent < 0 then '-' else '+'
  let fraction := match cs.drop 1 with
    | [] => []
    | rest => '.' :: rest
  cs.take 1 ++ fraction ++ ['e', sign] ++ digits exponent.natAbs

/-- The shortest text that reads back as the number: positional from `1e-5` up to below `1e16`, with
at least one digit after the point, and with an exponent elsewhere. -/
def text (x : Binary64) : String :=
  let sign := if x.negative then ['-'] else []
  let body :=
    if x.isZero then "0.0".toList
    else
      let (cs, power) := x.shortest
      let point := power + cs.length
      if -5 < point ∧ point ≤ 16 then positional cs point else exponential cs (point - 1)
  String.ofList (sign ++ body)

def tenTo (k : Nat) : Binary64 :=
  (round? false (Nat.pow 10 k) 1).getD (zero false)

def maxTenStep : Nat := 308

/-- Divides by the largest step as often as told, or until nothing is left. -/
def lower : Nat → Binary64 → Binary64
  | 0, x => x
  | steps + 1, x => if x.isZero then x else lower steps ((x.div? (tenTo maxTenStep)).getD x)

/-- Scales by a power of ten that is itself rounded; the result is rounded once more.  A power below
the largest step is taken in several steps; a power above it leaves only zero in range. -/
def scaleByTen? (x : Binary64) (power : Int) : Option Binary64 :=
  if 0 ≤ power then
    if power ≤ maxTenStep then x.mul? (tenTo power.toNat)
    else if x.isZero then some x else none
  else
    let steps := (power.natAbs - 1) / maxTenStep
    (lower steps x).div? (tenTo (power.natAbs - steps * maxTenStep))

end Binary64

end ImsiPseudonym.Decimal
