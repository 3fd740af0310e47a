/-!
The ASCII form of international host labels: the plain characters of the label, a hyphen, and the
other characters with their places as a chain of variable-length numbers.
-/
namespace ImsiPseudonym.Url.Punycode

def digitValue? (c : Char) : Option Nat :=
  if 'a' ≤ c ∧ c ≤ 'z' then some (c.toNat - 'a'.toNat)
  else if 'A' ≤ c ∧ c ≤ 'Z' then some (c.toNat - 'A'.toNat)
  else if '0' ≤ c ∧ c ≤ '9' then some (c.toNat - '0'.toNat + 26)
  else none

/-- How many steps a delta takes to fall to the range of one digit, and what it falls to. -/
def settle : Nat → Nat → Nat → Nat × Nat
  | 0, delta, steps => (delta, steps)
  | fuel + 1, delta, steps =>
    if 455 < delta then settle fuel (delta / 35) (steps + 1) else (delta, steps)

/-- The bias for the next number, after a number and the count of characters placed so far. -/
def adapt (delta count : Nat) (first : Bool) : Nat :=
  let delta := if first then delta / 700 else delta / 2
  let (rest, steps) := settle 32 (delta + delta / count) 0
  steps * 36 + 36 * rest / (rest + 38)

def maxNumber : Nat := 0xFFFFFFFF

/-- Reads one variable-length number: its value and what follows it. -/
def readNumber (bias : Nat) : List Char → Nat → Nat → Nat → Option (Nat × List Char)
  | [], _, _, _ => none
  | c :: rest, position, weight, value =>
    match digitValue? c with
    | none => none
    | some digit =>
      let threshold := if position ≤ bias then 1 else if bias + 26 ≤ position then 26
        else position - bias
      let value := value + digit * weight
      if maxNumber < value then none
      else if digit < threshold then some (value, rest)
      else readNumber bias rest (position + 36) (weight * (36 - threshold)) value

/-- Places the characters of the number chain among those placed before. -/
def placeAll : Nat → List Char → (code index bias : Nat) → (first : Bool) → List Char →
    Option (List Char)
  | _, [], _, _, _, _, placed => some placed
  | 0, _ :: _, _, _, _, _, _ => none
  | fuel + 1, cs, code, index, bias, first, placed =>
    match readNumber bias cs 36 1 0 with
    | none => none
    | some (delta, rest) =>
      let count := placed.length + 1
      let code := code + (index + delta) / count
      let index := (index + delta) % count
      if code < 0x110000 ∧ ¬(0xD800 ≤ code ∧ code < 0xE000) then
        let placed := placed.take index ++ Char.ofNat code :: placed.drop index
        placeAll fuel rest code (index + 1) (adapt delta count first) false placed
      else none

def decode? (cs : List Char) : Option (List Char) :=
  let afterHyphen := (cs.reverse.takeWhile (· ≠ '-')).reverse
  let plain := cs.take (cs.length - afterHyphen.length - 1)
  placeAll afterHyphen.length afterHyphen 128 0 72 true plain

example : decode? "bcher-kva".toList = some "bücher".toList := by decide

end ImsiPseudonym.Url.Punycode
