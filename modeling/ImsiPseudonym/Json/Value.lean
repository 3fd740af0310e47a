import ImsiPseudonym.Table
import ImsiPseudonym.Decimal.Binary64

/-!
JSON values.  A number is a whole number that fits 64 bits, signed or unsigned, or else a
floating-point number; the members of an object stand in the order of their keys, each key once.
-/
namespace ImsiPseudonym.Json

/-- A number as it was written: a whole number, or one with a point or an exponent. -/
inductive Number where
  | integer (n : Int)
  | real (x : Decimal.Binary64)
deriving DecidableEq, Repr

inductive Value where
  | null
  | bool (b : Bool)
  | number (n : Number)
  | string (s : String)
  | array (items : List Value)
  | object (members : List (String × Value))

abbrev Object := Table String Value

namespace Value

def int (n : Int) : Value := .number (.integer n)

/-- A text that may be missing. -/
def ofString? (s : Option String) : Value :=
  (s.map Value.string).getD .null

/-- An object from its members, of which the last one under each key counts. -/
def ofMembers (members : List (String × Value)) : Value :=
  .object (Table.ofList members)

end Value

def minInt64 : Int := -0x8000000000000000

def maxInt64 : Int := 0x7FFFFFFFFFFFFFFF

/-- The nearest integer of 64 bits. -/
def clampInt64 (n : Int) : Int :=
  max minInt64 (min n maxInt64)

/-- The integer, if it fits 64 bits. -/
def fitsInt64? (n : Int) : Option Int :=
  if minInt64 ≤ n ∧ n ≤ maxInt64 then some n else none

/-- The whole part of a number, or the end of the 64-bit range on its side. -/
def Number.toInt64 : Number → Int
  | .integer n => clampInt64 n
  | .real x => clampInt64 x.truncate

def Number.text : Number → String
  | .integer n => Decimal.intText n
  | .real x => x.text

theorem clampInt64_of_fits {n : Int} (h : fitsInt64? n = some n) : clampInt64 n = n := by
  simp only [fitsInt64?] at h
  split at h
  · simp only [clampInt64]; omega
  · cases h

theorem clampInt64_of_lt {n : Int} (h : n < minInt64) : clampInt64 n = minInt64 := by
  simp only [clampInt64, minInt64, maxInt64] at *
  omega

theorem clampInt64_of_gt {n : Int} (h : maxInt64 < n) : clampInt64 n = maxInt64 := by
  simp only [clampInt64, minInt64, maxInt64] at *
  omega

end ImsiPseudonym.Json
