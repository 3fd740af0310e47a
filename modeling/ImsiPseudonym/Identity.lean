import ImsiPseudonym.Text.Diagnostic
import ImsiPseudonym.Json.Reader

/-!
Who is meant: the subscriber, by IMSI, and the mobile carrier, by number.  An IMSI is six to fifteen
ASCII digits; what is shown of it is its last three.
-/
namespace ImsiPseudonym

open Text

/-- The least number of digits: country, network, and one digit of the subscriber. -/
def Imsi.minLength : Nat := 6

/-- The greatest number of digits. -/
def Imsi.maxLength : Nat := 15

/-- An International Mobile Subscriber Identity. -/
structure Imsi where
  digits : String
  length_ok : Imsi.minLength ≤ digits.utf8ByteSize ∧ digits.utf8ByteSize ≤ Imsi.maxLength
  digits_ok : digits.toList.all Char.isDigit = true
deriving DecidableEq

inductive ImsiError where
  | length (bytes : Nat)
  | notDigits
deriving DecidableEq, Repr

def ImsiError.reason : ImsiError → String
  | .length bytes =>
    s!"IMSI must be {Decimal.natText Imsi.minLength}-{Decimal.natText Imsi.maxLength} digits, got " ++
      s!"{Decimal.natText bytes} characters"
  | .notDigits => "IMSI must contain only ASCII digits"

def ImsiError.message (e : ImsiError) : String :=
  "invalid IMSI: " ++ e.reason

namespace Imsi

/-- The IMSI that a text spells.  Its length is looked at first, in UTF-8 bytes. -/
def ofString (s : String) : Except ImsiError Imsi :=
  if hlength : minLength ≤ s.utf8ByteSize ∧ s.utf8ByteSize ≤ maxLength then
    if hdigits : s.toList.all Char.isDigit = true then .ok ⟨s, hlength, hdigits⟩
    else .error .notDigits
  else .error (.length s.utf8ByteSize)

/-- The digits agree with a text up to the case of ASCII letters. -/
def agreesWith (imsi : Imsi) (other : String) : Bool :=
  imsi.digits.toList.map Char.toLower == other.toList.map Char.toLower

/-- The last three digits behind three stars. -/
def masked (imsi : Imsi) : String :=
  String.ofList ("***".toList ++ imsi.digits.toList.drop (imsi.digits.toList.length - 3))

def diagnostic (imsi : Imsi) : String :=
  Diagnostic.applied "Imsi" (quoted imsi.masked)

end Imsi

/-- A mobile carrier, by its number of 32 bits. -/
structure CarrierId where
  number : Int32
deriving DecidableEq

namespace CarrierId

def toInt (c : CarrierId) : Int := c.number.toInt

instance : Ord CarrierId := ⟨fun a b => compare a.toInt b.toInt⟩

/-- The carrier of a number, if the number fits 32 bits. -/
def ofInt? (n : Int) : Option CarrierId :=
  if -0x80000000 ≤ n ∧ n ≤ 0x7FFFFFFF then some ⟨Int32.ofInt n⟩ else none

def text (c : CarrierId) : String :=
  "carrier:" ++ Decimal.intText c.toInt

def diagnostic (c : CarrierId) : String :=
  Diagnostic.applied "CarrierId" (Decimal.intText c.toInt)

def toJson (c : CarrierId) : Json.Value :=
  .int c.toInt

def ofJson? : Json.Value → Option CarrierId
  | .number (.integer n) => ofInt? n
  | _ => none

theorem toInt_injective {a b : CarrierId} (h : a.toInt = b.toInt) : a = b := by
  obtain ⟨a⟩ := a
  obtain ⟨b⟩ := b
  exact congrArg CarrierId.mk (Int32.toInt_inj.1 h)

theorem compare_eq (a b : CarrierId) : compare a b = compare a.toInt b.toInt := rfl

instance : Std.LawfulEqOrd CarrierId where
  compare_self := by simp [compare_eq]
  eq_of_compare h := toInt_injective (Std.LawfulEqOrd.compare_eq_iff_eq.1 h)

instance : Std.TransOrd CarrierId where
  eq_swap {a b} := @Std.OrientedOrd.eq_swap Int _ _ a.toInt b.toInt
  isLE_trans {a b c} := @Std.TransOrd.isLE_trans Int _ _ a.toInt b.toInt c.toInt

end CarrierId

theorem Imsi.digits_injective {imsi other : Imsi} (h : imsi.digits = other.digits) :
    imsi = other := by
  cases imsi
  cases other
  cases h
  rfl

theorem Imsi.ofString_digits (imsi : Imsi) : Imsi.ofString imsi.digits = .ok imsi := by
  simp [Imsi.ofString, imsi.length_ok, imsi.digits_ok]

/-- A text is an IMSI exactly if it is six to fifteen ASCII digits. -/
theorem Imsi.ofString_eq_ok_iff {s : String} {imsi : Imsi} :
    Imsi.ofString s = .ok imsi ↔ s = imsi.digits := by
  constructor
  · intro h
    unfold Imsi.ofString at h
    split at h
    · split at h
      · cases h; rfl
      · cases h
    · cases h
  · rintro rfl
    exact imsi.ofString_digits

end ImsiPseudonym
