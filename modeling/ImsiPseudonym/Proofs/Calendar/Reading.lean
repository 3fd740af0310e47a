import ImsiPseudonym.Proofs.Calendar.Gregorian
import ImsiPseudonym.Text.Pieces

/-!
Dates and times read back from their RFC 3339 text.  Main statement: `ofText?_text`, each valid date
and time is read back as itself.
-/
namespace ImsiPseudonym

theorem Decimal.length_digits_le {width n : Nat} (h : n < 10 ^ (width + 1)) :
    (digits n).length ≤ width + 1 := by
  induction width generalizing n with
  | zero =>
      rw [digits, if_pos (by simpa using h)]
      exact Nat.le_refl 1
  | succ width ih =>
      rw [digits]
      split
      · exact Nat.le_add_left 1 _
      · have hrest : n / 10 < 10 ^ (width + 1) := by
          rw [Nat.pow_succ] at h
          omega
        rw [List.length_append]
        exact Nat.succ_le_succ (ih hrest)

/-- A number that fits the width is filled up to exactly that width. -/
theorem Decimal.length_padded {width n : Nat} (hwidth : width ≠ 0) (h : n < 10 ^ width) :
    (padded width n).length = width := by
  obtain ⟨others, rfl⟩ := Nat.exists_eq_succ_of_ne_zero hwidth
  have hle := length_digits_le h
  simp only [padded, List.length_append, List.length_replicate]
  omega

namespace DateTime

variable {cs rest : List Char} {year : Int} {n : Nat}

def readNumber? (width : Nat) (cs : List Char) : Option (Nat × List Char) :=
  if width ≤ cs.length then (Decimal.readNat? (cs.take width)).map (·, cs.drop width) else none

def readTwo? (mark : Char) : List Char → Option (Nat × List Char)
  | c :: cs => if c = mark then readNumber? 2 cs else none
  | [] => none

/-- Reads a number of all the digits there are, which must be four at least. -/
def readLongYear? (cs : List Char) : Option (Nat × List Char) :=
  readNumber? (max 4 (cs.takeWhile Char.isDigit).length) cs

/-- Reads a year: four digits, or at least four behind a sign. -/
def readYear? : List Char → Option (Int × List Char)
  | '-' :: cs => (readLongYear? cs).map fun (n, rest) => (-(n : Int), rest)
  | '+' :: cs => (readLongYear? cs).map fun (n, rest) => ((n : Int), rest)
  | cs => (readNumber? 4 cs).map fun (n, rest) => ((n : Int), rest)

/-- Reads the milliseconds behind a point; without a point there are none. -/
def readFraction? : List Char → Option (Nat × List Char)
  | '.' :: cs => readNumber? 3 cs
  | cs => some (0, cs)

/-- The mark of UTC at the end. -/
def zone : List Char :=
  ['+', '0', '0', ':', '0', '0']

/-- Reads a date and time in UTC. -/
def ofText? (text : String) : Option DateTime := do
  let (year, cs) ← readYear? text.toList
  let (month, cs) ← readTwo? '-' cs
  let (day, cs) ← readTwo? '-' cs
  let (hour, cs) ← readTwo? 'T' cs
  let (minute, cs) ← readTwo? ':' cs
  let (second, cs) ← readTwo? ':' cs
  let (millisecond, cs) ← readFraction? cs
  if cs = zone then some ⟨year, month, day, hour, minute, second, millisecond⟩ else none

theorem readNumber?_append {width : Nat} (hlength : cs.length = width)
    (hread : Decimal.readNat? cs = some n) (rest : List Char) :
    readNumber? width (cs ++ rest) = some (n, rest) := by
  have hle : width ≤ (cs ++ rest).length := by
    rw [List.length_append]
    omega
  rw [readNumber?, if_pos hle, List.take_left' hlength, List.drop_left' hlength, hread]
  rfl

theorem readNumber?_padded {width : Nat} (hwidth : width ≠ 0) (h : n < 10 ^ width)
    (rest : List Char) : readNumber? width (Decimal.padded width n ++ rest) = some (n, rest) :=
  readNumber?_append (Decimal.length_padded hwidth h) (Decimal.readNat?_padded width n) rest

theorem readTwo?_padded (mark : Char) (h : n < 100) (rest : List Char) :
    readTwo? mark (mark :: (Decimal.padded 2 n ++ rest)) = some (n, rest) := by
  rw [readTwo?, if_pos rfl, readNumber?_padded (by decide) h]

theorem readLongYear?_padded (n : Nat) (hrest : ∀ c ∈ rest.head?, c.isDigit = false) :
    readLongYear? (Decimal.padded 4 n ++ rest) = some (n, rest) := by
  have hdigits : (Decimal.padded 4 n ++ rest).takeWhile Char.isDigit = Decimal.padded 4 n :=
    (Text.span_append (fun c hc => Decimal.isDigit_of_mem_padded hc) hrest).1
  rw [readLongYear?, hdigits, Nat.max_eq_right (Decimal.le_length_padded 4 n)]
  exact readNumber?_append rfl (Decimal.readNat?_padded 4 n) rest

/-- A year without a sign is read as its four digits. -/
theorem readYear?_of_isDigit {c : Char} (hc : c.isDigit = true) (cs : List Char) :
    readYear? (c :: cs) = (readNumber? 4 (c :: cs)).map fun (n, rest) => ((n : Int), rest) := by
  unfold readYear?
  split
  · rename_i heq
    cases heq
    cases hc
  · rename_i heq
    cases heq
    cases hc
  · rfl

theorem readYear?_yearText (year : Int) (hrest : ∀ c ∈ rest.head?, c.isDigit = false) :
    readYear? (yearText year ++ rest) = some (year, rest) := by
  unfold yearText
  split
  · rename_i hplain
    have hread : readNumber? 4 (Decimal.padded 4 year.natAbs ++ rest) = some (year.natAbs, rest) :=
      readNumber?_padded (by decide) (by omega) rest
    obtain ⟨c, cs, hcs⟩ : ∃ c cs, Decimal.padded 4 year.natAbs = c :: cs :=
      List.exists_cons_of_length_pos (Nat.le_trans (by decide) (Decimal.le_length_padded 4 _))
    have hdigit : c.isDigit = true :=
      Decimal.isDigit_of_mem_padded (hcs ▸ List.mem_cons_self)
    rw [hcs, List.cons_append] at hread ⊢
    rw [readYear?_of_isDigit hdigit, hread, Option.map_some]
    exact congrArg (fun year => some (year, rest)) (Int.natAbs_of_nonneg hplain.1)
  · split
    · rename_i hneg
      have hyear := Int.eq_neg_natAbs_of_nonpos (Int.le_of_lt hneg)
      rw [List.cons_append, readYear?, readLongYear?_padded _ hrest, Option.map_some]
      exact congrArg (fun year => some (year, rest)) hyear.symm
    · rename_i hpos
      have hyear := Int.natAbs_of_nonneg (Int.not_lt.mp hpos)
      rw [List.cons_append, readYear?, readLongYear?_padded _ hrest, Option.map_some]
      exact congrArg (fun year => some (year, rest)) hyear

/-- The text behind the seconds. -/
def fractionText (millisecond : Nat) : List Char :=
  if millisecond = 0 then [] else '.' :: Decimal.padded 3 millisecond

theorem readFraction?_fractionText {millisecond : Nat} (h : millisecond < 1000) :
    readFraction? (fractionText millisecond ++ zone) = some (millisecond, zone) := by
  unfold fractionText
  split
  · rename_i hzero
    rw [hzero]
    rfl
  · exact readNumber?_padded (by decide) h _

/-- A valid date and time is read back from its text. -/
theorem ofText?_text {d : DateTime} (h : d.IsValid) : ofText? d.text = some d := by
  have hmonth : d.month < 100 := Nat.lt_of_le_of_lt h.month.2 (by decide)
  have hlength := monthLength_le d.year d.month
  have hday : d.day < 100 := Nat.lt_of_le_of_lt (Nat.le_trans h.day.2 hlength) (by decide)
  have hhour : d.hour < 100 := Nat.lt_trans h.hour (by decide)
  have hminute : d.minute < 100 := Nat.lt_trans h.minute (by decide)
  have hsecond : d.second < 100 := Nat.lt_trans h.second (by decide)
  have htext : d.text.toList = yearText d.year ++ '-' :: (Decimal.padded 2 d.month ++
      '-' :: (Decimal.padded 2 d.day ++ 'T' :: (Decimal.padded 2 d.hour ++
      ':' :: (Decimal.padded 2 d.minute ++ ':' :: (Decimal.padded 2 d.second ++
      (fractionText d.millisecond ++ zone)))))) := by
    delta text fractionText zone
    simp
  have hdash (rest : List Char) : ∀ c ∈ ('-' :: rest).head?, c.isDigit = false := by simp
  simp only [ofText?, htext, readYear?_yearText _ (hdash _), readTwo?_padded _ hmonth,
    readTwo?_padded _ hday, readTwo?_padded _ hhour, readTwo?_padded _ hminute,
    readTwo?_padded _ hsecond, readFraction?_fractionText h.millisecond, Option.bind_eq_bind,
    Option.bind_some, if_true]

end DateTime
end ImsiPseudonym
