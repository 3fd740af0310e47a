/-!
Whole numbers as decimal text: writing them in their one shortest form, and reading them back from
any string of ASCII digits with an optional sign.  Main statements: `ofDigits_digits` and
`readInt?_intDigits`, writing and then reading gives the number.
-/
namespace ImsiPseudonym.Decimal

/-- The ASCII digit of a number below ten. -/
def digit (n : Nat) : Char :=
  Char.ofNat ('0'.toNat + n % 10)

/-- The number that a digit stands for. -/
def digitValue (c : Char) : Nat :=
  c.toNat - '0'.toNat

/-- The decimal digits of a number, without leading zeros; zero is one digit. -/
def digits (n : Nat) : List Char :=
  if n < 10 then [digit n] else digits (n / 10) ++ [digit n]

/-- Continues a number by further digits. -/
def continueDigits (n : Nat) (cs : List Char) : Nat :=
  cs.foldl (fun value c => value * 10 + digitValue c) n

/-- The number that a string of digits stands for. -/
def ofDigits (cs : List Char) : Nat :=
  continueDigits 0 cs

/-- An integer in its one shortest form: a minus sign where it is negative, then its digits. -/
def intDigits (n : Int) : List Char :=
  if n < 0 then '-' :: digits n.natAbs else digits n.natAbs

/-- An integer in its one shortest form. -/
def intText (n : Int) : String :=
  String.ofList (intDigits n)

/-- A natural number in its one shortest form. -/
def natText (n : Nat) : String :=
  String.ofList (digits n)

/-- Digits filled up with zeros on the left to a given width. -/
def padded (width n : Nat) : List Char :=
  let cs := digits n
  List.replicate (width - cs.length) '0' ++ cs

/-- Reads one or more digits and nothing else. -/
def readNat? (cs : List Char) : Option Nat :=
  if cs ≠ [] ∧ cs.all Char.isDigit then some (ofDigits cs) else none

/-- Reads an optional sign and one or more digits and nothing else. -/
def readInt? : List Char → Option Int
  | '-' :: cs => (readNat? cs).map fun n : Nat => -(n : Int)
  | '+' :: cs => (readNat? cs).map Int.ofNat
  | cs => (readNat? cs).map Int.ofNat

/-- Reads an unsigned number, with or without a plus sign. -/
def readUnsigned? : List Char → Option Nat
  | '+' :: cs => readNat? cs
  | cs => readNat? cs

theorem digitValue_digit (n : Nat) : digitValue (digit n) = n % 10 := by
  have h : ∀ k < 10, digitValue (Char.ofNat ('0'.toNat + k)) = k := by decide
  simpa [digit] using h (n % 10) (Nat.mod_lt _ (by decide))

theorem isDigit_digit (n : Nat) : (digit n).isDigit = true := by
  have h : ∀ k < 10, (Char.ofNat ('0'.toNat + k)).isDigit = true := by decide
  simpa [digit] using h (n % 10) (Nat.mod_lt _ (by decide))

theorem digits_ne_nil (n : Nat) : digits n ≠ [] := by
  unfold digits; split <;> simp

theorem isDigit_of_mem_digits {n : Nat} {c : Char} (h : c ∈ digits n) : c.isDigit = true := by
  induction n using digits.induct with
  | case1 n hn =>
    rw [digits, if_pos hn] at h
    simp at h
    exact h ▸ isDigit_digit n
  | case2 n hn ih =>
    rw [digits, if_neg hn] at h
    simp at h
    rcases h with h | h
    · exact ih h
    · exact h ▸ isDigit_digit n

theorem continueDigits_append (n : Nat) (xs ys : List Char) :
    continueDigits n (xs ++ ys) = continueDigits (continueDigits n xs) ys := by
  simp [continueDigits]

@[simp] theorem ofDigits_digits (n : Nat) : ofDigits (digits n) = n := by
  induction n using digits.induct with
  | case1 n hn =>
    rw [digits, if_pos hn]
    simp [ofDigits, continueDigits, digitValue_digit]
    omega
  | case2 n hn ih =>
    rw [digits, if_neg hn, ofDigits, continueDigits_append]
    rw [ofDigits] at ih
    rw [ih]
    simp [continueDigits, digitValue_digit]
    omega

@[simp] theorem readNat?_digits (n : Nat) : readNat? (digits n) = some n := by
  have hall : (digits n).all Char.isDigit = true :=
    List.all_eq_true.2 fun c hc => isDigit_of_mem_digits hc
  simp [readNat?, digits_ne_nil, hall]

theorem isDigit_of_mem_zeros_digits {zeros n : Nat} {c : Char}
    (h : c ∈ List.replicate zeros '0' ++ digits n) : c.isDigit = true := by
  rcases List.mem_append.mp h with hzero | hdigit
  · rw [List.eq_of_mem_replicate hzero]
    rfl
  · exact isDigit_of_mem_digits hdigit

theorem readNat?_zeros_digits (zeros n : Nat) :
    readNat? (List.replicate zeros '0' ++ digits n) = some n := by
  have hzeros : continueDigits 0 (List.replicate zeros '0') = 0 := by
    induction zeros with
    | zero => rfl
    | succ zeros ih => exact ih
  have hvalue : ofDigits (List.replicate zeros '0' ++ digits n) = n := by
    rw [ofDigits, continueDigits_append, hzeros]
    exact ofDigits_digits n
  have hall : (List.replicate zeros '0' ++ digits n).all Char.isDigit = true :=
    List.all_eq_true.mpr fun c hc => isDigit_of_mem_zeros_digits hc
  rw [readNat?, if_pos ⟨by simp [digits_ne_nil], hall⟩, hvalue]

theorem readNat?_padded (width n : Nat) : readNat? (padded width n) = some n :=
  readNat?_zeros_digits _ n

theorem isDigit_of_mem_padded {width n : Nat} {c : Char} (h : c ∈ padded width n) :
    c.isDigit = true :=
  isDigit_of_mem_zeros_digits h

theorem le_length_padded (width n : Nat) : width ≤ (padded width n).length := by
  simp only [padded, List.length_append, List.length_replicate]
  omega

/-- Text that starts with no sign is read as plain digits. -/
theorem readInt?_of_unsigned {cs : List Char}
    (hminus : cs.head? ≠ some '-') (hplus : cs.head? ≠ some '+') :
    readInt? cs = (readNat? cs).map Int.ofNat := by
  unfold readInt?
  split <;> simp_all

@[simp] theorem readInt?_intDigits (n : Int) : readInt? (intDigits n) = some n := by
  unfold intDigits
  split
  · rename_i hneg
    simp only [readInt?, readNat?_digits, Option.map_some, Option.some.injEq]
    exact (Int.eq_neg_natAbs_of_nonpos (Int.le_of_lt hneg)).symm
  · rename_i hpos
    have hsign : ∀ c : Char, c.isDigit = false → (digits n.natAbs).head? ≠ some c := by
      intro c hc h
      have := isDigit_of_mem_digits (List.mem_of_mem_head? h)
      simp [hc] at this
    rw [readInt?_of_unsigned (hsign _ (by decide)) (hsign _ (by decide)), readNat?_digits,
      Option.map_some, Option.some.injEq]
    exact Int.natAbs_of_nonneg (Int.not_lt.1 hpos)

theorem intText_inj {n m : Int} : intText n = intText m ↔ n = m := by
  constructor
  · intro h
    have hread := readInt?_intDigits n
    rw [String.ofList_injective h, readInt?_intDigits] at hread
    exact (Option.some.inj hread).symm
  · rintro rfl
    rfl

theorem natText_eq_intText (n : Nat) : natText n = intText n := by
  have hsign : ¬ (n : Int) < 0 := Int.not_lt.mpr (Int.natCast_nonneg n)
  rw [natText, intText, intDigits, if_neg hsign, Int.natAbs_natCast]

example : intText (-9223372036854775808) = "-9223372036854775808" := by decide +kernel
example : readInt? "+007".toList = some 7 := by decide
example : readInt? "- 1".toList = none := by decide

end ImsiPseudonym.Decimal
