import Mathlib.Data.List.TakeDrop
import ImsiPseudonym.Json.Printer
import ImsiPseudonym.Json.Reader
import ImsiPseudonym.Text.Pieces

/-!
Strings and whole numbers as JSON writes them.  What is written is read back, and the reader stops
right behind it.
-/
namespace ImsiPseudonym.Json

open Decimal

/-- The pieces as which a character is read back from the way it is written. -/
inductive Spells (c : Char) : Piece → Prop where
  | char : Spells c (.char c)
  | unit (hcontrol : c.toNat < 0x20) : Spells c (.unit c.toNat)

theorem joinPieces_cons {c : Char} {piece : Piece} (h : Spells c piece) (pieces : List Piece) :
    joinPieces (piece :: pieces) = (joinPieces pieces).map (c :: ·) := by
  cases h with
  | char => rfl
  | unit hcontrol =>
      have hhigh : isHighHalf c.toNat = false := by
        simp only [isHighHalf, Bool.and_eq_false_iff, decide_eq_false_iff_not]
        omega
      have hlow : isLowHalf c.toNat = false := by
        simp only [isLowHalf, Bool.and_eq_false_iff, decide_eq_false_iff_not]
        omega
      cases pieces with
      | nil => simp [joinPieces, hhigh, hlow, Char.ofNat_toNat]
      | cons next pieces =>
          cases next with
          | char d => simp [joinPieces, hhigh, hlow, Char.ofNat_toNat]
          | unit u => simp [joinPieces, hhigh, hlow, Char.ofNat_toNat]

/-- The reader goes on behind a piece. -/
def readOn (piece : Piece) (rest : List Char) : Option (List Piece × List Char) :=
  (readPieces rest).map fun (pieces, rest) => (piece :: pieces, rest)

/-- An escape of one letter. -/
theorem readPieces_shortEscape {letter c : Char} (hu : letter ≠ 'u')
    (hletter : shortEscape? letter = some c) (rest : List Char) :
    readPieces ('\\' :: letter :: rest) = readOn (.char c) rest := by
  rw [readPieces, hletter, readOn]
  · cases readPieces rest <;> rfl
  · intro a b c d rest' hletter
    exact absurd hletter hu

/-- A control character by its number. -/
theorem readPieces_unit {n : Nat} (h : n < 0x20) (rest : List Char) :
    readPieces ('\\' :: 'u' :: '0' :: '0' :: hexDigit (n / 16) :: hexDigit n :: rest) =
      readOn (.unit n) rest := by
  have hunit : ∀ n < 0x20, unit? '0' '0' (hexDigit (n / 16)) (hexDigit n) = some n := by decide
  rw [readPieces, hunit n h, readOn]
  cases readPieces rest <;> rfl

/-- A character that stands for itself. -/
theorem readPieces_raw {c : Char} (hquote : c ≠ '"') (hback : c ≠ '\\') (hcontrol : 0x20 ≤ c.toNat)
    (rest : List Char) : readPieces (c :: rest) = readOn (.char c) rest := by
  have hplain : ¬ (c.toNat < 0x20 ∨ c = '\\') := by
    intro h
    rcases h with hlow | heq
    · omega
    · exact hback heq
  rw [readPieces, if_neg hplain, readOn]
  · cases readPieces rest <;> rfl
  · exact hquote
  · intro _ _ _ _ _ heq
    exact absurd heq hback
  · intro _ _ heq
    exact absurd heq hback

theorem readPieces_escapedChar (c : Char) :
    ∃ piece, Spells c piece ∧ ∀ rest, readPieces (escapedChar c ++ rest) = readOn piece rest := by
  have hshort {letter d : Char} (hd : c.toNat = d.toNat) (hu : letter ≠ 'u')
      (hletter : shortEscape? letter = some d) :
      ∃ piece, Spells c piece ∧
        ∀ rest, readPieces (['\\', letter] ++ rest) = readOn piece rest := by
    obtain rfl := Char.toNat_inj.mp hd
    exact ⟨.char c, .char, readPieces_shortEscape hu hletter⟩
  unfold escapedChar
  split
  · rename_i hquote
    exact hshort (congrArg Char.toNat hquote) (by decide) rfl
  split
  · rename_i hback
    exact hshort (congrArg Char.toNat hback) (by decide) rfl
  split
  · rename_i hquote hback hcontrol
    exact ⟨.char c, .char, readPieces_raw hquote hback hcontrol⟩
  split
  · exact hshort (d := '\x08') (by assumption) (by decide) rfl
  split
  · exact hshort (d := '\t') (by assumption) (by decide) rfl
  split
  · exact hshort (d := '\n') (by assumption) (by decide) rfl
  split
  · exact hshort (d := '\x0c') (by assumption) (by decide) rfl
  split
  · exact hshort (d := '\r') (by assumption) (by decide) rfl
  · have hcontrol : c.toNat < 0x20 := by omega
    exact ⟨.unit c.toNat, .unit hcontrol, readPieces_unit hcontrol⟩

/-- The closing quote of a string is the first quote that is not part of an escape. -/
theorem readPieces_escaped (cs rest : List Char) :
    ∃ pieces, readPieces (cs.flatMap escapedChar ++ '"' :: rest) = some (pieces, rest) ∧
      joinPieces pieces = some cs := by
  induction cs with
  | nil => exact ⟨[], rfl, rfl⟩
  | cons c cs ih =>
      obtain ⟨pieces, hread, hjoin⟩ := ih
      obtain ⟨piece, hspells, hpiece⟩ := readPieces_escapedChar c
      refine ⟨piece :: pieces, ?_, ?_⟩
      · rw [List.flatMap_cons, List.append_assoc, hpiece, readOn, hread]
        rfl
      · rw [joinPieces_cons hspells, hjoin]
        rfl

theorem readString_escaped (s : String) (rest : List Char) :
    readString (s.toList.flatMap escapedChar ++ '"' :: rest) = some (s, rest) := by
  obtain ⟨pieces, hread, hjoin⟩ := readPieces_escaped s.toList rest
  simp [readString, hread, hjoin]

/-- Where a value ends: at the end of the text or of a line, or where the array or object around it
goes on. -/
inductive Ends : List Char → Prop where
  | text : Ends []
  | line (rest : List Char) : Ends ('\n' :: rest)
  | comma (rest : List Char) : Ends (',' :: rest)
  | bracket (rest : List Char) : Ends (']' :: rest)
  | brace (rest : List Char) : Ends ('\x7d' :: rest)

/-- What follows does not go on with a number. -/
def Stops (rest : List Char) : Prop :=
  ∀ c, rest.head? = some c → c.isDigit = false ∧ c ≠ '.' ∧ c ≠ 'e' ∧ c ≠ 'E'

variable {rest : List Char}

theorem Ends.stops (h : Ends rest) : Stops rest := by
  cases h <;> simp [Stops]

theorem readDigits_digits (n : Nat) (h : Stops rest) :
    readDigits (digits n ++ rest) = some (digits n, rest) := by
  have hall : ∀ c ∈ digits n, c.isDigit = true := fun c hc => isDigit_of_mem_digits hc
  obtain ⟨htake, hdrop⟩ := Text.span_append hall fun c hc => (h c hc).1
  rw [readDigits, List.span_eq_takeWhile_dropWhile, htake, hdrop]
  cases hdigits : digits n with
  | nil => exact absurd hdigits (digits_ne_nil n)
  | cons c cs => rfl

theorem head?_digits_ne_zero {n : Nat} (hne : n ≠ 0) : (digits n).head? ≠ some '0' := by
  induction n using digits.induct with
  | case1 n hn =>
      have hdigit : ∀ n < 10, n ≠ 0 → digit n ≠ '0' := by decide
      rw [digits, if_pos hn]
      simpa using hdigit n hn hne
  | case2 n hn ih =>
      obtain ⟨c, cs, hdigits⟩ := List.exists_cons_of_ne_nil (digits_ne_nil (n / 10))
      have hlead := ih (by omega)
      rw [hdigits] at hlead
      rw [digits, if_neg hn, hdigits]
      exact hlead

/-- Only zero itself is written with a zero in front. -/
theorem digits_ne_zero_cons (n : Nat) (c : Char) (cs : List Char) : digits n ≠ '0' :: c :: cs := by
  intro h
  by_cases hzero : n = 0
  · have hlength := congrArg List.length h
    rw [hzero, digits] at hlength
    simp at hlength
  · exact head?_digits_ne_zero hzero (congrArg List.head? h)

theorem readWhole_digits (n : Nat) (h : Stops rest) :
    readWhole (digits n ++ rest) = some (digits n, rest) := by
  rw [readWhole, readDigits_digits n h]
  split
  · rename_i c cs _ heq
    have hdigits := congrArg Prod.fst (Option.some.inj heq)
    exact absurd hdigits (digits_ne_zero_cons n c cs)
  · rfl

theorem readUnsigned_digits (negative : Bool) (n : Nat) (h : Stops rest) :
    readUnsigned negative (digits n ++ rest) =
      (Literal.number? ⟨negative, digits n, none, none⟩).map fun number => (number, rest) := by
  have hfraction : readFraction rest = some (none, rest) := by
    unfold readFraction
    split
    · exact absurd rfl (h '.' rfl).2.1
    · rfl
  have hexponent : readExponent rest = some (none, rest) := by
    cases rest with
    | nil => rfl
    | cons c rest => exact if_neg (not_or.mpr (h c rfl).2.2)
  simp only [readUnsigned, readWhole_digits n h, hfraction, hexponent, Option.bind_eq_bind,
    Option.bind_some]
  cases Literal.number? ⟨negative, digits n, none, none⟩ <;> rfl

theorem le_continueDigits (n : Nat) (cs : List Char) : n ≤ continueDigits n cs := by
  induction cs generalizing n with
  | nil => exact Nat.le_refl n
  | cons c cs ih =>
      have hrest := ih (n * 10 + digitValue c)
      simp only [continueDigits, List.foldl_cons] at hrest ⊢
      omega

/-- Digits are taken in as long as the number fits. -/
theorem absorb_eq {n : Nat} {cs : List Char} (h : continueDigits n cs ≤ maxUInt64) :
    absorb n cs = (continueDigits n cs, []) := by
  induction cs generalizing n with
  | nil => rfl
  | cons c cs ih =>
      have hnext : continueDigits (n * 10 + digitValue c) cs ≤ maxUInt64 := h
      have hfits := Nat.le_trans (le_continueDigits _ cs) hnext
      rw [absorb, if_neg (Nat.not_lt.mpr hfits)]
      exact ih hnext

theorem absorb_digits {n : Nat} (h : n ≤ maxUInt64) : absorb 0 (digits n) = (n, []) := by
  have hvalue : continueDigits 0 (digits n) = n := ofDigits_digits n
  rw [absorb_eq (by rwa [hvalue]), hvalue]

theorem number?_digits {n : Nat} (h : n ≤ maxUInt64) :
    Literal.number? ⟨false, digits n, none, none⟩ = some (.integer n) := by
  simp [Literal.number?, absorb_digits h]

theorem number?_minus_digits {n : Nat} (hne : n ≠ 0) (h : minInt64 ≤ -(n : Int)) :
    Literal.number? ⟨true, digits n, none, none⟩ = some (.integer (-n)) := by
  have hfits : n ≤ maxUInt64 := by
    simp only [minInt64, maxUInt64] at *
    omega
  have hwhole : ¬ (n = 0 ∨ -(n : Int) < minInt64) := by omega
  simp [Literal.number?, absorb_digits hfits, hwhole]

/-- A whole number of 64 bits, with or without a sign. -/
def FitsNumber (n : Int) : Prop :=
  minInt64 ≤ n ∧ n ≤ maxUInt64

instance (n : Int) : Decidable (FitsNumber n) :=
  inferInstanceAs (Decidable (_ ∧ _))

theorem readScalar_of_isDigit {c : Char} (hc : c.isDigit = true) (cs : List Char) :
    readScalar (c :: cs) =
      (readUnsigned false (c :: cs)).map fun (n, rest) => (.number n, rest) := by
  unfold readScalar
  split <;> simp_all

theorem exists_isDigit_cons (n : Nat) : ∃ c cs, digits n = c :: cs ∧ c.isDigit = true := by
  cases hdigits : digits n with
  | nil => exact absurd hdigits (digits_ne_nil n)
  | cons c cs => exact ⟨c, cs, rfl, isDigit_of_mem_digits (hdigits ▸ List.mem_cons_self)⟩

theorem readScalar_intDigits {n : Int} (hn : FitsNumber n) (h : Stops rest) :
    readScalar (intDigits n ++ rest) = some (.int n, rest) := by
  obtain ⟨hlow, hhigh⟩ := hn
  unfold intDigits
  split
  · rename_i hneg
    have habs : -(n.natAbs : Int) = n := (Int.eq_neg_natAbs_of_nonpos (Int.le_of_lt hneg)).symm
    have hnumber := number?_minus_digits (n := n.natAbs) (by omega) (by rwa [habs])
    rw [List.cons_append, readScalar, readUnsigned_digits true _ h, hnumber, habs]
    rfl
  · rename_i hpos
    have habs : (n.natAbs : Int) = n := Int.natAbs_of_nonneg (Int.not_lt.mp hpos)
    have hnumber := number?_digits (n := n.natAbs) (by omega)
    obtain ⟨c, cs, hdigits, hc⟩ := exists_isDigit_cons n.natAbs
    have hread := readUnsigned_digits false n.natAbs h
    rw [hnumber, habs] at hread
    rw [hdigits, List.cons_append] at hread ⊢
    rw [readScalar_of_isDigit hc, hread]
    rfl

end ImsiPseudonym.Json
