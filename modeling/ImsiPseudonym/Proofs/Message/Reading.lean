import Mathlib.Data.List.Induction
import ImsiPseudonym.Message.Entry

/-!
What a field of an entry is read as.  As an integer counts a number, brought into the range of 64 bits,
and a text that spells an integer of that range; as text counts whatever is not null and has no parts.
Main statements: `intField?_eq_some_iff` and `textField?_eq_some_iff`.
-/
namespace ImsiPseudonym.Message

open Json Decimal Text

/-- The digits of an integer behind leading zeros, with or without a sign that fits it. -/
inductive Spelling (n : Int) : List Char → Prop where
  | plain (zeros : Nat) (h : 0 ≤ n) :
      Spelling n (List.replicate zeros '0' ++ digits n.natAbs)
  | plus (zeros : Nat) (h : 0 ≤ n) :
      Spelling n ('+' :: (List.replicate zeros '0' ++ digits n.natAbs))
  | minus (zeros : Nat) (h : n ≤ 0) :
      Spelling n ('-' :: (List.replicate zeros '0' ++ digits n.natAbs))

/-- The text spells the integer between blanks. -/
def Spelled (s : String) (n : Int) : Prop :=
  ∃ lead text trail, s.toList = lead ++ text ++ trail ∧ (∀ c ∈ lead, isBlank c = true) ∧
    Spelling n text ∧ ∀ c ∈ trail, isBlank c = true

theorem toNat_of_isDigit {c : Char} (h : c.isDigit = true) : 48 ≤ c.toNat ∧ c.toNat ≤ 57 := by
  simpa [Char.isDigit, UInt32.le_iff_toNat_le] using h

theorem isBlank_of_isDigit {c : Char} (h : c.isDigit = true) : isBlank c = false := by
  have hcode := toNat_of_isDigit h
  simp only [isBlank, Bool.or_eq_false_iff, Bool.and_eq_false_iff, decide_eq_false_iff_not,
    beq_eq_false_iff_ne]
  omega

theorem digit_digitValue {c : Char} (h : c.isDigit = true) :
    digit (digitValue c) = c ∧ digitValue c < 10 := by
  have hcode := toNat_of_isDigit h
  have hvalue : digitValue c < 10 := by
    simp only [digitValue, Char.reduceToNat]
    omega
  have hchar : '0'.toNat + digitValue c % 10 = c.toNat := by
    simp only [digitValue, Char.reduceToNat] at *
    omega
  exact ⟨by rw [digit, hchar, Char.ofNat_toNat], hvalue⟩

theorem digits_continue {n : Nat} (hn : n ≠ 0) {c : Char} (h : c.isDigit = true) :
    digits (n * 10 + digitValue c) = digits n ++ [c] := by
  obtain ⟨hdigit, hvalue⟩ := digit_digitValue h
  have hdiv : (n * 10 + digitValue c) / 10 = n := by omega
  have hmod : digit (n * 10 + digitValue c) = c := by
    have hmod' : (n * 10 + digitValue c) % 10 = digitValue c % 10 := by omega
    rw [digit, hmod', ← digit, hdigit]
  rw [digits, if_neg (by omega), hdiv, hmod]

/-- Every text of digits is the digits of its number behind zeros. -/
theorem exists_zeros {cs : List Char} (hne : cs ≠ []) (h : ∀ c ∈ cs, c.isDigit = true) :
    ∃ zeros, cs = List.replicate zeros '0' ++ digits (ofDigits cs) := by
  induction cs using List.reverseRecOn with
  | nil => exact absurd rfl hne
  | append_singleton cs c ih =>
      have hc : c.isDigit = true := h c (by simp)
      obtain ⟨hdigit, hvalue⟩ := digit_digitValue hc
      have hlast : digits (digitValue c) = [c] := by rw [digits, if_pos hvalue, hdigit]
      have hnumber : ofDigits (cs ++ [c]) = ofDigits cs * 10 + digitValue c := by
        rw [ofDigits, continueDigits_append]
        rfl
      -- Zeros in front of the last digit are leading zeros; any other digits go on with it.
      by_cases hempty : cs = []
      · subst hempty
        refine ⟨0, ?_⟩
        rw [hnumber]
        simpa [ofDigits, continueDigits] using hlast.symm
      obtain ⟨zeros, hcs⟩ := ih hempty fun d hd => h d (List.mem_append_left _ hd)
      by_cases hzero : ofDigits cs = 0
      · refine ⟨zeros + 1, ?_⟩
        have hdigits : digits 0 = ['0'] := by
          rw [digits, if_pos (by decide)]
          rfl
        rw [hzero, hdigits, ← List.replicate_succ'] at hcs
        rw [hnumber, hzero, Nat.zero_mul, Nat.zero_add, hlast, ← hcs]
      · refine ⟨zeros, ?_⟩
        rw [hnumber, digits_continue hzero hc, ← List.append_assoc, ← hcs]

theorem exists_zeros_of_readNat? {cs : List Char} {n : Nat} (h : readNat? cs = some n) :
    ∃ zeros, cs = List.replicate zeros '0' ++ digits n := by
  rw [readNat?] at h
  split at h
  · rename_i hdigits
    obtain rfl := Option.some.inj h
    exact exists_zeros hdigits.1 (List.all_eq_true.mp hdigits.2)
  · cases h

variable {n : Int} {text : List Char}

theorem Spelling.isBlank_of_mem (h : Spelling n text) {c : Char} (hc : c ∈ text) :
    isBlank c = false := by
  have hsigned {sign : Char} {zeros : Nat} (hsign : isBlank sign = false)
      (hc : c ∈ sign :: (List.replicate zeros '0' ++ digits n.natAbs)) : isBlank c = false := by
    rcases List.mem_cons.mp hc with rfl | hc
    · exact hsign
    · exact isBlank_of_isDigit (isDigit_of_mem_zeros_digits hc)
  cases h with
  | plain => exact isBlank_of_isDigit (isDigit_of_mem_zeros_digits hc)
  | plus => exact hsigned (by decide) hc
  | minus => exact hsigned (by decide) hc

theorem Spelling.readInt? (h : Spelling n text) : readInt? text = some n := by
  cases h with
  | plain zeros h =>
      have hunsigned (c : Char) (hc : c.isDigit = false) :
          (List.replicate zeros '0' ++ digits n.natAbs).head? ≠ some c := by
        intro hhead
        have hdigit := isDigit_of_mem_zeros_digits (List.mem_of_mem_head? hhead)
        rw [hc] at hdigit
        cases hdigit
      rw [readInt?_of_unsigned (hunsigned _ (by decide)) (hunsigned _ (by decide)),
        readNat?_zeros_digits, Option.map_some]
      exact congrArg some (Int.natAbs_of_nonneg h)
  | plus zeros h =>
      rw [Decimal.readInt?, readNat?_zeros_digits, Option.map_some]
      exact congrArg some (Int.natAbs_of_nonneg h)
  | minus zeros h =>
      rw [Decimal.readInt?, readNat?_zeros_digits, Option.map_some]
      exact congrArg some (Int.eq_neg_natAbs_of_nonpos h).symm

/-- Only the spellings of an integer are read as this integer. -/
theorem spelling_of_readInt? (h : Decimal.readInt? text = some n) : Spelling n text := by
  unfold Decimal.readInt? at h
  split at h
  · obtain ⟨m, hm, rfl⟩ := Option.map_eq_some_iff.mp h
    obtain ⟨zeros, rfl⟩ := exists_zeros_of_readNat? hm
    have hspelling := Spelling.minus (n := -(m : Int)) zeros (by omega)
    rwa [Int.natAbs_neg, Int.natAbs_natCast] at hspelling
  · obtain ⟨m, hm, rfl⟩ := Option.map_eq_some_iff.mp h
    obtain ⟨zeros, rfl⟩ := exists_zeros_of_readNat? hm
    exact .plus (n := (m : Int)) zeros (Int.natCast_nonneg m)
  · obtain ⟨m, hm, rfl⟩ := Option.map_eq_some_iff.mp h
    obtain ⟨zeros, rfl⟩ := exists_zeros_of_readNat? hm
    exact .plain (n := (m : Int)) zeros (Int.natCast_nonneg m)

/-- A text that spells an integer is read as this integer, if it fits 64 bits. -/
theorem asInt?_string {s : String} (h : Spelled s n) : asInt? (.string s) = fitsInt64? n := by
  obtain ⟨lead, text, trail, hs, hlead, htext, htrail⟩ := h
  have htrimmed : Trimmed s.toList text :=
    ⟨⟨lead, trail, hs, hlead, htrail⟩, fun _ hc => htext.isBlank_of_mem (List.mem_of_head? hc),
      fun _ hc => htext.isBlank_of_mem (List.mem_of_getLast? hc)⟩
  rw [asInt?, htrimmed.eq_trimBlanks, htext.readInt?, Option.bind_some]

theorem fitsInt64?_eq_some_iff {m : Int} :
    fitsInt64? m = some n ↔ m = n ∧ minInt64 ≤ n ∧ n ≤ maxInt64 := by
  rw [fitsInt64?]
  split <;> simp <;> omega

/-- Just the texts that spell an integer of 64 bits are read as this integer. -/
theorem asInt?_string_eq_some_iff {s : String} :
    asInt? (.string s) = some n ↔ Spelled s n ∧ minInt64 ≤ n ∧ n ≤ maxInt64 := by
  constructor
  · intro h
    obtain ⟨m, hread, hfits⟩ := Option.bind_eq_some_iff.mp h
    obtain ⟨rfl, hrange⟩ := fitsInt64?_eq_some_iff.mp hfits
    obtain ⟨lead, trail, hs, hlead, htrail⟩ := (trimmed_trimBlanks s.toList).around
    exact ⟨⟨lead, _, trail, hs, hlead, spelling_of_readInt? hread, htrail⟩, hrange⟩
  · intro ⟨hs, hrange⟩
    rw [asInt?_string hs]
    exact fitsInt64?_eq_some_iff.mpr ⟨rfl, hrange⟩

/-- What a value says as an integer. -/
inductive SaysInt : Value → Int → Prop where
  | within {n : Int} (hlow : minInt64 ≤ n) (hhigh : n ≤ maxInt64) : SaysInt (.int n) n
  | above {n : Int} (h : maxInt64 < n) : SaysInt (.int n) maxInt64
  | below {n : Int} (h : n < minInt64) : SaysInt (.int n) minInt64
  | real (x : Binary64) : SaysInt (.number (.real x)) (clampInt64 x.truncate)
  | text {s : String} {n : Int} (hlow : minInt64 ≤ n) (hhigh : n ≤ maxInt64) (h : Spelled s n) :
      SaysInt (.string s) n

/-- What a value says as text: itself, or as it is written. -/
inductive SaysText : Value → String → Prop where
  | string (s : String) : SaysText (.string s) s
  | integer (n : Int) : SaysText (.int n) (intText n)
  | real (x : Binary64) : SaysText (.number (.real x)) x.text
  | true : SaysText (.bool Bool.true) "true"
  | false : SaysText (.bool Bool.false) "false"

variable {v : Value} {t : String}

theorem saysInt_clamp (n : Int) : SaysInt (.int n) (clampInt64 n) := by
  rcases Int.lt_or_le n minInt64 with hlow | hlow
  · rw [clampInt64_of_lt hlow]
    exact .below hlow
  rcases Int.lt_or_le maxInt64 n with hhigh | hhigh
  · rw [clampInt64_of_gt hhigh]
    exact .above hhigh
  · rw [clampInt64_of_fits (if_pos ⟨hlow, hhigh⟩)]
    exact .within hlow hhigh

theorem asInt?_eq_some_iff : asInt? v = some n ↔ SaysInt v n := by
  constructor
  · intro h
    cases v with
    | number number =>
        obtain rfl := Option.some.inj h
        cases number with
        | integer m => exact saysInt_clamp m
        | real x => exact .real x
    | string s =>
        obtain ⟨hs, hlow, hhigh⟩ := asInt?_string_eq_some_iff.mp h
        exact .text hlow hhigh hs
    | _ => cases h
  · intro h
    cases h with
    | within hlow hhigh => exact congrArg some (clampInt64_of_fits (if_pos ⟨hlow, hhigh⟩))
    | above h => exact congrArg some (clampInt64_of_gt h)
    | below h => exact congrArg some (clampInt64_of_lt h)
    | real x => rfl
    | text hlow hhigh hs => exact asInt?_string_eq_some_iff.mpr ⟨hs, hlow, hhigh⟩

theorem asText?_eq_some_iff : asText? v = some t ↔ SaysText v t := by
  constructor
  · intro h
    cases v with
    | string s =>
        obtain rfl := Option.some.inj h
        exact .string s
    | number number =>
        obtain rfl := Option.some.inj h
        cases number with
        | integer n => exact .integer n
        | real x => exact .real x
    | bool b =>
        obtain rfl := Option.some.inj h
        cases b with
        | false => exact .false
        | true => exact .true
    | _ => cases h
  · intro h
    cases h <;> rfl

/-- A field is read as an integer just if it is there and says one. -/
theorem intField?_eq_some_iff {entry : Object} {field : String} :
    intField? entry field = some n ↔ ∃ v, Table.get? entry field = some v ∧ SaysInt v n := by
  simp only [intField?, Option.bind_eq_some_iff, asInt?_eq_some_iff]

/-- A field is read as text just if it is there and says one. -/
theorem textField?_eq_some_iff {entry : Object} {field : String} :
    textField? entry field = some t ↔ ∃ v, Table.get? entry field = some v ∧ SaysText v t := by
  simp only [textField?, Option.bind_eq_some_iff, asText?_eq_some_iff]

end ImsiPseudonym.Message
