import Mathlib.Data.List.Forall2
import ImsiPseudonym.Json.Reader
import ImsiPseudonym.Text.Diagnostic
import ImsiPseudonym.Text.Pieces

/-!
Diagnostic text tells different values apart: quoted text cannot be mistaken for other quoted text,
numbers end before the first mark, and the parts of a value can be told from each other.  Main
definition: `Shows`, what two texts have to agree in to be the same, with one lemma for each way in
which diagnostic text is put together.
-/
namespace ImsiPseudonym.Text

variable {x y : List Char}

/-- What is made of certain characters ends before the first other one. -/
theorem append_inj_of_all {p : Char → Bool} {u v : List Char} (hu : ∀ c ∈ u, p c = true)
    (hv : ∀ c ∈ v, p c = true) (hx : ∀ c ∈ x.head?, p c = false) (hy : ∀ c ∈ y.head?, p c = false)
    (h : u ++ x = v ++ y) : u = v ∧ x = y := by
  obtain ⟨htake, hdrop⟩ := span_append hu hx
  rw [h, (span_append hv hy).1] at htake
  rw [h, (span_append hv hy).2] at hdrop
  exact ⟨htake.symm, hdrop.symm⟩

/-- The characters of integers. -/
def isNumeric (c : Char) : Bool :=
  c.isDigit || c == '-'

theorem isNumeric_of_mem_intDigits {n : Int} {c : Char} (hc : c ∈ Decimal.intDigits n) :
    isNumeric c = true := by
  have hdigits (m : Nat) (hm : c ∈ Decimal.digits m) : isNumeric c = true := by
    rw [isNumeric, Decimal.isDigit_of_mem_digits hm, Bool.true_or]
  unfold Decimal.intDigits at hc
  split at hc
  · rcases List.mem_cons.mp hc with rfl | hc
    · rfl
    · exact hdigits _ hc
  · exact hdigits _ hc

theorem intDigits_append_inj {n m : Int} (hx : ∀ c ∈ x.head?, isNumeric c = false)
    (hy : ∀ c ∈ y.head?, isNumeric c = false)
    (h : Decimal.intDigits n ++ x = Decimal.intDigits m ++ y) : n = m ∧ x = y := by
  obtain ⟨hdigits, hrest⟩ := append_inj_of_all (fun c => isNumeric_of_mem_intDigits)
    (fun c => isNumeric_of_mem_intDigits) hx hy h
  exact ⟨Decimal.intText_inj.mp (congrArg String.ofList hdigits), hrest⟩

/-- The number that hexadecimal digits spell. -/
def hexNumber (cs : List Char) : Nat :=
  cs.foldl (fun n c => 16 * n + (Json.hexValue? c).getD 0) 0

theorem hexNumber_toDigits (n : Nat) :
    hexNumber (Nat.toDigits 16 n) = n ∧ ∀ c ∈ Nat.toDigits 16 n, c ≠ '\x7d' := by
  have hdigit : ∀ k < 16, Json.hexValue? (Nat.digitChar k) = some k ∧ Nat.digitChar k ≠ '\x7d' := by
    decide
  induction n using Nat.strongRecOn with
  | ind n ih =>
      rw [Nat.toDigits_eq_if (by decide)]
      split
      · rename_i hlt
        obtain ⟨hvalue, hmark⟩ := hdigit n hlt
        simp [hexNumber, hvalue, hmark]
      · rename_i hle
        obtain ⟨hnumber, hmarks⟩ := ih (n / 16) (by omega)
        obtain ⟨hvalue, hmark⟩ := hdigit (n % 16) (Nat.mod_lt n (by decide))
        constructor
        · rw [hexNumber, List.foldl_append, ← hexNumber, hnumber, List.foldl_cons, hvalue]
          exact Nat.div_add_mod n 16
        · intro c hc
          rcases List.mem_append.mp hc with hc | hc
          · exact hmarks c hc
          · exact List.mem_singleton.mp hc ▸ hmark

/-- The next character of quoted text, and the text behind it; none at the closing mark. -/
def unquoteChar? : List Char → Option (Char × List Char)
  | '"' :: _ => none
  | '\\' :: 'n' :: rest => some ('\n', rest)
  | '\\' :: 'r' :: rest => some ('\r', rest)
  | '\\' :: 't' :: rest => some ('\t', rest)
  | '\\' :: '0' :: rest => some ('\x00', rest)
  | '\\' :: 'u' :: '\x7b' :: rest =>
    let digits := rest.takeWhile (· ≠ '\x7d')
    some (Char.ofNat (hexNumber digits), rest.drop (digits.length + 1))
  | '\\' :: c :: rest => some (c, rest)
  | c :: rest => some (c, rest)
  | [] => none

theorem unquoteChar?_codePointEscape (c : Char) (rest : List Char) :
    unquoteChar? (codePointEscape c ++ rest) = some (c, rest) := by
  obtain ⟨hnumber, hmarks⟩ := hexNumber_toDigits c.toNat
  have hdigits : (Nat.toDigits 16 c.toNat ++ '\x7d' :: rest).takeWhile (· ≠ '\x7d') =
      Nat.toDigits 16 c.toNat :=
    (span_append (fun d hd => decide_eq_true (hmarks d hd)) (by simp)).1
  have hshape : codePointEscape c ++ rest =
      '\\' :: 'u' :: '\x7b' :: (Nat.toDigits 16 c.toNat ++ '\x7d' :: rest) := by
    simp [codePointEscape]
  rw [hshape, unquoteChar?, hdigits, hnumber, Char.ofNat_toNat, List.drop_append]
  simp

theorem unquoteChar?_of_plain {c : Char} (hquote : c ≠ '"') (hescape : c ≠ '\\')
    (rest : List Char) : unquoteChar? (c :: rest) = some (c, rest) := by
  unfold unquoteChar?
  split <;> simp_all

theorem unquoteChar?_quotedChar (c : Char) (rest : List Char) :
    unquoteChar? (quotedChar c ++ rest) = some (c, rest) := by
  unfold quotedChar
  split_ifs with hquote hescape hline hreturn htab hzero hplain hunseen
  · rw [hquote]; rfl
  · rw [hescape]; rfl
  · rw [hline]; rfl
  · rw [hreturn]; rfl
  · rw [htab]; rfl
  · have hc : c = '\x00' := by
      rw [← Char.ofNat_toNat c, hzero]
    rw [hc]
    rfl
  · exact unquoteChar?_of_plain hquote hescape rest
  · exact unquoteChar?_codePointEscape c rest
  · exact unquoteChar?_of_plain hquote hescape rest

theorem quotedChars_inj {cs ds : List Char}
    (h : cs.flatMap quotedChar ++ '"' :: x = ds.flatMap quotedChar ++ '"' :: y) : cs = ds ∧ x = y := by
  induction cs generalizing ds with
  | nil =>
      cases ds with
      | nil => exact ⟨rfl, (List.cons.inj h).2⟩
      | cons d ds =>
          have hnext := congrArg unquoteChar? h
          rw [List.flatMap_cons, List.append_assoc, unquoteChar?_quotedChar] at hnext
          cases hnext
  | cons c cs ih =>
      have hnext := congrArg unquoteChar? h
      rw [List.flatMap_cons, List.append_assoc, unquoteChar?_quotedChar] at hnext
      cases ds with
      | nil => cases hnext
      | cons d ds =>
          rw [List.flatMap_cons, List.append_assoc, unquoteChar?_quotedChar] at hnext
          obtain ⟨hchar, hrest⟩ := Prod.mk.inj (Option.some.inj hnext)
          obtain ⟨hchars, hbehind⟩ := ih hrest
          exact ⟨congrArg₂ List.cons hchar hchars, hbehind⟩

theorem quoted_append_inj {s t : String} (h : (quoted s).toList ++ x = (quoted t).toList ++ y) :
    s = t ∧ x = y := by
  unfold quoted at h
  simp only [String.toList_ofList, List.cons_append, List.append_assoc, List.nil_append,
    List.cons.injEq, true_and] at h
  obtain ⟨hchars, hrest⟩ := quotedChars_inj h
  exact ⟨String.toList_injective hchars, hrest⟩

namespace Diagnostic

variable {v w name : String} {P Q : Prop} {fields others : List (String × String)}

/-- What can follow a value: nothing, or a text that begins with a mark. -/
def Marked (x : List Char) : Prop :=
  ∀ c ∈ x.head?, c = ',' ∨ c = ' ' ∨ c = ':' ∨ c = ')' ∨ c = '\x7d'

theorem marked_cons {c : Char} (hc : c = ',' ∨ c = ' ' ∨ c = ':' ∨ c = ')' ∨ c = '\x7d')
    (x : List Char) : Marked (c :: x) := by
  intro d hd
  exact Option.some.inj hd ▸ hc

theorem Marked.not_isNumeric (hx : Marked x) : ∀ c ∈ x.head?, isNumeric c = false := by
  intro c hc
  rcases hx c hc with rfl | rfl | rfl | rfl | rfl <;> decide

/-- The two texts are the same exactly under a condition, and can be told from each other otherwise,
whatever follows them. -/
structure Shows (v w : String) (P : Prop) : Prop where
  eq_of_append : ∀ x y, Marked x → Marked y → v.toList ++ x = w.toList ++ y → v = w
  eq_iff : v = w ↔ P

/-- It is enough that the condition can be read off both texts with what follows them. -/
theorem Shows.of_append (hsame : P → v = w)
    (hread : ∀ x y, Marked x → Marked y → v.toList ++ x = w.toList ++ y → P) : Shows v w P := by
  have hmarked : Marked [] := by simp [Marked]
  constructor
  · intro x y hx hy htext
    exact hsame (hread x y hx hy htext)
  · constructor
    · intro htext
      exact hread [] [] hmarked hmarked (by rw [htext])
    · exact hsame

theorem Shows.rest (h : Shows v w P) (hx : Marked x) (hy : Marked y)
    (htext : v.toList ++ x = w.toList ++ y) : P ∧ x = y := by
  obtain rfl := h.eq_of_append x y hx hy htext
  exact ⟨h.eq_iff.mp rfl, List.append_cancel_left htext⟩

theorem Shows.congr (h : Shows v w P) (hPQ : P ↔ Q) : Shows v w Q :=
  ⟨h.eq_of_append, h.eq_iff.trans hPQ⟩

theorem shows_quoted (s t : String) : Shows (quoted s) (quoted t) (s = t) :=
  .of_append (congrArg quoted) fun _ _ _ _ htext => (quoted_append_inj htext).1

theorem shows_intText (n m : Int) : Shows (Decimal.intText n) (Decimal.intText m) (n = m) := by
  apply Shows.of_append (congrArg Decimal.intText)
  intro x y hx hy htext
  rw [Decimal.intText, Decimal.intText, String.toList_ofList, String.toList_ofList] at htext
  exact (intDigits_append_inj hx.not_isNumeric hy.not_isNumeric htext).1

theorem shows_natText (n m : Nat) : Shows (Decimal.natText n) (Decimal.natText m) (n = m) := by
  rw [Decimal.natText_eq_intText, Decimal.natText_eq_intText]
  exact (shows_intText n m).congr Int.natCast_inj

theorem shows_flag (a b : Bool) : Shows (flag a) (flag b) (a = b) := by
  constructor
  · intro x y _ _ htext
    cases a <;> cases b <;> simp_all [flag]
  · cases a <;> cases b <;> simp [flag]

theorem Shows.applied (h : Shows v w P) (name : String) :
    Shows (applied name v) (applied name w) P := by
  have hclosed (x : List Char) : Marked (')' :: x) := marked_cons (by simp) x
  constructor
  · intro x y _ _ htext
    simp only [Diagnostic.applied, String.toList_append, List.append_assoc,
      List.append_cancel_left_eq] at htext
    rw [h.eq_of_append _ _ (hclosed x) (hclosed y) htext]
  · rw [← h.eq_iff]
    simp [Diagnostic.applied, ← String.toList_inj]

/-- A value that may be missing shows whether it is, and what it shows where it is there. -/
theorem Shows.optional {α : Type} {f : α → String} {R : α → α → Prop}
    (h : ∀ a b, Shows (f a) (f b) (R a b)) (a b : Option α) :
    Shows (optional (a.map f)) (optional (b.map f)) (Option.Rel R a b) := by
  cases a with
  | none =>
      cases b with
      | none => exact ⟨fun _ _ _ _ _ => rfl, by simp⟩
      | some b => constructor <;> simp [Diagnostic.optional, Diagnostic.applied, ← String.toList_inj]
  | some a =>
      cases b with
      | none => constructor <;> simp [Diagnostic.optional, Diagnostic.applied, ← String.toList_inj]
      | some b => exact ((h a b).applied "Some").congr (by simp)

theorem Shows.optional_eq {α : Type} {f : α → String} (h : ∀ a b, Shows (f a) (f b) (a = b))
    (a b : Option α) :
    Shows (Diagnostic.optional (a.map f)) (Diagnostic.optional (b.map f)) (a = b) := by
  apply (Shows.optional h a b).congr
  cases a <;> cases b <;> simp

/-- Of a value that is shown as a fixed text it is only seen whether there is one. -/
theorem shows_presence {α : Type} (fixed : String) (a b : Option α) :
    Shows (optional (a.map fun _ => quoted fixed)) (optional (b.map fun _ => quoted fixed))
      (a.isSome = b.isSome) := by
  apply (Shows.optional (fun _ _ => shows_quoted fixed fixed) a b).congr
  cases a <;> cases b <;> simp

/-- The parts of a value, each by its name. -/
def parts (fields : List (String × String)) : List Char :=
  [',', ' '].intercalate (fields.map fun part => part.1.toList ++ ':' :: ' ' :: part.2.toList)

/-- What stands behind the first part: the end, or a comma and the other parts. -/
def behind (fields : List (String × String)) (x : List Char) : List Char :=
  if fields = [] then x else ',' :: ' ' :: (parts fields ++ x)

theorem parts_cons (field value : String) (fields : List (String × String)) (x : List Char) :
    parts ((field, value) :: fields) ++ x =
      field.toList ++ ':' :: ' ' :: (value.toList ++ behind fields x) := by
  cases fields <;> simp [parts, behind]

theorem marked_behind (hx : Marked x) (fields : List (String × String)) :
    Marked (behind fields x) := by
  unfold behind
  split
  · exact hx
  · exact marked_cons (by simp) _

theorem parts_eq_of_behind_eq {c : Char} (hc : c ≠ ',')
    (h : behind fields (c :: x) = behind others (c :: y)) :
    parts fields ++ c :: x = parts others ++ c :: y := by
  unfold behind at h
  split_ifs at h with hfields hothers hothers
  · rw [hfields, hothers]
    exact h
  · exact absurd (List.cons.inj h).1 hc
  · exact absurd (List.cons.inj h).1.symm hc
  · exact (List.cons.inj (List.cons.inj h).2).2

/-- Values with the same fields show what these show. -/
inductive ShowsFields : List (String × String) → List (String × String) → Prop → Prop where
  | nil : ShowsFields [] [] True
  | cons {field v w : String} {fields others : List (String × String)} {P Q : Prop}
      (hvalue : Shows v w P) (hfields : ShowsFields fields others Q) :
      ShowsFields ((field, v) :: fields) ((field, w) :: others) (P ∧ Q)

theorem ShowsFields.eq_iff (h : ShowsFields fields others P) : fields = others ↔ P := by
  induction h with
  | nil => simp
  | cons hvalue _ ih => simp [hvalue.eq_iff, ih]

theorem ShowsFields.of_parts_eq (h : ShowsFields fields others P)
    (htext : parts fields ++ ' ' :: x = parts others ++ ' ' :: y) : P := by
  have hspace (x : List Char) : Marked (' ' :: x) := marked_cons (by simp) x
  induction h with
  | nil => exact trivial
  | @cons field v w fields others P Q hvalue hfields ih =>
      rw [parts_cons, parts_cons, List.append_cancel_left_eq] at htext
      obtain ⟨hP, hbehind⟩ := hvalue.rest (marked_behind (hspace x) fields)
        (marked_behind (hspace y) others) (List.cons.inj (List.cons.inj htext).2).2
      exact ⟨hP, ih (parts_eq_of_behind_eq (by decide) hbehind)⟩

theorem toList_structured (name : String) (fields : List (String × String)) (x : List Char) :
    (structured name fields).toList ++ x =
      name.toList ++ (' ' :: '\x7b' :: ' ' :: (parts fields ++ ' ' :: '\x7d' :: x)) := by
  simp [structured, parts, String.toList_intercalate, Function.comp_def]

theorem Shows.structured (name : String) (h : ShowsFields fields others P) :
    Shows (structured name fields) (structured name others) P := by
  apply Shows.of_append
  · intro hP
    rw [h.eq_iff.mpr hP]
  · intro x y _ _ htext
    rw [toList_structured, toList_structured, List.append_cancel_left_eq] at htext
    simp only [List.cons.injEq, true_and] at htext
    exact h.of_parts_eq htext

section Mapped

variable {κ α : Type} {key : κ → String} {value : α → String} {R : α → α → Prop}

/-- A table, each of whose keys and values has its text. -/
def entriesText (key : κ → String) (value : α → String) (entries : List (κ × α)) :
    List (String × String) :=
  entries.map fun entry => (key entry.1, value entry.2)

theorem toList_mapped (entries : List (String × String)) (x : List Char) :
    (mapped entries).toList ++ x = '\x7b' :: (parts entries ++ '\x7d' :: x) := by
  simp [mapped, parts, String.toList_intercalate, Function.comp_def]

theorem brace_cons_ne_parts (hstart : ∀ k, ∀ c ∈ (key k).toList.head?, c ≠ '\x7d')
    (entry : κ × α) (entries : List (κ × α)) :
    '\x7d' :: x ≠ parts (entriesText key value (entry :: entries)) ++ y := by
  intro htext
  rw [entriesText, List.map_cons, parts_cons] at htext
  have hkey := hstart entry.1
  cases hchars : (key entry.1).toList with
  | nil => simp [hchars] at htext
  | cons c cs =>
      rw [hchars] at htext hkey
      exact hkey c rfl (List.cons.inj htext).1.symm

theorem forall₂_of_parts_eq (hkey : ∀ k l, Shows (key k) (key l) (k = l))
    (hstart : ∀ k, ∀ c ∈ (key k).toList.head?, c ≠ '\x7d')
    (hvalue : ∀ a b, Shows (value a) (value b) (R a b)) {entries others : List (κ × α)}
    (htext : parts (entriesText key value entries) ++ '\x7d' :: x =
      parts (entriesText key value others) ++ '\x7d' :: y) :
    List.Forall₂ (fun entry other => entry.1 = other.1 ∧ R entry.2 other.2) entries others := by
  have hcolon (x : List Char) : Marked (':' :: x) := marked_cons (by simp) x
  have hbrace (x : List Char) : Marked ('\x7d' :: x) := marked_cons (by simp) x
  induction entries generalizing others with
  | nil =>
      cases others with
      | nil => exact .nil
      | cons other others => exact absurd htext (brace_cons_ne_parts hstart other others)
  | cons entry entries ih =>
      cases others with
      | nil => exact absurd htext.symm (brace_cons_ne_parts hstart entry entries)
      | cons other others =>
          rw [entriesText, entriesText, List.map_cons, List.map_cons, parts_cons, parts_cons]
            at htext
          obtain ⟨hkeys, hrest⟩ := (hkey entry.1 other.1).rest (hcolon _) (hcolon _) htext
          obtain ⟨hvalues, hbehind⟩ := (hvalue entry.2 other.2).rest
            (marked_behind (hbrace x) _) (marked_behind (hbrace y) _)
            (List.cons.inj (List.cons.inj hrest).2).2
          exact .cons ⟨hkeys, hvalues⟩ (ih (parts_eq_of_behind_eq (by decide) hbehind))

theorem entriesText_eq (hkey : ∀ k l, Shows (key k) (key l) (k = l))
    (hvalue : ∀ a b, Shows (value a) (value b) (R a b)) {entries others : List (κ × α)}
    (h : List.Forall₂ (fun entry other => entry.1 = other.1 ∧ R entry.2 other.2) entries others) :
    entriesText key value entries = entriesText key value others := by
  induction h with
  | nil => rfl
  | cons hentry _ ih =>
      unfold entriesText at ih ⊢
      rw [List.map_cons, List.map_cons, ih, (hkey _ _).eq_iff.mpr hentry.1,
        (hvalue _ _).eq_iff.mpr hentry.2]

theorem Shows.mapped (hkey : ∀ k l, Shows (key k) (key l) (k = l))
    (hstart : ∀ k, ∀ c ∈ (key k).toList.head?, c ≠ '\x7d')
    (hvalue : ∀ a b, Shows (value a) (value b) (R a b)) (entries others : List (κ × α)) :
    Shows (Diagnostic.mapped (entriesText key value entries))
      (Diagnostic.mapped (entriesText key value others))
      (List.Forall₂ (fun entry other => entry.1 = other.1 ∧ R entry.2 other.2) entries others) := by
  apply Shows.of_append
  · intro h
    rw [entriesText_eq hkey hvalue h]
  · intro x y _ _ htext
    rw [toList_mapped, toList_mapped] at htext
    exact forall₂_of_parts_eq hkey hstart hvalue (List.cons.inj htext).2

end Mapped

end Diagnostic
end ImsiPseudonym.Text
