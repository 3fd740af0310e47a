/-!
White space: the characters that may surround a value without belonging to it, and the text that is
left when they are taken off both ends.
-/
namespace ImsiPseudonym.Text

/-- The character has the Unicode property White_Space. -/
def isBlank (c : Char) : Bool :=
  let code := c.toNat
  (0x9 ≤ code && code ≤ 0xD) || code == 0x20 || code == 0x85 || code == 0xA0 || code == 0x1680 ||
    (0x2000 ≤ code && code ≤ 0x200A) || code == 0x2028 || code == 0x2029 || code == 0x202F ||
    code == 0x205F || code == 0x3000

/-- Takes the blanks off both ends. -/
def trimBlanks (cs : List Char) : List Char :=
  ((cs.dropWhile isBlank).reverse.dropWhile isBlank).reverse

/-- Takes the blanks off both ends. -/
def trim (s : String) : String :=
  String.ofList (trimBlanks s.toList)

/-- A text that is present and not empty. -/
def nonEmpty? (s : Option String) : Option String :=
  s.filter (· ≠ "")

theorem nonEmpty?_eq_some_iff {s : Option String} {t : String} :
    nonEmpty? s = some t ↔ s = some t ∧ t ≠ "" := by
  simp [nonEmpty?, Option.filter_eq_some_iff]

@[simp] theorem nonEmpty?_none : nonEmpty? none = none := rfl

theorem nonEmpty?_eq_self {s : Option String} (h : s ≠ some "") : nonEmpty? s = s := by
  cases s with
  | none => rfl
  | some t => exact nonEmpty?_eq_some_iff.mpr ⟨rfl, fun hempty => h (congrArg some hempty)⟩

/-- The second text is the first without the blanks around it: it has none at its ends. -/
structure Trimmed (whole text : List Char) : Prop where
  around : ∃ lead trail, whole = lead ++ text ++ trail ∧ (∀ c ∈ lead, isBlank c = true) ∧
    ∀ c ∈ trail, isBlank c = true
  head : ∀ c, text.head? = some c → isBlank c = false
  last : ∀ c, text.getLast? = some c → isBlank c = false

theorem dropWhile_isBlank_of_head? {cs : List Char}
    (h : ∀ c, cs.head? = some c → isBlank c = false) : cs.dropWhile isBlank = cs := by
  cases cs with
  | nil => rfl
  | cons c cs => simp [h c rfl]

theorem isBlank_of_head?_dropWhile {cs : List Char} {c : Char}
    (h : (cs.dropWhile isBlank).head? = some c) : isBlank c = false := by
  have hnot := List.head?_dropWhile_not isBlank cs
  rwa [h] at hnot

theorem exists_blanks_dropWhile (cs : List Char) :
    ∃ lead, cs = lead ++ cs.dropWhile isBlank ∧ ∀ c ∈ lead, isBlank c = true :=
  ⟨cs.takeWhile isBlank, List.takeWhile_append_dropWhile.symm,
    List.all_eq_true.mp List.all_takeWhile⟩

theorem trimmed_trimBlanks (cs : List Char) : Trimmed cs (trimBlanks cs) := by
  obtain ⟨lead, hcs, hlead⟩ := exists_blanks_dropWhile cs
  obtain ⟨trail, hrest, htrail⟩ := exists_blanks_dropWhile (cs.dropWhile isBlank).reverse
  have hsplit : cs.dropWhile isBlank = trimBlanks cs ++ trail.reverse := by
    rw [trimBlanks, ← List.reverse_append, ← hrest, List.reverse_reverse]
  refine ⟨⟨lead, trail.reverse, ?_, hlead, ?_⟩, ?_, ?_⟩
  · rw [List.append_assoc, ← hsplit]
    exact hcs
  · intro c hc
    exact htrail c (List.mem_reverse.mp hc)
  · intro c hc
    have hhead : (cs.dropWhile isBlank).head? = some c := by
      rw [hsplit, List.head?_append, hc]
      rfl
    exact isBlank_of_head?_dropWhile hhead
  · intro c hc
    rw [trimBlanks, List.getLast?_reverse] at hc
    exact isBlank_of_head?_dropWhile hc

theorem Trimmed.eq_trimBlanks {whole text : List Char} (h : Trimmed whole text) :
    trimBlanks whole = text := by
  obtain ⟨lead, trail, rfl, hlead, htrail⟩ := h.around
  have htrail' : ∀ c ∈ trail.reverse, isBlank c = true :=
    fun c hc => htrail c (List.mem_reverse.mp hc)
  have hlast : (trail.reverse ++ text.reverse).dropWhile isBlank = text.reverse := by
    rw [List.dropWhile_append_of_pos htrail']
    apply dropWhile_isBlank_of_head?
    intro c hc
    exact h.last c (List.head?_reverse ▸ hc)
  rw [trimBlanks, List.append_assoc, List.dropWhile_append_of_pos hlead]
  cases text with
  | nil =>
      have hnone : (trail ++ []).dropWhile isBlank = [] := List.dropWhile_append_of_pos htrail
      rw [List.append_nil] at hnone
      rw [List.nil_append, hnone]
      rfl
  | cons first text =>
      have hfirst : (first :: text ++ trail).dropWhile isBlank = first :: text ++ trail :=
        dropWhile_isBlank_of_head? fun c hc => h.head c hc
      rw [hfirst, List.reverse_append, hlast, List.reverse_reverse]

/-- The blanks at the ends are all that is taken off, and they are all taken off. -/
theorem trimBlanks_eq_iff {whole text : List Char} :
    trimBlanks whole = text ↔ Trimmed whole text := by
  constructor
  · rintro rfl
    exact trimmed_trimBlanks whole
  · exact Trimmed.eq_trimBlanks

example : trim "\u3000 a b\n\u00a0" = "a b" := by decide
example : trim "\u200b" = "\u200b" := by decide

end ImsiPseudonym.Text
