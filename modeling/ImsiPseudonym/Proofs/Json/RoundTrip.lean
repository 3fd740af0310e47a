import ImsiPseudonym.Proofs.Json.Leaves

/-!
Written JSON reads back, on one line or over several.  Main statements: `Plain.read?_compact` and
`Plain.read?_indented`, for values whose numbers are whole and fit 64 bits, whose objects have their
keys in order, and that are not nested too deep.  So no text inside a value can add, take away or
change another part of it.
-/
namespace ImsiPseudonym.Json

open Decimal

/-- The text begins with a character that is no blank and does not close a bracket. -/
def Begins (text : List Char) : Prop :=
  ∃ c cs, text = c :: cs ∧ isJsonBlank c = false ∧ c ≠ ']' ∧ c ≠ '\x7d'

theorem skipBlanks_of_begins {text : List Char} (h : Begins text) (rest : List Char) :
    skipBlanks (text ++ rest) = text ++ rest := by
  obtain ⟨c, cs, rfl, hblank, -, -⟩ := h
  simp [skipBlanks, hblank]

/-- What stands between the parts of an array or object: nothing, or a line break and blanks. -/
inductive Gap : List Char → Prop where
  | none : Gap []
  | line (level : Nat) : Gap (newline level)

theorem Gap.skipBlanks {gap : List Char} (h : Gap gap) (rest : List Char) :
    skipBlanks (gap ++ rest) = Json.skipBlanks rest := by
  cases h with
  | none => rfl
  | line level =>
      have hblanks : ∀ n, Json.skipBlanks (List.replicate n ' ' ++ rest) =
          Json.skipBlanks rest := by
        intro n
        induction n with
        | zero => rfl
        | succ n ih => exact ih
      exact hblanks (2 * level)

section Bracketed

variable {α : Type} {close : Char} {item : List Char → Option (α × List Char)}
  {piece : List Char × α} {pieces : List (List Char × α)} {lead gap last : List Char}

/-- A text is read as what it stands for wherever a value ends behind it. -/
structure ReadAs (item : List Char → Option (α × List Char)) (piece : List Char × α) : Prop where
  begins : Begins piece.1
  read (rest : List Char) (h : Ends rest) : item (piece.1 ++ rest) = some (piece.2, rest)

theorem ReadAs.length_pos (h : ReadAs item piece) : 0 < piece.1.length := by
  obtain ⟨c, cs, hpiece, -⟩ := h.begins
  simp [hpiece]

theorem joined_cons_cons (separator first second : List Char) (others : List (List Char)) :
    joined separator (first :: second :: others) =
      first ++ separator ++ joined separator (second :: others) :=
  rfl

/-- No text is empty, so there are at least as many characters as items. -/
theorem length_le_joined (gap : List Char) (h : ∀ piece ∈ pieces, ReadAs item piece) :
    pieces.length ≤ (joined (',' :: gap) (pieces.map Prod.fst)).length := by
  induction pieces with
  | nil => exact Nat.le_refl 0
  | cons piece pieces ih =>
      have hpos := (h piece List.mem_cons_self).length_pos
      have hrest := ih fun piece hmem => h piece (List.mem_cons_of_mem _ hmem)
      cases pieces with
      | nil => exact hpos
      | cons next pieces =>
          rw [List.map_cons, List.map_cons, joined_cons_cons]
          rw [List.map_cons] at hrest
          simp only [List.length_append, List.length_cons] at hrest ⊢
          omega

theorem skipBlanks_close (hclose : close = ']' ∨ close = '\x7d') (rest : List Char) :
    skipBlanks (close :: rest) = close :: rest := by
  rcases hclose with rfl | rfl <;> rfl

theorem ends_of_gap (hclose : close = ']' ∨ close = '\x7d') (hlast : Gap last)
    (rest : List Char) : Ends (last ++ close :: rest) := by
  cases hlast with
  | line level => exact .line _
  | none =>
      rcases hclose with rfl | rfl
      · exact .bracket rest
      · exact .brace rest

/-- Items are read one after the other, up to the closing bracket. -/
theorem readItems_joined (hclose : close = ']' ∨ close = '\x7d') (hlead : Gap lead)
    (hgap : Gap gap) (hlast : Gap last) (h : ∀ other ∈ piece :: pieces, ReadAs item other)
    {bound : Nat} (hbound : pieces.length < bound) (rest : List Char) :
    readItems close item bound
        (lead ++ joined (',' :: gap) ((piece :: pieces).map Prod.fst) ++ (last ++ close :: rest)) =
      some ((piece :: pieces).map Prod.snd, rest) := by
  induction pieces generalizing piece bound lead with
  | nil =>
      obtain ⟨bound, rfl⟩ := Nat.exists_eq_succ_of_ne_zero (Nat.ne_of_gt hbound)
      obtain ⟨hbegins, hread⟩ := h piece List.mem_cons_self
      simp [readItems, joined, hlead.skipBlanks, skipBlanks_of_begins hbegins,
        hread _ (ends_of_gap hclose hlast rest), hlast.skipBlanks, skipBlanks_close hclose]
  | cons next pieces ih =>
      obtain ⟨bound, rfl⟩ := Nat.exists_eq_succ_of_ne_zero (Nat.ne_zero_of_lt hbound)
      obtain ⟨hbegins, hread⟩ := h piece List.mem_cons_self
      have hfewer : pieces.length < bound := by simpa using hbound
      have hothers := ih hgap (fun other hmem => h other (List.mem_cons_of_mem _ hmem)) hfewer
      have hcomma : ',' ≠ close := by rcases hclose with rfl | rfl <;> decide
      have hskip (cs : List Char) : skipBlanks (',' :: cs) = ',' :: cs := rfl
      rw [List.map_cons, List.map_cons, joined_cons_cons]
      rw [List.map_cons] at hothers
      simp only [List.append_assoc, List.cons_append] at hothers ⊢
      rw [readItems, hlead.skipBlanks, skipBlanks_of_begins hbegins, hread _ (.comma _)]
      simp [hskip, hcomma, hothers]

theorem readBracketed_joined (hclose : close = ']' ∨ close = '\x7d') (hgap : Gap gap)
    (hlast : Gap last) (h : ∀ piece ∈ pieces, ReadAs item piece) (rest : List Char) :
    readBracketed close item
        (gap ++ joined (',' :: gap) (pieces.map Prod.fst) ++ (last ++ close :: rest)) =
      some (pieces.map Prod.snd, rest) := by
  cases pieces with
  | nil =>
      simp [readBracketed, joined, hgap.skipBlanks, hlast.skipBlanks, skipBlanks_close hclose]
  | cons piece pieces =>
      have hlength := length_le_joined gap h
      obtain ⟨c, cs, hpiece, hblank, hbracket, hbrace⟩ := (h piece List.mem_cons_self).begins
      have hne : c ≠ close := by rcases hclose with rfl | rfl <;> assumption
      obtain ⟨cs', htext⟩ :
          ∃ cs', joined (',' :: gap) ((piece :: pieces).map Prod.fst) = c :: cs' := by
        cases pieces with
        | nil => exact ⟨cs, hpiece⟩
        | cons next pieces =>
            rw [List.map_cons, List.map_cons, joined_cons_cons, hpiece]
            exact ⟨_, rfl⟩
      have hskip (cs : List Char) : skipBlanks (c :: cs) = c :: cs := by simp [skipBlanks, hblank]
      have hfewer : pieces.length < (joined (',' :: gap) ((piece :: pieces).map Prod.fst) ++
          (last ++ close :: rest)).length := by
        rw [List.length_cons] at hlength
        simp only [List.length_append, List.length_cons]
        omega
      have hitems := readItems_joined hclose .none hgap hlast h hfewer rest
      rw [List.nil_append, htext, List.cons_append] at hitems
      rw [htext, List.append_assoc, List.cons_append, readBracketed, hgap.skipBlanks, hskip]
      simp only [hne, ↓reduceIte]
      exact hitems

end Bracketed

/-- A member of an object, with the blanks before its value and the way that is written. -/
def writeMember (space : List Char) (write : Value → List Char) (member : String × Value) :
    List Char :=
  printString member.1 ++ ':' :: space ++ write member.2

/-- The texts in which a value is written: with the keys of each object in order, at most `depth`
brackets around any part, and a gap or none between the parts. -/
inductive Written : Nat → Value → List Char → Prop where
  | null {depth : Nat} : Written depth .null "null".toList
  | bool {depth : Nat} (b : Bool) : Written depth (.bool b) (printCompact (.bool b))
  | int {depth : Nat} {n : Int} (h : FitsNumber n) : Written depth (.int n) (intDigits n)
  | string {depth : Nat} (s : String) : Written depth (.string s) (printString s)
  | array {depth : Nat} {items : List Value} {write : Value → List Char} {gap last : List Char}
      (hgap : Gap gap) (hlast : Gap last) (h : ∀ item ∈ items, Written depth item (write item)) :
      Written (depth + 1) (.array items)
        ('[' :: gap ++ joined (',' :: gap) (items.map write) ++ last ++ [']'])
  | object {depth : Nat} {members : List (String × Value)} {write : Value → List Char}
      {gap last space : List Char} (hgap : Gap gap) (hlast : Gap last)
      (hspace : space = [] ∨ space = [' ']) (hsorted : Table.Sorted members)
      (h : ∀ member ∈ members, Written depth member.2 (write member.2)) :
      Written (depth + 1) (.object members)
        ('\x7b' :: gap ++ joined (',' :: gap) (members.map (writeMember space write)) ++ last ++
          ['\x7d'])

theorem begins_printString (s : String) : Begins (printString s) :=
  ⟨'"', _, rfl, rfl, by decide, by decide⟩

theorem exists_intDigits_cons (n : Int) :
    ∃ c cs, intDigits n = c :: cs ∧ (c = '-' ∨ c.isDigit = true) := by
  unfold intDigits
  split
  · exact ⟨'-', _, rfl, Or.inl rfl⟩
  · obtain ⟨c, cs, hdigits, hc⟩ := exists_isDigit_cons n.natAbs
    exact ⟨c, cs, hdigits, Or.inr hc⟩

theorem begins_intDigits (n : Int) : Begins (intDigits n) := by
  obtain ⟨c, cs, hdigits, hc⟩ := exists_intDigits_cons n
  refine ⟨c, cs, hdigits, ?_⟩
  rcases hc with rfl | hc
  · exact ⟨rfl, by decide, by decide⟩
  · refine ⟨?_, ?_, ?_⟩
    · by_contra hblank
      simp only [isJsonBlank, Bool.or_eq_true, beq_iff_eq, Bool.not_eq_false] at hblank
      rcases hblank with ((rfl | rfl) | rfl) | rfl <;> cases hc
    · rintro rfl
      cases hc
    · rintro rfl
      cases hc

variable {depth : Nat} {v : Value} {text rest : List Char}

theorem Written.begins (h : Written depth v text) : Begins text := by
  cases h with
  | null => exact ⟨'n', _, rfl, rfl, by decide, by decide⟩
  | bool b => cases b <;> exact ⟨_, _, rfl, rfl, by decide, by decide⟩
  | int => exact begins_intDigits _
  | string s => exact begins_printString s
  | array => exact ⟨'[', _, rfl, rfl, by decide, by decide⟩
  | object => exact ⟨'\x7b', _, rfl, rfl, by decide, by decide⟩

theorem readScalar_string (s : String) (rest : List Char) :
    readScalar (printString s ++ rest) = some (.string s, rest) := by
  rw [printString, List.cons_append, List.cons_append, List.append_assoc, List.singleton_append,
    readScalar, readString_escaped]
  rfl

/-- A text that begins with no bracket is read as a scalar. -/
theorem readValue_of_scalar (h : Begins text) (harray : text.head? ≠ some '[')
    (hobject : text.head? ≠ some '\x7b') (hread : readScalar (text ++ rest) = some (v, rest)) :
    readValue depth (text ++ rest) = some (v, rest) := by
  have hskip := skipBlanks_of_begins h rest
  obtain ⟨c, cs, rfl, -⟩ := h
  rw [readValue.eq_def, hskip]
  rw [List.cons_append] at hread ⊢
  split
  · exact absurd (congrArg List.head? (by assumption)) harray
  · exact absurd (congrArg List.head? (by assumption)) hobject
  · exact absurd (congrArg List.head? (by assumption)) harray
  · exact absurd (congrArg List.head? (by assumption)) hobject
  · exact hread

/-- A whole number of 64 bits is read to its end. -/
theorem readValue_intDigits {n : Int} (hn : FitsNumber n) (hrest : Stops rest) :
    readValue depth (intDigits n ++ rest) = some (.int n, rest) := by
  obtain ⟨c, cs, hdigits, hc⟩ := exists_intDigits_cons n
  have hhead : ∀ d : Char, d.isDigit = false → d ≠ '-' → (intDigits n).head? ≠ some d := by
    intro d hd hminus heq
    rw [hdigits] at heq
    cases heq
    rcases hc with rfl | hc
    · exact hminus rfl
    · rw [hd] at hc
      cases hc
  exact readValue_of_scalar (begins_intDigits n) (hhead '[' rfl (by decide))
    (hhead '\x7b' rfl (by decide)) (readScalar_intDigits hn hrest)

/-- After blanks a value is read as without them. -/
theorem readValue_of_skipBlanks {cs ds : List Char} (h : skipBlanks cs = skipBlanks ds) :
    readValue depth cs = readValue depth ds := by
  rw [readValue.eq_def, h, ← readValue.eq_def]

theorem readValue_array (rest : List Char) :
    readValue (depth + 1) ('[' :: rest) =
      (readBracketed ']' (readValue depth) rest).map fun (items, rest) => (.array items, rest) :=
  rfl

theorem readValue_object (rest : List Char) :
    readValue (depth + 1) ('\x7b' :: rest) =
      (readBracketed '\x7d' (readMember (readValue depth)) rest).map fun (members, rest) =>
        (Value.ofMembers members, rest) :=
  rfl

/-- A member is read if its value is, with or without a blank before that. -/
theorem readAs_writeMember {write : Value → List Char} {member : String × Value}
    {space : List Char} (hspace : space = [] ∨ space = [' ']) (hread : ∀ rest, Ends rest →
      readValue depth (write member.2 ++ rest) = some (member.2, rest)) :
    ReadAs (readMember (readValue depth)) (writeMember space write member, member) := by
  constructor
  · exact ⟨'"', _, rfl, rfl, by decide, by decide⟩
  · intro rest hrest
    have hcolon (cs : List Char) : skipBlanks (':' :: cs) = ':' :: cs := rfl
    have hvalue : readValue depth (space ++ (write member.2 ++ rest)) = some (member.2, rest) := by
      rw [← hread rest hrest]
      apply readValue_of_skipBlanks
      rcases hspace with rfl | rfl <;> rfl
    simp only [writeMember, printString, List.cons_append, List.append_assoc, List.nil_append,
      readMember, readString_escaped, hcolon, hvalue, Option.bind_eq_bind, Option.bind_some]
    rfl

/-- What is written is read back, and the reader stops right behind it. -/
theorem Written.readValue (h : Written depth v text) (hrest : Ends rest) :
    readValue depth (text ++ rest) = some (v, rest) := by
  -- Behind a part of a value its other parts follow, so the induction is for any `rest`.
  induction h generalizing rest with
  | @null depth => exact readValue_of_scalar (@null depth).begins (by decide) (by decide) rfl
  | @bool depth b =>
      have hbegins := (@bool depth b).begins
      cases b with
      | true => exact readValue_of_scalar hbegins (by decide) (by decide) rfl
      | false => exact readValue_of_scalar hbegins (by decide) (by decide) rfl
  | int hn => exact readValue_intDigits hn hrest.stops
  | string s =>
      apply readValue_of_scalar (begins_printString s)
      · simp [printString]
      · simp [printString]
      · exact readScalar_string s rest
  | @array depth items write gap last hgap hlast h ih =>
      have hpieces : ∀ piece ∈ items.map fun item => (write item, item),
          ReadAs (Json.readValue depth) piece := by
        intro piece hmem
        obtain ⟨item, hitem, rfl⟩ := List.mem_map.mp hmem
        exact ⟨(h item hitem).begins, fun rest hrest => ih item hitem hrest⟩
      have hread := readBracketed_joined (Or.inl rfl) hgap hlast hpieces rest
      simp only [List.map_map, Function.comp_def, List.map_id'] at hread
      simp only [List.append_assoc, List.cons_append, List.nil_append] at hread ⊢
      rw [readValue_array, hread]
      rfl
  | @object depth members write gap last space hgap hlast hspace hsorted h ih =>
      have hpieces : ∀ piece ∈ members.map fun member => (writeMember space write member, member),
          ReadAs (readMember (Json.readValue depth)) piece := by
        intro piece hmem
        obtain ⟨member, hmember, rfl⟩ := List.mem_map.mp hmem
        exact readAs_writeMember hspace fun rest hrest => ih member hmember hrest
      have hread := readBracketed_joined (Or.inr rfl) hgap hlast hpieces rest
      simp only [List.map_map, Function.comp_def, List.map_id'] at hread
      simp only [List.append_assoc, List.cons_append, List.nil_append] at hread ⊢
      rw [readValue_object, hread]
      exact congrArg (fun members => some (Value.object members, rest))
        (Table.ofList_of_sorted hsorted)

theorem Written.read? {s : String} (h : Written maxDepth v s.toList) : read? s = some v := by
  have hread := h.readValue .text
  rw [List.append_nil] at hread
  rw [Json.read?, hread]
  rfl

/-- A value with at most `depth` brackets around any part, whole numbers of 64 bits, and each
object's keys in ascending order. -/
inductive Plain : Nat → Value → Prop where
  | null {depth : Nat} : Plain depth .null
  | bool {depth : Nat} (b : Bool) : Plain depth (.bool b)
  | int {depth : Nat} {n : Int} (h : FitsNumber n) : Plain depth (.int n)
  | string {depth : Nat} (s : String) : Plain depth (.string s)
  | array {depth : Nat} {items : List Value} (h : ∀ item ∈ items, Plain depth item) :
      Plain (depth + 1) (.array items)
  | object {depth : Nat} {members : List (String × Value)} (hsorted : Table.Sorted members)
      (h : ∀ member ∈ members, Plain depth member.2) : Plain (depth + 1) (.object members)

theorem printItems_eq (items : List Value) : printItems items = items.map printCompact := by
  induction items with
  | nil => rfl
  | cons item items ih => rw [printItems, ih, List.map_cons]

theorem printMembers_eq (members : List (String × Value)) :
    printMembers members = members.map (writeMember [] printCompact) := by
  induction members with
  | nil => rfl
  | cons member members ih =>
      rw [printMembers, ih, List.map_cons]
      simp [writeMember]

theorem indentedItems_eq (level : Nat) (items : List Value) :
    indentedItems level items = items.map (printIndented level) := by
  induction items with
  | nil => simp [indentedItems]
  | cons item items ih => rw [indentedItems, ih, List.map_cons]

theorem indentedMembers_eq (level : Nat) (members : List (String × Value)) :
    indentedMembers level members = members.map (writeMember [' '] (printIndented level)) := by
  induction members with
  | nil => simp [indentedMembers]
  | cons member members ih =>
      rw [indentedMembers, ih, List.map_cons]
      simp [writeMember]

theorem printCompact_int (n : Int) : printCompact (.int n) = intDigits n := by
  rw [Value.int, printCompact, Number.text, intText, String.toList_ofList]

theorem Plain.written_compact (h : Plain depth v) : Written depth v (printCompact v) := by
  induction h with
  | null => exact .null
  | bool b => exact .bool b
  | int hn => exact printCompact_int _ ▸ .int hn
  | string s => exact .string s
  | array _ ih =>
      have hwritten := Written.array .none .none ih
      rw [printCompact, printItems_eq]
      simpa using hwritten
  | object hsorted _ ih =>
      have hwritten := Written.object .none .none (Or.inl rfl) hsorted ih
      rw [printCompact, printMembers_eq]
      simpa using hwritten

theorem Plain.written_indented (h : Plain depth v) (level : Nat) :
    Written depth v (printIndented level v) := by
  induction h generalizing level with
  | null => simpa [printIndented] using Plain.null.written_compact
  | bool b => simpa [printIndented] using (Plain.bool b).written_compact
  | int hn => simpa [Value.int, printIndented] using (Plain.int hn).written_compact
  | string s => simpa [printIndented] using (Plain.string s).written_compact
  | @array depth items h ih =>
      cases items with
      | nil =>
          have hempty := (Plain.array h).written_compact
          simpa [printIndented, printCompact, printItems, joined] using hempty
      | cons item items =>
          have hwritten := Written.array (.line (level + 1)) (.line level)
            fun item hmem => ih item hmem (level + 1)
          rw [printIndented, indentedItems_eq]
          exact hwritten
  | @object depth members hsorted h ih =>
      cases members with
      | nil =>
          have hempty := (Plain.object hsorted h).written_compact
          simpa [printIndented, printCompact, printMembers, joined] using hempty
      | cons member members =>
          have hwritten := Written.object (.line (level + 1)) (.line level) (Or.inr rfl) hsorted
            fun member hmem => ih member hmem (level + 1)
          rw [printIndented, indentedMembers_eq]
          exact hwritten

/-- The text of a value is read as that value. -/
theorem Plain.read?_compact (h : Plain maxDepth v) : read? v.compact = some v := by
  apply Written.read?
  rw [Value.compact, String.toList_ofList]
  exact h.written_compact

/-- So is its text over several lines. -/
theorem Plain.read?_indented (h : Plain maxDepth v) : read? v.indented = some v := by
  apply Written.read?
  rw [Value.indented, String.toList_ofList]
  exact h.written_indented 0

/-- Both texts of a value are read as that value. -/
theorem Plain.read?_texts (h : Plain maxDepth v) :
    ∀ text ∈ [v.compact, v.indented], read? text = some v := by
  intro text htext
  simp only [List.mem_cons, List.not_mem_nil, or_false] at htext
  rcases htext with rfl | rfl
  · exact h.read?_compact
  · exact h.read?_indented

end ImsiPseudonym.Json
