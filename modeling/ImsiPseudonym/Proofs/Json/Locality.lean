import Mathlib.Data.List.TakeWhile
import ImsiPseudonym.Proofs.Json.RoundTrip

/-!
Locality of the reader: of what stands behind the text that it takes, it looks at the first
character at most.  Main statements: the ways in which readers are put together keep locality, and
`local_readValue`.
-/
namespace ImsiPseudonym.Json

variable {α β : Type}

/-- What a reader takes off the front of this text, it takes with the same result if something else
follows that begins with the same character. -/
def LocalAt (read : List Char → Option (α × List Char)) (cs : List Char) : Prop :=
  ∀ v rest, read cs = some (v, rest) →
    ∃ text, cs = text ++ rest ∧
      ∀ rest', rest'.head? = rest.head? → read (text ++ rest') = some (v, rest')

/-- The reader does so with every text. -/
def Local (read : List Char → Option (α × List Char)) : Prop :=
  ∀ cs, LocalAt read cs

theorem head?_append_congr {rest rest' : List Char} (h : rest'.head? = rest.head?)
    (text : List Char) : (text ++ rest').head? = (text ++ rest).head? := by
  rw [List.head?_append, List.head?_append, h]

theorem skipBlanks_append {gap : List Char} (h : ∀ c ∈ gap, isJsonBlank c = true)
    (rest : List Char) : skipBlanks (gap ++ rest) = skipBlanks rest :=
  List.dropWhile_append_of_pos h

/-- What the blanks leave has only blanks in front of it. -/
theorem exists_gap (cs : List Char) :
    ∃ gap, (∀ c ∈ gap, isJsonBlank c = true) ∧ cs = gap ++ skipBlanks cs :=
  ⟨cs.takeWhile isJsonBlank, fun _ hc => List.mem_takeWhile_imp hc,
    List.takeWhile_append_dropWhile.symm⟩

theorem head?_skipBlanks {cs : List Char} {c : Char} (h : (skipBlanks cs).head? = some c) :
    isJsonBlank c = false := by
  have hnot := List.head?_dropWhile_not isJsonBlank cs
  rw [skipBlanks] at h
  rw [h] at hnot
  simpa using hnot

theorem skipBlanks_of_head? {cs : List Char} (h : ∀ c, cs.head? = some c → isJsonBlank c = false) :
    skipBlanks cs = cs := by
  cases cs with
  | nil => rfl
  | cons c cs => simp [skipBlanks, h c rfl]

@[simp] theorem skipBlanks_skipBlanks (cs : List Char) :
    skipBlanks (skipBlanks cs) = skipBlanks cs :=
  skipBlanks_of_head? fun _ => head?_skipBlanks

variable {read next : List Char → Option (α × List Char)} {cs : List Char}

/-- The first character is taken, and the rest is left to another reader. -/
theorem LocalAt.cons {c : Char} (hread : ∀ cs, read (c :: cs) = next cs) (h : LocalAt next cs) :
    LocalAt read (c :: cs) := by
  intro v rest hv
  rw [hread] at hv
  obtain ⟨text, rfl, hagain⟩ := h v rest hv
  refine ⟨c :: text, rfl, ?_⟩
  intro rest' hrest
  rw [List.cons_append, hread]
  exact hagain rest' hrest

/-- The first character decides on the reader. -/
theorem LocalAt.of_head? (h : LocalAt next cs)
    (hread : ∀ cs', cs'.head? = cs.head? → read cs' = next cs') : LocalAt read cs := by
  intro v rest hv
  rw [hread cs rfl] at hv
  obtain ⟨text, hcs, hagain⟩ := h v rest hv
  refine ⟨text, hcs, ?_⟩
  intro rest' hrest
  rw [hread _ (hcs ▸ head?_append_congr hrest text)]
  exact hagain rest' hrest

/-- Blanks are passed over. -/
theorem LocalAt.afterBlanks (h : LocalAt read (skipBlanks cs)) :
    LocalAt (fun cs => read (skipBlanks cs)) cs := by
  intro v rest hread
  obtain ⟨gap, hgap, hcs⟩ := exists_gap cs
  obtain ⟨text, htext, hagain⟩ := h v rest hread
  refine ⟨gap ++ text, by rw [List.append_assoc, ← htext, ← hcs], ?_⟩
  intro rest' hrest
  have hhead : (text ++ rest').head? = (skipBlanks cs).head? :=
    htext ▸ head?_append_congr hrest text
  have hskip : skipBlanks (text ++ rest') = text ++ rest' :=
    skipBlanks_of_head? fun c hc => head?_skipBlanks (hhead ▸ hc)
  dsimp only
  rw [List.append_assoc, skipBlanks_append hgap, hskip]
  exact hagain rest' hrest

/-- One reader goes on where the other has stopped. -/
theorem LocalAt.andThen (h : LocalAt read cs) (next : α → List Char → Option (β × List Char))
    (hnext : ∀ v rest, read cs = some (v, rest) → LocalAt (next v) rest) :
    LocalAt (fun cs => (read cs).bind fun r => next r.1 r.2) cs := by
  intro w rest hread
  obtain ⟨⟨v, middle⟩, hfirst, hsecond⟩ := Option.bind_eq_some_iff.mp hread
  obtain ⟨first, hcs, hagain⟩ := h v _ hfirst
  obtain ⟨second, rfl, hagain'⟩ := hnext v _ hfirst w _ hsecond
  refine ⟨first ++ second, hcs.trans (List.append_assoc _ _ _).symm, ?_⟩
  intro rest' hrest
  rw [List.append_assoc]
  exact Option.bind_eq_some_iff.mpr
    ⟨(v, second ++ rest'), hagain _ (head?_append_congr hrest second), hagain' rest' hrest⟩

namespace Local

/-- Nothing is taken. -/
theorem done (v : α) : Local fun cs => some (v, cs) := by
  intro cs w rest hread
  cases hread
  exact ⟨[], rfl, fun _ _ => rfl⟩

/-- There is no result. -/
theorem fail : Local fun _ => (none : Option (α × List Char)) :=
  nofun

theorem andThen (h : Local read) (next : α → List Char → Option (β × List Char))
    (hnext : ∀ v, Local (next v)) : Local fun cs => (read cs).bind fun r => next r.1 r.2 :=
  fun cs => (h cs).andThen next fun v rest _ => hnext v rest

theorem map (h : Local read) (f : α → β) : Local fun cs => (read cs).map fun r => (f r.1, r.2) := by
  have hmap : (fun cs => (read cs).map fun r => (f r.1, r.2)) =
      fun cs => (read cs).bind fun r => some (f r.1, r.2) := by
    funext cs
    cases read cs <;> rfl
  rw [hmap]
  exact h.andThen (fun v cs => some (f v, cs)) fun v => done (f v)

/-- A reader depends on something that may be missing. -/
theorem ofOption {γ : Type} (o : Option γ) {next : γ → List Char → Option (α × List Char)}
    (h : ∀ w, Local (next w)) : Local fun cs => o.bind fun w => next w cs := by
  cases o with
  | none => exact fail
  | some w => exact h w

theorem length_le (h : Local read) {v : α} {rest : List Char} (hread : read cs = some (v, rest)) :
    rest.length ≤ cs.length := by
  obtain ⟨text, rfl, -⟩ := h cs v rest hread
  simp

end Local

/-- If a piece stands at the front, locality goes back to what follows it. -/
theorem localAt_readPieces_append (front : List Char) (piece : Piece)
    (hfront : ∀ rest, readPieces (front ++ rest) = readOn piece rest) {cs : List Char}
    (h : LocalAt readPieces cs) : LocalAt readPieces (front ++ cs) := by
  intro pieces rest hread
  rw [hfront] at hread
  obtain ⟨⟨others, rest⟩, hothers, heq⟩ := Option.map_eq_some_iff.mp hread
  cases heq
  obtain ⟨text, rfl, hagain⟩ := h others rest hothers
  refine ⟨front ++ text, (List.append_assoc _ _ _).symm, ?_⟩
  intro rest' hrest
  rw [List.append_assoc, hfront, readOn, hagain rest' hrest]
  rfl

theorem local_readPieces : Local readPieces := by
  intro cs
  induction cs using readPieces.induct with
  | case1 => exact nofun
  | case2 rest =>
      intro v rest' hread
      cases hread
      exact ⟨['"'], rfl, fun _ _ => rfl⟩
  | case3 a b c d rest ih =>
      cases hunit : unit? a b c d with
      | none =>
          intro v rest' hread
          simp [readPieces, hunit] at hread
      | some u =>
          apply localAt_readPieces_append ['\\', 'u', a, b, c, d] (.unit u) _ ih
          intro rest
          simp only [List.cons_append, List.nil_append, readPieces, hunit, readOn]
          cases readPieces rest <;> rfl
  | case4 c rest hu ih =>
      cases hescape : shortEscape? c with
      | none =>
          intro v rest' hread
          rw [readPieces, hescape] at hread
          · cases hread
          · exact hu
      | some d =>
          have hne : c ≠ 'u' := by
            rintro rfl
            cases hescape
          exact localAt_readPieces_append ['\\', c] (.char d)
            (readPieces_shortEscape hne hescape) ih
  | case5 c rest hquote hu hback hbad =>
      intro v rest' hread
      rw [readPieces, if_pos hbad] at hread
      · cases hread
      · exact hquote
      · exact hu
      · exact hback
  | case6 c rest hquote hu hback hplain ih =>
      obtain ⟨hcontrol, hslash⟩ := not_or.mp hplain
      exact localAt_readPieces_append [c] (.char c)
        (readPieces_raw hquote hslash (Nat.not_lt.mp hcontrol)) ih

theorem local_readString : Local readString :=
  local_readPieces.andThen
    (fun pieces cs => (joinPieces pieces).bind fun chars => some (String.ofList chars, cs))
    fun _ => .ofOption _ fun _ => .done _

theorem local_readDigits : Local readDigits := by
  intro cs ds rest hread
  rw [readDigits, List.span_eq_takeWhile_dropWhile] at hread
  have hsplit := List.takeWhile_append_dropWhile (p := Char.isDigit) (l := cs)
  have hdigits : ∀ c ∈ cs.takeWhile Char.isDigit, c.isDigit = true :=
    fun _ hc => List.mem_takeWhile_imp hc
  have hstop : ∀ c, (cs.dropWhile Char.isDigit).head? = some c → c.isDigit = false := by
    intro c hc
    have hnot := List.head?_dropWhile_not Char.isDigit cs
    rw [hc] at hnot
    simpa using hnot
  cases htaken : cs.takeWhile Char.isDigit with
  | nil =>
      rw [htaken] at hread
      cases hread
  | cons d others =>
      rw [htaken] at hread hsplit hdigits
      cases hread
      refine ⟨d :: others, hsplit.symm, ?_⟩
      intro rest' hrest
      obtain ⟨htake, hdrop⟩ := Text.span_append hdigits fun c hc => hstop c (hrest ▸ hc)
      rw [readDigits, List.span_eq_takeWhile_dropWhile, htake, hdrop]

theorem local_readFraction : Local readFraction := by
  intro cs
  by_cases hpoint : cs.head? = some '.'
  · obtain ⟨rest, rfl⟩ := List.head?_eq_some_iff.mp hpoint
    exact .cons (fun _ => rfl) (local_readDigits.map some rest)
  · apply LocalAt.of_head? (Local.done none cs)
    intro cs' hhead
    unfold readFraction
    split
    · exact absurd hhead.symm hpoint
    · rfl

/-- What stands behind the letter of an exponent. -/
theorem local_signedDigits : Local fun cs =>
    (readDigits (readExponentSign cs).2).map fun r =>
      (some ((readExponentSign cs).1, r.1), r.2) := by
  intro cs
  have hdigits (negative : Bool) := local_readDigits.map fun ds => some (negative, ds)
  by_cases hplus : cs.head? = some '+'
  · obtain ⟨rest, rfl⟩ := List.head?_eq_some_iff.mp hplus
    exact .cons (fun _ => rfl) (hdigits false rest)
  by_cases hminus : cs.head? = some '-'
  · obtain ⟨rest, rfl⟩ := List.head?_eq_some_iff.mp hminus
    exact .cons (fun _ => rfl) (hdigits true rest)
  apply (hdigits false cs).of_head?
  intro cs' hhead
  have hsign : readExponentSign cs' = (false, cs') := by
    unfold readExponentSign
    split
    · exact absurd hhead.symm hplus
    · exact absurd hhead.symm hminus
    · rfl
  rw [hsign]

theorem local_readExponent : Local readExponent := by
  intro cs
  cases cs with
  | nil =>
      apply LocalAt.of_head? (Local.done none [])
      intro cs' hhead
      obtain rfl := List.head?_eq_none_iff.mp hhead
      rfl
  | cons c cs =>
      by_cases he : c = 'e' ∨ c = 'E'
      · apply LocalAt.cons _ (local_signedDigits cs)
        intro cs
        rw [readExponent, if_pos he]
      · apply LocalAt.of_head? (Local.done none (c :: cs))
        intro cs' hhead
        obtain ⟨rest, rfl⟩ := List.head?_eq_some_iff.mp hhead
        rw [readExponent, if_neg he]

theorem local_readWhole : Local readWhole := by
  intro cs ds rest hread
  have hdigits : readDigits cs = some (ds, rest) := by
    rw [readWhole] at hread
    split at hread
    · cases hread
    · exact hread
  obtain ⟨text, rfl, hagain⟩ := local_readDigits cs ds rest hdigits
  refine ⟨text, rfl, ?_⟩
  intro rest' hrest
  rw [readWhole, hdigits] at hread
  rw [readWhole, hagain rest' hrest]
  split at hread
  · cases hread
  · rename_i hother
    split
    · rename_i heq
      cases heq
      exact absurd rfl (hother _ _ _)
    · rfl

theorem local_readUnsigned (negative : Bool) : Local (readUnsigned negative) :=
  local_readWhole.andThen
    (fun whole cs => (readFraction cs).bind fun r => (readExponent r.2).bind fun s =>
      (Literal.number? ⟨negative, whole, r.1, s.1⟩).bind fun number => some (number, s.2))
    fun whole => local_readFraction.andThen
      (fun fraction cs => (readExponent cs).bind fun s =>
        (Literal.number? ⟨negative, whole, fraction, s.1⟩).bind fun number => some (number, s.2))
      fun fraction => local_readExponent.andThen
        (fun exponent cs =>
          (Literal.number? ⟨negative, whole, fraction, exponent⟩).bind fun number =>
            some (number, cs))
        fun _ => .ofOption _ fun number => .done number

theorem local_afterWord? (word : List Char) (v : α) :
    Local fun cs => (afterWord? word cs).map fun rest => (v, rest) := by
  induction word with
  | nil => exact .done v
  | cons w word ih =>
      intro cs
      cases cs with
      | nil => exact nofun
      | cons c cs =>
          by_cases hw : w = c
          · apply LocalAt.cons _ (ih cs)
            intro cs
            rw [afterWord?, if_pos hw]
          · intro v rest hread
            simp [afterWord?, hw] at hread

theorem local_readScalar : Local readScalar := by
  intro cs
  have hnumber (negative : Bool) := (local_readUnsigned negative).map Value.number
  cases cs using readScalar.fun_cases with
  | case1 cs => exact .cons (fun _ => rfl) (local_readString.map Value.string cs)
  | case2 cs => exact .cons (fun _ => rfl) (hnumber true cs)
  | case3 cs => exact .cons (fun _ => rfl) (local_afterWord? "ull".toList Value.null cs)
  | case4 cs => exact .cons (fun _ => rfl) (local_afterWord? "rue".toList (Value.bool true) cs)
  | case5 cs => exact .cons (fun _ => rfl) (local_afterWord? "alse".toList (Value.bool false) cs)
  | case6 cs hquote hminus hn ht hf =>
      apply (hnumber false cs).of_head?
      intro cs' hhead
      have hfirst {c : Char} (h : ∀ rest, cs = c :: rest → False) :
          ∀ rest, cs' = c :: rest → False := by
        rintro rest rfl
        obtain ⟨rest, rfl⟩ := List.head?_eq_some_iff.mp hhead.symm
        exact h rest rfl
      rw [readScalar]
      · exact hfirst hquote
      · exact hfirst hminus
      · exact hfirst hn
      · exact hfirst ht
      · exact hfirst hf

section Bracketed

variable {close : Char} {item : List Char → Option (α × List Char)}

theorem readItems_succ (bound : Nat) (cs : List Char) :
    readItems close item (bound + 1) cs =
      (item (skipBlanks cs)).bind fun r =>
        match skipBlanks r.2 with
        | [] => none
        | c :: rest =>
          if c = close then some ([r.1], rest)
          else if c = ',' then
            (readItems close item bound rest).bind fun others => some (r.1 :: others.1, others.2)
          else none :=
  rfl

theorem length_lt_of_skipBlanks {cs rest : List Char} {c : Char} (h : skipBlanks cs = c :: rest) :
    rest.length < cs.length := by
  obtain ⟨gap, -, hcs⟩ := exists_gap cs
  rw [hcs, h, List.length_append, List.length_cons]
  omega

theorem length_skipBlanks_le (cs : List Char) : (skipBlanks cs).length ≤ cs.length :=
  (List.dropWhile_suffix isJsonBlank).length_le

theorem readItems_nil (h : Local item) (bound : Nat) : readItems close item bound [] = none := by
  cases bound with
  | zero => rfl
  | succ bound =>
      rw [readItems_succ, Option.bind_eq_none_iff]
      intro r hread
      have hrest : r.2 = [] := List.length_eq_zero_iff.mp (Nat.le_zero.mp (h.length_le hread))
      rw [hrest]
      rfl

theorem length_lt_of_item (h : Local item) {cs middle rest : List Char} {v : α} {c : Char}
    (hread : item (skipBlanks cs) = some (v, middle)) (hskip : skipBlanks middle = c :: rest) :
    rest.length < cs.length :=
  calc rest.length < middle.length := length_lt_of_skipBlanks hskip
    _ ≤ (skipBlanks cs).length := h.length_le hread
    _ ≤ cs.length := length_skipBlanks_le cs

/-- Each item takes a character at least, so there is no use in a bound beyond their number. -/
theorem readItems_succ_of_length_le (h : Local item) {bound : Nat} {cs : List Char}
    (hbound : cs.length ≤ bound) :
    readItems close item (bound + 1) cs = readItems close item bound cs := by
  induction bound generalizing cs with
  | zero =>
      obtain rfl := List.length_eq_zero_iff.mp (Nat.le_zero.mp hbound)
      rw [readItems_nil h, readItems_nil h]
  | succ bound ih =>
      rw [readItems_succ, readItems_succ]
      refine Option.bind_congr ?_
      rintro ⟨v, middle⟩ hread
      dsimp only
      cases hskip : skipBlanks middle with
      | nil => rfl
      | cons c rest =>
          have hshorter := length_lt_of_item h hread hskip
          dsimp only
          rw [ih (by omega)]

/-- The items up to a closing bracket, however many they are. -/
def readSeries (close : Char) (item : List Char → Option (α × List Char)) (cs : List Char) :
    Option (List α × List Char) :=
  readItems close item cs.length cs

theorem readItems_eq_readSeries (h : Local item) {bound : Nat} {cs : List Char}
    (hbound : cs.length ≤ bound) : readItems close item bound cs = readSeries close item cs := by
  induction bound, hbound using Nat.le_induction with
  | base => rfl
  | succ bound hle ih => rw [readItems_succ_of_length_le h hle, ih]

/-- How items go on behind one of them. -/
def readFurther (close : Char) (item : List Char → Option (α × List Char)) (first : α) :
    List Char → Option (List α × List Char)
  | [] => none
  | c :: rest =>
    if c = close then some ([first], rest)
    else if c = ',' then
      (readSeries close item rest).bind fun others => some (first :: others.1, others.2)
    else none

theorem readSeries_eq (h : Local item) (cs : List Char) :
    readSeries close item cs =
      (item (skipBlanks cs)).bind fun r => readFurther close item r.1 (skipBlanks r.2) := by
  have hbound : cs.length ≤ cs.length + 1 := Nat.le_succ _
  rw [← readItems_eq_readSeries h hbound, readItems_succ]
  refine Option.bind_congr ?_
  rintro ⟨v, middle⟩ hread
  dsimp only
  cases hskip : skipBlanks middle with
  | nil => rfl
  | cons c rest =>
      have hshorter := length_lt_of_item h hread hskip
      dsimp only [readFurther]
      rw [readItems_eq_readSeries h (Nat.le_of_lt hshorter)]

theorem localAt_readSeries (h : Local item) (cs : List Char) :
    LocalAt (readSeries close item) cs := by
  -- Further items stand in a shorter text.
  induction hlength : cs.length using Nat.strong_induction_on generalizing cs with
  | h n ih =>
      refine LocalAt.of_head? ?_ fun cs' _ => readSeries_eq h cs'
      apply (h (skipBlanks cs)).afterBlanks.andThen
        fun v cs => readFurther close item v (skipBlanks cs)
      intro v middle hread
      apply LocalAt.afterBlanks
      cases hskip : skipBlanks middle with
      | nil => exact nofun
      | cons c rest =>
          by_cases hclose : c = close
          · apply LocalAt.cons _ (Local.done [v] rest)
            intro cs
            rw [readFurther, if_pos hclose]
          by_cases hcomma : c = ','
          · have hshorter : rest.length < n := hlength ▸ length_lt_of_item h hread hskip
            have hothers := (ih _ hshorter rest rfl).andThen
              (fun others cs => some (v :: others, cs)) fun others rest _ =>
                Local.done (v :: others) rest
            apply LocalAt.cons _ hothers
            intro cs
            rw [readFurther, if_neg hclose, if_pos hcomma]
          · intro w rest' hread
            rw [readFurther, if_neg hclose, if_neg hcomma] at hread
            cases hread

/-- What follows the blanks behind an opening bracket. -/
def readOpened (close : Char) (item : List Char → Option (α × List Char)) :
    List Char → Option (List α × List Char)
  | [] => none
  | c :: rest => if c = close then some ([], rest) else readSeries close item (c :: rest)

theorem readBracketed_eq (cs : List Char) :
    readBracketed close item cs = readOpened close item (skipBlanks cs) := by
  rw [readBracketed]
  cases skipBlanks cs <;> rfl

theorem local_readBracketed (h : Local item) : Local (readBracketed close item) := by
  intro cs
  refine LocalAt.of_head? ?_ fun cs' _ => readBracketed_eq cs'
  apply LocalAt.afterBlanks
  cases skipBlanks cs with
  | nil => exact nofun
  | cons c rest =>
      by_cases hclose : c = close
      · apply LocalAt.cons _ (Local.done [] rest)
        intro cs
        rw [readOpened, if_pos hclose]
      · apply (localAt_readSeries h (c :: rest)).of_head?
        intro cs' hhead
        obtain ⟨rest', rfl⟩ := List.head?_eq_some_iff.mp hhead
        rw [readOpened, if_neg hclose]

end Bracketed

/-- What follows the key of a member. -/
def readColon (value : List Char → Option (α × List Char)) (key : String) :
    List Char → Option ((String × α) × List Char)
  | ':' :: cs => (value cs).bind fun r => some ((key, r.1), r.2)
  | _ => none

theorem readMember_eq (value : List Char → Option (α × List Char)) (cs : List Char) :
    readMember value ('"' :: cs) =
      (readString cs).bind fun r => readColon value r.1 (skipBlanks r.2) := by
  rw [readMember]
  refine Option.bind_congr ?_
  rintro ⟨key, middle⟩ -
  dsimp only
  generalize skipBlanks middle = behind
  split
  · rfl
  · rename_i hcolon
    rw [readColon]
    exact hcolon

theorem local_readColon {value : List Char → Option (α × List Char)} (h : Local value)
    (key : String) : Local (readColon value key) := by
  intro cs
  cases cs using readColon.fun_cases with
  | case1 cs =>
      have hpair := h.andThen (fun v cs => some ((key, v), cs)) fun v => Local.done (key, v)
      exact .cons (fun _ => rfl) (hpair cs)
  | case2 cs hcolon =>
      intro v rest hread
      rw [readColon] at hread
      · cases hread
      · exact hcolon

theorem local_readMember {value : List Char → Option (α × List Char)} (h : Local value) :
    Local (readMember value) := by
  intro cs
  cases cs using readMember.fun_cases with
  | case1 cs =>
      apply LocalAt.cons (readMember_eq value)
      apply local_readString.andThen fun key cs => readColon value key (skipBlanks cs)
      intro key cs
      exact (local_readColon h key (skipBlanks cs)).afterBlanks
  | case2 cs hquote =>
      intro v rest hread
      rw [readMember] at hread
      · cases hread
      · exact hquote

/-- A text that begins with no blank and no bracket is read as a scalar, or not at all. -/
theorem readValue_eq_readScalar {depth : Nat} {cs : List Char} (hskip : skipBlanks cs = cs)
    (harray : cs.head? ≠ some '[') (hobject : cs.head? ≠ some '\x7b') :
    readValue depth cs = readScalar cs := by
  rw [readValue.eq_def, hskip]
  split
  · exact absurd rfl harray
  · exact absurd rfl hobject
  · exact absurd rfl harray
  · exact absurd rfl hobject
  · rfl

theorem local_readValue_of_brackets {depth : Nat}
    (harray : ∀ rest, LocalAt (readValue depth) ('[' :: rest))
    (hobject : ∀ rest, LocalAt (readValue depth) ('\x7b' :: rest)) : Local (readValue depth) := by
  intro cs
  have hblanks (cs : List Char) : readValue depth cs = readValue depth (skipBlanks cs) :=
    readValue_of_skipBlanks (skipBlanks_skipBlanks cs).symm
  refine LocalAt.of_head? ?_ fun cs' _ => hblanks cs'
  apply LocalAt.afterBlanks
  by_cases hbracket : (skipBlanks cs).head? = some '['
  · obtain ⟨rest, hrest⟩ := List.head?_eq_some_iff.mp hbracket
    exact hrest ▸ harray rest
  by_cases hbrace : (skipBlanks cs).head? = some '\x7b'
  · obtain ⟨rest, hrest⟩ := List.head?_eq_some_iff.mp hbrace
    exact hrest ▸ hobject rest
  apply (local_readScalar (skipBlanks cs)).of_head?
  intro cs' hhead
  have hskip : skipBlanks cs' = cs' :=
    skipBlanks_of_head? fun c hc => head?_skipBlanks (hhead ▸ hc)
  exact readValue_eq_readScalar hskip (hhead ▸ hbracket) (hhead ▸ hbrace)

/-- The reader of values looks no further than one character beyond the value. -/
theorem local_readValue (depth : Nat) : Local (readValue depth) := by
  induction depth with
  | zero => exact local_readValue_of_brackets (fun _ => nofun) (fun _ => nofun)
  | succ depth ih =>
      apply local_readValue_of_brackets
      · intro rest
        exact .cons readValue_array ((local_readBracketed ih).map Value.array rest)
      · intro rest
        exact .cons readValue_object
          ((local_readBracketed (local_readMember ih)).map Value.ofMembers rest)

end ImsiPseudonym.Json
