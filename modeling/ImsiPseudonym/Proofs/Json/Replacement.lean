import Mathlib.Data.Option.Basic
import ImsiPseudonym.Proofs.Json.Locality

/-!
Replacing the value of a member in a JSON text.  Main statement: `MemberAt.parallel`, the value of
the whole text is then the same but for that member, and where the one text has no value the other
has none.
-/
namespace ImsiPseudonym.Json

variable {α β γ δ : Type}

/-- Both readers fail, or both stop at the same place with values that are related. -/
def Parallel (R : α → β → Prop) (x : Option (α × List Char)) (y : Option (β × List Char)) : Prop :=
  Option.Rel (fun r s => R r.1 s.1 ∧ r.2 = s.2) x y

namespace Parallel

variable {R : α → β → Prop} {S : γ → δ → Prop} {x : Option (α × List Char)}
  {y : Option (β × List Char)}

theorem some {v : α} {w : β} (h : R v w) (rest : List Char) :
    Parallel R (some (v, rest)) (some (w, rest)) :=
  Option.Rel.some ⟨h, rfl⟩

theorem none : Parallel R none none :=
  Option.Rel.none

theorem bind (h : Parallel R x y) {f : α → List Char → Option (γ × List Char)}
    {g : β → List Char → Option (δ × List Char)}
    (hnext : ∀ v w rest, R v w → Parallel S (f v rest) (g w rest)) :
    Parallel S (x.bind fun r => f r.1 r.2) (y.bind fun r => g r.1 r.2) := by
  cases h with
  | none => exact none
  | @some r s h =>
      obtain ⟨hvalue, hrest⟩ := h
      dsimp only [Option.bind_some]
      rw [← hrest]
      exact hnext r.1 s.1 r.2 hvalue

theorem map (h : Parallel R x y) {f : α → γ} {g : β → δ} (hnext : ∀ v w, R v w → S (f v) (g w)) :
    Parallel S (x.map fun r => (f r.1, r.2)) (y.map fun r => (g r.1, r.2)) := by
  cases h with
  | none => exact none
  | @some r s h => exact Option.Rel.some ⟨hnext r.1 s.1 h.1, h.2⟩

end Parallel

/-- In two lists the items at one place are related, and all others are the same. -/
inductive DifferAt (R : α → α → Prop) : List α → List α → Prop where
  | intro (before after : List α) {v w : α} (h : R v w) :
      DifferAt R (before ++ v :: after) (before ++ w :: after)

theorem DifferAt.cons {R : α → α → Prop} {vs ws : List α} (h : DifferAt R vs ws) (v : α) :
    DifferAt R (v :: vs) (v :: ws) := by
  obtain ⟨before, after, hvw⟩ := h
  exact .intro (v :: before) after hvw

/-- In a text of items the reader comes to an item that begins at a place. -/
inductive ItemAt (item : List Char → Option (α × List Char)) : List Char → List Char → Prop where
  | first (cs : List Char) : ItemAt item cs (skipBlanks cs)
  | later {cs middle rest place : List Char} {v : α}
      (hread : item (skipBlanks cs) = some (v, middle)) (hcomma : skipBlanks middle = ',' :: rest)
      (h : ItemAt item rest place) : ItemAt item cs place

/-- In the text of an object the reader comes to the value of a member, right behind its colon. -/
inductive MemberOf (depth : Nat) (key : String) (cs place : List Char) : Prop where
  | intro {rest name colon : List Char} (hopen : skipBlanks cs = '\x7b' :: rest)
      (hitem : ItemAt (readMember (readValue depth)) rest ('"' :: name))
      (hkey : readString name = some (key, colon)) (hcolon : skipBlanks colon = ':' :: place)

/-- In the text of a value the reader comes to the value of a member, of the value itself or of a
part of it. -/
inductive MemberAt (key : String) : Nat → List Char → Nat → List Char → Prop where
  | here {depth : Nat} {cs place : List Char} (h : MemberOf depth key cs place) :
      MemberAt key (depth + 1) cs depth place
  | member {depth inner : Nat} {other : String} {cs value place : List Char}
      (hmember : MemberOf depth other cs value) (h : MemberAt key depth value inner place) :
      MemberAt key (depth + 1) cs inner place
  | element {depth inner : Nat} {cs rest item place : List Char}
      (hopen : skipBlanks cs = '[' :: rest) (hitem : ItemAt (readValue depth) rest item)
      (h : MemberAt key depth item inner place) : MemberAt key (depth + 1) cs inner place

/-- What a reader has passed over, it passes over again if the rest begins with the same
character. -/
theorem LocalAt.exists_front {read : List Char → Option (α × List Char)} {cs : List Char}
    (h : LocalAt read cs) {v : α} {c : Char} {rest : List Char}
    (hread : read cs = some (v, c :: rest)) :
    ∃ front, cs = front ++ c :: rest ∧
      ∀ rest', read (front ++ c :: rest') = some (v, c :: rest') := by
  obtain ⟨front, hcs, hagain⟩ := h v _ hread
  exact ⟨front, hcs, fun rest' => hagain _ rfl⟩

/-- So it does together with the blanks behind. -/
theorem LocalAt.exists_front_of_skipBlanks {read : List Char → Option (α × List Char)}
    {cs : List Char} (h : LocalAt read cs) {v : α} {c : Char} {middle rest : List Char}
    (hread : read cs = some (v, middle)) (hskip : skipBlanks middle = c :: rest) :
    ∃ front, cs = front ++ c :: rest ∧ ∀ rest', ∃ middle',
      read (front ++ c :: rest') = some (v, middle') ∧ skipBlanks middle' = c :: rest' := by
  have hboth := h.andThen (fun v cs => some (v, skipBlanks cs))
    fun v rest _ => (Local.done v _).afterBlanks
  have hresult : ((read cs).bind fun r => some (r.1, skipBlanks r.2)) = some (v, c :: rest) := by
    rw [hread, Option.bind_some, hskip]
  obtain ⟨front, hcs, hagain⟩ := hboth.exists_front hresult
  refine ⟨front, hcs, ?_⟩
  intro rest'
  obtain ⟨⟨w, middle'⟩, hread', heq⟩ := Option.bind_eq_some_iff.mp (hagain rest')
  obtain ⟨rfl, hskip'⟩ := Prod.mk.inj (Option.some.inj heq)
  exact ⟨middle', hread', hskip'⟩

theorem exists_front_of_skipBlanks {cs rest : List Char} {c : Char}
    (h : skipBlanks cs = c :: rest) :
    ∃ front, cs = front ++ c :: rest ∧
      ∀ rest', skipBlanks (front ++ c :: rest') = c :: rest' := by
  obtain ⟨gap, hgap, hcs⟩ := exists_gap cs
  refine ⟨gap, h ▸ hcs, ?_⟩
  intro rest'
  have hfirst : isJsonBlank c = false := by
    apply @head?_skipBlanks cs c
    rw [h]
    rfl
  rw [skipBlanks_append hgap]
  exact skipBlanks_of_head? fun d hd => Option.some.inj hd ▸ hfirst

section Series

variable {close : Char} {item : List Char → Option (α × List Char)} {R : α → α → Prop}

theorem readFurther_comma (hclose : close ≠ ',') (v : α) (rest : List Char) :
    readFurther close item v (',' :: rest) =
      (readSeries close item rest).bind fun others => some (v :: others.1, others.2) := by
  rw [readFurther, if_neg hclose.symm, if_pos rfl]

theorem parallel_readFurther {v w : α} (h : R v w) (cs : List Char) :
    Parallel (DifferAt R) (readFurther close item v cs) (readFurther close item w cs) := by
  cases cs with
  | nil => exact .none
  | cons c rest =>
      rw [readFurther, readFurther]
      by_cases hend : c = close
      · rw [if_pos hend, if_pos hend]
        exact .some (.intro [] [] h) rest
      rw [if_neg hend, if_neg hend]
      by_cases hcomma : c = ','
      · rw [if_pos hcomma, if_pos hcomma]
        cases readSeries close item rest with
        | none => exact .none
        | some others => exact .some (.intro [] others.1 h) others.2
      · rw [if_neg hcomma, if_neg hcomma]
        exact .none

/-- An item begins behind the blanks. -/
theorem ItemAt.skipBlanks_eq {cs place : List Char} (h : ItemAt item cs place) :
    skipBlanks place = place := by
  induction h with
  | first cs => exact skipBlanks_skipBlanks cs
  | later _ _ _ ih => exact ih

theorem ItemAt.parallel {cs place : List Char} (h : ItemAt item cs place) (hitem : Local item)
    (hclose : close ≠ ',') :
    ∃ front, cs = front ++ place ∧ ∀ place', place'.head? = place.head? →
      Parallel R (item place) (item place') →
      Parallel (DifferAt R) (readSeries close item cs)
        (readSeries close item (front ++ place')) := by
  induction h with
  | first cs =>
      obtain ⟨gap, hgap, hcs⟩ := exists_gap cs
      refine ⟨gap, hcs, ?_⟩
      intro place' hhead hplace
      have hskip : skipBlanks place' = place' :=
        skipBlanks_of_head? fun c hc => head?_skipBlanks (hhead ▸ hc)
      rw [readSeries_eq hitem, readSeries_eq hitem, skipBlanks_append hgap, hskip]
      exact hplace.bind fun v w rest hvw => parallel_readFurther hvw (skipBlanks rest)
  | @later cs middle rest place v hread hcomma h ih =>
      obtain ⟨behind, rfl, hagain⟩ := ih
      obtain ⟨front, hcs, hfront⟩ :=
        (hitem (skipBlanks cs)).afterBlanks.exists_front_of_skipBlanks hread hcomma
      refine ⟨front ++ ',' :: behind, by rw [hcs, List.append_assoc, List.cons_append], ?_⟩
      intro place' hhead hplace
      obtain ⟨middle', hread', hcomma'⟩ := hfront (behind ++ place')
      rw [List.append_assoc, List.cons_append, readSeries_eq hitem, readSeries_eq hitem, hread,
        hread', Option.bind_some, Option.bind_some, hcomma, hcomma', readFurther_comma hclose,
        readFurther_comma hclose]
      exact (hagain place' hhead hplace).bind fun others others' rest h => .some (h.cons v) rest

/-- Brackets with an item between them do not close at once. -/
theorem ItemAt.head?_ne {cs place : List Char} (h : ItemAt item cs place)
    (hfail : ∀ rest, item (close :: rest) = none) (hplace : place.head? ≠ some close) :
    (skipBlanks cs).head? ≠ some close := by
  cases h with
  | first => exact hplace
  | later hread _ _ =>
      intro hhead
      obtain ⟨rest, hrest⟩ := List.head?_eq_some_iff.mp hhead
      rw [hrest, hfail] at hread
      cases hread

theorem readBracketed_eq_readSeries (hitem : Local item) {cs : List Char}
    (h : (skipBlanks cs).head? ≠ some close) :
    readBracketed close item cs = readSeries close item cs := by
  have hblanks : readSeries close item (skipBlanks cs) = readSeries close item cs := by
    rw [readSeries_eq hitem, readSeries_eq hitem, skipBlanks_skipBlanks]
  rw [readBracketed_eq, ← hblanks]
  cases hskip : skipBlanks cs with
  | nil => rfl
  | cons c rest =>
      have hne : c ≠ close := by
        rintro rfl
        exact h (by rw [hskip]; rfl)
      rw [readOpened, if_neg hne]

theorem head?_skipBlanks_append {place place' : List Char} (hhead : place'.head? = place.head?)
    (hplace : skipBlanks place = place) (front : List Char) :
    (skipBlanks (front ++ place')).head? = (skipBlanks (front ++ place)).head? := by
  induction front with
  | nil =>
      have hplace' : skipBlanks place' = place' :=
        skipBlanks_of_head? fun c hc => head?_skipBlanks (hplace.symm ▸ hhead ▸ hc)
      rw [List.nil_append, List.nil_append, hplace, hplace', hhead]
  | cons c front ih =>
      simp only [skipBlanks, List.cons_append, List.dropWhile_cons] at ih ⊢
      split
      · exact ih
      · rfl

/-- The items between two brackets differ only where one of them has been replaced. -/
theorem ItemAt.parallel_readBracketed {cs place : List Char} (h : ItemAt item cs place)
    (hitem : Local item) (hclose : close ≠ ',') (hfail : ∀ rest, item (close :: rest) = none)
    (hplace : place.head? ≠ some close) :
    ∃ front, cs = front ++ place ∧ ∀ place', place'.head? = place.head? →
      Parallel R (item place) (item place') →
      Parallel (DifferAt R) (readBracketed close item cs)
        (readBracketed close item (front ++ place')) := by
  obtain ⟨front, rfl, hagain⟩ := h.parallel (R := R) hitem hclose
  refine ⟨front, rfl, ?_⟩
  intro place' hhead hparallel
  have hopen := h.head?_ne hfail hplace
  have hopen' := head?_skipBlanks_append hhead h.skipBlanks_eq front ▸ hopen
  rw [readBracketed_eq_readSeries hitem hopen, readBracketed_eq_readSeries hitem hopen']
  exact hagain place' hhead hparallel

end Series

/-- Two values that differ in the value of one member, of the value itself or of a part of it. -/
inductive Differ (R : String → Value → Value → Prop) : Value → Value → Prop where
  | here (before after : List (String × Value)) {key : String} {v w : Value} (h : R key v w) :
      Differ R (.object (Table.ofList (before ++ (key, v) :: after)))
        (.object (Table.ofList (before ++ (key, w) :: after)))
  | member (before after : List (String × Value)) {key : String} {v w : Value}
      (h : Differ R v w) :
      Differ R (.object (Table.ofList (before ++ (key, v) :: after)))
        (.object (Table.ofList (before ++ (key, w) :: after)))
  | element (before after : List Value) {v w : Value} (h : Differ R v w) :
      Differ R (.array (before ++ v :: after)) (.array (before ++ w :: after))

variable {depth : Nat} {key : String} {cs place : List Char}

theorem MemberOf.parallel {S T : Value → Value → Prop} (h : MemberOf depth key cs place)
    (hobject : ∀ before after v w, S v w →
      T (.object (Table.ofList (before ++ (key, v) :: after)))
        (.object (Table.ofList (before ++ (key, w) :: after)))) :
    ∃ front, front ≠ [] ∧ cs = front ++ place ∧ ∀ place',
      Parallel S (readValue depth place) (readValue depth place') →
      Parallel T (readValue (depth + 1) cs) (readValue (depth + 1) (front ++ place')) := by
  obtain ⟨hopen, hitem, hkey, hcolon⟩ := h
  obtain ⟨brace, rfl, hbrace⟩ := exists_front_of_skipBlanks hopen
  obtain ⟨name, rfl, hname⟩ := (local_readString _).exists_front_of_skipBlanks hkey hcolon
  obtain ⟨items, rfl, hitems⟩ := hitem.parallel_readBracketed
    (R := fun m n => ∃ v w, m = (key, v) ∧ n = (key, w) ∧ S v w)
    (local_readMember (local_readValue depth)) (by decide) (fun _ => rfl)
    (by exact nofun : _ ≠ some '\x7d')
  refine ⟨brace ++ '\x7b' :: (items ++ '"' :: (name ++ [':'])), by simp, by simp, ?_⟩
  intro place' hplace
  have hmember (place : List Char) : readMember (readValue depth) ('"' :: (name ++ ':' :: place)) =
      (readValue depth place).map fun r => ((key, r.1), r.2) := by
    obtain ⟨colon', hkey', hcolon'⟩ := hname place
    rw [readMember_eq, hkey', Option.bind_some, hcolon', readColon]
    cases readValue depth place <;> rfl
  have hobjects := hitems ('"' :: (name ++ ':' :: place')) rfl (by
    rw [hmember, hmember]
    exact hplace.map fun v w h => ⟨v, w, rfl, rfl, h⟩)
  have hvalue (rest : List Char) : readValue (depth + 1) (brace ++ '\x7b' :: rest) =
      (readBracketed '\x7d' (readMember (readValue depth)) rest).map fun r =>
        (Value.ofMembers r.1, r.2) := by
    rw [← readValue_object rest]
    apply readValue_of_skipBlanks
    rw [hbrace]
    rfl
  have htext : brace ++ '\x7b' :: (items ++ '"' :: (name ++ [':'])) ++ place' =
      brace ++ '\x7b' :: (items ++ '"' :: (name ++ ':' :: place')) := by
    simp
  rw [htext, hvalue, hvalue]
  refine hobjects.map ?_
  rintro _ _ ⟨before, after, v, w, rfl, rfl, h⟩
  exact hobject before after v w h

theorem MemberAt.head? {inner : Nat} (h : MemberAt key depth cs inner place) :
    (skipBlanks cs).head? = some '\x7b' ∨ (skipBlanks cs).head? = some '[' := by
  cases h with
  | here h =>
    obtain ⟨hopen, -⟩ := h
    exact Or.inl (by rw [hopen]; rfl)
  | member h =>
    obtain ⟨hopen, -⟩ := h
    exact Or.inl (by rw [hopen]; rfl)
  | element hopen => exact Or.inr (by rw [hopen]; rfl)

/-- If the value of a member is replaced in a text, then in its value the member is replaced, and
nothing else is changed. -/
theorem MemberAt.parallel {inner : Nat} (h : MemberAt key depth cs inner place)
    (R : String → Value → Value → Prop) :
    ∃ front, front ≠ [] ∧ cs = front ++ place ∧ ∀ place',
      Parallel (R key) (readValue inner place) (readValue inner place') →
      Parallel (Differ R) (readValue depth cs) (readValue depth (front ++ place')) := by
  induction h with
  | here h => exact h.parallel fun before after v w => .here before after
  | member hmember h ih =>
      obtain ⟨front, hne, hcs, hagain⟩ :=
        hmember.parallel (S := Differ R) (T := Differ R) fun before after v w =>
          .member before after
      obtain ⟨front', -, rfl, hagain'⟩ := ih
      refine ⟨front ++ front', by simp [hne], by rw [hcs, List.append_assoc], ?_⟩
      intro place' hplace
      rw [List.append_assoc]
      exact hagain _ (hagain' place' hplace)
  | @element depth inner cs rest item place hopen hitem h ih =>
      obtain ⟨bracket, rfl, hbracket⟩ := exists_front_of_skipBlanks hopen
      have hhead := h.head?
      rw [hitem.skipBlanks_eq] at hhead
      obtain ⟨front, hne, rfl, hagain⟩ := ih
      have hclose : ∀ rest, readValue depth (']' :: rest) = none := by
        intro rest
        cases depth <;> rfl
      obtain ⟨items, rfl, hitems⟩ := hitem.parallel_readBracketed (R := Differ R)
        (local_readValue depth) (by decide) hclose (by
          rcases hhead with hhead | hhead <;> simp [hhead])
      refine ⟨bracket ++ '[' :: (items ++ front), by simp, by simp, ?_⟩
      intro place' hplace
      have hvalue (rest : List Char) : readValue (depth + 1) (bracket ++ '[' :: rest) =
          (readBracketed ']' (readValue depth) rest).map fun r => (Value.array r.1, r.2) := by
        rw [← readValue_array rest]
        apply readValue_of_skipBlanks
        rw [hbracket]
        rfl
      have htext : bracket ++ '[' :: (items ++ front) ++ place' =
          bracket ++ '[' :: (items ++ (front ++ place')) := by
        simp
      have hfirst : (front ++ place').head? = (front ++ place).head? := by
        obtain ⟨c, others, hcons⟩ := List.exists_cons_of_ne_nil hne
        rw [hcons]
        rfl
      rw [htext, hvalue, hvalue]
      refine (hitems _ hfirst (hagain place' hplace)).map ?_
      rintro _ _ ⟨before, after, h⟩
      exact .element before after h

/-- The text of the value goes on to the end of the whole text, or there is none. -/
theorem rel_read? {R : Value → Value → Prop} {text text' : String}
    (h : Parallel R (readValue maxDepth text.toList) (readValue maxDepth text'.toList)) :
    Option.Rel R (read? text) (read? text') := by
  rw [read?, read?]
  generalize readValue maxDepth text.toList = x at h
  generalize readValue maxDepth text'.toList = y at h
  cases h with
  | none => exact .none
  | @some r s h =>
      obtain ⟨hvalue, hrest⟩ := h
      dsimp only
      rw [← hrest]
      split
      · exact .some hvalue
      · exact .none

end ImsiPseudonym.Json
