import ImsiPseudonym.Proofs.Json.Replacement
import ImsiPseudonym.Proofs.Message.Reading
import ImsiPseudonym.Message.Response

/-!
Integers and the texts that spell them.  In the fields of a message a number and a text that spells
it say the same as long as the number fits 64 bits, so one may stand in the other's place.  Main
statement: `gather_of_differ`, handlers gather the same from bodies that differ in nothing else.
-/
namespace ImsiPseudonym
namespace Message

open Json Decimal Text

/-- The fields that are read as integers. -/
def integerFields : List String := [idField, responseCodeField, refreshIntervalField]

/-- The fields that are read as text. -/
def textFields : List String := [challengeField, tokenField, pseudonymField]

/-- In a field an integer and a text that spells it; in a field that is read as text this is only
the shortest spelling.  Minus zero is no integer to the reader, but it is spelled like zero where
integers are read. -/
inductive Respelled (field : String) : Value → Value → Prop where
  | integer {n : Int} {s : String} (hfield : field ∈ integerFields) (hlow : minInt64 ≤ n)
      (hhigh : n ≤ maxInt64) (h : Spelled s n) : Respelled field (.int n) (.string s)
  | zero {x : Binary64} {s : String} (hfield : field ∈ integerFields) (hzero : x.isZero = true)
      (h : Spelled s 0) : Respelled field (.number (.real x)) (.string s)
  | text (n : Int) (hfield : field ∈ textFields) :
      Respelled field (.int n) (.string (intText n))
  | symm {v w : Value} (h : Respelled field v w) : Respelled field w v

/-- Two values that say the same in a field. -/
structure SameIn (field : String) (v w : Value) : Prop where
  integer : field ∈ integerFields → asInt? v = asInt? w
  text : field ∈ textFields → asText? v = asText? w

/-- Two entries that say the same in all fields that are read. -/
structure ReadAlike (entry entry' : Object) : Prop where
  integer : ∀ field ∈ integerFields, intField? entry field = intField? entry' field
  text : ∀ field ∈ textFields, textField? entry field = textField? entry' field

theorem not_mem_textFields {field : String} (h : field ∈ integerFields) : field ∉ textFields := by
  have hdisjoint : ∀ field ∈ integerFields, field ∉ textFields := by decide
  exact hdisjoint field h

theorem truncate_of_isZero {x : Binary64} (h : x.isZero = true) : x.truncate = 0 := by
  have hzero : x.significand = 0 := by simpa [Binary64.isZero] using h
  simp [Binary64.truncate, Binary64.magnitude, Binary64.scaled, hzero]

theorem Respelled.sameIn {field : String} {v w : Value} (h : Respelled field v w) :
    SameIn field v w := by
  induction h with
  | @integer n s hfield hlow hhigh hs =>
      constructor
      · intro _
        have hfits : fitsInt64? n = some n := if_pos ⟨hlow, hhigh⟩
        have hclamp := clampInt64_of_fits hfits
        rw [asInt?_string hs, hfits, Value.int, asInt?, Number.toInt64, hclamp]
      · intro htext
        exact absurd htext (not_mem_textFields hfield)
  | zero hfield hzero hs =>
      constructor
      · intro _
        rw [asInt?_string hs, asInt?, Number.toInt64, truncate_of_isZero hzero]
        rfl
      · intro htext
        exact absurd htext (not_mem_textFields hfield)
  | text n hfield =>
      constructor
      · intro hinteger
        exact absurd hfield (not_mem_textFields hinteger)
      · intro _
        rfl
  | symm _ ih => exact ⟨fun hfield => (ih.integer hfield).symm, fun hfield => (ih.text hfield).symm⟩

/-- Arrays and objects say nothing in any field. -/
theorem sameIn_of_differ {R : String → Value → Value → Prop} {v w : Value} (h : Differ R v w)
    (field : String) : SameIn field v w := by
  cases h <;> exact ⟨fun _ => rfl, fun _ => rfl⟩

/-- If the value of one member is replaced, then what stands under another key stays. -/
theorem bind_get?_replace {β : Type} (before after : List (String × Value)) {key field : String}
    {v w : Value} {read : Value → Option β} (h : key = field → read v = read w) :
    (Table.get? (Table.ofList (before ++ (key, v) :: after)) field).bind read =
      (Table.get? (Table.ofList (before ++ (key, w) :: after)) field).bind read := by
  rw [Table.get?_ofList, Table.get?_ofList]
  simp only [List.reverse_append, List.reverse_cons, List.append_assoc, List.find?_append,
    List.find?_cons]
  cases after.reverse.find? fun entry => entry.1 = field with
  | some entry => rfl
  | none =>
      by_cases hkey : key = field
      · simp [hkey, h hkey]
      · simp [hkey]

theorem readAlike_replace (before after : List (String × Value)) {key : String} {v w : Value}
    (h : SameIn key v w) :
    ReadAlike (Table.ofList (before ++ (key, v) :: after))
      (Table.ofList (before ++ (key, w) :: after)) := by
  constructor
  · intro field hfield
    apply bind_get?_replace
    rintro rfl
    exact h.integer hfield
  · intro field hfield
    apply bind_get?_replace
    rintro rfl
    exact h.text hfield

variable {α : Type} {handlers : List (Handler α)}

/-- The handlers look at nothing but these fields. -/
def LooksAtFields (handlers : List (Handler α)) : Prop :=
  ∀ handler ∈ handlers, ∀ gathered entry entry', ReadAlike entry entry' →
    handler.extract gathered entry = handler.extract gathered entry'

theorem dispatch_of_readAlike (hhandlers : LooksAtFields handlers) {entry entry' : Object}
    (h : ReadAlike entry entry') (gathered : α) :
    dispatch handlers gathered (.object entry) = dispatch handlers gathered (.object entry') := by
  have hid : entryId entry = entryId entry' := by
    rw [entryId, entryId, h.integer idField (by decide)]
  rw [dispatch, dispatch, hid]
  split
  · rename_i handler hfind
    exact hhandlers handler (List.mem_of_find?_eq_some hfind) gathered entry entry' h
  · rfl

theorem dispatch_of_differ (hhandlers : LooksAtFields handlers) {v w : Value}
    (h : Differ Respelled v w) (gathered : α) :
    dispatch handlers gathered v = dispatch handlers gathered w := by
  cases h with
  | here before after h =>
      exact dispatch_of_readAlike hhandlers (readAlike_replace before after h.sameIn) gathered
  | @member before after key v w h =>
      have hsame := sameIn_of_differ h key
      exact dispatch_of_readAlike hhandlers (readAlike_replace before after hsame) gathered
  | element => rfl

theorem gather_of_differ (hhandlers : LooksAtFields handlers) {body body' : String}
    (h : Option.Rel (Differ Respelled) (read? body) (read? body')) (start : α) :
    gather handlers start body = gather handlers start body' := by
  rw [gather, gather, items?, items?]
  generalize read? body = v at h
  generalize read? body' = w at h
  cases h with
  | none => rfl
  | some h =>
      cases h with
      | here => rfl
      | member => rfl
      | element before after h =>
          dsimp only
          rw [walk_append, walk_append]
          unfold walk
          rw [List.foldl_cons, List.foldl_cons, dispatch_of_differ hhandlers h]

end Message

open Message Json Decimal

theorem ChallengeResponse.ofBody_of_differ {body body' : String}
    (h : Option.Rel (Differ Respelled) (read? body) (read? body')) :
    ofBody body = ofBody body' := by
  apply gather_of_differ _ h
  intro handler hmem gathered entry entry' halike
  obtain rfl := List.mem_singleton.mp hmem
  dsimp only [withAuthentication, entryCode]
  rw [halike.integer responseCodeField (by decide), halike.text challengeField (by decide)]

theorem PseudonymResponse.ofBody_of_differ {body body' : String}
    (h : Option.Rel (Differ Respelled) (read? body) (read? body')) :
    ofBody body = ofBody body' := by
  apply gather_of_differ _ h
  intro handler hmem gathered entry entry' halike
  simp only [List.mem_cons, List.not_mem_nil, or_false] at hmem
  rcases hmem with rfl | rfl
  · dsimp only [withAuthentication, entryCode]
    rw [halike.integer responseCodeField (by decide), halike.text tokenField (by decide)]
  · dsimp only [withPseudonym, entryCode]
    rw [halike.integer responseCodeField (by decide), halike.text pseudonymField (by decide),
      halike.integer refreshIntervalField (by decide)]

/-- A text in which the value of one member is spelled otherwise has the same value but for this
member. -/
theorem rel_read?_of_respelled {field : String} {depth : Nat} {front old new after : List Char}
    {v w : Value} (hplace : MemberAt field maxDepth (front ++ (old ++ after)) depth (old ++ after))
    (hold : readValue depth (old ++ after) = some (v, after))
    (hnew : readValue depth (new ++ after) = some (w, after)) (h : Respelled field v w) :
    Option.Rel (Differ Respelled) (read? (String.ofList (front ++ (old ++ after))))
      (read? (String.ofList (front ++ (new ++ after)))) := by
  obtain ⟨front', -, hfront, hparallel⟩ := hplace.parallel Respelled
  obtain rfl := List.append_cancel_right hfront
  apply rel_read?
  rw [String.toList_ofList, String.toList_ofList]
  apply hparallel
  rw [hold, hnew]
  exact .some h after

/-- A field is read as what it says.  In a body its value may be replaced by another spelling of the
same integer: what is read from the body, and what is granted, stays the same.  This is so for integers
of 64 bits only.  A greater one that fits 64 bits without a sign is read as the greatest integer, and a
text that spells an integer beyond the range is not read at all. -/
theorem integers_and_their_spellings :
    (∀ (entry : Object) (field : String),
      (∀ n, intField? entry field = some n ↔ ∃ v, Table.get? entry field = some v ∧ SaysInt v n) ∧
      ∀ t, textField? entry field = some t ↔ ∃ v, Table.get? entry field = some v ∧ SaysText v t) ∧
    (∀ (body field : String) (depth : Nat) (front old new after : List Char) (v w : Value),
      body.toList = front ++ (old ++ after) →
      MemberAt field maxDepth body.toList depth (old ++ after) →
      readValue depth (old ++ after) = some (v, after) →
      readValue depth (new ++ after) = some (w, after) → Respelled field v w →
      let respelled := String.ofList (front ++ (new ++ after))
      ChallengeResponse.ofBody respelled = ChallengeResponse.ofBody body ∧
        PseudonymResponse.ofBody respelled = PseudonymResponse.ofBody body ∧
        ∀ owner, (PseudonymResponse.ofBody respelled).grant? owner =
          (PseudonymResponse.ofBody body).grant? owner) ∧
    (∀ n : Int, maxInt64 < n → n ≤ maxUInt64 →
      (∀ depth rest, Stops rest → readValue depth (intDigits n ++ rest) = some (.int n, rest)) ∧
      ∀ entry field, Table.get? entry field = some (.int n) →
        intField? entry field = some maxInt64) ∧
    ∀ (n : Int) (s : String), n < minInt64 ∨ maxInt64 < n → Spelled s n →
      ∀ entry field, Table.get? entry field = some (.string s) → intField? entry field = none := by
  refine ⟨?_, ?_, ?_, ?_⟩
  · intro entry field
    exact ⟨fun n => intField?_eq_some_iff, fun t => textField?_eq_some_iff⟩
  · intro body field depth front old new after v w hbody hplace hold hnew h
    have htext : body = String.ofList (front ++ (old ++ after)) := by
      rw [← hbody, String.ofList_toList]
    rw [hbody] at hplace
    have hrel := rel_read?_of_respelled hplace hold hnew h
    rw [← htext] at hrel
    have hanswer := (PseudonymResponse.ofBody_of_differ hrel).symm
    refine ⟨(ChallengeResponse.ofBody_of_differ hrel).symm, hanswer, ?_⟩
    intro owner
    rw [hanswer]
  · intro n hlow hhigh
    have hfits : FitsNumber n := by
      simp only [FitsNumber, minInt64, maxInt64] at *
      omega
    constructor
    · intro depth rest hrest
      exact readValue_intDigits hfits hrest
    · intro entry field hget
      exact intField?_eq_some_iff.mpr ⟨_, hget, .above hlow⟩
  · intro n s hrange hs entry field hget
    have hfits : fitsInt64? n = none := if_neg (by omega)
    rw [intField?, hget, Option.bind_some, asInt?_string hs, hfits]

/-- The code of an answer as a text and as a number, and a number and a text beyond the range. -/
theorem integers_and_their_spellings_of_code :
    PseudonymResponse.ofBody
        "[\x7b\"message-id\": 1, \"response-code\":\" +01000\\u00a0\"\x7d]" =
      ⟨⟨1000⟩, none, ⟨-1⟩, none, none⟩ ∧
    PseudonymResponse.ofBody "[\x7b\"message-id\": 1, \"response-code\":1000\x7d]" =
      ⟨⟨1000⟩, none, ⟨-1⟩, none, none⟩ ∧
    intField? [("response-code", .int 9223372036854775808)] "response-code" = some maxInt64 ∧
    intField? [("response-code", .string "-9223372036854775809")] "response-code" = none := by
  obtain ⟨-, hsame, hnumber, htext⟩ := integers_and_their_spellings
  have hcode : PseudonymResponse.ofBody "[\x7b\"message-id\": 1, \"response-code\":1000\x7d]" =
      ⟨⟨1000⟩, none, ⟨-1⟩, none, none⟩ := by decide +kernel
  refine ⟨?_, hcode, ?_, ?_⟩
  · have hspelled : Spelled " +01000\u00a0" 1000 :=
      ⟨[' '], _, ['\u00a0'], by decide +kernel, List.forall_mem_singleton.mpr rfl,
        .plus 1 (by decide), List.forall_mem_singleton.mpr rfl⟩
    rw [← hcode]
    exact (hsame "[\x7b\"message-id\": 1, \"response-code\":1000\x7d]" "response-code" 125
      "[\x7b\"message-id\": 1, \"response-code\":".toList "1000".toList
      "\" +01000\\u00a0\"".toList "\x7d]".toList (.int 1000) (.string " +01000\u00a0") (by decide)
      (.element rfl (.first _) (.here ⟨rfl, .later rfl rfl (.first _), rfl, rfl⟩)) rfl rfl
      (.integer (by decide) (by decide) (by decide) hspelled)).2.1
  · exact (hnumber 9223372036854775808 (by decide) (by decide)).2 _ _ rfl
  · have hspelled : Spelled "-9223372036854775809" (-9223372036854775809) :=
      ⟨[], _, [], by decide +kernel, nofun, .minus 0 (by decide), nofun⟩
    exact htext _ _ (by decide) hspelled _ _ rfl

end ImsiPseudonym
