import Mathlib.Data.List.Induction
import ImsiPseudonym.Proofs.Message.Gather
import ImsiPseudonym.Proofs.Message.Reading

/-!
The last entry of a message id.  An entry writes all fields of its id anew, so an answer is made of
the last entry of each id, and nothing else in the body counts.
-/
namespace ImsiPseudonym
namespace Message

open Json

/-- An element of the array as an entry of this message id, if it is an object with that id. -/
def entryOf? (id : Int) : Value → Option Object
  | .object entry => if intField? entry idField = some id then some entry else none
  | _ => none

/-- The entries of a message id, in order. -/
def entriesOf (id : Int) (items : List Value) : List Object :=
  items.filterMap (entryOf? id)

/-- The last entry of a message id. -/
def lastOf? (id : Int) (items : List Value) : Option Object :=
  (entriesOf id items).getLast?

variable {id : Int} {item : Value} {items : List Value} {entry : Object}

theorem entryOf?_eq_some_iff :
    entryOf? id item = some entry ↔ item = .object entry ∧ intField? entry idField = some id := by
  unfold entryOf?
  split
  · rename_i other
    by_cases hid : intField? other idField = some id
    · simp only [hid, ↓reduceIte, Option.some.injEq, Value.object.injEq]
      constructor
      · intro heq
        exact ⟨heq, heq ▸ hid⟩
      · exact And.left
    · simp only [hid, ↓reduceIte, reduceCtorEq, Value.object.injEq, false_iff, not_and]
      intro heq
      exact heq ▸ hid
  · rename_i hnone
    simp only [reduceCtorEq, false_iff, not_and]
    intro heq
    exact absurd heq (hnone entry)

theorem entryId_eq_iff (hid : id ≠ unsetId) :
    entryId entry = id ↔ intField? entry idField = some id := by
  unfold entryId
  cases intField? entry idField with
  | none => simp [Ne.symm hid]
  | some found => simp

theorem lastOf?_append_of_entry (h : entryOf? id item = some entry) (items : List Value) :
    lastOf? id (items ++ [item]) = some entry := by
  simp [lastOf?, entriesOf, h]

theorem lastOf?_append_of_other (h : entryOf? id item = none) (items : List Value) :
    lastOf? id (items ++ [item]) = lastOf? id items := by
  simp [lastOf?, entriesOf, h]

/-- The last entry of an id has none of that id behind it. -/
theorem lastOf?_eq_some_iff :
    lastOf? id items = some entry ↔
      ∃ before after, items = before ++ .object entry :: after ∧
        intField? entry idField = some id ∧
        ∀ later, .object later ∈ after → intField? later idField ≠ some id := by
  constructor
  · intro h
    induction items using List.reverseRecOn with
    | nil => cases h
    | append_singleton items item ih =>
        cases hitem : entryOf? id item with
        | some found =>
            rw [lastOf?_append_of_entry hitem] at h
            cases h
            obtain ⟨rfl, hid⟩ := entryOf?_eq_some_iff.mp hitem
            exact ⟨items, [], rfl, hid, nofun⟩
        | none =>
            rw [lastOf?_append_of_other hitem] at h
            obtain ⟨before, after, rfl, hid, hafter⟩ := ih h
            refine ⟨before, after ++ [item], by simp, hid, ?_⟩
            intro later hlater hlaterId
            rcases List.mem_append.mp hlater with hmem | hmem
            · exact hafter later hmem hlaterId
            · obtain rfl := List.mem_singleton.mp hmem
              rw [entryOf?_eq_some_iff.mpr ⟨rfl, hlaterId⟩] at hitem
              cases hitem
  · intro ⟨before, after, hitems, hid, hafter⟩
    have hentry : entryOf? id (.object entry) = some entry := entryOf?_eq_some_iff.mpr ⟨rfl, hid⟩
    have hnone : entriesOf id after = [] := by
      rw [entriesOf, List.filterMap_eq_nil_iff]
      intro later hlater
      by_contra hsome
      obtain ⟨found, hfound⟩ := Option.ne_none_iff_exists'.mp hsome
      obtain ⟨rfl, hlaterId⟩ := entryOf?_eq_some_iff.mp hfound
      exact hafter found hlater hlaterId
    rw [entriesOf] at hnone
    simp [hitems, lastOf?, entriesOf, hentry, hnone]

variable {α β : Type} {handlers : List (Handler α)} {view : α → β} {value : Object → β}

/-- What is in view is written by the handler of one id only, and by that from the entry alone. -/
structure WrittenAnew (id : Int) (handlers : List (Handler α)) (view : α → β)
    (value : Object → β) : Prop where
  only : OnlyWrittenBy id handlers view
  anew : ∃ handler, (handlers.find? fun handler => handler.id == id) = some handler ∧
    ∀ gathered entry, view (handler.extract gathered entry) = value entry

theorem WrittenAnew.dispatch_entry (h : WrittenAnew id handlers view value) (hid : id ≠ unsetId)
    (hitem : entryOf? id item = some entry) (gathered : α) :
    view (dispatch handlers gathered item) = value entry := by
  obtain ⟨rfl, hentry⟩ := entryOf?_eq_some_iff.mp hitem
  obtain ⟨handler, hfind, hvalue⟩ := h.anew
  rw [dispatch, (entryId_eq_iff hid).mpr hentry, hfind]
  exact hvalue gathered entry

theorem WrittenAnew.dispatch_other (h : WrittenAnew id handlers view value) (hid : id ≠ unsetId)
    (hitem : entryOf? id item = none) (gathered : α) :
    view (dispatch handlers gathered item) = view gathered := by
  apply view_dispatch h.only
  intro entry heq hentry
  rw [entryOf?_eq_some_iff.mpr ⟨heq, (entryId_eq_iff hid).mp hentry⟩] at hitem
  cases hitem

/-- After a walk there stands what the last entry of the id has written, if there is one. -/
theorem WrittenAnew.walk (h : WrittenAnew id handlers view value) (hid : id ≠ unsetId) (start : α)
    (items : List Value) :
    view (walk handlers start items) = ((lastOf? id items).map value).getD (view start) := by
  induction items using List.reverseRecOn with
  | nil => rfl
  | append_singleton items item ih =>
      have hlast : Message.walk handlers start (items ++ [item]) =
          dispatch handlers (Message.walk handlers start items) item := by
        rw [walk_append]
        rfl
      rw [hlast]
      cases hitem : entryOf? id item with
      | some entry => rw [h.dispatch_entry hid hitem, lastOf?_append_of_entry hitem]; rfl
      | none => rw [h.dispatch_other hid hitem, lastOf?_append_of_other hitem, ih]

theorem gather_of_items? {body : String} (h : items? body = some items) (start : α) :
    gather handlers start body = walk handlers start items := by
  rw [gather, h]

theorem gather_of_no_items {body : String} (h : items? body = none) (start : α) :
    gather handlers start body = start := by
  rw [gather, h]

end Message

open Message Json

variable {body : String} {items : List Value}

theorem ChallengeResponse.ofBody_of_items? (h : items? body = some items) :
    ofBody body =
      { authCode := ⟨((lastOf? 1 items).bind (intField? · "response-code")).getD (-1)⟩
        challenge := (lastOf? 1 items).bind (textField? · "aka-challenge") } := by
  have hwritten : WrittenAnew authenticationId [⟨authenticationId, withAuthentication⟩]
      (fun r => r) fun entry => ⟨entryCode entry, textField? entry challengeField⟩ := by
    constructor
    · simp [OnlyWrittenBy]
    · exact ⟨_, rfl, fun _ _ => rfl⟩
  have hwalk := hwritten.walk (by decide) empty items
  rw [ofBody, gather_of_items? h, hwalk, authenticationId]
  cases lastOf? 1 items <;> rfl

namespace PseudonymResponse

/-- The fields of an authentication entry. -/
def authentication (r : PseudonymResponse) : ResponseCode × Option String :=
  (r.authCode, r.token)

/-- The fields of a pseudonym entry. -/
def provision (r : PseudonymResponse) : ResponseCode × Option String × Option Int :=
  (r.pseudonymCode, r.pseudonym, r.refreshHours)

theorem authentication_writtenAnew :
    WrittenAnew authenticationId
      [⟨authenticationId, withAuthentication⟩, ⟨pseudonymId, withPseudonym⟩] authentication
      fun entry => (entryCode entry, textField? entry tokenField) := by
  constructor
  · simp [OnlyWrittenBy, authentication, withPseudonym]
  · exact ⟨_, rfl, fun _ _ => rfl⟩

theorem provision_writtenAnew :
    WrittenAnew pseudonymId
      [⟨authenticationId, withAuthentication⟩, ⟨pseudonymId, withPseudonym⟩] provision
      fun entry => (entryCode entry, textField? entry pseudonymField,
        intField? entry refreshIntervalField) := by
  constructor
  · simp [OnlyWrittenBy, provision, withAuthentication]
  · exact ⟨_, rfl, fun _ _ => rfl⟩

theorem eq_of_views {r r' : PseudonymResponse} (hauth : r.authentication = r'.authentication)
    (hprovision : r.provision = r'.provision) : r = r' := by
  cases r
  cases r'
  simp_all [authentication, provision]

theorem ofBody_of_items? (h : items? body = some items) :
    ofBody body =
      { authCode := ⟨((lastOf? 1 items).bind (intField? · "response-code")).getD (-1)⟩
        token := (lastOf? 1 items).bind (textField? · "aka-token")
        pseudonymCode := ⟨((lastOf? 2 items).bind (intField? · "response-code")).getD (-1)⟩
        pseudonym := (lastOf? 2 items).bind (textField? · "imsi-pseudonym")
        refreshHours := (lastOf? 2 items).bind (intField? · "refresh-interval") } := by
  have hauth := authentication_writtenAnew.walk (by decide) empty items
  have hprovision := provision_writtenAnew.walk (by decide) empty items
  rw [ofBody, gather_of_items? h]
  apply eq_of_views
  · rw [hauth, authenticationId]
    cases lastOf? 1 items <;> rfl
  · rw [hprovision, pseudonymId]
    cases lastOf? 2 items <;> rfl

end PseudonymResponse

/-- Both answers are made of the last entry of each id, as a whole, where a field is read as what it
says; of a body that is no JSON array they are empty.  A body with the same entries of the two ids, each
id by itself in order, gives the same answers. -/
theorem last_entries_decide (body : String) :
    match items? body with
    | none =>
        PseudonymResponse.ofBody body = ⟨⟨-1⟩, none, ⟨-1⟩, none, none⟩ ∧
          ChallengeResponse.ofBody body = ⟨⟨-1⟩, none⟩
    | some items =>
        PseudonymResponse.ofBody body =
          { authCode := ⟨((lastOf? 1 items).bind (intField? · "response-code")).getD (-1)⟩
            token := (lastOf? 1 items).bind (textField? · "aka-token")
            pseudonymCode := ⟨((lastOf? 2 items).bind (intField? · "response-code")).getD (-1)⟩
            pseudonym := (lastOf? 2 items).bind (textField? · "imsi-pseudonym")
            refreshHours := (lastOf? 2 items).bind (intField? · "refresh-interval") } ∧
        ChallengeResponse.ofBody body =
          { authCode := (PseudonymResponse.ofBody body).authCode
            challenge := (lastOf? 1 items).bind (textField? · "aka-challenge") } ∧
        (∀ id entry, lastOf? id items = some entry ↔
          ∃ before after, items = before ++ .object entry :: after ∧
            intField? entry "message-id" = some id ∧
            ∀ later, .object later ∈ after → intField? later "message-id" ≠ some id) ∧
        (∀ (entry : Object) (field : String),
          (∀ n, intField? entry field = some n ↔
            ∃ v, Table.get? entry field = some v ∧ SaysInt v n) ∧
          ∀ t, textField? entry field = some t ↔
            ∃ v, Table.get? entry field = some v ∧ SaysText v t) ∧
        ∀ other others, items? other = some others → entriesOf 1 others = entriesOf 1 items →
          ChallengeResponse.ofBody other = ChallengeResponse.ofBody body ∧
          (entriesOf 2 others = entriesOf 2 items →
            PseudonymResponse.ofBody other = PseudonymResponse.ofBody body) := by
  cases hitems : items? body with
  | none =>
      constructor
      · exact gather_of_no_items hitems _
      · exact gather_of_no_items hitems _
  | some items =>
      refine ⟨PseudonymResponse.ofBody_of_items? hitems, ?_, ?_, ?_, ?_⟩
      · rw [ChallengeResponse.ofBody_of_items? hitems, PseudonymResponse.ofBody_of_items? hitems]
      · intro id entry
        exact lastOf?_eq_some_iff
      · intro entry field
        exact ⟨fun n => intField?_eq_some_iff, fun t => textField?_eq_some_iff⟩
      · intro other others hothers hfirst
        have hlast : lastOf? 1 others = lastOf? 1 items := congrArg List.getLast? hfirst
        constructor
        · rw [ChallengeResponse.ofBody_of_items? hothers, ChallengeResponse.ofBody_of_items? hitems,
            hlast]
        · intro hsecond
          have hlast' : lastOf? 2 others = lastOf? 2 items := congrArg List.getLast? hsecond
          rw [PseudonymResponse.ofBody_of_items? hothers, PseudonymResponse.ofBody_of_items? hitems,
            hlast, hlast']

/-- The token of the first entry is not combined with the code of the second one. -/
example : PseudonymResponse.ofBody
    ("[\x7b\"message-id\": 1, \"aka-token\": \"t\"\x7d, " ++
      "\x7b\"message-id\": \"1\", \"response-code\": 1000\x7d]") =
    ⟨⟨1000⟩, none, ⟨-1⟩, none, none⟩ := by decide +kernel

end ImsiPseudonym
