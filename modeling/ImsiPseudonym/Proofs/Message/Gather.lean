import ImsiPseudonym.Message.Response

/-!
What a body leaves untouched.  An entry changes only what the handlers of its message id write, so
the code of an answer stays unset as long as no entry of its id is in the body.
-/
namespace ImsiPseudonym
namespace Message

open Json

/-- The body is a JSON array with an entry of this message id. -/
def Mentions (body : String) (id : Int) : Prop :=
  ∃ items, items? body = some items ∧ ∃ entry, .object entry ∈ items ∧ entryId entry = id

variable {α β : Type} {handlers : List (Handler α)} {id : Int}

/-- No handler but those of one id writes what is in view. -/
def OnlyWrittenBy (id : Int) (handlers : List (Handler α)) (view : α → β) : Prop :=
  ∀ handler ∈ handlers, handler.id ≠ id →
    ∀ gathered entry, view (handler.extract gathered entry) = view gathered

theorem view_dispatch {view : α → β} (hview : OnlyWrittenBy id handlers view) (gathered : α)
    {item : Value} (hitem : ∀ entry, item = .object entry → entryId entry ≠ id) :
    view (dispatch handlers gathered item) = view gathered := by
  unfold dispatch
  split
  · rename_i entry
    split
    · rename_i handler hfind
      have hid : handler.id = entryId entry := by simpa using List.find?_some hfind
      have hne : handler.id ≠ id := hid ▸ hitem entry rfl
      exact hview handler (List.mem_of_find?_eq_some hfind) hne gathered entry
    · rfl
  · rfl

theorem view_walk {view : α → β} (hview : OnlyWrittenBy id handlers view) (gathered : α)
    {items : List Value} (hitems : ∀ entry, .object entry ∈ items → entryId entry ≠ id) :
    view (walk handlers gathered items) = view gathered := by
  induction items generalizing gathered with
  | nil => rfl
  | cons item items ih =>
      have hitem : ∀ entry, item = .object entry → entryId entry ≠ id := by
        rintro entry rfl
        exact hitems entry List.mem_cons_self
      have hrest := ih (dispatch handlers gathered item) fun entry hmem =>
        hitems entry (List.mem_cons_of_mem item hmem)
      exact hrest.trans (view_dispatch hview gathered hitem)

/-- What only the handlers of one id write is as at the start after a body without that id. -/
theorem view_gather {view : α → β} (hview : OnlyWrittenBy id handlers view) (start : α)
    {body : String} (hbody : ¬ Mentions body id) :
    view (gather handlers start body) = view start := by
  unfold gather
  split
  · rename_i items hitems
    apply view_walk hview
    intro entry hmem hid
    exact hbody ⟨items, hitems, entry, hmem, hid⟩
  · rfl

end Message

open Message

theorem ChallengeResponse.authCode_of_not_mentions {body : String}
    (h : ¬ Mentions body authenticationId) : (ofBody body).authCode = .unset := by
  have hview : OnlyWrittenBy authenticationId [⟨authenticationId, withAuthentication⟩]
      authCode := by
    simp [OnlyWrittenBy]
  exact view_gather hview empty h

namespace PseudonymResponse

theorem authCode_of_not_mentions {body : String}
    (h : ¬ Mentions body authenticationId) : (ofBody body).authCode = .unset := by
  have hview : OnlyWrittenBy authenticationId
      [⟨authenticationId, withAuthentication⟩, ⟨pseudonymId, withPseudonym⟩] authCode := by
    simp [OnlyWrittenBy, withPseudonym]
  exact view_gather hview empty h

theorem pseudonymCode_of_not_mentions {body : String}
    (h : ¬ Mentions body pseudonymId) : (ofBody body).pseudonymCode = .unset := by
  have hview : OnlyWrittenBy pseudonymId
      [⟨authenticationId, withAuthentication⟩, ⟨pseudonymId, withPseudonym⟩] pseudonymCode := by
    simp [OnlyWrittenBy, withAuthentication]
  exact view_gather hview empty h

end PseudonymResponse
end ImsiPseudonym
