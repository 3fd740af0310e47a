import ImsiPseudonym.Proofs.Engine.Life

/-!
Where a cached token comes from.  The token at any time is read off the history: it is the one that
was issued last, unless it has been rejected or cleared since.
-/
namespace ImsiPseudonym

open Text Message

namespace Turn

/-- The token that the server issues in a turn: one in its answer to a challenge response. -/
def issued? : Turn → Option String
  | .sent request (.ok body) =>
      let answer := PseudonymResponse.ofBody body
      if request.kind? = some .pseudonym ∧ (request.member? challengeResponseField).isSome ∧
          answer.authCode.code = 1000 then nonEmpty? answer.token
      else none
  | _ => none

/-- The server rejects the token of the request. -/
def rejectsToken : Turn → Bool
  | .sent request (.ok body) =>
      request.kind? = some .pseudonym ∧ (request.member? tokenField).isSome ∧
        (PseudonymResponse.ofBody body).authCode.code = 1003
  | _ => false

end Turn

namespace Event

/-- What an event does to the cached token, if anything: another one comes in its place, or none. -/
def effect? : Event → Option (Option String)
  | .cleared => some none
  | .said turn =>
      match turn.issued? with
      | some token => some (some token)
      | none => if turn.rejectsToken then some none else none

/-- The token of a history: what the last event with an effect on it has made of it. -/
def lastIssued (past : List Event) : Option String :=
  (past.reverse.findSome? effect?).join

theorem lastIssued_append_singleton (past : List Event) (event : Event) :
    lastIssued (past ++ [event]) = event.effect?.getD (lastIssued past) := by
  cases heffect : event.effect? <;> simp [lastIssued, heffect]

/-- A history has a token exactly if it was issued and nothing has had an effect since. -/
theorem lastIssued_eq_some_iff {past : List Event} {token : String} :
    lastIssued past = some token ↔
      ∃ before issue after, past = before ++ issue :: after ∧ issue.effect? = some (some token) ∧
        ∀ event ∈ after, event.effect? = none := by
  rw [lastIssued, Option.join_eq_some_iff, List.findSome?_eq_some_iff]
  constructor
  · rintro ⟨after, issue, before, hpast, hissue, hafter⟩
    refine ⟨before.reverse, issue, after.reverse, ?_, hissue, by simpa using hafter⟩
    rw [← List.reverse_reverse past, hpast]
    simp
  · rintro ⟨before, issue, after, rfl, hissue, hafter⟩
    exact ⟨after.reverse, issue, before.reverse, by simp, hissue, by simpa using hafter⟩

/-- A token that was dropped is there again only if it has been issued since. -/
theorem issued_of_dropped {before between : List Event} {dropped : Event} {token : String}
    (hdropped : dropped.effect? = some none)
    (htoken : lastIssued (before ++ dropped :: between) = some token) :
    ∃ issue ∈ between, issue.effect? = some (some token) := by
  obtain ⟨first, issue, after, hsplit, hissue, hafter⟩ := lastIssued_eq_some_iff.mp htoken
  have hne : dropped ≠ issue := by
    rintro rfl
    rw [hdropped] at hissue
    cases hissue
  rcases List.append_eq_append_iff.mp hsplit with
    ⟨_ | ⟨_, between'⟩, -, h⟩ | ⟨_ | ⟨_, after'⟩, -, h⟩
  · exact absurd (List.cons.inj h).1 hne
  · obtain ⟨rfl, rfl⟩ := List.cons.inj h
    exact ⟨issue, by simp, hissue⟩
  · exact absurd (List.cons.inj h).1.symm hne
  · -- The drop comes after the issue, where nothing may have an effect.
    obtain ⟨rfl, rfl⟩ := List.cons.inj h
    rw [hafter dropped (by simp)] at hdropped
    cases hdropped

/-- Every request of a history was sent with the token of the history up to then. -/
def SentAsIssued (past : List Event) : Prop :=
  ∀ before request reply after, past = before ++ .said (.sent request reply) :: after →
    request.member? tokenField = (lastIssued before).map .string

theorem SentAsIssued.append_singleton {past : List Event} {event : Event} (h : SentAsIssued past)
    (hevent : ∀ request reply, event = .said (.sent request reply) →
      request.member? tokenField = (lastIssued past).map .string) :
    SentAsIssued (past ++ [event]) := by
  intro before request reply after hsplit
  rcases split_append_singleton hsplit with ⟨rfl, hlast⟩ | ⟨after, hpast⟩
  · exact hevent request reply hlast
  · exact h before request reply after hpast

/-- A request for anything else than the pseudonym has no effect. -/
theorem effect?_of_kind?_ne {request : Request} (h : request.kind? ≠ some .pseudonym)
    (reply : Reply) : (Event.said (.sent request reply)).effect? = none := by
  cases reply <;> simp [effect?, Turn.issued?, Turn.rejectsToken, h]

/-- A request for the pseudonym has the effect that follows from the verdict of the server. -/
theorem effect?_of_content {request : Request} {token response : Option String}
    (hcontent : request.content = ⟨some .pseudonym, token.map .string, response.map .string⟩)
    (body : String) :
    (Event.said (.sent request (.ok body))).effect? =
      match Verdict.ofCode (PseudonymResponse.ofBody body).authCode token.isSome with
      | .accepted =>
          if response.isSome then (nonEmpty? (PseudonymResponse.ofBody body).token).map some
          else none
      | .tokenRejected => some none
      | .refused _ => none := by
  have hkind : request.kind? = some .pseudonym := congrArg Request.Content.kind hcontent
  have htoken : request.member? tokenField = token.map .string :=
    congrArg Request.Content.token hcontent
  have hresponse : request.member? challengeResponseField = response.map .string :=
    congrArg Request.Content.response hcontent
  simp only [effect?, Turn.issued?, Turn.rejectsToken, hkind, htoken, hresponse,
    Option.isSome_map, true_and]
  generalize PseudonymResponse.ofBody body = answer
  obtain ⟨⟨code⟩, newToken⟩ := answer
  by_cases hsuccess : code = 1000
  · subst hsuccess
    cases response.isSome <;> cases nonEmpty? newToken <;>
      simp [Verdict.ofCode, ResponseCode.success]
  · by_cases hchallenge : code = 1003
    · subst hchallenge
      cases token.isSome <;> simp [Verdict.ofCode, ResponseCode.success, ResponseCode.challenge]
    · simp [Verdict.ofCode, ResponseCode.success, ResponseCode.challenge, hsuccess, hchallenge]

end Event

/-- The token that an engine holds is that of its history, as was the token of every request. -/
structure Engine.Traced (e : Engine) (past : List Event) : Prop where
  token_eq : e.token = Event.lastIssued past
  sent : Event.SentAsIssued past

namespace Stage

/-- A request carries the token that the engine holds. -/
theorem request_token {s : Stage} (hvalid : s.Valid) (hsound : s.engine.Sound) {request : Request}
    (h : s.request? = some request) :
    request.member? tokenField = s.engine.token.map .string := by
  cases s with
  | challenge e attempts body =>
      cases h
      rw [engine, hvalid.1]
      exact congrArg Request.Content.token (challenge_content hvalid)
  | pseudonym e attempts response body =>
      cases h
      exact congrArg Request.Content.token (pseudonym_content hvalid hsound)
  | sim e attempts challenge => cases h
  | ended e result => cases h

theorem pseudonymReplied_token {e : Engine} {request : Request} {response : Option String}
    (hcontent :
      request.content = ⟨some .pseudonym, e.token.map .string, response.map .string⟩)
    (hresponse : response ≠ some "") (attempts : Nat) (reply : Reply) :
    (pseudonymReplied e attempts response reply).engine.token =
      (Event.said (.sent request reply)).effect?.getD e.token := by
  rcases pseudonymReplied_cases e attempts response reply with
    ⟨broken, rfl, h⟩ | ⟨body, rfl, ⟨failure, hverdict, h⟩ | ⟨hverdict, -, h⟩ | ⟨hverdict, h⟩⟩
  · rw [h]
    rfl
  · rw [h, Event.effect?_of_content hcontent, hverdict]
    rfl
  · rw [h, Event.effect?_of_content hcontent, hverdict, begin_engine]
    rfl
  · rw [h, Event.effect?_of_content hcontent, hverdict, engine, Engine.keepToken,
      nonEmpty?_eq_self hresponse]
    cases nonEmpty? (PseudonymResponse.ofBody body).token <;> cases response <;> rfl

/-- A turn changes the token of the engine by its effect, and by nothing else. -/
theorem Step.token_eq {s t : Stage} {turn : Turn} (h : s.Step turn t) (hvalid : s.Valid)
    (hsound : s.engine.Sound) :
    t.engine.token = (Event.said turn).effect?.getD s.engine.token := by
  cases h with
  | @challenge e attempts body reply =>
      have hkind : (⟨e.server, body⟩ : Request).kind? = some .challenge :=
        congrArg Request.Content.kind (challenge_content hvalid)
      rw [challengeReplied_engine, Event.effect?_of_kind?_ne (by simp [hkind])]
      rfl
  | @sim e attempts challenge answer =>
      rw [simAnswered_engine]
      rfl
  | @pseudonym e attempts response body reply =>
      exact pseudonymReplied_token (pseudonym_content hvalid hsound) hvalid.2.1 attempts reply

theorem Step.traced {s t : Stage} {turn : Turn} {past : List Event} (h : s.Step turn t)
    (hvalid : s.Valid) (hsound : s.engine.Sound) (hs : s.engine.Traced past) :
    t.engine.Traced (past ++ [.said turn]) := by
  refine ⟨?_, hs.sent.append_singleton ?_⟩
  · rw [h.token_eq hvalid hsound, hs.token_eq, Event.lastIssued_append_singleton]
  · intro request reply hturn
    cases hturn
    rw [← hs.token_eq]
    exact request_token hvalid hsound (by cases h <;> rfl)

theorem Leads.traced {s t : Stage} {turns : List Turn} {past : List Event}
    (h : s.Leads turns t) (hvalid : s.Valid) (hsound : s.engine.Sound)
    (hs : s.engine.Traced past) : t.engine.Traced (past ++ turns.map .said) := by
  induction h generalizing past with
  | refl s => simpa using hs
  | cons hstep _ ih =>
      have hrest := ih (hstep.valid hvalid) (hstep.sound hvalid hsound)
        (hstep.traced hvalid hsound hs)
      simpa using hrest

end Stage

namespace Engine

theorem Traced.clearToken {e : Engine} {past : List Event} (h : e.Traced past) :
    e.clearToken.Traced (past ++ [.cleared]) := by
  refine ⟨?_, h.sent.append_singleton nofun⟩
  rw [Event.lastIssued_append_singleton]
  rfl

theorem Traced.begin {e : Engine} {past : List Event} (h : e.Traced past) (attempts : Nat) :
    (Stage.begin attempts e).engine.Traced past := by
  rw [Stage.begin_engine]
  exact h

theorem Life.traced {first e : Engine} {past : List Event} (h : Life first past e)
    (hsound : first.Sound) (hfirst : first.token = none) : e.Traced past := by
  induction h with
  | new => exact ⟨hfirst, by simp [Event.SentAsIssued]⟩
  | cleared _ ih => exact ih.clearToken
  | @fetched past e _ _ hlife partners hplay ih =>
      have hstart := Stage.begin_sound maxAttempts (hlife.sound hsound)
      exact (leads_of_play hplay).traced (Stage.begin_maxAttempts_valid e) hstart
        (ih.begin maxAttempts)

/-- At any point of any run the cached token is the one that was issued last, unless it has been
dropped since; it is not empty, and the next request carries it.  So did every request before, and
what was dropped is sent again only once it has been issued again. -/
theorem token_origin {subscriber : Subscriber} {server : ServerUrl} {transportName : String}
    {past : List Event} {e : Engine} (hlife : Life (new subscriber server transportName) past e)
    {turns : List Turn} {rest : Dialogue (FetchResult × Engine)}
    (hafter : e.fetch.After turns rest) :
    e.token = Event.lastIssued past ∧
    (∃ s : Stage, s.Remaining rest) ∧
    (∀ s : Stage, s.Remaining rest →
      s.engine.token = Event.lastIssued (past ++ turns.map .said) ∧ s.engine.token ≠ some "" ∧
      ∀ request next, rest = .send request next →
        request.member? tokenField = s.engine.token.map .string) ∧
    Event.SentAsIssued (past ++ turns.map .said) ∧
    ∀ before dropped between request reply after token,
      past ++ turns.map .said =
        before ++ dropped :: between ++ .said (.sent request reply) :: after →
      dropped.effect? = some none → request.member? tokenField = some (.string token) →
      ∃ issue ∈ between, issue.effect? = some (some token) := by
  have hsound := hlife.sound (new_sound _ _ _)
  have htraced := hlife.traced (new_sound _ _ _) rfl
  obtain ⟨s, hleads, hs⟩ := leads_of_after hafter
  have hvalid := Stage.begin_maxAttempts_valid e
  have hstart := Stage.begin_sound maxAttempts hsound
  have hnow := hleads.traced hvalid hstart (htraced.begin maxAttempts)
  have hsoundNow := hleads.sound hvalid hstart
  refine ⟨htraced.token_eq, ⟨s, hs⟩, ?_, hnow.sent, ?_⟩
  · intro s' hs'
    rw [hs'.engine_eq hs]
    refine ⟨hnow.token_eq, hsoundNow.token_ne_empty, ?_⟩
    rintro request next rfl
    exact Stage.request_token (hleads.valid hvalid) hsoundNow hs.request?_eq
  · intro before dropped between request reply after token hsplit hdropped htoken
    rw [hnow.sent _ _ _ _ hsplit] at htoken
    obtain ⟨issued, hissued, hsame⟩ := Option.map_eq_some_iff.mp htoken
    cases hsame
    exact Event.issued_of_dropped hdropped hissued

theorem token_origin_of_rehearsed_rejection :
    Life Rehearsed.first Rehearsed.past Rehearsed.kept ∧
      Rehearsed.kept.fetch.After (Rehearsed.kept.fetch.play Rehearsed.partners).turns
        (.done (.error (challengeRefused .success), Rehearsed.kept.clearToken)) ∧
      some "t" = Event.lastIssued Rehearsed.past ∧
      none = Event.lastIssued (Rehearsed.past ++
        (Rehearsed.kept.fetch.play Rehearsed.partners).turns.map .said) := by
  have hprogress := Rehearsed.kept.fetch.play_progress Rehearsed.partners
  rw [Rehearsed.result_kept_eq] at hprogress
  generalize (Rehearsed.kept.fetch.play Rehearsed.partners).turns = turns at hprogress ⊢
  cases hprogress with
  | finished hafter =>
      obtain ⟨htoken, -, hnow, -⟩ := token_origin Rehearsed.life hafter
      exact ⟨Rehearsed.life, hafter, htoken, (hnow _ (.ended _ _)).1⟩

end Engine
end ImsiPseudonym
