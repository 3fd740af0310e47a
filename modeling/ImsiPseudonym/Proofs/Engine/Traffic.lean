import ImsiPseudonym.Proofs.Engine.Life

/-!
What a fetch sends and asks, in which order.  The requests are at most three: the token is tried if
there is one, then a challenge is asked for, then the pseudonym with what the SIM has made of it.
-/
namespace ImsiPseudonym

open Text

namespace Turn

/-- The challenge response of a turn that asked the SIM. -/
def response? : Turn → Option String
  | .asked _ (.answers (some said)) => said.challengeResponse?
  | _ => none

/-- The server poses this challenge, in its answer to a request for one. -/
def Poses (challenge : String) : Turn → Prop
  | .sent request (.ok body) =>
      request.content = .bare ∧ (ChallengeResponse.ofBody body).authCode.code = 1003 ∧
        (ChallengeResponse.ofBody body).challenge = some challenge ∧ challenge ≠ ""
  | _ => False

theorem Poses.exists_sent {challenge : String} {turn : Turn} (h : turn.Poses challenge) :
    ∃ request body, turn = .sent request (.ok body) ∧ request.content = .bare ∧
      (ChallengeResponse.ofBody body).authCode.code = 1003 := by
  cases turn with
  | asked challenge reaction => cases h
  | sent request reply =>
      cases reply with
      | error broken => cases h
      | ok body => exact ⟨request, body, rfl, h.1, h.2.1⟩

/-- The contents of the requests in some turns. -/
def contents (turns : List Turn) : List Request.Content :=
  (turns.filterMap request?).map Request.content

@[simp] theorem contents_append_sent (turns : List Turn) (request : Request) (reply : Reply) :
    contents (turns ++ [.sent request reply]) = contents turns ++ [request.content] := by
  simp [contents, request?]

@[simp] theorem contents_append_asked (turns : List Turn) (challenge : String)
    (reaction : SimReaction) :
    contents (turns ++ [.asked challenge reaction]) = contents turns := by
  simp [contents, request?]

/-- The challenges in some turns. -/
def challenges (turns : List Turn) : List String :=
  turns.filterMap challenge?

@[simp] theorem challenges_append_sent (turns : List Turn) (request : Request) (reply : Reply) :
    challenges (turns ++ [.sent request reply]) = challenges turns := by
  simp [challenges, challenge?]

@[simp] theorem challenges_append_asked (turns : List Turn) (challenge : String)
    (reaction : SimReaction) :
    challenges (turns ++ [.asked challenge reaction]) = challenges turns ++ [challenge] := by
  simp [challenges, challenge?]

/-- What is found in challenges only is not found where there are none. -/
theorem findSome?_eq_none_of_challenges {α : Type} {find : Turn → Option α}
    (hsent : ∀ request reply, find (.sent request reply) = none) {turns : List Turn}
    (h : challenges turns = []) : turns.findSome? find = none := by
  rw [List.findSome?_eq_none_iff]
  intro turn hmem
  cases turn with
  | sent request reply => exact hsent request reply
  | asked challenge reaction =>
      have hnone := List.filterMap_eq_nil_iff.mp h _ hmem
      cases hnone

theorem response?_eq_none_of_challenges {turns : List Turn} (h : challenges turns = []) :
    turns.findSome? response? = none :=
  findSome?_eq_none_of_challenges (fun _ _ => rfl) h

/-- Every challenge is one that the server has posed in the turn right before. -/
def Prompted (turns : List Turn) : Prop :=
  ∀ before challenge reaction after, turns = before ++ .asked challenge reaction :: after →
    ∃ turn, before.getLast? = some turn ∧ turn.Poses challenge

theorem prompted_nil : Prompted [] := by
  simp [Prompted]

theorem Prompted.append_singleton {turns : List Turn} {turn : Turn} (h : Prompted turns)
    (hturn : ∀ challenge reaction, turn = .asked challenge reaction →
      ∃ last, turns.getLast? = some last ∧ last.Poses challenge) : Prompted (turns ++ [turn]) := by
  intro before challenge reaction after hsplit
  rcases split_append_singleton hsplit with ⟨rfl, hlast⟩ | ⟨after, hturns⟩
  · exact hturn challenge reaction hlast
  · exact h before challenge reaction after hturns

theorem Prompted.append_sent {turns : List Turn} (h : Prompted turns) (request : Request)
    (reply : Reply) : Prompted (turns ++ [.sent request reply]) :=
  h.append_singleton nofun

end Turn

namespace Stage

/-- The request that carries the token of the start, if there is one. -/
def withStart (token : Option String) : List Request.Content :=
  (token.map Request.Content.withToken).toList

/-- What has been said before a stage, in a fetch that started with this token. -/
def Heard (token : Option String) (turns : List Turn) : Stage → Prop
  | .challenge .. =>
      Turn.contents turns = withStart token ∧ Turn.challenges turns = []
  | .sim _ _ said =>
      Turn.contents turns = withStart token ++ [.bare] ∧ Turn.challenges turns = [] ∧
        ∃ turn, turns.getLast? = some turn ∧ turn.Poses said
  | .pseudonym e _ response _ =>
      (turns = [] ∧ e.token = token ∧ token ≠ none) ∨
        (e.token = none ∧ Turn.contents turns = withStart token ++ [.bare] ∧
          turns.findSome? Turn.response? = response ∧
          (Turn.challenges turns).length ≤ 1)
  | .ended _ _ =>
      Turn.contents turns <+:
          withStart token ++ [.bare, .withResponse (turns.findSome? Turn.response?)] ∧
        (Turn.challenges turns).length ≤ 1

variable {token : Option String} {turns : List Turn}

theorem ended_heard_of_bare {e : Engine} {result : FetchResult}
    (hcontents : Turn.contents turns = withStart token ++ [.bare])
    (hchallenges : (Turn.challenges turns).length ≤ 1) :
    (Stage.ended e result).Heard token turns := by
  refine ⟨?_, hchallenges⟩
  rw [hcontents]
  simp

theorem toChallenge_heard {e : Engine} {attempts : Nat}
    (hcontents : Turn.contents turns = withStart token)
    (hchallenges : Turn.challenges turns = []) :
    (toChallenge e attempts).Heard token turns := by
  rcases toChallenge_cases e attempts with ⟨-, h⟩ | ⟨body, -, h⟩
  · rw [h]
    refine ⟨?_, by simp [hchallenges]⟩
    rw [hcontents]
    exact List.prefix_append _ _
  · rw [h]
    exact ⟨hcontents, hchallenges⟩

theorem toPseudonym_heard {e : Engine} {attempts : Nat} {response : Option String}
    (htoken : e.token = none) (hcontents : Turn.contents turns = withStart token ++ [.bare])
    (hresponse : turns.findSome? Turn.response? = response)
    (hchallenges : (Turn.challenges turns).length ≤ 1) :
    (toPseudonym e attempts response).Heard token turns := by
  rcases toPseudonym_cases e attempts response with ⟨-, h⟩ | ⟨body, -, h⟩
  · rw [h]
    exact ended_heard_of_bare hcontents hchallenges
  · rw [h]
    exact Or.inr ⟨htoken, hcontents, hresponse, hchallenges⟩

theorem begin_heard (e : Engine) (attempts : Nat) :
    (begin (attempts + 1) e).Heard e.token [] := by
  rcases begin_cases e attempts with ⟨htoken, hbegin⟩ | ⟨t, htoken, hbegin⟩
  · rw [hbegin, htoken]
    exact toChallenge_heard rfl rfl
  · rw [hbegin]
    rcases toPseudonym_cases e attempts none with ⟨-, h⟩ | ⟨body, -, h⟩
    · rw [h]
      exact ⟨List.nil_prefix, Nat.zero_le 1⟩
    · rw [h]
      exact Or.inl ⟨rfl, rfl, by simp [htoken]⟩

theorem challengeReplied_heard {e : Engine} {attempts : Nat} {body : Json.Value}
    (hvalid : (Stage.challenge e attempts body).Valid)
    (hs : (Stage.challenge e attempts body).Heard token turns) (reply : Reply) :
    (challengeReplied e attempts reply).Heard token
      (turns ++ [.sent ⟨e.server, body⟩ reply]) := by
  obtain ⟨hcontents, hchallenges⟩ := hs
  have hbare := challenge_content hvalid
  have hcontents' : Turn.contents (turns ++ [.sent ⟨e.server, body⟩ reply]) =
      withStart token ++ [.bare] := by
    rw [Turn.contents_append_sent, hcontents, hbare]
  have hchallenges' : Turn.challenges (turns ++ [.sent ⟨e.server, body⟩ reply]) = [] := by
    rw [Turn.challenges_append_sent, hchallenges]
  have hfew : (Turn.challenges (turns ++ [.sent ⟨e.server, body⟩ reply])).length ≤ 1 := by
    rw [hchallenges']
    exact Nat.zero_le 1
  have hresponse := Turn.response?_eq_none_of_challenges hchallenges'
  rcases challengeReplied_cases e attempts reply with
    ⟨broken, rfl, h⟩ | ⟨text, rfl, ⟨-, h⟩ | ⟨hcode, ⟨-, h⟩ | ⟨said, hsaid, h⟩⟩⟩
  · rw [h]
    exact ended_heard_of_bare hcontents' hfew
  · rw [h]
    exact ended_heard_of_bare hcontents' hfew
  · rw [h]
    exact toPseudonym_heard hvalid.1 hcontents' hresponse hfew
  · rw [h]
    obtain ⟨hposed, hne⟩ := nonEmpty?_eq_some_iff.mp hsaid
    refine ⟨hcontents', hchallenges', _, List.getLast?_concat, hbare, ?_, hposed, hne⟩
    exact congrArg ResponseCode.code hcode

theorem simAnswered_heard {e : Engine} {attempts : Nat} {said : String}
    (hvalid : (Stage.sim e attempts said).Valid)
    (hs : (Stage.sim e attempts said).Heard token turns) (answer : SimAnswer) :
    (simAnswered e attempts answer).Heard token
      (turns ++ [.asked said (.answers answer)]) := by
  obtain ⟨hcontents, hchallenges, -⟩ := hs
  have hcontents' : Turn.contents (turns ++ [.asked said (.answers answer)]) =
      withStart token ++ [.bare] := by
    rw [Turn.contents_append_asked, hcontents]
  have hchallenges' :
      (Turn.challenges (turns ++ [.asked said (.answers answer)])).length ≤ 1 := by
    simp [hchallenges]
  rcases simAnswered_cases e attempts answer with
    ⟨rfl, h⟩ | ⟨answer, rfl, ⟨-, h⟩ | ⟨response, hresponse, h⟩⟩
  · rw [h]
    exact ended_heard_of_bare hcontents' hchallenges'
  · rw [h]
    exact ended_heard_of_bare hcontents' hchallenges'
  · rw [h]
    refine toPseudonym_heard hvalid hcontents' ?_ hchallenges'
    simp [Turn.response?_eq_none_of_challenges hchallenges, Turn.response?, hresponse]

theorem pseudonymReplied_ended_or (e : Engine) (attempts : Nat) (response : Option String)
    (reply : Reply) :
    (∃ kept result, pseudonymReplied e attempts response reply = .ended kept result) ∨
      (e.token ≠ none ∧
        pseudonymReplied e attempts response reply = begin attempts e.clearToken) := by
  rcases pseudonymReplied_cases e attempts response reply with
    ⟨broken, -, h⟩ | ⟨body, -, ⟨failure, -, h⟩ | ⟨-, htoken, h⟩ | ⟨-, h⟩⟩
  · exact Or.inl ⟨_, _, h⟩
  · exact Or.inl ⟨_, _, h⟩
  · exact Or.inr ⟨htoken, h⟩
  · exact Or.inl ⟨_, _, h⟩

/-- A first request for the pseudonym carries the token; if that is rejected, a challenge is asked
for next. -/
theorem pseudonymReplied_heard_first {e : Engine} {attempts : Nat} {body : Json.Value}
    (hvalid : (Stage.pseudonym e attempts none body).Valid) (hsound : e.Sound)
    (htoken : e.token ≠ none) (reply : Reply) :
    (pseudonymReplied e attempts none reply).Heard e.token [.sent ⟨e.server, body⟩ reply] := by
  have hcontent := pseudonym_content hvalid hsound
  have hattempts := (hvalid.2.2 htoken).2
  obtain ⟨t, ht⟩ := Option.ne_none_iff_exists'.mp htoken
  have hcontents : Turn.contents [.sent ⟨e.server, body⟩ reply] = withStart e.token := by
    rw [← List.nil_append [_], Turn.contents_append_sent, hcontent, ht]
    rfl
  rcases pseudonymReplied_ended_or e attempts none reply with ⟨kept, result, h⟩ | ⟨-, h⟩
  · rw [h]
    refine ⟨?_, Nat.zero_le 1⟩
    rw [hcontents]
    exact List.prefix_append _ _
  · rw [h]
    cases attempts with
    | zero => exact absurd rfl hattempts
    | succ attempts =>
        rcases begin_cases e.clearToken attempts with ⟨-, hbegin⟩ | ⟨_, hsome, -⟩
        · rw [hbegin]
          exact toChallenge_heard hcontents rfl
        · cases hsome

/-- Without a token a request for the pseudonym is the last. -/
theorem pseudonymReplied_heard_last {e : Engine} {attempts : Nat} {response : Option String}
    {body : Json.Value} (hvalid : (Stage.pseudonym e attempts response body).Valid)
    (hsound : e.Sound) (htoken : e.token = none)
    (hcontents : Turn.contents turns = withStart token ++ [.bare])
    (hresponse : turns.findSome? Turn.response? = response)
    (hchallenges : (Turn.challenges turns).length ≤ 1) (reply : Reply) :
    (pseudonymReplied e attempts response reply).Heard token
      (turns ++ [.sent ⟨e.server, body⟩ reply]) := by
  have hcontent := pseudonym_content hvalid hsound
  rcases pseudonymReplied_ended_or e attempts response reply with ⟨kept, result, h⟩ | ⟨hne, -⟩
  · rw [h]
    refine ⟨?_, by simpa using hchallenges⟩
    have hlast : (turns ++ [Turn.sent ⟨e.server, body⟩ reply]).findSome? Turn.response? =
        response := by
      simp [hresponse, Turn.response?]
    rw [Turn.contents_append_sent, hcontents, hlast, hcontent, htoken, List.append_assoc]
    exact List.prefix_rfl
  · exact absurd htoken hne

theorem Step.heard {s t : Stage} {turn : Turn} (h : s.Step turn t) (hvalid : s.Valid)
    (hsound : s.engine.Sound) (hs : s.Heard token turns) : t.Heard token (turns ++ [turn]) := by
  cases h with
  | challenge reply => exact challengeReplied_heard hvalid hs reply
  | sim answer => exact simAnswered_heard hvalid hs answer
  | pseudonym reply =>
      rcases hs with ⟨rfl, rfl, htoken⟩ | ⟨htoken, hcontents, hresponse, hchallenges⟩
      · obtain ⟨rfl, -⟩ := hvalid.2.2 htoken
        exact pseudonymReplied_heard_first hvalid hsound htoken reply
      · exact pseudonymReplied_heard_last hvalid hsound htoken hcontents hresponse hchallenges
          reply

/-- The SIM is asked only after the server has posed the challenge. -/
theorem Step.prompted {s t : Stage} {turn : Turn} (h : s.Step turn t)
    (hs : s.Heard token turns) (hturns : Turn.Prompted turns) :
    Turn.Prompted (turns ++ [turn]) := by
  cases h with
  | challenge reply => exact hturns.append_sent _ reply
  | pseudonym reply => exact hturns.append_sent _ reply
  | sim answer =>
      apply hturns.append_singleton
      intro challenge reaction hturn
      cases hturn
      exact hs.2.2

theorem Leads.heard {s t : Stage} {more : List Turn} (h : s.Leads more t) (hvalid : s.Valid)
    (hsound : s.engine.Sound) (hs : s.Heard token turns) (hturns : Turn.Prompted turns) :
    t.Heard token (turns ++ more) ∧ Turn.Prompted (turns ++ more) := by
  induction h generalizing turns with
  | refl s => simpa using And.intro hs hturns
  | @cons _ _ _ turn _ hstep _ ih =>
      have hrest := ih (hstep.valid hvalid) (hstep.sound hvalid hsound)
        (hstep.heard hvalid hsound hs) (hstep.prompted hs hturns)
      simpa using hrest

theorem Step.server {s t : Stage} {turn : Turn} (h : s.Step turn t) {request : Request}
    (hrequest : turn.request? = some request) : request.server = s.engine.server := by
  cases h with
  | challenge reply =>
      cases hrequest
      rfl
  | sim answer => cases hrequest
  | pseudonym reply =>
      cases hrequest
      rfl

theorem Leads.server {s t : Stage} {turns : List Turn} (h : s.Leads turns t) :
    ∀ request ∈ turns.filterMap Turn.request?, request.server = s.engine.server := by
  induction h with
  | refl s => simp
  | @cons s t _ turn turns hstep _ ih =>
      intro request hmem
      obtain ⟨other, hother, hrequest⟩ := List.mem_filterMap.mp hmem
      rcases List.mem_cons.mp hother with rfl | hlater
      · exact hstep.server hrequest
      · obtain ⟨_, hengine⟩ := hstep.engine_eq
        rw [ih request (List.mem_filterMap.mpr ⟨other, hlater, hrequest⟩), hengine]

end Stage

namespace Engine

/-- Without a known device a fetch is over before it has begun. -/
theorem fetch_of_deviceId?_eq_none {e : Engine} (hdevice : e.subscriber.deviceId? = none) :
    e.fetch = .done (.error deviceUnknown, e) := by
  have hremaining := Stage.remaining_begin maxAttempts e
  rcases Stage.begin_ended_or_sends e 1 with ⟨-, hbegin⟩ | ⟨hne, -⟩
  · rw [maxAttempts, hbegin] at hremaining
    exact hremaining.eq_done
  · exact absurd hdevice hne

/-- With a known device a fetch starts by sending something. -/
theorem fetch_of_deviceId?_ne_none {e : Engine} (hdevice : e.subscriber.deviceId? ≠ none) :
    ∃ request next, e.fetch = .send request next := by
  have hremaining := Stage.remaining_begin maxAttempts e
  rcases Stage.begin_ended_or_sends e 1 with ⟨hnone, -⟩ | ⟨-, request, hrequest⟩
  · exact absurd hnone hdevice
  · exact ⟨request, hremaining.eq_send hrequest⟩

theorem Ends.heard {e : Engine} {result : Option (FetchResult × Engine)} {turns : List Turn}
    (h : e.Ends result turns) (hsound : e.Sound) :
    Turn.contents turns <+: Stage.withStart e.token ++
        [.bare, .withResponse (turns.findSome? Turn.response?)] ∧
      (Turn.challenges turns).length ≤ 1 ∧ Turn.Prompted turns := by
  have hvalid := Stage.begin_maxAttempts_valid e
  have hstart := Stage.begin_sound maxAttempts hsound
  have hbegin := Stage.begin_heard e 1
  cases h with
  | ended hleads =>
      obtain ⟨⟨hcontents, hchallenges⟩, hprompted⟩ :=
        hleads.heard hvalid hstart hbegin Turn.prompted_nil
      exact ⟨hcontents, hchallenges, hprompted⟩
  | @brokenDown _ _ challenge turns hleads =>
      obtain ⟨⟨hcontents, hchallenges, hposed⟩, hprompted⟩ :=
        hleads.heard hvalid hstart hbegin Turn.prompted_nil
      rw [List.nil_append] at hcontents hchallenges hposed hprompted
      refine ⟨?_, ?_, ?_⟩
      · rw [Turn.contents_append_asked, hcontents]
        simp
      · simp [hchallenges]
      · apply hprompted.append_singleton
        intro challenge' reaction hturn
        cases hturn
        exact hposed

theorem Ends.server {e : Engine} {result : Option (FetchResult × Engine)} {turns : List Turn}
    (h : e.Ends result turns) :
    ∀ request ∈ turns.filterMap Turn.request?, request.server = e.server := by
  cases h with
  | ended hleads =>
      have hserver := hleads.server
      rwa [Stage.begin_engine] at hserver
  | brokenDown hleads =>
      have hserver := hleads.server
      rw [Stage.begin_engine] at hserver
      simpa [List.filterMap_append, Turn.request?] using hserver

/-- The requests that a fetch can send once the device is known: the token is tried if there is one,
then comes a request for a challenge, and then one for the pseudonym with the challenge response. -/
def traffics (token response : Option String) : List (List Request.Content) :=
  match token with
  | none => [[.bare], [.bare, .withResponse response]]
  | some token =>
      [[.withToken token], [.withToken token, .bare],
        [.withToken token, .bare, .withResponse response]]

theorem mem_traffics_of_isPrefix {token response : Option String} {contents : List Request.Content}
    (h : contents <+: Stage.withStart token ++ [.bare, .withResponse response])
    (hne : contents ≠ []) : contents ∈ traffics token response := by
  cases token with
  | none =>
      simp only [Stage.withStart, Option.map_none, Option.toList_none, List.nil_append,
        List.prefix_cons_iff, List.prefix_nil, hne, false_or] at h
      obtain ⟨_, rfl, rfl | ⟨_, rfl, rfl⟩⟩ := h <;> simp [traffics]
  | some token =>
      simp only [Stage.withStart, Option.map_some, Option.toList_some, List.singleton_append,
        List.prefix_cons_iff, List.prefix_nil, hne, false_or] at h
      obtain ⟨_, rfl, rfl | ⟨_, rfl, rfl | ⟨_, rfl, rfl⟩⟩⟩ := h <;> simp [traffics]

theorem bounds_of_mem_traffics {token response : Option String} {contents : List Request.Content}
    (h : contents ∈ traffics token response) :
    contents.length ≤ 3 ∧ contents.countP (·.kind = some .challenge) ≤ 1 := by
  cases token with
  | none =>
      simp only [traffics, List.mem_cons, List.not_mem_nil, or_false] at h
      rcases h with rfl | rfl <;> simp [Request.Content.bare, Request.Content.withResponse]
  | some token =>
      simp only [traffics, List.mem_cons, List.not_mem_nil, or_false] at h
      rcases h with rfl | rfl | rfl <;>
        simp [Request.Content.withToken, Request.Content.bare, Request.Content.withResponse]

theorem fetch_contents_eq_nil_iff (e : Engine) (partners : Partners) :
    Turn.contents (e.fetch.play partners).turns = [] ↔ e.subscriber.deviceId? = none := by
  constructor
  · intro hnil
    by_contra hdevice
    obtain ⟨request, next, hfetch⟩ := fetch_of_deviceId?_ne_none hdevice
    rw [hfetch] at hnil
    cases hnil
  · intro hdevice
    rw [fetch_of_deviceId?_eq_none hdevice]
    rfl

/-- Nothing is sent exactly if the device is unknown; else the requests are those that the token of
the start and the answer of the SIM allow.  The SIM is asked at most once, about what the server has
posed right before.  Everything goes to the one server, and the attempts always suffice. -/
theorem fetch_traffic {subscriber : Subscriber} {server : ServerUrl} {transportName : String}
    {past : List Event} {e : Engine} (hlife : Life (new subscriber server transportName) past e)
    (partners : Partners) :
    let played := e.fetch.play partners
    let contents := played.requests.map Request.content
    (contents = [] ∧ subscriber.deviceId? = none ∨
      contents ∈ traffics e.token (played.turns.findSome? Turn.response?) ∧
        subscriber.deviceId? ≠ none) ∧
    contents.length ≤ 3 ∧ contents.countP (·.kind = some .challenge) ≤ 1 ∧
    played.challenges.length ≤ 1 ∧ Turn.Prompted played.turns ∧
    (∀ request ∈ played.requests,
      request.server = server ∧ request.server.url.scheme = "https") ∧
    ∀ kept, played.result ≠ some (.error (.transient "AKA token rejected after retry"), kept) := by
  intro played contents
  have hsound := hlife.sound (new_sound _ _ _)
  have hends := e.fetch_ends partners
  obtain ⟨hallowed, hchallenges, hprompted⟩ := hends.heard hsound
  have hnil : contents = [] ↔ e.subscriber.deviceId? = none :=
    e.fetch_contents_eq_nil_iff partners
  have hsubscriber : e.subscriber = subscriber := hlife.subscriber_eq
  rw [hsubscriber] at hnil
  have hcontents : contents = [] ∧ subscriber.deviceId? = none ∨
      contents ∈ traffics e.token (played.turns.findSome? Turn.response?) ∧
        subscriber.deviceId? ≠ none := by
    by_cases hempty : contents = []
    · exact Or.inl ⟨hempty, hnil.mp hempty⟩
    · exact Or.inr ⟨mem_traffics_of_isPrefix hallowed hempty, mt hnil.mpr hempty⟩
  have hbounds : contents.length ≤ 3 ∧ contents.countP (·.kind = some .challenge) ≤ 1 := by
    rcases hcontents with ⟨hempty, -⟩ | ⟨hmem, -⟩
    · simp [hempty]
    · exact bounds_of_mem_traffics hmem
  refine ⟨hcontents, hbounds.1, hbounds.2, hchallenges, hprompted, ?_, ?_⟩
  · intro request hrequest
    exact ⟨(hends.server request hrequest).trans hlife.server_eq, request.server.secure⟩
  · intro kept hresult
    exact (leads_of_play hresult).valid (Stage.begin_maxAttempts_valid e) rfl

theorem fetch_traffic_of_rehearsed_token :
    Life Rehearsed.first Rehearsed.past Rehearsed.kept ∧
      ((Rehearsed.kept.fetch.play Rehearsed.partners).requests.map Request.content ∈
        traffics (some "t")
          ((Rehearsed.kept.fetch.play Rehearsed.partners).turns.findSome? Turn.response?)) := by
  obtain ⟨hcontents, -⟩ := fetch_traffic Rehearsed.life Rehearsed.partners
  rcases hcontents with ⟨-, hdevice⟩ | ⟨hmem, -⟩
  · cases hdevice
  · exact ⟨Rehearsed.life, hmem⟩

end Engine
end ImsiPseudonym
