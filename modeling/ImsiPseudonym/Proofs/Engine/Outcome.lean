import ImsiPseudonym.Proofs.Engine.Traffic
import ImsiPseudonym.Proofs.Message.Gather

/-!
How a fetch comes out.  The last request decides, with the codes of its reply; a reply to a request
for a challenge decides together with the answer of the SIM.
-/
namespace ImsiPseudonym

open Text Message

/-- How a fetch comes out, apart from the words of a failure. -/
inductive Ending where
  | granted (grant : Option Grant)
  | transport (broken : TransportError)
  | transient
  | nonTransient
deriving DecidableEq

namespace Ending

def ofResult : FetchResult → Ending
  | .ok grant => .granted grant
  | .error (.transport broken) => .transport broken
  | .error (.transient _) => .transient
  | .error (.nonTransient _) => .nonTransient

theorem ofResult_eq_transport_iff {result : FetchResult} {broken : TransportError} :
    ofResult result = .transport broken ↔ result = .error (.transport broken) := by
  cases result with
  | ok grant => simp [ofResult]
  | error failure => cases failure <;> simp [ofResult]

/-- What the code of a reply to the last request for a challenge leads to, with what the SIM said.
Nothing if the fetch goes on. -/
def ofChallengeCode (code : Int) (said : Option SimAnswer) : Option Ending :=
  if code = 1004 ∨ code = 1111 then some .transient
  else if code = 1003 then
    match said with
    | none => none
    | some none => some .nonTransient
    | some (some answer) => if answer.challengeResponse? = none then some .transient else none
  else some .nonTransient

/-- What the two codes of a reply to the last request for the pseudonym lead to. -/
def ofPseudonymCodes (authCode pseudonymCode : Int) (grant : Option Grant) : Ending :=
  if authCode = 1000 then
    if pseudonymCode = 1000 then .granted grant
    else if pseudonymCode = 1004 ∨ pseudonymCode = 1111 ∨ pseudonymCode = 1112 then .transient
    else .nonTransient
  else if authCode = 1003 ∨ authCode = 1111 then .transient
  else .nonTransient

theorem eq_of_ofChallengeCode {code : Int} {said : Option SimAnswer} {ending : Ending}
    (h : ofChallengeCode code said = some ending) :
    ending = .transient ∨ ending = .nonTransient := by
  unfold ofChallengeCode at h
  split at h
  · exact Or.inl (Option.some.inj h).symm
  · split at h
    · split at h
      · cases h
      · exact Or.inr (Option.some.inj h).symm
      · split at h
        · exact Or.inl (Option.some.inj h).symm
        · cases h
    · exact Or.inr (Option.some.inj h).symm

theorem ofChallengeCode_ne_transport (code : Int) (said : Option SimAnswer)
    (broken : TransportError) : ofChallengeCode code said ≠ some (.transport broken) := by
  intro h
  rcases eq_of_ofChallengeCode h with hending | hending <;> cases hending

theorem ofPseudonymCodes_ne_transport (authCode pseudonymCode : Int) (grant : Option Grant)
    (broken : TransportError) :
    ofPseudonymCodes authCode pseudonymCode grant ≠ .transport broken := by
  unfold ofPseudonymCodes
  split
  · split
    · exact nofun
    · split <;> exact nofun
  · split <;> exact nofun

theorem ofResult_challengeRefused {code : ResponseCode} (hcode : code ≠ .challenge)
    (said : Option SimAnswer) :
    ofChallengeCode code.code said = some (ofResult (.error (challengeRefused code))) := by
  obtain ⟨code⟩ := code
  have hne : code ≠ 1003 := fun h => hcode (congrArg ResponseCode.mk h)
  unfold challengeRefused ofChallengeCode
  by_cases htransient : code = 1004 ∨ code = 1111
  · simp [ResponseCode.invalidRequest, ResponseCode.serverError, htransient, ofResult]
  · simp [ResponseCode.invalidRequest, ResponseCode.serverError, htransient, hne, ofResult]

theorem ofResult_authenticationRefused (code : Int) :
    ofResult (.error (authenticationRefused ⟨code⟩)) =
      if code = 1111 then .transient else .nonTransient := by
  simp only [authenticationRefused, ResponseCode.authenticationFailed, ResponseCode.invalidRequest,
    ResponseCode.serverError, ResponseCode.mk.injEq]
  by_cases hfailed : code = 1006
  · simp [hfailed, ofResult]
  · by_cases hinvalid : code = 1004
    · simp [hinvalid, ofResult]
    · by_cases hserver : code = 1111
      · simp [hserver, ofResult]
      · simp [hfailed, hinvalid, hserver, ofResult]

theorem ofResult_refused {code : ResponseCode} {sentToken : Bool} {failure : EntitlementError}
    (h : Verdict.ofCode code sentToken = .refused failure) (pseudonymCode : Int)
    (grant : Option Grant) :
    ofPseudonymCodes code.code pseudonymCode grant = ofResult (.error failure) := by
  obtain ⟨code⟩ := code
  unfold Verdict.ofCode at h
  by_cases hsuccess : code = 1000
  · simp [ResponseCode.success, hsuccess] at h
  · by_cases hchallenge : code = 1003
    · subst hchallenge
      cases sentToken with
      | true => simp [ResponseCode.success, ResponseCode.challenge] at h
      | false =>
          simp only [ResponseCode.success, ResponseCode.challenge] at h
          cases h
          rfl
    · simp only [ResponseCode.success, ResponseCode.challenge, ResponseCode.mk.injEq, hsuccess,
        hchallenge, ↓reduceIte, Verdict.refused.injEq] at h
      rw [← h, ofResult_authenticationRefused]
      simp [ofPseudonymCodes, hsuccess, hchallenge]

theorem ofResult_granted (e : Engine) {answer : PseudonymResponse}
    (hcode : answer.authCode = .success) :
    ofPseudonymCodes answer.authCode.code answer.pseudonymCode.code
        (answer.grant? e.subscriber.imsi) =
      ofResult (e.granted answer) := by
  obtain ⟨authCode, token, ⟨code⟩, rest⟩ := answer
  cases hcode
  by_cases hsuccess : code = 1000
  · simp [ofPseudonymCodes, Engine.granted, hsuccess, ResponseCode.success, ofResult]
  · unfold Engine.granted pseudonymRefused ofPseudonymCodes
    by_cases htransient : code = 1004 ∨ code = 1111 ∨ code = 1112
    · simp [hsuccess, htransient, ResponseCode.success, ResponseCode.invalidRequest,
        ResponseCode.serverError, ResponseCode.authenticationOngoing, ofResult]
    · simp [hsuccess, htransient, ResponseCode.success, ResponseCode.invalidRequest,
        ResponseCode.serverError, ResponseCode.authenticationOngoing, ofResult]

end Ending

namespace Turn

/-- The request and the reply of a turn that sent one. -/
def exchange? : Turn → Option (Request × Reply)
  | .sent request reply => some (request, reply)
  | .asked .. => none

/-- What the SIM said in a turn that asked it. -/
def simAnswer? : Turn → Option SimAnswer
  | .asked _ (.answers answer) => some answer
  | _ => none

/-- The last request in some turns, with its reply. -/
def lastExchange? (turns : List Turn) : Option (Request × Reply) :=
  turns.reverse.findSome? exchange?

theorem lastExchange?_append_sent (turns : List Turn) (request : Request) (reply : Reply) :
    lastExchange? (turns ++ [.sent request reply]) = some (request, reply) := by
  simp [lastExchange?, List.findSome?_cons, exchange?]

theorem lastExchange?_append_asked (turns : List Turn) (challenge : String)
    (reaction : SimReaction) :
    lastExchange? (turns ++ [.asked challenge reaction]) = lastExchange? turns := by
  simp [lastExchange?, List.findSome?_cons, exchange?]

theorem simAnswer?_eq_none_of_challenges {turns : List Turn} (h : challenges turns = []) :
    turns.findSome? simAnswer? = none :=
  findSome?_eq_none_of_challenges (fun _ _ => rfl) h

end Turn

namespace Ending

/-- How a fetch for an owner comes out, by its turns; nothing if these are not all. -/
def expected? (owner : Imsi) (turns : List Turn) : Option Ending :=
  match Turn.lastExchange? turns with
  | none => some .transient
  | some (_, .error broken) => some (.transport broken)
  | some (request, .ok body) =>
      match request.kind? with
      | none => none
      | some .challenge =>
          ofChallengeCode (ChallengeResponse.ofBody body).authCode.code
            (turns.findSome? Turn.simAnswer?)
      | some .pseudonym =>
          let answer := PseudonymResponse.ofBody body
          some (ofPseudonymCodes answer.authCode.code answer.pseudonymCode.code
            (answer.grant? owner))

end Ending

namespace Stage

theorem toPseudonym_ne_ended {e kept : Engine} (hdevice : e.subscriber.deviceId? ≠ none)
    (attempts : Nat) (response : Option String) (result : FetchResult) :
    toPseudonym e attempts response ≠ .ended kept result := by
  rcases toPseudonym_cases e attempts response with ⟨hnone, -⟩ | ⟨body, -, h⟩
  · exact absurd hnone hdevice
  · rw [h]
    exact nofun

theorem begin_ne_ended {e kept : Engine} (hdevice : e.subscriber.deviceId? ≠ none)
    (attempts : Nat) (result : FetchResult) : begin (attempts + 1) e ≠ .ended kept result := by
  rcases begin_ended_or_sends e attempts with ⟨hnone, -⟩ | ⟨-, request, hrequest⟩
  · exact absurd hnone hdevice
  · intro h
    rw [h] at hrequest
    cases hrequest

theorem expected?_of_challengeReplied {e kept : Engine} {attempts : Nat} {body : Json.Value}
    (hvalid : (Stage.challenge e attempts body).Valid) (owner : Imsi) (turns : List Turn)
    {reply : Reply} {result : FetchResult}
    (hended : challengeReplied e attempts reply = .ended kept result) :
    Ending.expected? owner (turns ++ [.sent ⟨e.server, body⟩ reply]) =
      some (.ofResult result) := by
  have hkind : (⟨e.server, body⟩ : Request).kind? = some .challenge :=
    congrArg Request.Content.kind (challenge_content hvalid)
  have hdevice := Subscriber.deviceId?_ne_none_of_challengeRequest? hvalid.2
  simp only [Ending.expected?, Turn.lastExchange?_append_sent]
  rcases challengeReplied_cases e attempts reply with
    ⟨broken, rfl, h⟩ | ⟨text, rfl, ⟨hcode, h⟩ | ⟨-, ⟨-, h⟩ | ⟨said, -, h⟩⟩⟩
  · rw [h] at hended
    cases hended
    rfl
  · rw [h] at hended
    cases hended
    simp only [hkind]
    exact Ending.ofResult_challengeRefused hcode _
  · rw [h] at hended
    exact absurd hended (toPseudonym_ne_ended hdevice _ _ _)
  · rw [h] at hended
    cases hended

theorem expected?_of_simAnswered {e kept : Engine} {attempts : Nat} {said : String}
    (hdevice : e.subscriber.deviceId? ≠ none) (owner : Imsi) {token : Option String}
    {turns : List Turn} (hs : (Stage.sim e attempts said).Heard token turns)
    {answer : SimAnswer} {result : FetchResult}
    (hended : simAnswered e attempts answer = .ended kept result) :
    Ending.expected? owner (turns ++ [.asked said (.answers answer)]) =
      some (.ofResult result) := by
  obtain ⟨-, hchallenges, last, hlast, hposed⟩ := hs
  obtain ⟨request, body, rfl, hbare, hcode⟩ := hposed.exists_sent
  obtain ⟨before, rfl⟩ := List.getLast?_eq_some_iff.mp hlast
  have hkind : request.kind? = some .challenge := congrArg Request.Content.kind hbare
  have hanswer : (before ++ [Turn.sent request (.ok body)] ++
      [Turn.asked said (.answers answer)]).findSome? Turn.simAnswer? = some answer := by
    rw [List.findSome?_append, Turn.simAnswer?_eq_none_of_challenges hchallenges]
    rfl
  simp only [Ending.expected?, Turn.lastExchange?_append_asked, Turn.lastExchange?_append_sent,
    hkind, hanswer, hcode, Ending.ofChallengeCode]
  rcases simAnswered_cases e attempts answer with
    ⟨rfl, h⟩ | ⟨answer, rfl, ⟨hnone, h⟩ | ⟨response, -, h⟩⟩
  · rw [h] at hended
    cases hended
    rfl
  · rw [h] at hended
    cases hended
    simp [hnone, Ending.ofResult]
  · rw [h] at hended
    exact absurd hended (toPseudonym_ne_ended hdevice _ _ _)

theorem expected?_of_pseudonymReplied {e kept : Engine} {attempts : Nat}
    {response : Option String} {body : Json.Value}
    (hvalid : (Stage.pseudonym e attempts response body).Valid) (turns : List Turn)
    {reply : Reply} {result : FetchResult}
    (hended : pseudonymReplied e attempts response reply = .ended kept result) :
    Ending.expected? e.subscriber.imsi (turns ++ [.sent ⟨e.server, body⟩ reply]) =
      some (.ofResult result) := by
  obtain ⟨hbody, -, hretry⟩ := hvalid
  have hkind : (⟨e.server, body⟩ : Request).kind? = some .pseudonym :=
    congrArg Request.Content.kind (Subscriber.content_of_pseudonymRequest? hbody e.server)
  have hdevice := Subscriber.deviceId?_ne_none_of_pseudonymRequest? hbody
  simp only [Ending.expected?, Turn.lastExchange?_append_sent]
  rcases pseudonymReplied_cases e attempts response reply with
    ⟨broken, rfl, h⟩ | ⟨text, rfl, ⟨failure, hverdict, h⟩ | ⟨-, htoken, h⟩ | ⟨hverdict, h⟩⟩
  · rw [h] at hended
    cases hended
    rfl
  · rw [h] at hended
    cases hended
    simp only [hkind]
    exact congrArg some (Ending.ofResult_refused hverdict _ _)
  · -- A rejected token leaves an attempt, which begins by sending something.
    rw [h] at hended
    cases attempts with
    | zero => exact absurd rfl (hretry htoken).2
    | succ attempts => exact absurd hended (begin_ne_ended (e := e.clearToken) hdevice _ _)
  · rw [h] at hended
    cases hended
    simp only [hkind]
    exact congrArg some
      (Ending.ofResult_granted e (Verdict.ofCode_eq_accepted_iff.mp hverdict))

theorem Leads.device_known {e : Engine} {attempts : Nat} {turns : List Turn} {t : Stage}
    (h : (begin (attempts + 1) e).Leads turns t) (hne : turns ≠ []) :
    e.subscriber.deviceId? ≠ none := by
  rcases begin_ended_or_sends e attempts with ⟨-, hbegin⟩ | ⟨hdevice, -⟩
  · rw [hbegin] at h
    cases h with
    | refl => exact absurd rfl hne
    | cons hstep _ => cases hstep
  · exact hdevice

/-- Whichever turn is the last, the fetch comes out as is expected. -/
theorem Leads.expected? {e kept : Engine} {turns : List Turn} {result : FetchResult}
    (h : (begin Engine.maxAttempts e).Leads turns (.ended kept result)) (hsound : e.Sound) :
    Ending.expected? e.subscriber.imsi turns = some (.ofResult result) := by
  have hvalid := begin_maxAttempts_valid e
  -- Whether a turn ends a fetch is seen at the stage before it, so the run is taken from its end.
  rcases h.eq_nil_or_snoc with ⟨rfl, hended⟩ | ⟨before, turn, t, rfl, hbefore, hlast⟩
  · rcases begin_ended_or_sends e 1 with ⟨-, hbegin⟩ | ⟨hdevice, -⟩
    · rw [Engine.maxAttempts, hbegin] at hended
      cases hended
      rfl
    · exact absurd hended (begin_ne_ended hdevice 1 result)
  · have hdevice : e.subscriber.deviceId? ≠ none := h.device_known (by simp)
    obtain ⟨token, hengine⟩ := hbefore.engine_eq
    rw [begin_engine] at hengine
    have hsubscriber : t.engine.subscriber = e.subscriber := by rw [hengine]
    have ht := hbefore.valid hvalid
    have hheard := (hbefore.heard hvalid (begin_sound _ hsound) (begin_heard e 1)
      Turn.prompted_nil).1
    rw [← hsubscriber] at hdevice ⊢
    generalize hend : Stage.ended kept result = last at hlast
    cases hlast with
    | challenge reply => exact expected?_of_challengeReplied ht _ before hend.symm
    | sim answer => exact expected?_of_simAnswered hdevice _ hheard hend.symm
    | pseudonym reply => exact expected?_of_pseudonymReplied ht before hend.symm

end Stage

namespace Ending

variable {owner : Imsi} {turns : List Turn}

/-- Only a broken exchange, the last one, has a fetch come out as one. -/
theorem expected?_eq_transport_iff {broken : TransportError} :
    expected? owner turns = some (.transport broken) ↔
      ∃ request, Turn.lastExchange? turns = some (request, .error broken) := by
  unfold expected?
  cases Turn.lastExchange? turns with
  | none => simp
  | some exchange =>
      obtain ⟨request, reply⟩ := exchange
      cases reply with
      | error other => simp
      | ok body =>
          simp only [Option.some.injEq, Prod.mk.injEq, reduceCtorEq, and_false, exists_false,
            iff_false]
          split
          · exact nofun
          · exact ofChallengeCode_ne_transport _ _ broken
          · intro h
            exact ofPseudonymCodes_ne_transport _ _ _ broken (Option.some.inj h)

/-- A reply without an entry on authentication is final. -/
theorem eq_nonTransient_of_no_authentication {ending : Ending} {request : Request} {body : String}
    (h : expected? owner turns = some ending)
    (hlast : Turn.lastExchange? turns = some (request, .ok body))
    (hbody : ¬ Mentions body authenticationId) : ending = .nonTransient := by
  simp only [expected?, hlast, ChallengeResponse.authCode_of_not_mentions hbody,
    PseudonymResponse.authCode_of_not_mentions hbody] at h
  split at h <;> cases h <;> rfl

/-- So is a reply that accepts the credentials but has no entry on the pseudonym. -/
theorem eq_nonTransient_of_no_pseudonym {ending : Ending} {request : Request} {body : String}
    (h : expected? owner turns = some ending)
    (hlast : Turn.lastExchange? turns = some (request, .ok body))
    (hkind : request.kind? = some .pseudonym)
    (hcode : (PseudonymResponse.ofBody body).authCode.code = 1000)
    (hbody : ¬ Mentions body pseudonymId) : ending = .nonTransient := by
  simp only [expected?, hlast, hkind, hcode,
    PseudonymResponse.pseudonymCode_of_not_mentions hbody] at h
  cases h
  rfl

end Ending

namespace Engine

/-- A fetch has a result unless the SIM breaks down, and the last request decides about it.  It
breaks off exactly if that request does, and it fails for good if the reply has no entry on what was
asked. -/
theorem fetch_outcome {subscriber : Subscriber} {server : ServerUrl} {transportName : String}
    {past : List Event} {e : Engine} (hlife : Life (new subscriber server transportName) past e)
    (partners : Partners) :
    let played := e.fetch.play partners
    (played.result = none ↔ ∃ challenge, .asked challenge .breaksDown ∈ played.turns) ∧
    ∀ result kept, played.result = some (result, kept) →
      Ending.expected? subscriber.imsi played.turns = some (.ofResult result) ∧
      (∀ broken, result = .error (.transport broken) ↔
        ∃ request, Turn.lastExchange? played.turns = some (request, .error broken)) ∧
      ∀ request body, Turn.lastExchange? played.turns = some (request, .ok body) →
        (¬ Mentions body 1 → Ending.ofResult result = .nonTransient) ∧
        (request.kind? = some .pseudonym →
          (PseudonymResponse.ofBody body).authCode.code = 1000 → ¬ Mentions body 2 →
          Ending.ofResult result = .nonTransient) := by
  intro played
  refine ⟨(e.fetch.play_progress partners).eq_none_iff, ?_⟩
  intro result kept hresult
  have hsubscriber : e.subscriber = subscriber := hlife.subscriber_eq
  have hexpected := (leads_of_play hresult).expected? (hlife.sound (new_sound _ _ _))
  rw [hsubscriber] at hexpected
  refine ⟨hexpected, ?_, ?_⟩
  · intro broken
    rw [← Ending.ofResult_eq_transport_iff, ← Ending.expected?_eq_transport_iff, hexpected,
      Option.some.injEq]
  · intro request body hlast
    exact ⟨Ending.eq_nonTransient_of_no_authentication hexpected hlast,
      Ending.eq_nonTransient_of_no_pseudonym hexpected hlast⟩

theorem fetch_outcome_of_rehearsed_token :
    Life Rehearsed.first Rehearsed.past Rehearsed.kept ∧
      (Rehearsed.kept.fetch.play Rehearsed.partners).result =
        some (.error (challengeRefused .success), Rehearsed.kept.clearToken) ∧
      Ending.expected? Rehearsed.subscriber.imsi
        (Rehearsed.kept.fetch.play Rehearsed.partners).turns = some .nonTransient := by
  obtain ⟨-, hresult⟩ := fetch_outcome Rehearsed.life Rehearsed.partners
  exact ⟨Rehearsed.life, Rehearsed.result_kept_eq, (hresult _ _ Rehearsed.result_kept_eq).1⟩

end Engine
end ImsiPseudonym
