import ImsiPseudonym.Proofs.Engine.Traffic

/-!
What the program that asks the SIM decides.  How it ends and what it prints say whether a fetch goes
on with a request for the pseudonym; what is sent then is the printed text without the blanks around
it, and never what asks for resynchronisation.  Main statements: `Challenged.play_eq`, which says what
remains of a fetch by then, and `Challenged.contents_cases`, which says what is sent.
-/
namespace ImsiPseudonym

open Text

/-- The text can be sent as the response to a challenge. -/
def IsResponse (text : String) : Prop :=
  text ≠ "" ∧ ¬ "AUTS:".toList <+: text.toList

instance (text : String) : Decidable (IsResponse text) :=
  inferInstanceAs (Decidable (_ ∧ _))

namespace AkaResponse

theorem after?_eq_none_iff {mark cs : List Char} : after? mark cs = none ↔ ¬ mark <+: cs := by
  simp [after?]

theorem isResponse_trim_iff (printed : String) :
    IsResponse (trim printed) ↔
      trimBlanks printed.toList ≠ [] ∧
        ¬ synchronizationMark.toList <+: trimBlanks printed.toList := by
  have htoList : (trim printed).toList = trimBlanks printed.toList := String.toList_ofList
  have hempty : trim printed = "" ↔ trimBlanks printed.toList = [] := String.ofList_eq_empty_iff
  rw [IsResponse, htoList, ne_eq, hempty, synchronizationMark]

theorem challengeResponse?_ofText (printed : String) :
    (ofText printed).challengeResponse? =
      if IsResponse (trim printed) then some (trim printed) else none := by
  rw [ofText]
  cases hafter : after? synchronizationMark.toList (trimBlanks printed.toList) with
  | some auts =>
      have hmark : synchronizationMark.toList <+: trimBlanks printed.toList := by
        by_contra hnot
        rw [after?_eq_none_iff.mpr hnot] at hafter
        cases hafter
      rw [if_neg fun h => ((isResponse_trim_iff printed).mp h).2 hmark]
      rfl
  | none =>
      have hmark := after?_eq_none_iff.mp hafter
      by_cases hnil : trimBlanks printed.toList = []
      · rw [if_neg fun h => ((isResponse_trim_iff printed).mp h).1 hnil]
        simp only [hnil, if_true]
        rfl
      · have hresponse := (isResponse_trim_iff printed).mpr ⟨hnil, hmark⟩
        simp only [hnil, if_false, if_pos hresponse]
        exact nonEmpty?_eq_some_iff.mpr ⟨rfl, hresponse.1⟩

end AkaResponse

namespace ProgramRun

/-- The program could not run, or reports that it failed. -/
def Failed : ProgramRun → Prop
  | .notStarted => True
  | .exited status _ => status ≠ 0

theorem Failed.akaResponse? {run : ProgramRun} (h : run.Failed) : run.akaResponse? = none := by
  cases run with
  | notStarted => rfl
  | exited status printed =>
      cases status with
      | zero => exact absurd rfl h
      | succ status => rfl

theorem exists_of_not_failed {run : ProgramRun} (h : ¬ run.Failed) :
    ∃ printed, run = .exited 0 printed := by
  cases run with
  | notStarted => exact absurd trivial h
  | exited status printed =>
      obtain rfl : status = 0 := not_not.mp h
      exact ⟨printed, rfl⟩

end ProgramRun

/-- A reply of the server changes nothing about the SIM. -/
theorem Partners.react_reply (p : Partners) (challenge : String) :
    (p.reply.2.react challenge).1 = (p.react challenge).1 := by
  unfold Partners.reply
  cases p.replies <;> rfl

namespace Engine

variable {e : Engine} {partners : Partners} {turn : Turn} {challenge : String}
  {answer : SimAnswer}

/-- A fetch starts without a token, the server poses a challenge in the first turn, and the SIM
answers it. -/
structure Challenged (e : Engine) (partners : Partners) (turn : Turn) (challenge : String)
    (answer : SimAnswer) : Prop where
  token_eq : e.token = none
  first : (e.fetch.play partners).turns.head? = some turn
  posed : turn.Poses challenge
  answered : partners.sim partners.asked challenge = .answers answer

theorem authenticateFrom_of_poses {request : Request} {reply : Reply}
    (h : (Turn.sent request reply).Poses challenge) :
    authenticateFrom reply = .ask challenge fun answer => .done (responseOf answer) := by
  cases reply with
  | error broken => cases h
  | ok body =>
      obtain ⟨-, hcode, hchallenge, hne⟩ := h
      have hposed : (ChallengeResponse.ofBody body).authCode = .challenge :=
        congrArg ResponseCode.mk hcode
      simp only [authenticateFrom, hposed, if_true, hchallenge,
        nonEmpty?_eq_some_iff.mpr ⟨rfl, hne⟩]

/-- Once the server has posed a challenge and the SIM has answered it, all that remains of a fetch
without a token is what its answer leads to. -/
theorem Challenged.play_eq (h : Challenged e partners turn challenge answer) :
    e.subscriber.deviceId? ≠ none ∧ ∃ rest : Partners, e.fetch.play partners =
      (((e.conclude 1 (responseOf answer)).play rest).after
        (.asked challenge (.answers answer))).after turn := by
  obtain ⟨htoken, hfirst, hposed, hanswered⟩ := h
  have hdevice : e.subscriber.deviceId? ≠ none := by
    intro hnone
    rw [fetch_of_deviceId?_eq_none hnone] at hfirst
    cases hfirst
  obtain ⟨body, hbody⟩ :=
    Option.ne_none_iff_exists'.mp (mt Subscriber.challengeRequest?_eq_none_iff.mp hdevice)
  have hfetch : e.fetch = .send ⟨e.server, body⟩ fun reply =>
      authenticateFrom reply >>= e.conclude 1 := by
    rw [fetch, maxAttempts, fetchWithin_succ, credentials, htoken]
    exact congrArg (· >>= e.conclude 1) (authenticate_run e hbody)
  have hplay : e.fetch.play partners =
      ((authenticateFrom partners.reply.1 >>= e.conclude 1).play partners.reply.2).after
        (.sent ⟨e.server, body⟩ partners.reply.1) := by
    rw [hfetch]
    rfl
  rw [hplay] at hfirst
  obtain rfl := Option.some.inj hfirst
  have hreact : (partners.reply.2.react challenge).1 = .answers answer :=
    (partners.react_reply challenge).trans hanswered
  refine ⟨hdevice, (partners.reply.2.react challenge).2, ?_⟩
  rw [hplay, authenticateFrom_of_poses hposed, Dialogue.ask_bind, Dialogue.play]
  simp only [hreact]
  rfl

theorem Challenged.ends (h : Challenged e partners turn challenge answer)
    {failure : EntitlementError} (hfailure : responseOf answer = .error failure) :
    (e.fetch.play partners).turns = [turn, .asked challenge (.answers answer)] ∧
      (e.fetch.play partners).result = some (.error failure, e) := by
  obtain ⟨-, rest, hplay⟩ := h.play_eq
  rw [hplay, hfailure]
  exact ⟨rfl, rfl⟩

/-- With a response the pseudonym is asked for, and the reply ends the fetch. -/
theorem Challenged.sends (h : Challenged e partners turn challenge answer) {response : String}
    (hne : response ≠ "") (hresponse : responseOf answer = .ok (some response)) :
    ∃ request reply result,
      (e.fetch.play partners).turns =
        [turn, .asked challenge (.answers answer), .sent request reply] ∧
      (e.fetch.play partners).result = some result ∧
      request.content = .withResponse (some response) := by
  obtain ⟨hdevice, rest, hplay⟩ := h.play_eq
  obtain ⟨body, hbody⟩ :=
    Subscriber.exists_pseudonymRequest? hdevice e.token (some response)
  obtain ⟨result, hdone⟩ :=
    concludeFrom_of_token_eq_none h.token_eq (some response) rest.reply.1
  have hconclude : (e.conclude 1 (.ok (some response))).play rest =
      ⟨some result, [.sent ⟨e.server, body⟩ rest.reply.1], rest.reply.2⟩ := by
    rw [conclude]
    simp only [hbody, Dialogue.play, hdone]
    rfl
  refine ⟨⟨e.server, body⟩, rest.reply.1, result, ?_, ?_, ?_⟩
  · rw [hplay, hresponse, hconclude]
    rfl
  · rw [hplay, hresponse, hconclude]
    rfl
  · rw [Subscriber.content_of_pseudonymRequest? hbody, h.token_eq,
      nonEmpty?_eq_some_iff.mpr ⟨rfl, hne⟩]
    rfl

theorem responseOf_of_failed {run : ProgramRun} (h : run.Failed) :
    responseOf run.akaResponse? = .error (.nonTransient "cannot get challenge response") := by
  rw [h.akaResponse?]
  rfl

theorem responseOf_exited (printed : List UInt8) :
    responseOf (ProgramRun.exited 0 printed).akaResponse? =
      if IsResponse (trim (Utf8.decode printed)) then .ok (some (trim (Utf8.decode printed)))
      else .error (.transient "challenge message not valid") := by
  simp only [ProgramRun.akaResponse?, responseOf, AkaResponse.challengeResponse?_ofText]
  by_cases h : IsResponse (trim (Utf8.decode printed))
  · simp only [if_pos h]
  · simp only [if_neg h]

theorem contents_of_poses (h : turn.Poses challenge) (reaction : SimReaction) :
    Turn.contents [turn, .asked challenge reaction] = [.bare] := by
  obtain ⟨request, body, rfl, hbare, -⟩ := h.exists_sent
  exact congrArg ([·]) hbare

namespace Challenged

variable {run : ProgramRun} {printed : List UInt8}

theorem ends_of_printed (h : Challenged e partners turn challenge run.akaResponse?)
    (hrun : run = .exited 0 printed) (htext : ¬ IsResponse (trim (Utf8.decode printed))) :
    (e.fetch.play partners).turns = [turn, .asked challenge (.answers run.akaResponse?)] ∧
      (e.fetch.play partners).result =
        some (.error (.transient "challenge message not valid"), e) := by
  subst hrun
  exact h.ends ((responseOf_exited printed).trans (if_neg htext))

theorem sends_printed (h : Challenged e partners turn challenge run.akaResponse?)
    (hrun : run = .exited 0 printed) (htext : IsResponse (trim (Utf8.decode printed))) :
    ∃ request reply result,
      (e.fetch.play partners).turns =
        [turn, .asked challenge (.answers run.akaResponse?), .sent request reply] ∧
      (e.fetch.play partners).result = some result ∧
      request.content = .withResponse (some (trim (Utf8.decode printed))) := by
  subst hrun
  exact h.sends htext.1 ((responseOf_exited printed).trans (if_pos htext))

/-- Behind the request for the challenge there is at most one, with the printed text. -/
theorem contents_cases (h : Challenged e partners turn challenge run.akaResponse?) :
    Turn.contents (e.fetch.play partners).turns = [.bare] ∨
      ∃ printed, run = .exited 0 printed ∧ IsResponse (trim (Utf8.decode printed)) ∧
        Turn.contents (e.fetch.play partners).turns =
          [.bare, .withResponse (some (trim (Utf8.decode printed)))] := by
  have hbare := contents_of_poses h.posed (.answers run.akaResponse?)
  by_cases hfailed : run.Failed
  · left
    rw [(h.ends (responseOf_of_failed hfailed)).1]
    exact hbare
  · obtain ⟨printed, hrun⟩ := ProgramRun.exists_of_not_failed hfailed
    by_cases htext : IsResponse (trim (Utf8.decode printed))
    · right
      obtain ⟨request, reply, result, hturns, -, hcontent⟩ := h.sends_printed hrun htext
      have hall := Turn.contents_append_sent
        [turn, .asked challenge (.answers run.akaResponse?)] request reply
      rw [hbare, hcontent] at hall
      exact ⟨printed, hrun, htext, (congrArg Turn.contents hturns).trans hall⟩
    · left
      rw [(h.ends_of_printed hrun htext).1]
      exact hbare

theorem isResponse_of_sent (h : Challenged e partners turn challenge run.akaResponse?)
    {content : Request.Content} (hmem : content ∈ Turn.contents (e.fetch.play partners).turns)
    {v : Json.Value} (hv : content.response = some v) :
    ∃ response, v = .string response ∧ IsResponse response := by
  rcases h.contents_cases with hall | ⟨printed, -, htext, hall⟩
  · rw [hall, List.mem_singleton] at hmem
    subst hmem
    cases hv
  · rw [hall, List.mem_cons, List.mem_singleton] at hmem
    rcases hmem with rfl | rfl
    · cases hv
    · exact ⟨_, (Option.some.inj hv).symm, htext⟩

end Challenged

/-- Once a challenge has been posed to a fetch without a token, the program that asks the SIM decides
how the fetch goes on.  It ends at once if the program fails, or prints nothing but blanks or what
asks for resynchronisation.  Else, and only then, what was printed is sent, without the blanks around
it, and the reply ends the fetch. -/
theorem printed_text_decides (htoken : e.token = none)
    (hfirst : (e.fetch.play partners).turns.head? = some turn) (hposed : turn.Poses challenge)
    {run : ProgramRun} (hsim : partners.sim partners.asked challenge = .answers run.akaResponse?) :
    let played := e.fetch.play partners
    let asked := Turn.asked challenge (.answers run.akaResponse?)
    let contents := played.requests.map Request.content
    (run.Failed → played.turns = [turn, asked] ∧
      played.result = some (.error (.nonTransient "cannot get challenge response"), e)) ∧
    (∀ printed, run = .exited 0 printed →
      let text := trim (Utf8.decode printed)
      Trimmed (Utf8.decode printed).toList text.toList ∧
      (¬ IsResponse text → played.turns = [turn, asked] ∧
        played.result = some (.error (.transient "challenge message not valid"), e)) ∧
      (IsResponse text → ∃ request reply result,
        played.turns = [turn, asked, .sent request reply] ∧ played.result = some result ∧
        request.content = .withResponse (some text))) ∧
    (contents = [.bare] ∨ ∃ printed, run = .exited 0 printed ∧
      IsResponse (trim (Utf8.decode printed)) ∧
      contents = [.bare, .withResponse (some (trim (Utf8.decode printed)))]) ∧
    ∀ content ∈ contents, ∀ v, content.response = some v →
      ∃ response, v = .string response ∧ IsResponse response := by
  intro played asked contents
  have h : Challenged e partners turn challenge run.akaResponse? := ⟨htoken, hfirst, hposed, hsim⟩
  refine ⟨?_, ?_, h.contents_cases, ?_⟩
  · intro hfailed
    exact h.ends (responseOf_of_failed hfailed)
  · intro printed hrun text
    exact ⟨trimBlanks_eq_iff.mp String.toList_ofList.symm, h.ends_of_printed hrun,
      h.sends_printed hrun⟩
  · intro content hmem v hv
    exact h.isResponse_of_sent hmem hv

namespace Rehearsed

/-- A program that prints a response between blanks. -/
def program : ProgramRun :=
  .exited 0 [0x20, 0x72, 0x73, 0x70, 0x0A]

/-- The SIM is asked through that program. -/
def programmed : Partners :=
  { Rehearsed.partners with sim := fun _ _ => .answers program.akaResponse? }

/-- The challenge is asked for and posed. -/
def opening : Turn :=
  .sent ⟨server, subscriber.challengeRequest?.get rfl⟩ programmed.reply.1

end Rehearsed

set_option maxRecDepth 20000 in
theorem printed_text_decides_rehearsed :
    ∃ request reply result,
      (Rehearsed.first.fetch.play Rehearsed.programmed).turns =
        [Rehearsed.opening, .asked "c" (.answers Rehearsed.program.akaResponse?),
          .sent request reply] ∧
      (Rehearsed.first.fetch.play Rehearsed.programmed).result = some result ∧
      request.content = .withResponse (some "rsp") := by
  have htoken : Rehearsed.first.token = none := rfl
  have hfirst : (Rehearsed.first.fetch.play Rehearsed.programmed).turns.head? =
      some Rehearsed.opening := rfl
  have hposed : Rehearsed.opening.Poses "c" := ⟨rfl, rfl, rfl, by decide⟩
  have hsim : Rehearsed.programmed.sim Rehearsed.programmed.asked "c" =
      .answers Rehearsed.program.akaResponse? := rfl
  obtain ⟨-, hprinted, -, -⟩ := printed_text_decides htoken hfirst hposed hsim
  obtain ⟨-, -, hsent⟩ := hprinted _ rfl
  exact hsent (by decide)

end Engine
end ImsiPseudonym
