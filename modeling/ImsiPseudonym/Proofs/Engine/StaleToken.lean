import ImsiPseudonym.Proofs.Engine.Life

/-!
Fetches with a cached token.  A token that the server rejects costs one request, after which the
fetch goes on as if the token had been cleared beforehand; any other reply ends the fetch at once.
-/
namespace ImsiPseudonym.Engine

open Text

/-- The reply asks for authentication although the request carried a token. -/
def RejectsToken (reply : Reply) : Prop :=
  ∃ body, reply = .ok body ∧ (PseudonymResponse.ofBody body).authCode.code = 1003

theorem concludeFrom_of_rejectsToken {e : Engine} (htoken : e.token ≠ none) {reply : Reply}
    (h : RejectsToken reply) : e.concludeFrom 1 none reply = e.clearToken.fetch := by
  obtain ⟨body, rfl, hcode⟩ := h
  have hsent : e.token.isSome = true := Option.isSome_iff_ne_none.mpr htoken
  have hcode : (PseudonymResponse.ofBody body).authCode = .challenge :=
    congrArg ResponseCode.mk hcode
  have hverdict : Verdict.ofCode (PseudonymResponse.ofBody body).authCode e.token.isSome =
      .tokenRejected :=
    Verdict.ofCode_eq_tokenRejected_iff.mpr ⟨hcode, hsent⟩
  simp only [concludeFrom, hverdict]
  exact fetchWithin_of_token_eq_none rfl 0 1

/-- Any other reply ends the fetch, with a result in which the text of the token has no part. -/
theorem exists_result_of_not_rejectsToken (e : Engine) (sentToken : Bool) {reply : Reply}
    (h : ¬ RejectsToken reply) :
    ∃ result, ∀ token, token.isSome = sentToken →
      ({ e with token } : Engine).concludeFrom 1 none reply = .done (result, { e with token }) := by
  cases reply with
  | error broken => exact ⟨_, fun _ _ => rfl⟩
  | ok body =>
      cases hverdict : Verdict.ofCode (PseudonymResponse.ofBody body).authCode sentToken with
      | refused failure =>
          refine ⟨.error failure, ?_⟩
          intro token hsent
          simp only [concludeFrom, hsent, hverdict]
      | tokenRejected =>
          have hcode := (Verdict.ofCode_eq_tokenRejected_iff.mp hverdict).1
          exact absurd ⟨body, rfl, congrArg ResponseCode.code hcode⟩ h
      | accepted =>
          refine ⟨e.granted (.ofBody body), ?_⟩
          intro token hsent
          have hgranted : ({ e with token } : Engine).granted (.ofBody body) =
              e.granted (.ofBody body) := rfl
          simp [concludeFrom, hsent, hverdict, hgranted, keepToken]

theorem concludeFrom_of_not_rejectsToken (e : Engine) {reply : Reply} (h : ¬ RejectsToken reply) :
    ∃ result, e.concludeFrom 1 none reply = .done (result, e) := by
  obtain ⟨result, hdone⟩ := exists_result_of_not_rejectsToken e e.token.isSome h
  exact ⟨result, hdone e.token rfl⟩

/-- With a cached token the first request carries it.  If the reply rejects the token, all that
follows (turns, result, engine, and the replies left over) is what follows a clearing of the token.
After any other reply the fetch is over, and the engine is as before. -/
theorem fetch_with_token {subscriber : Subscriber} {server : ServerUrl} {transportName : String}
    {past : List Event} {e : Engine} {token : String}
    (hlife : Life (new subscriber server transportName) past e) (htoken : e.token = some token)
    (partners : Partners) :
    ∃ request : Request, request.content = .withToken token ∧
      (RejectsToken partners.reply.1 →
        e.fetch.play partners =
          (e.clearToken.fetch.play partners.reply.2).after (.sent request partners.reply.1)) ∧
      (¬ RejectsToken partners.reply.1 →
        (e.fetch.play partners).turns = [.sent request partners.reply.1] ∧
        (e.fetch.play partners).partners = partners.reply.2 ∧
        ∃ result, (e.fetch.play partners).result = some (result, e)) := by
  obtain ⟨hne, hdevice⟩ := hlife.sound (new_sound _ _ _) token htoken
  obtain ⟨body, hbody⟩ := Subscriber.exists_pseudonymRequest? hdevice e.token none
  have hplay : e.fetch.play partners =
      ((e.concludeFrom 1 none partners.reply.1).play partners.reply.2).after
        (.sent ⟨e.server, body⟩ partners.reply.1) := by
    rw [fetch_of_token htoken hbody]
    rfl
  refine ⟨⟨e.server, body⟩, ?_, ?_, ?_⟩
  · rw [Subscriber.content_of_pseudonymRequest? hbody, htoken,
      nonEmpty?_eq_some_iff.mpr ⟨rfl, hne⟩]
    rfl
  · intro hrejected
    rw [hplay, concludeFrom_of_rejectsToken (by simp [htoken]) hrejected]
  · intro hkept
    obtain ⟨result, hdone⟩ := concludeFrom_of_not_rejectsToken e hkept
    rw [hplay, hdone]
    exact ⟨rfl, rfl, result, rfl⟩

theorem fetch_with_rehearsed_token :
    Life Rehearsed.first Rehearsed.past Rehearsed.kept ∧ Rehearsed.kept.token = some "t" ∧
      RejectsToken Rehearsed.partners.reply.1 ∧
      ∃ request : Request, request.content = .withToken "t" ∧
        Rehearsed.kept.fetch.play Rehearsed.partners =
          (Rehearsed.kept.clearToken.fetch.play Rehearsed.partners.reply.2).after
            (.sent request Rehearsed.partners.reply.1) := by
  have hrejected : RejectsToken Rehearsed.partners.reply.1 := ⟨_, rfl, rfl⟩
  obtain ⟨request, hcontent, hrestart, -⟩ :=
    fetch_with_token Rehearsed.life rfl Rehearsed.partners
  exact ⟨Rehearsed.life, rfl, hrejected, request, hcontent, hrestart hrejected⟩

end ImsiPseudonym.Engine
