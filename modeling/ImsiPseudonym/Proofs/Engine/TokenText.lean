import ImsiPseudonym.Proofs.Engine.StaleToken
import ImsiPseudonym.Proofs.Engine.Traffic

/-!
Two engines whose cached tokens differ in their text.  The same calls, with the same partners, come
to the same on both: only the token that is sent differs, and once that is gone the two engines are
equal.
-/
namespace ImsiPseudonym

open Text Message Json

namespace Engine

def holding (e : Engine) (token : String) : Engine :=
  { e with token := some token }

inductive Call where
  | fetch
  | clear
deriving DecidableEq

/-- What has come of a call: its result and the engine that it leaves behind, both missing where the
SIM broke the call down, all that was said, and the partners afterwards. -/
structure Seen where
  call : Call
  result : Option FetchResult
  turns : List Turn
  kept : Option Engine
  partners : Partners

def respondTo (e : Engine) (partners : Partners) : Call → Seen
  | .clear => ⟨.clear, none, [], some e.clearToken, partners⟩
  | .fetch =>
    let played := e.fetch.play partners
    ⟨.fetch, played.result.map Prod.fst, played.turns, played.result.map Prod.snd, played.partners⟩

/-- Calls one after the other, up to one that breaks down. -/
def run (e : Engine) (partners : Partners) : List Call → List Seen
  | [] => []
  | call :: calls =>
    let seen := e.respondTo partners call
    seen :: match seen.kept with
      | none => []
      | some kept => kept.run seen.partners calls

/-- What a call shows, its requests apart: the result, the diagnostic text of the engine afterwards
and whether it holds a token, and the challenges to the SIM. -/
structure Showing where
  result : Option FetchResult
  diagnostic : Option String
  hasToken : Option Bool
  challenges : List String

def Seen.showing (s : Seen) : Showing where
  result := s.result
  diagnostic := s.kept.map diagnostic
  hasToken := s.kept.map fun kept => kept.token.isSome
  challenges := Turn.challenges s.turns

end Engine

/-- A body with a token in its first entry, and the rest of its members and entries as they are. -/
def presenting (entry : Object) (others : List Value) (token : String) : Value :=
  .array (.object (Table.insert tokenField (.string token) entry) :: others)

/-- Two turns that differ in the token of their request and in nothing else. -/
inductive Turn.Alike (t₁ t₂ : String) : Turn → Turn → Prop where
  | sent (server : ServerUrl) (entry : Object) (others : List Value) (reply : Reply) :
      Alike t₁ t₂ (.sent ⟨server, presenting entry others t₁⟩ reply)
        (.sent ⟨server, presenting entry others t₂⟩ reply)

theorem Turn.Alike.challenge?_eq {t₁ t₂ : String} {turn₁ turn₂ : Turn}
    (h : Alike t₁ t₂ turn₁ turn₂) : turn₁.challenge? = turn₂.challenge? := by
  cases h with
  | sent => rfl

namespace Engine

/-- Two runs that begin with the tokens `t₁` and `t₂`.  As long as these are held, the requests
differ in them; from where they are cleared or rejected, the runs are the same. -/
inductive Twins (t₁ t₂ : String) : List Seen → List Seen → Prop where
  | nil : Twins t₁ t₂ [] []
  /-- A fetch over which both tokens are kept. -/
  | held {e : Engine} {result : FetchResult} {turns₁ turns₂ : List Turn} {partners : Partners}
      {rest₁ rest₂ : List Seen} (hturns : List.Forall₂ (Turn.Alike t₁ t₂) turns₁ turns₂)
      (hkept : ∀ request reply, .sent request reply ∈ turns₁ → ¬ RejectsToken reply)
      (hrest : Twins t₁ t₂ rest₁ rest₂) :
      Twins t₁ t₂
        (⟨.fetch, some result, turns₁, some (e.holding t₁), partners⟩ :: rest₁)
        (⟨.fetch, some result, turns₂, some (e.holding t₂), partners⟩ :: rest₂)
  /-- A fetch that begins with the rejection of either token. -/
  | rejected {request₁ request₂ : Request} {reply : Reply} {result : Option FetchResult}
      {turns : List Turn} {kept : Option Engine} {partners : Partners} {rest : List Seen}
      (hsent : Turn.Alike t₁ t₂ (.sent request₁ reply) (.sent request₂ reply))
      (hreply : RejectsToken reply) :
      Twins t₁ t₂
        (⟨.fetch, result, .sent request₁ reply :: turns, kept, partners⟩ :: rest)
        (⟨.fetch, result, .sent request₂ reply :: turns, kept, partners⟩ :: rest)
  | cleared {kept : Engine} {partners : Partners} {rest : List Seen} :
      Twins t₁ t₂ (⟨.clear, none, [], some kept, partners⟩ :: rest)
        (⟨.clear, none, [], some kept, partners⟩ :: rest)

variable {t₁ t₂ : String}

theorem challenges_eq_of_alike {turns₁ turns₂ : List Turn}
    (h : List.Forall₂ (Turn.Alike t₁ t₂) turns₁ turns₂) :
    Turn.challenges turns₁ = Turn.challenges turns₂ := by
  unfold Turn.challenges
  induction h with
  | nil => rfl
  | cons hturn _ ih =>
      rw [List.filterMap_cons, List.filterMap_cons, hturn.challenge?_eq, ih]

theorem Twins.showing_eq {run₁ run₂ : List Seen} (h : Twins t₁ t₂ run₁ run₂) :
    run₁.map Seen.showing = run₂.map Seen.showing := by
  induction h with
  | nil => rfl
  | held hturns _ _ ih =>
      simp only [List.map_cons, Seen.showing, challenges_eq_of_alike hturns, ih]
      rfl
  | rejected hsent _ => rfl
  | cleared => rfl

end Engine

/-- The body that presents a token is the same for all tokens, but for the one member. -/
theorem Subscriber.exists_pseudonymRequest?_of_token {s : Subscriber}
    (hdevice : s.deviceId? ≠ none) :
    ∃ entry others, ∀ token, token ≠ "" →
      s.pseudonymRequest? (some token) none = some (presenting entry others token) := by
  obtain ⟨deviceId, hdeviceId⟩ := Option.ne_none_iff_exists'.mp hdevice
  refine ⟨Table.ofList ([(idField, .int authenticationId),
      (methodField, .string "3gppAuthentication"), ("device-id", .string deviceId),
      ("device-type", .int 0), ("os-type", .int 0), ("device-name", .string s.deviceModel)] ++
    member? "imsi-eap" s.networkIdentity?), [pseudonymEntry], ?_⟩
  intro token hne
  have htoken : nonEmpty? (some token) = some token := nonEmpty?_eq_some_iff.mpr ⟨rfl, hne⟩
  have hresponse : nonEmpty? none = none := rfl
  simp only [pseudonymRequest?, authenticationEntry?, hdeviceId, htoken, hresponse,
    Value.ofMembers, Table.ofList, List.foldl_append]
  rfl

namespace Engine

/-- A fetch with a token, for all tokens at once: the request presents the token, and if that is not
rejected, the fetch is over. -/
theorem fetch_holding (e : Engine) (hdevice : e.subscriber.deviceId? ≠ none) (partners : Partners) :
    ∃ entry others,
      let sent (token : String) : Turn :=
        .sent ⟨e.server, presenting entry others token⟩ partners.reply.1
      (RejectsToken partners.reply.1 → ∀ token, token ≠ "" →
        (e.holding token).fetch.play partners =
          (e.clearToken.fetch.play partners.reply.2).after (sent token)) ∧
      (¬ RejectsToken partners.reply.1 → ∃ result, ∀ token, token ≠ "" →
        (e.holding token).fetch.play partners =
          ⟨some (result, e.holding token), [sent token], partners.reply.2⟩) := by
  obtain ⟨entry, others, hbody⟩ := Subscriber.exists_pseudonymRequest?_of_token hdevice
  have hplay : ∀ token, token ≠ "" → (e.holding token).fetch.play partners =
      (((e.holding token).concludeFrom 1 none partners.reply.1).play partners.reply.2).after
        (.sent ⟨e.server, presenting entry others token⟩ partners.reply.1) := by
    intro token hne
    rw [fetch_of_token (e := e.holding token) rfl (hbody token hne)]
    rfl
  refine ⟨entry, others, ?_, ?_⟩
  · intro hrejected token hne
    rw [hplay token hne, concludeFrom_of_rejectsToken (Option.some_ne_none token) hrejected]
    rfl
  · intro hkept
    obtain ⟨result, hdone⟩ := exists_result_of_not_rejectsToken e true hkept
    refine ⟨result, ?_⟩
    intro token hne
    rw [hplay token hne, holding, hdone (some token) rfl]
    rfl

theorem respondTo_fetch_of_play {e kept : Engine} {partners after : Partners} {result : FetchResult}
    {turns : List Turn} (h : e.fetch.play partners = ⟨some (result, kept), turns, after⟩) :
    e.respondTo partners .fetch = ⟨.fetch, some result, turns, some kept, after⟩ := by
  simp only [respondTo, h]
  rfl

theorem run_twins (e : Engine) {t₁ t₂ : String} (h₁ : t₁ ≠ "") (h₂ : t₂ ≠ "")
    (partners : Partners) (calls : List Call) :
    Twins t₁ t₂ ((e.holding t₁).run partners calls) ((e.holding t₂).run partners calls) := by
  -- As long as the tokens are held the engines differ in them alone, which is what `e` stands for.
  induction calls generalizing partners with
  | nil => exact .nil
  | cons call calls ih =>
      cases call with
      | clear => exact .cleared
      | fetch =>
          by_cases hdevice : e.subscriber.deviceId? = none
          · have hplay (token : String) : (e.holding token).fetch.play partners =
                ⟨some (.error deviceUnknown, e.holding token), [], partners⟩ := by
              rw [fetch_of_deviceId?_eq_none (e := e.holding token) hdevice]
              rfl
            rw [run, run, respondTo_fetch_of_play (hplay t₁), respondTo_fetch_of_play (hplay t₂)]
            exact .held .nil nofun (ih partners)
          · obtain ⟨entry, others, hrejected, hkept⟩ := e.fetch_holding hdevice partners
            by_cases hreply : RejectsToken partners.reply.1
            · rw [run, run, respondTo, respondTo, hrejected hreply t₁ h₁, hrejected hreply t₂ h₂]
              exact .rejected (.sent _ _ _ _) hreply
            · obtain ⟨result, hplay⟩ := hkept hreply
              rw [run, run, respondTo_fetch_of_play (hplay t₁ h₁),
                respondTo_fetch_of_play (hplay t₂ h₂)]
              apply Twins.held
              · exact .cons (.sent _ _ _ _) .nil
              · intro request reply hmem
                cases List.mem_singleton.mp hmem
                exact hreply
              · exact ih partners.reply.2

/-- The text of a token shows in nothing but the requests that present it. -/
theorem token_text_hidden (e : Engine) {t₁ t₂ : String} (h₁ : t₁ ≠ "") (h₂ : t₂ ≠ "")
    (partners : Partners) (calls : List Call) :
    let run₁ := (e.holding t₁).run partners calls
    let run₂ := (e.holding t₂).run partners calls
    Twins t₁ t₂ run₁ run₂ ∧ run₁.map Seen.showing = run₂.map Seen.showing := by
  have htwins := e.run_twins h₁ h₂ partners calls
  exact ⟨htwins, htwins.showing_eq⟩

/-- Both tokens are rejected in the first fetch, and both engines are left without one. -/
theorem rehearsed_token_text_hidden :
    "t" ≠ "" ∧ "u" ≠ "" ∧
      let run₁ := (Rehearsed.first.holding "t").run Rehearsed.partners [.fetch, .clear]
      let run₂ := (Rehearsed.first.holding "u").run Rehearsed.partners [.fetch, .clear]
      Twins "t" "u" run₁ run₂ ∧
        (run₂.map Seen.showing).map (fun shown => (shown.result, shown.hasToken)) =
          [(some (.error (challengeRefused .success)), some false), (none, some false)] := by
  have ht : "t" ≠ "" := by decide
  have hu : "u" ≠ "" := by decide
  obtain ⟨htwins, hshowing⟩ :=
    token_text_hidden Rehearsed.first ht hu Rehearsed.partners [.fetch, .clear]
  refine ⟨ht, hu, htwins, ?_⟩
  have hkept : Rehearsed.first.holding "t" = Rehearsed.kept := rfl
  rw [← hshowing, hkept]
  simp [run, respondTo, Rehearsed.result_kept_eq, Seen.showing, clearToken]

end Engine
end ImsiPseudonym
