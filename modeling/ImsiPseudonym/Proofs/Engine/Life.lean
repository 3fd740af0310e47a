import ImsiPseudonym.Proofs.Engine.Invariant

/-!
The life of an engine: fetches, each with replies and SIM answers of its own, and clearings of the
token, in any order.  What an engine can be like is what some life has led to.
-/
namespace ImsiPseudonym

/-- What happens to an engine: a turn of one of its fetches, or the clearing of its token. -/
inductive Event where
  | said (turn : Turn)
  | cleared

/-- Where a list with one more at its end is split before an element, that is the last one, or the
list itself is split there. -/
theorem split_append_singleton {α : Type} {l before after : List α} {x y : α}
    (h : l ++ [x] = before ++ y :: after) :
    l = before ∧ x = y ∨ ∃ after', l = before ++ y :: after' := by
  rcases List.eq_nil_or_concat after with rfl | ⟨after', last, rfl⟩
  · obtain ⟨hbefore, hlast⟩ := List.append_inj' h rfl
    exact Or.inl ⟨hbefore, (List.cons.inj hlast).1⟩
  · rw [List.concat_eq_append, ← List.cons_append, ← List.append_assoc] at h
    exact Or.inr ⟨after', (List.append_inj' h rfl).1⟩

namespace Engine

/-- A fetch is followed by the machine from its first stage. -/
theorem leads_of_after {e : Engine} {turns : List Turn} {rest : Dialogue (FetchResult × Engine)}
    (h : e.fetch.After turns rest) :
    ∃ s, (Stage.begin maxAttempts e).Leads turns s ∧ s.Remaining rest :=
  (Stage.remaining_begin maxAttempts e).leads h

/-- Where a fetch can end: at its last stage, or with the SIM if that breaks down. -/
inductive Ends (e : Engine) : Option (FetchResult × Engine) → List Turn → Prop where
  | ended {result : FetchResult} {kept : Engine} {turns : List Turn}
      (h : (Stage.begin maxAttempts e).Leads turns (.ended kept result)) :
      Ends e (some (result, kept)) turns
  | brokenDown {kept : Engine} {attempts : Nat} {challenge : String} {turns : List Turn}
      (h : (Stage.begin maxAttempts e).Leads turns (.sim kept attempts challenge)) :
      Ends e none (turns ++ [.asked challenge .breaksDown])

/-- Whatever the partners, a fetch ends in one of these two ways. -/
theorem fetch_ends (e : Engine) (partners : Partners) :
    e.Ends (e.fetch.play partners).result (e.fetch.play partners).turns := by
  have hprogress := e.fetch.play_progress partners
  generalize (e.fetch.play partners).result = result at hprogress ⊢
  generalize (e.fetch.play partners).turns = turns at hprogress ⊢
  cases hprogress with
  | finished h =>
      obtain ⟨s, hleads, hs⟩ := leads_of_after h
      cases hs.eq_ended
      exact .ended hleads
  | brokenDown h =>
      obtain ⟨s, hleads, hs⟩ := leads_of_after h
      obtain ⟨kept, attempts, rfl⟩ := hs.eq_sim
      exact .brokenDown hleads

theorem leads_of_play {e kept : Engine} {partners : Partners} {result : FetchResult}
    (h : (e.fetch.play partners).result = some (result, kept)) :
    (Stage.begin maxAttempts e).Leads (e.fetch.play partners).turns (.ended kept result) := by
  have hends := e.fetch_ends partners
  rw [h] at hends
  generalize (e.fetch.play partners).turns = turns at hends ⊢
  cases hends with
  | ended hleads => exact hleads

/-- All that has happened to an engine so far, and the engine as it is now. -/
inductive Life (first : Engine) : List Event → Engine → Prop where
  | new : Life first [] first
  | cleared {past : List Event} {e : Engine} (h : Life first past e) :
      Life first (past ++ [.cleared]) e.clearToken
  | fetched {past : List Event} {e kept : Engine} {result : FetchResult} (h : Life first past e)
      (partners : Partners) (hplay : (e.fetch.play partners).result = some (result, kept)) :
      Life first (past ++ (e.fetch.play partners).turns.map .said) kept

theorem Life.engine_eq {first e : Engine} {past : List Event} (h : Life first past e) :
    ∃ token, e = { first with token } := by
  induction h with
  | new => exact ⟨first.token, rfl⟩
  | cleared _ ih =>
      obtain ⟨token, rfl⟩ := ih
      exact ⟨none, rfl⟩
  | fetched _ partners hplay ih =>
      obtain ⟨_, rfl⟩ := ih
      obtain ⟨token, hkept⟩ := (leads_of_play hplay).engine_eq
      rw [Stage.begin_engine] at hkept
      exact ⟨token, hkept⟩

theorem Life.subscriber_eq {first e : Engine} {past : List Event} (h : Life first past e) :
    e.subscriber = first.subscriber := by
  obtain ⟨token, hengine⟩ := h.engine_eq
  rw [hengine]

theorem Life.server_eq {first e : Engine} {past : List Event} (h : Life first past e) :
    e.server = first.server := by
  obtain ⟨token, hengine⟩ := h.engine_eq
  rw [hengine]

theorem Life.sound {first e : Engine} {past : List Event} (h : Life first past e)
    (hfirst : first.Sound) : e.Sound := by
  induction h with
  | new => exact hfirst
  | cleared _ _ => exact sound_of_token_eq_none rfl
  | @fetched _ e _ _ _ partners hplay ih =>
      exact (leads_of_play hplay).sound (Stage.begin_maxAttempts_valid e)
        (Stage.begin_sound maxAttempts ih)

theorem new_sound (subscriber : Subscriber) (server : ServerUrl) (transportName : String) :
    (new subscriber server transportName).Sound :=
  sound_of_token_eq_none rfl

namespace Rehearsed

def subscriber : Subscriber where
  imsi := ⟨"310260000000001", by decide, by decide⟩
  simOperator := some "310260"
  imei := some "35209900176148"
  softwareVersion := some "01"
  deviceModel := "test"

def server : ServerUrl :=
  ⟨⟨"https", "", "", .domain "ses.example.com".toList, none, ["pseudonym"], none, none⟩, rfl⟩

def first : Engine := new subscriber server "scripted"

/-- A challenge, and then a token without a pseudonym. -/
def partners : Partners where
  replies := [
    .ok "[\x7b\"message-id\": 1, \"response-code\": 1003, \"aka-challenge\": \"c\"\x7d]",
    .ok "[\x7b\"message-id\": 1, \"response-code\": 1000, \"aka-token\": \"t\"\x7d]"]
  afterwards := .error (.connect "script exhausted")
  sim := fun _ _ => .answers (some (.challenge "rsp"))
  asked := 0

/-- What has happened after one fetch. -/
def past : List Event := (first.fetch.play partners).turns.map .said

/-- The engine after one fetch. -/
def kept : Engine := { first with token := some "t" }

set_option maxRecDepth 20000 in
theorem result_eq : (first.fetch.play partners).result =
    some (.error (pseudonymRefused .unset), kept) := rfl

theorem life : Life first past kept :=
  .fetched .new partners result_eq

set_option maxRecDepth 20000 in
/-- The second fetch has its token rejected, and no challenge after that. -/
theorem result_kept_eq : (kept.fetch.play partners).result =
    some (.error (challengeRefused .success), kept.clearToken) := rfl

end Rehearsed
end Engine
end ImsiPseudonym
