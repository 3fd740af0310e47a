import ImsiPseudonym.Proofs.Engine.Outcome
import ImsiPseudonym.Proofs.Manager.Change
import ImsiPseudonym.Proofs.Manager.Fallback
import ImsiPseudonym.Proofs.Manager.Lineage
import ImsiPseudonym.Proofs.Record.Usable

/-!
Records in circulation.  An engine brings them and a manager keeps them; only what the engine has
brought is handed to the manager as a success.  Then every record is usable at any time, although
neither keeping a record nor replacing its pseudonym looks at the time span.
-/
namespace ImsiPseudonym

namespace Ending

theorem eq_of_ofPseudonymCodes_eq_granted {authCode pseudonymCode : Int}
    {grant granted : Option Grant}
    (h : ofPseudonymCodes authCode pseudonymCode grant = .granted granted) : grant = granted := by
  unfold ofPseudonymCodes at h
  split at h
  · split at h
    · cases h
      rfl
    · split at h <;> cases h
  · split at h <;> cases h

/-- A fetch grants nothing but what some reply granted. -/
theorem exists_of_granted {owner : Imsi} {turns : List Turn} {grant : Grant}
    (h : expected? owner turns = some (.granted (some grant))) :
    ∃ answer : PseudonymResponse, answer.grant? owner = some grant := by
  unfold expected? at h
  split at h
  · cases h
  · cases h
  · rename_i request body _
    split at h
    · cases h
    · rcases eq_of_ofChallengeCode h with hending | hending <;> cases hending
    · exact ⟨.ofBody body, eq_of_ofPseudonymCodes_eq_granted (Option.some.inj h)⟩

end Ending

namespace Engine

variable {subscriber : Subscriber} {server : ServerUrl} {transportName : String} {past : List Event}
  {e kept : Engine} {partners : Partners}

theorem exists_of_play (hlife : Life (new subscriber server transportName) past e) {grant : Grant}
    (hplay : (e.fetch.play partners).result = some (.ok (some grant), kept)) :
    ∃ answer : PseudonymResponse, answer.grant? subscriber.imsi = some grant := by
  have hsubscriber : e.subscriber = subscriber := hlife.subscriber_eq
  have hexpected := (leads_of_play hplay).expected? (hlife.sound (new_sound _ _ _))
  rw [hsubscriber] at hexpected
  exact Ending.exists_of_granted hexpected

end Engine

/-- The record that a fetch brings at a reading of the clock, if it brings one. -/
def FetchResult.record? (now : Instant) : FetchResult → Option Record
  | .ok (some grant) => some (grant.acquiredAt now)
  | _ => none

theorem FetchResult.eq_of_record? {now : Instant} {result : FetchResult} {r : Record}
    (h : result.record? now = some r) : result = .ok (some r.toGrant) := by
  unfold record? at h
  split at h
  · cases h
    rfl
  · cases h

namespace Manager

/-- All that a manager keeps is usable for an owner. -/
def KeepsUsable (m : Manager) (owner : Imsi) : Prop :=
  ∀ c r, m.record? c = some r → r.toGrant.Usable owner

theorem keepsUsable_empty (owner : Imsi) : empty.KeepsUsable owner :=
  fun _ _ h => nomatch h

variable {m : Manager} {moment : Circumstance} {c : CarrierId} {op : Operation} {owner : Imsi}

/-- Only a checked pseudonym takes the place of another. -/
theorem check_of_learned? {pseudonym : String} {now : Instant}
    (h : Entry.learned? c ⟨moment, op, (m.perform moment op).answer⟩ = some (pseudonym, now)) :
    checkPseudonym pseudonym = .ok () := by
  obtain ⟨learned, hbind, hpair⟩ := Option.map_eq_some_iff.mp h
  obtain ⟨asked, hop, hlearned⟩ := Option.bind_eq_some_iff.mp hbind
  obtain rfl : learned = pseudonym := congrArg Prod.fst hpair
  obtain rfl := Operation.on?_eq_some_iff.mp hop
  obtain ⟨rfl, delay, hanswer⟩ := CarrierOperation.eq_of_learned? hlearned
  rcases m.setInBand_cases moment.now c learned with ⟨e, -, hset⟩ | ⟨hcheck, -⟩
  · simp only [perform, performOn, hset] at hanswer
    cases hanswer
  · exact hcheck

theorem KeepsUsable.perform (h : m.KeepsUsable owner)
    (hgiven : ∀ c r, op = .carrier c (.onSuccess r) → r.toGrant.Usable owner) :
    (m.perform moment op).manager.KeepsUsable owner := by
  intro c r hr
  rw [record?_perform] at hr
  cases hgave : Entry.given? c ⟨moment, op, (m.perform moment op).answer⟩ with
  | some given =>
      rw [hgave] at hr
      cases hr
      exact hgiven c r (Entry.given?_eq_some_iff.mp hgave)
  | none =>
      cases hlearned : Entry.learned? c ⟨moment, op, (m.perform moment op).answer⟩ with
      | some learned =>
          rw [hgave, hlearned] at hr
          obtain ⟨old, hold, rfl⟩ := Option.map_eq_some_iff.mp hr
          exact (h c old hold).replace (check_of_learned? hlearned) learned.2
      | none =>
          rw [hgave, hlearned] at hr
          exact h c r hr

/-- The check of a pseudonym is not about time spans. -/
theorem setInBand_ne_nonPositiveTtl (m : Manager) (now : Instant) (c : CarrierId)
    (pseudonym : String) (ttl : Millis) :
    m.setInBand now c pseudonym ≠ .error (.invalidPseudonym (.nonPositiveTtl ttl)) := by
  rcases m.setInBand_cases now c pseudonym with ⟨e, hcheck, hset⟩ | ⟨-, ⟨-, hset⟩ | ⟨r, -, hset⟩⟩
  · rw [hset]
    rintro ⟨⟩
    exact absurd hcheck (checkPseudonym_ne_nonPositiveTtl pseudonym ttl)
  · rw [hset]
    exact nofun
  · rw [hset]
    exact nofun

end Manager

/-- An engine and a manager side by side, with all records that the engine has brought. -/
inductive Circulation (first : Engine) : List Record → Engine → Manager → Prop where
  | new : Circulation first [] first .empty
  | cleared {brought : List Record} {e : Engine} {m : Manager} (h : Circulation first brought e m) :
      Circulation first brought e.clearToken m
  | fetched {brought : List Record} {e kept : Engine} {m : Manager} {result : FetchResult}
      (h : Circulation first brought e m) (partners : Partners)
      (hplay : (e.fetch.play partners).result = some (result, kept)) (now : Instant) :
      Circulation first (brought ++ (result.record? now).toList) kept m
  | managed {brought : List Record} {e : Engine} {m : Manager} (h : Circulation first brought e m)
      (moment : Manager.Circumstance) (op : Manager.Operation)
      (hop : ∀ c r, op = .carrier c (.onSuccess r) → r ∈ brought) :
      Circulation first brought e (m.perform moment op).manager

namespace Circulation

variable {first e : Engine} {brought : List Record} {m : Manager}

theorem life (h : Circulation first brought e m) : ∃ past, Engine.Life first past e := by
  induction h with
  | new => exact ⟨[], .new⟩
  | cleared _ ih =>
      obtain ⟨past, hlife⟩ := ih
      exact ⟨_, .cleared hlife⟩
  | fetched _ partners hplay _ ih =>
      obtain ⟨past, hlife⟩ := ih
      exact ⟨_, .fetched hlife partners hplay⟩
  | managed _ _ _ _ ih => exact ih

variable {subscriber : Subscriber} {server : ServerUrl} {transportName : String}

theorem usable (h : Circulation (.new subscriber server transportName) brought e m) :
    (∀ r ∈ brought, r.toGrant.Usable subscriber.imsi) ∧ m.KeepsUsable subscriber.imsi := by
  induction h with
  | new => exact ⟨nofun, Manager.keepsUsable_empty _⟩
  | cleared _ ih => exact ih
  | @fetched brought _ _ _ result h partners hplay now ih =>
      refine ⟨?_, ih.2⟩
      intro r hr
      rcases List.mem_append.mp hr with hbefore | hnew
      · exact ih.1 r hbefore
      · have hresult := FetchResult.eq_of_record? (Option.mem_toList.mp hnew)
        rw [hresult] at hplay
        obtain ⟨past, hlife⟩ := h.life
        obtain ⟨answer, hanswer⟩ := Engine.exists_of_play hlife hplay
        exact PseudonymResponse.grant?_usable hanswer
  | managed _ moment op hop ih =>
      refine ⟨ih.1, ih.2.perform ?_⟩
      intro c r hsuccess
      exact ih.1 r (hop c r hsuccess)

/-- Whatever an engine has brought and whatever a manager keeps is usable, for an hour at least, and
half an hour before it expires it should be refreshed.  The time span that a replacement takes over
passes the check of a new one, and no replacement is refused for it. -/
theorem records_usable (h : Circulation (.new subscriber server transportName) brought e m) :
    (∀ r, r ∈ brought ∨ (∃ c, m.record? c = some r) →
      r.toGrant.Usable subscriber.imsi ∧ hour ≤ r.ttl ∧ r.refreshAhead = 30 * minute) ∧
    ∀ (moment : Manager.Circumstance) (c : CarrierId) (pseudonym : String),
      (∀ r, m.record? c = some r →
        Grant.ofTtl pseudonym r.owner r.ttl = .ok (r.replace pseudonym moment.now).toGrant) ∧
      ∀ ttl, (m.perform moment (.carrier c (.setInBand pseudonym))).answer ≠
        .refused (.invalidPseudonym (.nonPositiveTtl ttl)) := by
  obtain ⟨hbrought, hkept⟩ := h.usable
  constructor
  · intro r hr
    have husable : r.toGrant.Usable subscriber.imsi := by
      rcases hr with hmem | ⟨c, hrecord⟩
      · exact hbrought r hmem
      · exact hkept c r hrecord
    exact ⟨husable, husable.hour_le_ttl, husable.refreshAhead_eq⟩
  · intro moment c pseudonym
    constructor
    · intro r _
      exact r.ofTtl_eq pseudonym
    · intro ttl hrefused
      simp only [Manager.perform, Manager.performOn] at hrefused
      split at hrefused
      · cases hrefused
      · rename_i e hset
        cases hrefused
        exact m.setInBand_ne_nonPositiveTtl moment.now c pseudonym ttl hset

end Circulation

namespace Circulation.Rehearsed

open Engine.Rehearsed (subscriber first)
open Manager.Rehearsed (carrier moment)

/-- A challenge, and then a pseudonym for two hours. -/
def partners : Partners where
  replies := [
    .ok "[\x7b\"message-id\": 1, \"response-code\": 1003, \"aka-challenge\": \"c\"\x7d]",
    .ok ("[\x7b\"message-id\": 1, \"response-code\": 1000\x7d, " ++
      "\x7b\"message-id\": 2, \"response-code\": 1000, \"imsi-pseudonym\": \"p\", " ++
      "\"refresh-interval\": 2\x7d]")]
  afterwards := .error (.connect "script exhausted")
  sim := fun _ _ => .answers (some (.challenge "rsp"))
  asked := 0

def granted : Grant := ⟨"p", subscriber.imsi, 2 * hour, by decide⟩

set_option maxRecDepth 20000 in
theorem result_eq : (first.fetch.play partners).result = some (.ok (some granted), first) := rfl

def brought : Record := granted.acquiredAt 1

/-- The manager once the record was kept and its pseudonym replaced. -/
def kept : Manager :=
  ((Manager.empty.perform (moment 1) (.carrier carrier (.onSuccess brought))).manager.perform
    (moment 2) (.carrier carrier (.setInBand "q"))).manager

theorem run : Circulation first [brought] first kept := by
  have hfetched : Circulation first [brought] first .empty :=
    .fetched .new partners result_eq 1
  have hsuccess := hfetched.managed (moment 1) (.carrier carrier (.onSuccess brought)) (by
    intro c r hop
    cases hop
    exact List.mem_singleton.mpr rfl)
  exact hsuccess.managed (moment 2) (.carrier carrier (.setInBand "q")) nofun

end Circulation.Rehearsed

namespace Circulation

theorem rehearsed_records_usable :
    Circulation Engine.Rehearsed.first [Rehearsed.brought] Engine.Rehearsed.first Rehearsed.kept ∧
      ∃ r, Rehearsed.kept.record? Manager.Rehearsed.carrier = some r ∧
        r.toGrant.Usable Engine.Rehearsed.subscriber.imsi ∧ hour ≤ r.ttl ∧
        r.refreshAhead = 30 * minute := by
  have hrecord : Rehearsed.kept.record? Manager.Rehearsed.carrier =
      some (Rehearsed.brought.replace "q" 2) := by decide
  obtain ⟨husable, -⟩ := records_usable Rehearsed.run
  exact ⟨Rehearsed.run, _, hrecord, husable _ (Or.inr ⟨_, hrecord⟩)⟩

end Circulation
end ImsiPseudonym
