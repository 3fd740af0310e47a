import ImsiPseudonym.Program
import ImsiPseudonym.Proofs.Manager.Circulation

/-!
How far retrievals are apart.  After a success the next one waits for half an hour at least, and
after a failure for half a minute at least, whatever the server has answered and whatever happened
before.
-/
namespace ImsiPseudonym

namespace Backoff

variable {b : Backoff} {reason : FailureReason} {delay : Millis}

theorem bounds_of_mem_delays (hreason : forReason? reason = some b) (h : delay ∈ b.delays) :
    30 * second ≤ delay ∧ delay ≤ 9 * hour := by
  have hconnection : ∀ d ∈ connection.delays, 30 * second ≤ d ∧ d ≤ 9 * hour := by decide
  have hserver : ∀ d ∈ server.delays, 30 * second ≤ d ∧ d ≤ 9 * hour := by decide
  cases reason with
  | connection =>
      cases hreason
      exact hconnection delay h
  | transient =>
      cases hreason
      exact hserver delay h
  | nonTransient => cases hreason

end Backoff

namespace Manager

variable (m : Manager) (c : CarrierId) {now : Instant} {reason : FailureReason}

theorem bounds_of_onFailure {delay : Millis} (h : (m.onFailure now c reason).1 = some delay) :
    30 * second ≤ delay ∧ delay ≤ 9 * hour := by
  rcases m.onFailure_cases now c reason with ⟨scheduled, hrow, hfailed⟩ | ⟨-, hfailed⟩
  · rw [hfailed] at h
    obtain rfl := Option.some.inj h
    obtain ⟨b, hreason, hdelay⟩ := Option.bind_eq_some_iff.mp hrow
    exact Backoff.bounds_of_mem_delays hreason (List.mem_of_getElem? hdelay)
  · rw [hfailed] at h
    cases h

end Manager

namespace Watch

variable (w : Watch) (now : Instant) (e : Engine)

theorem delay_note (result : FetchResult) :
    (w.note now result e).2.1 =
      match result with
      | .ok (some grant) => some ((grant.acquiredAt now).timeToRefresh now)
      | .ok none => (w.manager.onFailure now w.carrier .nonTransient).1
      | .error failure => (w.manager.onFailure now w.carrier failure.reason).1 := by
  cases result with
  | error failure => rfl
  | ok grant? => cases grant? <;> rfl

theorem half_minute_le_of_note {result : FetchResult} {owner : Imsi} {delay : Millis}
    (hend : now ≤ Instant.last - hour)
    (husable : ∀ grant, result = .ok (some grant) → grant.Usable owner)
    (h : (w.note now result e).2.1 = some delay) : 30 * second ≤ delay := by
  rw [delay_note] at h
  cases result with
  | error failure => exact (w.manager.bounds_of_onFailure w.carrier h).1
  | ok grant? =>
      cases grant? with
      | none => exact (w.manager.bounds_of_onFailure w.carrier h).1
      | some grant =>
          have hgrant := husable grant rfl
          obtain rfl := Option.some.inj h
          rw [hgrant.timeToRefresh_eq hend]
          exact Int.le_trans (by decide) (hgrant.half_hour_le_refreshAt hend)

end Watch

namespace Manager

/-- After a success the next retrieval waits until the record should be refreshed, half an hour at
least if an hour is left on the counter; after a failure it waits from half a minute to nine hours, if
there is one at all.  So whatever a fetch has brought, the next one is half a minute away or more. -/
theorem delays_spaced {t : Instant} (hstart : 0 ≤ t) (hend : t ≤ Instant.last - hour) (m : Manager)
    (c : CarrierId) :
    (∀ (answer : PseudonymResponse) (owner : Imsi) (grant : Grant) (draw : Fin jitterWindow),
      answer.grant? owner = some grant →
        let r := grant.acquiredAt t
        (m.perform ⟨t, draw⟩ (.carrier c (.onSuccess r))).answer =
            .delay (some (r.refreshAt - t)) ∧
          30 * minute ≤ r.refreshAt - t ∧ r.refreshAt - t ≤ Millis.longest) ∧
    (∀ (moment : Circumstance) (reason : FailureReason), ∃ delay : Option Millis,
      (m.perform moment (.carrier c (.onFailure reason))).answer = .delay delay ∧
        ∀ d ∈ delay, 30 * second ≤ d ∧ d ≤ 9 * hour) ∧
    ∀ (subscriber : Subscriber) (server : ServerUrl) (transportName : String) (past : List Event)
      (e kept : Engine) (partners : Partners) (result : FetchResult),
      Engine.Life (.new subscriber server transportName) past e →
      (e.fetch.play partners).result = some (result, kept) →
        ∀ d ∈ ((Watch.mk c e m).note t result kept).2.1, 30 * second ≤ d := by
  refine ⟨?_, ?_, ?_⟩
  · intro answer owner grant draw hgrant r
    have husable := PseudonymResponse.grant?_usable hgrant
    have hdelay := husable.timeToRefresh_eq hend
    refine ⟨?_, husable.half_hour_le_refreshAt hend, husable.refreshAt_sub_le hstart⟩
    rw [← hdelay]
    rfl
  · intro moment reason
    refine ⟨(m.onFailure moment.now c reason).1, rfl, ?_⟩
    intro d hd
    exact m.bounds_of_onFailure c hd
  · intro subscriber server transportName past e kept partners result hlife hplay d hd
    have husable : ∀ grant, result = .ok (some grant) → grant.Usable subscriber.imsi := by
      intro grant hresult
      rw [hresult] at hplay
      obtain ⟨answer, hgrant⟩ := Engine.exists_of_play hlife hplay
      exact PseudonymResponse.grant?_usable hgrant
    exact Watch.half_minute_le_of_note _ t kept hend husable hd

namespace Rehearsed

/-- A pseudonym for the shortest time, an hour. -/
def hourly : PseudonymResponse := ⟨.success, none, .success, some "p", some 1⟩

end Rehearsed

/-- An hour before the end of time the least delay is reached. -/
theorem delays_spaced_before_last :
    (empty.perform (Rehearsed.moment (Instant.last - hour)) (.carrier Rehearsed.carrier (.onSuccess
      (Grant.acquiredAt ⟨"p", Rehearsed.imsi, hour, by decide⟩ (Instant.last - hour))))).answer =
        .delay (some (30 * minute)) := by
  have hgrant : Rehearsed.hourly.grant? Rehearsed.imsi =
      some ⟨"p", Rehearsed.imsi, hour, by decide⟩ := by decide
  obtain ⟨hsuccess, -⟩ := delays_spaced (t := Instant.last - hour) (by decide) (Int.le_refl _)
    empty Rehearsed.carrier
  obtain ⟨hanswer, -, -⟩ := hsuccess Rehearsed.hourly Rehearsed.imsi _ _ hgrant
  exact hanswer

end Manager
end ImsiPseudonym
