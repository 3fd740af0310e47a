import ImsiPseudonym.Proofs.Manager.Journal

/-!
When a failed retrieval is tried again.  The delay follows from the failures for the same reason
since the last success, and from nothing else.
-/
namespace ImsiPseudonym

namespace Backoff

theorem delay?_min_maxRetries (b : Backoff) (n : Nat) :
    b.delay? (min n b.maxRetries) = b.delay? n := by
  by_cases h : n ≤ b.maxRetries
  · rw [Nat.min_eq_left h]
  · have hused : b.delays.length ≤ n := Nat.le_of_not_le h
    have hlast : min n b.maxRetries = b.delays.length := Nat.min_eq_right hused
    rw [hlast, delay?, delay?, List.getElem?_eq_none hused, List.getElem?_eq_none le_rfl]

theorem delay?_isSome_iff {b : Backoff} {n : Nat} : (b.delay? n).isSome ↔ n < b.maxRetries := by
  simp [delay?, maxRetries]

/-- Every row has five delays. -/
theorem maxRetries_of_forReason? {reason : FailureReason} {b : Backoff}
    (h : forReason? reason = some b) : b.maxRetries = 5 := by
  cases reason with
  | connection | transient => cases h; rfl
  | nonTransient => cases h

end Backoff

namespace CarrierState

/-- The retries for one reason do not count for another. -/
theorem retries_countRetry {reason failed : FailureReason} {b b' : Backoff}
    (hreason : Backoff.forReason? reason = some b) (hfailed : Backoff.forReason? failed = some b')
    (s : CarrierState) :
    (s.countRetry failed).retries reason =
      if failed = reason then s.retries reason + 1 else s.retries reason := by
  cases reason with
  | nonTransient => cases hreason
  | connection | transient =>
      cases failed with
      | nonTransient => cases hfailed
      | connection | transient => rfl

/-- All retries since the last success. -/
def allRetries (s : CarrierState) : Nat :=
  s.connectionRetries + s.serverRetries

theorem allRetries_countRetry (s : CarrierState) (reason : FailureReason) :
    (s.countRetry reason).allRetries = s.allRetries + 1 := by
  cases reason <;> simp only [countRetry, allRetries] <;> omega

end CarrierState

namespace Manager

/-- How often retrievals for a carrier have failed for a reason since its last success. -/
def failures (c : CarrierId) (reason : FailureReason) (past : List Entry) : Nat :=
  (sinceSuccess c past).countP fun e => e.op.fails c reason

/-- A failure is answered with a retry. -/
def CarrierOperation.isRetry : CarrierOperation → Answer → Bool
  | .onFailure _, .delay (some _) => true
  | _, _ => false

def Entry.isRetry (c : CarrierId) (e : Entry) : Bool :=
  (e.op.on? c).any (·.isRetry e.answer)

theorem countP_sinceSuccess_append_singleton (c : CarrierId) (p : Entry → Bool)
    (past : List Entry) (e : Entry) :
    (sinceSuccess c (past ++ [e])).countP p =
      if e.op.succeeds c then 0 else (sinceSuccess c past).countP p + if p e then 1 else 0 := by
  by_cases h : e.op.succeeds c = true
  · rw [sinceSuccess_append_of_succeeds h, if_pos h]
    rfl
  · have hnot : e.op.succeeds c = false := by simpa using h
    rw [sinceSuccess_append_of_not_succeeds hnot, if_neg h, List.countP_append,
      List.countP_singleton]

variable (m : Manager) (moment : Circumstance) (c : CarrierId) (reason : FailureReason)

theorem answer_onFailure :
    (m.performOn moment c (.onFailure reason)).answer =
      .delay ((Backoff.forReason? reason).bind (·.delay? ((m.state c).retries reason))) := by
  simp only [performOn, onFailure]
  cases (Backoff.forReason? reason).bind (·.delay? ((m.state c).retries reason)) <;> rfl

variable {b : Backoff}

theorem retries_perform_onFailure (hreason : Backoff.forReason? reason = some b)
    (failed : FailureReason) :
    ((m.perform moment (.carrier c (.onFailure failed))).manager.state c).retries reason =
      if failed = reason ∧ (m.state c).retries reason < b.maxRetries then
        (m.state c).retries reason + 1
      else (m.state c).retries reason := by
  rw [state_perform_self, answer_onFailure]
  cases hdelay : (Backoff.forReason? failed).bind (·.delay? ((m.state c).retries failed)) with
  | none =>
      have hused : ¬(failed = reason ∧ (m.state c).retries reason < b.maxRetries) := by
        rintro ⟨rfl, hlt⟩
        rw [hreason, Option.bind_some] at hdelay
        rw [← Backoff.delay?_isSome_iff, hdelay] at hlt
        cases hlt
      rw [if_neg hused]
      cases reason <;> rfl
  | some delay =>
      obtain ⟨b', hfailed, hdelay⟩ := Option.bind_eq_some_iff.mp hdelay
      have hcount := CarrierState.retries_countRetry hreason hfailed (m.state c)
      by_cases h : failed = reason
      · subst h
        obtain rfl : b' = b := Option.some.inj (hfailed.symm.trans hreason)
        have hlt : (m.state c).retries failed < b'.maxRetries := by
          rw [← Backoff.delay?_isSome_iff, hdelay]
          rfl
        rw [if_pos rfl] at hcount
        rw [if_pos ⟨rfl, hlt⟩, ← hcount]
        cases failed <;> rfl
      · rw [if_neg h] at hcount
        rw [if_neg (fun hboth => h hboth.1), ← hcount]
        cases reason <;> rfl

theorem retries_perform (hreason : Backoff.forReason? reason = some b) (op : Operation) :
    ((m.perform moment op).manager.state c).retries reason =
      if op.succeeds c then 0
      else if op.fails c reason ∧ (m.state c).retries reason < b.maxRetries then
        (m.state c).retries reason + 1
      else (m.state c).retries reason := by
  cases hop : op.on? c with
  | none => simp [state_perform, Operation.succeeds, Operation.fails, hop]
  | some asked =>
      obtain rfl := Operation.on?_eq_some_iff.mp hop
      rw [Operation.succeeds, Operation.fails, hop]
      cases asked with
      | onSuccess r =>
          rw [state_perform_self]
          cases reason <;> rfl
      | onFailure failed =>
          rw [retries_perform_onFailure m moment c reason hreason]
          simp [CarrierOperation.isSuccess, CarrierOperation.isFailure]
      | _ =>
          rw [state_perform_self, if_neg (by simp [CarrierOperation.isSuccess]),
            if_neg (by simp [CarrierOperation.isFailure])]
          cases (m.performOn moment c _).answer with
          | delay delay => cases delay <;> cases reason <;> rfl
          | _ => cases reason <;> rfl

theorem retries_eq_min (hreason : Backoff.forReason? reason = some b)
    (ops : List (Circumstance × Operation)) :
    ((empty.after ops).state c).retries reason =
      min (failures c reason (empty.journal ops)) b.maxRetries := by
  apply journal_induction
    (P := fun past m => (m.state c).retries reason = min (failures c reason past) b.maxRetries)
  · cases reason <;> simp [failures, empty, state, CarrierState.fresh, CarrierState.retries]
  · intro past m moment op ih
    rw [retries_perform m moment c reason hreason, ih, failures, failures,
      countP_sinceSuccess_append_singleton]
    by_cases hsuccess : op.succeeds c = true
    · rw [if_pos hsuccess, if_pos hsuccess]
      rfl
    · rw [if_neg hsuccess, if_neg hsuccess]
      by_cases hfailure : op.fails c reason = true
      · simp only [hfailure, true_and, ↓reduceIte]
        split <;> omega
      · simp [hfailure]

theorem allRetries_next (s : CarrierState) (now : Instant) (op : CarrierOperation)
    (answer : Answer) :
    (s.next now op answer).allRetries =
      if op.isSuccess then 0 else s.allRetries + if op.isRetry answer then 1 else 0 := by
  cases op with
  | onSuccess r => rfl
  | onFailure reason =>
      cases answer with
      | delay delay =>
          cases delay with
          | none => rfl
          | some delay => exact s.allRetries_countRetry reason
      | _ => rfl
  | _ =>
      cases answer with
      | delay delay => cases delay <;> rfl
      | _ => rfl

theorem allRetries_perform (op : Operation) :
    ((m.perform moment op).manager.state c).allRetries =
      if op.succeeds c then 0
      else (m.state c).allRetries +
        if Entry.isRetry c ⟨moment, op, (m.perform moment op).answer⟩ then 1 else 0 := by
  rw [state_perform, Operation.succeeds, Entry.isRetry]
  cases op.on? c with
  | none => rfl
  | some asked => exact allRetries_next _ _ _ _

/-- Each retry has been counted. -/
theorem allRetries_eq_countP (ops : List (Circumstance × Operation)) :
    ((empty.after ops).state c).allRetries =
      (sinceSuccess c (empty.journal ops)).countP (·.isRetry c) := by
  apply journal_induction
    (P := fun past m => (m.state c).allRetries = (sinceSuccess c past).countP (·.isRetry c))
  · rfl
  · intro past m moment op ih
    rw [allRetries_perform, countP_sinceSuccess_append_singleton, ih]

theorem answer_of_failures (ops : List (Circumstance × Operation)) :
    ((empty.after ops).perform moment (.carrier c (.onFailure reason))).answer =
      .delay ((Backoff.forReason? reason).bind
        (·.delay? (failures c reason (empty.journal ops)))) := by
  rw [perform, answer_onFailure]
  cases hreason : Backoff.forReason? reason with
  | none => rfl
  | some b =>
      rw [Option.bind_some, Option.bind_some, retries_eq_min c reason hreason,
        Backoff.delay?_min_maxRetries]

/-- After a failure comes the delay whose place in the row is the number of failures for the same
reason since the last success.  Only such failures and successes of the carrier change that, and
between two successes there are ten retries at most. -/
theorem delay_after_failures (ops : List (Circumstance × Operation)) (c : CarrierId) :
    (∀ moment, ((empty.after ops).perform moment (.carrier c (.onFailure .connection))).answer =
      .delay [30 * second, minute, hour, 3 * hour, 9 * hour][
        failures c .connection (empty.journal ops)]?) ∧
    (∀ moment, ((empty.after ops).perform moment (.carrier c (.onFailure .transient))).answer =
      .delay [5 * minute, 15 * minute, 30 * minute, 60 * minute, 120 * minute][
        failures c .transient (empty.journal ops)]?) ∧
    (∀ moment, ((empty.after ops).perform moment (.carrier c (.onFailure .nonTransient))).answer =
      .delay none) ∧
    (∀ moment reason, 5 ≤ failures c reason (empty.journal ops) →
      ((empty.after ops).perform moment (.carrier c (.onFailure reason))).answer = .delay none) ∧
    (∀ moment op reason, op.succeeds c = false → op.fails c reason = false → ∀ before after,
      (((empty.after ops).perform moment op).manager.perform after
        (.carrier c (.onFailure reason))).answer =
      ((empty.after ops).perform before (.carrier c (.onFailure reason))).answer) ∧
    ((empty.after ops).state c).connectionRetries ≤ 5 ∧
    ((empty.after ops).state c).serverRetries ≤ 5 ∧
    (sinceSuccess c (empty.journal ops)).countP (·.isRetry c) ≤ 10 := by
  have hlimit (reason : FailureReason) {b : Backoff} (h : Backoff.forReason? reason = some b) :
      ((empty.after ops).state c).retries reason ≤ 5 := by
    rw [retries_eq_min c reason h, Backoff.maxRetries_of_forReason? h]
    exact Nat.min_le_right _ 5
  have hconnection : ((empty.after ops).state c).connectionRetries ≤ 5 := hlimit .connection rfl
  have hserver : ((empty.after ops).state c).serverRetries ≤ 5 := hlimit .transient rfl
  refine ⟨fun moment => answer_of_failures moment c .connection ops,
    fun moment => answer_of_failures moment c .transient ops,
    fun moment => answer_of_failures moment c .nonTransient ops, ?_, ?_, hconnection, hserver, ?_⟩
  · intro moment reason hmany
    rw [answer_of_failures]
    cases hreason : Backoff.forReason? reason with
    | none => rfl
    | some b =>
        rw [← Backoff.maxRetries_of_forReason? hreason] at hmany
        exact congrArg Answer.delay (List.getElem?_eq_none hmany)
  · intro moment op reason hsuccess hfailure before after
    rw [← after_append_singleton, answer_of_failures, answer_of_failures,
      journal_append_singleton, failures, failures, countP_sinceSuccess_append_singleton]
    simp [hsuccess, hfailure]
  · rw [← allRetries_eq_countP, CarrierState.allRetries]
    omega

end Manager
end ImsiPseudonym
