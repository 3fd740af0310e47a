import ImsiPseudonym.Proofs.Manager.Journal

/-!
The time of the last failure.  It is the time of whatever last scheduled a retrieval or reported that
one has failed, and a success clears it.
-/
namespace ImsiPseudonym.Manager

/-- The operation leaves its own time as that of the last failure. -/
def CarrierOperation.stamps : CarrierOperation → Answer → Bool
  | .onFailure _, _ => true
  | .retrieveIfNeeded _, _ => true
  | .setInBand _, .delay (some _) => true
  | .retrieveWithRateLimit, .delay (some _) => true
  | .retrieveOnFailureTimeout _, .delay (some _) => true
  | _, _ => false

def Entry.stamps (c : CarrierId) (e : Entry) : Bool :=
  (e.op.on? c).any (·.stamps e.answer)

/-- The last entry behind the last success of a carrier that leaves a time of failure. -/
def lastStamp? (c : CarrierId) (past : List Entry) : Option Entry :=
  ((sinceSuccess c past).filter (·.stamps c)).getLast?

theorem lastFailure_next (s : CarrierState) (now : Instant) (op : CarrierOperation)
    (answer : Answer) :
    (s.next now op answer).lastFailure =
      if op.isSuccess then 0 else if op.stamps answer then now else s.lastFailure := by
  cases op with
  | onSuccess r => rfl
  | _ =>
      cases answer with
      | delay delay => cases delay <;> rfl
      | _ => rfl

variable (m : Manager) (moment : Circumstance) (c : CarrierId)

theorem lastFailure_perform (op : Operation) :
    (m.perform moment op).manager.lastFailure c =
      if op.succeeds c then 0
      else if Entry.stamps c ⟨moment, op, (m.perform moment op).answer⟩ then moment.now
      else m.lastFailure c := by
  rw [lastFailure, state_perform, Operation.succeeds, Entry.stamps]
  cases op.on? c with
  | none => rfl
  | some asked => exact lastFailure_next _ _ _ _

theorem lastStamp?_append_singleton (past : List Entry) (e : Entry) :
    lastStamp? c (past ++ [e]) =
      if e.op.succeeds c then none else if e.stamps c then some e else lastStamp? c past := by
  by_cases hsuccess : e.op.succeeds c = true
  · rw [lastStamp?, sinceSuccess_append_of_succeeds hsuccess, if_pos hsuccess]
    rfl
  · have hnot : e.op.succeeds c = false := by simpa using hsuccess
    rw [lastStamp?, sinceSuccess_append_of_not_succeeds hnot, if_neg hsuccess, List.filter_append]
    by_cases hstamp : e.stamps c = true
    · simp [hstamp]
    · simp [hstamp, lastStamp?]

theorem lastFailure_eq (ops : List (Circumstance × Operation)) :
    (empty.after ops).lastFailure c =
      ((lastStamp? c (empty.journal ops)).map (·.moment.now)).getD 0 := by
  apply journal_induction
    (P := fun past m => m.lastFailure c = ((lastStamp? c past).map (·.moment.now)).getD 0)
  · rfl
  · intro past m moment op ih
    rw [lastFailure_perform, lastStamp?_append_singleton, ih]
    split
    · rfl
    · split <;> rfl

/-- Of what leads to nothing, only a failure leaves its time. -/
theorem lastFailure_perform_of_refused {op : Operation}
    (hfailure : ∀ reason, op.fails c reason = false)
    (hrefused : (m.perform moment op).answer = .delay none ∨
      ∃ e, (m.perform moment op).answer = .refused e) :
    (m.perform moment op).manager.lastFailure c = m.lastFailure c := by
  rw [lastFailure, state_perform]
  cases hop : op.on? c with
  | none => rfl
  | some asked =>
      obtain rfl := Operation.on?_eq_some_iff.mp hop
      cases asked with
      | onSuccess r => rcases hrefused with h | ⟨e, h⟩ <;> cases h
      | retrieveIfNeeded imsi => rcases hrefused with h | ⟨e, h⟩ <;> cases h
      | onFailure reason =>
          have hnot := hfailure reason
          simp [Operation.fails, hop, CarrierOperation.isFailure] at hnot
      | _ => rcases hrefused with h | ⟨e, h⟩ <;> (rw [h]; rfl)

theorem lastFailure_perform_of_ne {other : CarrierId} (h : other ≠ c) (op : CarrierOperation) :
    (m.perform moment (.carrier other op)).manager.lastFailure c = m.lastFailure c := by
  rw [perform, lastFailure, state_performOn, if_neg h.symm, lastFailure]

/-- The time of the last failure of a carrier is that of the last entry since its last success that
leaves one, and zero if there is none.  Refusals and what is done about other carriers leave it as it
is. -/
theorem lastFailure_of_journal (ops : List (Circumstance × Operation)) (c : CarrierId) :
    (empty.after ops).lastFailure c =
      ((lastStamp? c (empty.journal ops)).map (·.moment.now)).getD 0 ∧
    (∀ moment op, (∀ reason, op.fails c reason = false) →
      (((empty.after ops).perform moment op).answer = .delay none ∨
        ∃ e, ((empty.after ops).perform moment op).answer = .refused e) →
      ((empty.after ops).perform moment op).manager.lastFailure c =
        (empty.after ops).lastFailure c) ∧
    ∀ moment other op, other ≠ c →
      ((empty.after ops).perform moment (.carrier other op)).manager.lastFailure c =
        (empty.after ops).lastFailure c := by
  refine ⟨lastFailure_eq c ops, ?_, ?_⟩
  · intro moment op hfailure hrefused
    exact lastFailure_perform_of_refused _ moment c hfailure hrefused
  · intro moment other op hother
    exact lastFailure_perform_of_ne _ moment c hother op

end ImsiPseudonym.Manager
