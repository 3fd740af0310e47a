import Mathlib.Data.List.DropRight
import ImsiPseudonym.Manager.Operation

/-!
The journal of a manager: what it was asked to do in a run, and what it answered.  All that is kept
about a carrier follows from the entries about that carrier.  Main statements: `state_perform`, which
says what one operation does, and `journal_induction`, by which a run inherits what each operation
keeps.
-/
namespace ImsiPseudonym

/-- What is kept about a carrier once an operation on it has been answered. -/
def CarrierState.next (s : CarrierState) (now : Instant) :
    Manager.CarrierOperation → Manager.Answer → CarrierState
  | .onSuccess r, _ => ⟨some r, 0, 0, 0⟩
  | .onFailure reason, .delay (some _) => { s.countRetry reason with lastFailure := now }
  | .onFailure _, _ => { s with lastFailure := now }
  | .setInBand pseudonym, .delay (some _) =>
      { s with record := s.record.map (·.replace pseudonym now), lastFailure := now }
  | .retrieveIfNeeded _, _ => { s with lastFailure := now }
  | .retrieveWithRateLimit, .delay (some _) => { s with lastFailure := now }
  | .retrieveOnFailureTimeout _, .delay (some _) => { s with lastFailure := now }
  | _, _ => s

namespace Manager

theorem state_modify (m : Manager) (c other : CarrierId) (f : CarrierState → CarrierState) :
    (m.modify c f).state other = if other = c then f (m.state c) else m.state other := by
  rw [state, modify, Table.get?_insert]
  by_cases h : other = c
  · simp [h]
  · simp [h, state]

theorem state_stamp (m : Manager) (now : Instant) (c other : CarrierId) :
    (m.stamp now c).state other =
      if other = c then { m.state c with lastFailure := now } else m.state other :=
  state_modify m c other _

variable (m : Manager) (moment : Circumstance) (c other : CarrierId)

theorem state_performOn (op : CarrierOperation) :
    (m.performOn moment c op).manager.state other =
      if other = c then (m.state c).next moment.now op (m.performOn moment c op).answer
      else m.state other := by
  have hstamp := state_stamp m moment.now c other
  have hsame : m.state other = if other = c then m.state c else m.state other := by
    by_cases h : other = c <;> simp [h]
  cases op with
  | record | validRecord imsi => exact hsame
  | retrieveIfNeeded imsi => exact hstamp
  | retrieveWithRateLimit =>
      simp only [performOn, retrieveWithRateLimit]
      split
      · split
        · exact hstamp
        · exact hsame
      · exact hsame
  | retrieveOnFailureTimeout imsi =>
      simp only [performOn, retrieveOnFailureTimeout]
      split
      · exact hstamp
      · exact hsame
  | onSuccess r =>
      simp only [performOn, onSuccess, store, state_modify, state_stamp]
      by_cases h : other = c <;> simp [h, CarrierState.next]
  | onFailure reason =>
      simp only [performOn, onFailure]
      split
      · rw [state_modify, hstamp]
        by_cases h : other = c
        · cases reason <;> simp [h, state_stamp, CarrierState.next, CarrierState.countRetry]
        · simp [h]
      · exact hstamp
  | setInBand pseudonym =>
      simp only [performOn, setInBand_eq]
      cases checkPseudonym pseudonym with
      | error e => exact hsame
      | ok _ =>
          cases hrecord : m.record? c with
          | none => exact hsame
          | some r =>
              have hkept : (m.state c).record = some r := hrecord
              simp only [store, state_modify, state_stamp]
              by_cases h : other = c <;> simp [h, CarrierState.next, hkept]

/-- What an operation asks about a carrier. -/
def Operation.on? (c : CarrierId) : Operation → Option CarrierOperation
  | .carrier other op => if other = c then some op else none
  | .register _ | .unregister _ => none

theorem Operation.on?_eq_some_iff {c : CarrierId} {op : Operation} {asked : CarrierOperation} :
    op.on? c = some asked ↔ op = .carrier c asked := by
  cases op with
  | register _ | unregister _ => simp [on?]
  | carrier other op => simp [on?]

theorem state_perform (op : Operation) :
    (m.perform moment op).manager.state c =
      match op.on? c with
      | some asked => (m.state c).next moment.now asked (m.perform moment op).answer
      | none => m.state c := by
  cases op with
  | unregister listener => rfl
  | register listener =>
      simp only [perform, register, Operation.on?]
      split <;> rfl
  | carrier other op =>
      rw [perform, state_performOn, Operation.on?]
      by_cases h : other = c
      · simp [h]
      · simp [h, Ne.symm h]

theorem state_perform_self (op : CarrierOperation) :
    (m.perform moment (.carrier c op)).manager.state c =
      (m.state c).next moment.now op (m.performOn moment c op).answer := by
  rw [perform, state_performOn, if_pos rfl]

/-- An operation in its circumstances, with the answer to it. -/
structure Entry where
  moment : Circumstance
  op : Operation
  answer : Answer

/-- The entries of a run. -/
def journal (ops : List (Circumstance × Operation)) : List Entry :=
  List.zipWith (fun asked effect => ⟨asked.1, asked.2, effect.answer⟩) ops (m.run ops)

theorem after_append_singleton (ops : List (Circumstance × Operation)) (op : Operation) :
    m.after (ops ++ [(moment, op)]) = ((m.after ops).perform moment op).manager := by
  simp [after, List.foldl_append]

theorem run_append_singleton (ops : List (Circumstance × Operation)) (op : Operation) :
    m.run (ops ++ [(moment, op)]) = m.run ops ++ [(m.after ops).perform moment op] := by
  induction ops generalizing m with
  | nil => rfl
  | cons asked rest ih =>
      exact congrArg (m.perform asked.1 asked.2 :: ·) (ih (m.perform asked.1 asked.2).manager)

theorem journal_append_singleton (ops : List (Circumstance × Operation)) (op : Operation) :
    m.journal (ops ++ [(moment, op)]) =
      m.journal ops ++ [⟨moment, op, ((m.after ops).perform moment op).answer⟩] := by
  induction ops generalizing m with
  | nil => rfl
  | cons asked rest ih =>
      have htail := ih (m.perform asked.1 asked.2).manager
      exact congrArg (⟨asked.1, asked.2, (m.perform asked.1 asked.2).answer⟩ :: ·) htail

theorem journal_map_moment (ops : List (Circumstance × Operation)) :
    (m.journal ops).map (·.moment) = ops.map Prod.fst := by
  induction ops generalizing m with
  | nil => rfl
  | cons asked rest ih => exact congrArg (asked.1 :: ·) (ih (m.perform asked.1 asked.2).manager)

variable {m}

theorem journal_induction {P : List Entry → Manager → Prop} (hstart : P [] m)
    (hstep : ∀ past m moment op, P past m →
      P (past ++ [⟨moment, op, (m.perform moment op).answer⟩]) (m.perform moment op).manager)
    (ops : List (Circumstance × Operation)) : P (m.journal ops) (m.after ops) := by
  induction ops using List.reverseRecOn with
  | nil => exact hstart
  | append_singleton ops asked ih =>
      rw [journal_append_singleton, after_append_singleton]
      exact hstep _ _ asked.1 asked.2 ih

def CarrierOperation.isSuccess : CarrierOperation → Bool
  | .onSuccess _ => true
  | _ => false

def CarrierOperation.isFailure (reason : FailureReason) : CarrierOperation → Bool
  | .onFailure failed => failed = reason
  | _ => false

/-- A retrieval for a carrier is reported to have succeeded. -/
def Operation.succeeds (c : CarrierId) (op : Operation) : Bool :=
  (op.on? c).any CarrierOperation.isSuccess

/-- A retrieval for a carrier is reported to have failed for a reason. -/
def Operation.fails (c : CarrierId) (reason : FailureReason) (op : Operation) : Bool :=
  (op.on? c).any (·.isFailure reason)

/-- The entries behind the last success of a carrier, all of them if there is none. -/
def sinceSuccess (c : CarrierId) (past : List Entry) : List Entry :=
  past.rtakeWhile fun e => !e.op.succeeds c

variable {c} {past : List Entry} {e : Entry}

@[simp] theorem sinceSuccess_nil : sinceSuccess c [] = [] := rfl

theorem sinceSuccess_append_of_succeeds (h : e.op.succeeds c = true) :
    sinceSuccess c (past ++ [e]) = [] := by
  apply List.rtakeWhile_concat_neg
  simp [h]

theorem sinceSuccess_append_of_not_succeeds (h : e.op.succeeds c = false) :
    sinceSuccess c (past ++ [e]) = sinceSuccess c past ++ [e] := by
  apply List.rtakeWhile_concat_pos
  simp [h]

end Manager
end ImsiPseudonym
