import ImsiPseudonym.Proofs.Manager.FailureTime
import ImsiPseudonym.Proofs.Manager.Retries

/-!
What one operation changes.  It is done about one carrier, and its answer says whether what is kept
about that carrier changes.  Main statements: `manager_performOn`, which says what a manager has
become after an operation, and `answer_performOn_congr`, which says what an answer depends on.
-/
namespace ImsiPseudonym.Manager

variable (m : Manager) (now : Instant) (c : CarrierId)

theorem modify_modify (f g : CarrierState → CarrierState) :
    (m.modify c f).modify c g = m.modify c (g ∘ f) := by
  have hstate : (m.modify c f).state c = f (m.state c) := by
    rw [state_modify, if_pos rfl]
  rw [modify, hstate]
  exact congrArg (Manager.mk · m.listeners) (Table.insert_insert c _ _ m.carriers)

theorem modify_comm {c d : CarrierId} (h : c ≠ d) (f g : CarrierState → CarrierState) :
    (m.modify c f).modify d g = (m.modify d g).modify c f := by
  have hd : (m.modify c f).state d = m.state d := by
    rw [state_modify, if_neg h.symm]
  have hc : (m.modify d g).state c = m.state c := by
    rw [state_modify, if_neg h]
  refine congrArg (Manager.mk · m.listeners) ?_
  rw [hd, hc]
  exact Table.insert_comm h.symm _ _ m.carriers

theorem retrieveWithRateLimit_eq (draw : Fin jitterWindow) :
    m.retrieveWithRateLimit now draw c =
      if (m.record? c).any (·.mayRefresh now) then (some (draw.val : Int), m.stamp now c)
      else (none, m) := by
  rw [retrieveWithRateLimit]
  cases m.record? c <;> rfl

theorem store_eq (r : Record) :
    m.store now c r =
      (r.timeToRefresh now,
        m.modify c fun s => { s with record := some r, lastFailure := now }) := by
  rw [store, stamp, modify_modify]
  rfl

theorem onSuccess_eq (r : Record) :
    m.onSuccess now c r =
      (r.timeToRefresh now, m.notifications c r.pseudonym,
        m.modify c fun _ => ⟨some r, 0, 0, 0⟩) := by
  simp only [onSuccess, store_eq, modify_modify]
  rfl

theorem onFailure_cases (reason : FailureReason) :
    (∃ delay,
      (Backoff.forReason? reason).bind (·.delay? ((m.state c).retries reason)) = some delay ∧
      m.onFailure now c reason =
        (some delay, m.modify c fun s => { s.countRetry reason with lastFailure := now })) ∨
    (Backoff.forReason? reason).bind (·.delay? ((m.state c).retries reason)) = none ∧
      m.onFailure now c reason = (none, m.stamp now c) := by
  rw [onFailure]
  cases (Backoff.forReason? reason).bind (·.delay? ((m.state c).retries reason)) with
  | none => exact Or.inr ⟨rfl, rfl⟩
  | some delay =>
      refine Or.inl ⟨delay, rfl, ?_⟩
      rw [stamp, modify_modify]
      cases reason <;> rfl

theorem setInBand_cases (pseudonym : String) :
    (∃ e, checkPseudonym pseudonym = .error e ∧
      m.setInBand now c pseudonym = .error (.invalidPseudonym e)) ∨
    checkPseudonym pseudonym = .ok () ∧
      (m.record? c = none ∧ m.setInBand now c pseudonym = .error (.noRecord c) ∨
      ∃ r, m.record? c = some r ∧
        m.setInBand now c pseudonym = .ok (m.store now c (r.replace pseudonym now))) := by
  rw [setInBand_eq]
  cases checkPseudonym pseudonym with
  | error e => exact Or.inl ⟨e, rfl, rfl⟩
  | ok _ =>
      refine Or.inr ⟨rfl, ?_⟩
      cases m.record? c with
      | none => exact Or.inl ⟨rfl, rfl⟩
      | some r => exact Or.inr ⟨r, rfl, rfl⟩

variable (moment : Circumstance)

/-- The operation changes what is kept about its carrier. -/
def CarrierOperation.writes (op : CarrierOperation) (answer : Answer) : Bool :=
  op.isSuccess || op.stamps answer

theorem manager_performOn (op : CarrierOperation) :
    (m.performOn moment c op).manager =
      if op.writes (m.performOn moment c op).answer then
        m.modify c (·.next moment.now op (m.performOn moment c op).answer)
      else m := by
  cases op with
  | record | validRecord imsi | retrieveIfNeeded imsi => rfl
  | retrieveWithRateLimit =>
      simp only [performOn, retrieveWithRateLimit_eq]
      split <;> rfl
  | retrieveOnFailureTimeout imsi =>
      simp only [performOn, retrieveOnFailureTimeout]
      split <;> rfl
  | onSuccess r =>
      simp only [performOn, onSuccess_eq]
      rfl
  | onFailure reason =>
      rcases m.onFailure_cases moment.now c reason with ⟨delay, -, h⟩ | ⟨-, h⟩
      · simp only [performOn, h]
        rfl
      · simp only [performOn, h]
        rfl
  | setInBand pseudonym =>
      rcases m.setInBand_cases moment.now c pseudonym with
        ⟨e, -, h⟩ | ⟨-, ⟨-, h⟩ | ⟨r, hrecord, h⟩⟩
      · simp only [performOn, h]
        rfl
      · simp only [performOn, h]
        rfl
      · have hkept : (m.state c).record = some r := hrecord
        simp only [performOn, h, store_eq]
        refine congrArg (Manager.mk · m.listeners) ?_
        simp [CarrierState.next, hkept]

theorem listeners_performOn (op : CarrierOperation) :
    (m.performOn moment c op).manager.listeners = m.listeners := by
  rw [manager_performOn]
  split <;> rfl

theorem notified_performOn (op : CarrierOperation) :
    (m.performOn moment c op).notified =
      match op with
      | .onSuccess r => m.notifications c r.pseudonym
      | _ => [] := by
  cases op with
  | setInBand pseudonym =>
      simp only [performOn]
      cases m.setInBand moment.now c pseudonym <;> rfl
  | _ => rfl

variable {m c} {other : Manager}

/-- An answer follows from what is kept about the carrier that is asked about. -/
theorem answer_performOn_congr (h : m.state c = other.state c) (op : CarrierOperation) :
    (m.performOn moment c op).answer = (other.performOn moment c op).answer := by
  have hrecord : m.record? c = other.record? c := congrArg CarrierState.record h
  have hlast : m.lastFailure c = other.lastFailure c := congrArg CarrierState.lastFailure h
  have hvalid (imsi : Imsi) :
      m.validRecord? moment.now c imsi = other.validRecord? moment.now c imsi := by
    rw [validRecord?, validRecord?, hrecord]
  cases op with
  | record => simp only [performOn, hrecord]
  | validRecord imsi => simp only [performOn, hvalid]
  | retrieveIfNeeded imsi => simp only [performOn, retrieveIfNeeded, hvalid]
  | retrieveWithRateLimit =>
      simp only [performOn, retrieveWithRateLimit_eq, hrecord]
      split <;> rfl
  | retrieveOnFailureTimeout imsi =>
      simp only [performOn, retrieveOnFailureTimeout, hvalid, hlast]
      split <;> rfl
  | onSuccess r => rfl
  | onFailure reason => rw [answer_onFailure, answer_onFailure, h]
  | setInBand pseudonym =>
      simp only [performOn, setInBand_eq, hrecord]
      cases checkPseudonym pseudonym with
      | error e => rfl
      | ok _ => cases other.record? c <;> rfl

end ImsiPseudonym.Manager
