import ImsiPseudonym.Proofs.Manager.Change

/-!
Carriers do not interfere.  What is asked about other carriers can be left out of a run, or put
before or behind, and nothing that shows about a carrier tells.
-/
namespace ImsiPseudonym.Manager

/-- The operation is not addressed to another carrier. -/
def Operation.concerns (c : CarrierId) : Operation → Bool
  | .carrier addressed _ => addressed = c
  | .register _ | .unregister _ => true

/-- A run without what is addressed to other carriers. -/
def about (c : CarrierId) (ops : List (Circumstance × Operation)) :
    List (Circumstance × Operation) :=
  ops.filter (·.2.concerns c)

/-- What listeners are told of a carrier. -/
def notices (c : CarrierId) (effects : List Effect) : List Notification :=
  effects.flatMap fun effect => effect.notified.filter (·.carrier = c)

/-- The managers keep the same about a carrier, and have the same listeners. -/
structure Agree (c : CarrierId) (m other : Manager) : Prop where
  state_eq : m.state c = other.state c
  listeners_eq : m.listeners = other.listeners

section Runs

variable {c d : CarrierId} {m other : Manager}

theorem Agree.refl (c : CarrierId) (m : Manager) : Agree c m m :=
  ⟨rfl, rfl⟩

theorem Agree.trans {last : Manager} (h : Agree c m other) (hlast : Agree c other last) :
    Agree c m last :=
  ⟨h.state_eq.trans hlast.state_eq, h.listeners_eq.trans hlast.listeners_eq⟩

theorem Agree.notified_performOn (h : Agree c m other) (moment : Circumstance)
    (op : CarrierOperation) :
    (m.performOn moment c op).notified = (other.performOn moment c op).notified := by
  rw [Manager.notified_performOn, Manager.notified_performOn]
  cases op with
  | onSuccess r => simp only [notifications, h.listeners_eq]
  | _ => rfl

theorem Agree.performOn (h : Agree c m other) (moment : Circumstance) (op : CarrierOperation) :
    Agree c (m.performOn moment c op).manager (other.performOn moment c op).manager := by
  constructor
  · rw [state_performOn, state_performOn, answer_performOn_congr moment h.state_eq op, h.state_eq]
  · rw [listeners_performOn, listeners_performOn, h.listeners_eq]

/-- Agreement is kept by what is not addressed to other carriers. -/
theorem Agree.perform (h : Agree c m other) (moment : Circumstance) {op : Operation}
    (hop : op.concerns c = true) :
    (m.perform moment op).answer = (other.perform moment op).answer ∧
      (m.perform moment op).notified = (other.perform moment op).notified ∧
      Agree c (m.perform moment op).manager (other.perform moment op).manager := by
  cases op with
  | register listener =>
      refine ⟨rfl, rfl, ?_⟩
      constructor
      · rw [state_perform, state_perform]
        exact h.state_eq
      · simp only [Manager.perform, register, h.listeners_eq]
        split
        · exact h.listeners_eq
        · rfl
  | unregister listener =>
      refine ⟨rfl, rfl, h.state_eq, ?_⟩
      simp only [Manager.perform, unregister, h.listeners_eq]
  | carrier addressed op =>
      obtain rfl : addressed = c := of_decide_eq_true hop
      exact ⟨answer_performOn_congr moment h.state_eq op, h.notified_performOn moment op,
        h.performOn moment op⟩

/-- What is addressed to another carrier does not show. -/
theorem agree_performOn_of_ne (h : d ≠ c) (m : Manager) (moment : Circumstance)
    (op : CarrierOperation) : Agree c (m.performOn moment d op).manager m := by
  constructor
  · rw [state_performOn, if_neg h.symm]
  · exact listeners_performOn m d moment op

theorem carrier_of_mem_notified {m : Manager} {moment : Circumstance} {op : CarrierOperation}
    {told : Notification} (h : told ∈ (m.performOn moment c op).notified) : told.carrier = c := by
  rw [Manager.notified_performOn] at h
  cases op with
  | onSuccess r =>
      obtain ⟨listener, -, rfl⟩ := List.mem_map.mp h
      rfl
  | _ => cases h

theorem filter_notified_of_ne (h : d ≠ c) (m : Manager) (moment : Circumstance)
    (op : CarrierOperation) :
    (m.performOn moment d op).notified.filter (·.carrier = c) = [] := by
  apply List.filter_eq_nil_iff.mpr
  intro told htold
  rw [carrier_of_mem_notified htold]
  simpa using h

theorem journal_cons (m : Manager) (moment : Circumstance) (op : Operation)
    (rest : List (Circumstance × Operation)) :
    m.journal ((moment, op) :: rest) =
      ⟨moment, op, (m.perform moment op).answer⟩ :: (m.perform moment op).manager.journal rest :=
  rfl

theorem notices_run_cons (c : CarrierId) (m : Manager) (moment : Circumstance) (op : Operation)
    (rest : List (Circumstance × Operation)) :
    notices c (m.run ((moment, op) :: rest)) =
      (m.perform moment op).notified.filter (·.carrier = c) ++
        notices c ((m.perform moment op).manager.run rest) :=
  rfl

theorem Agree.run (h : Agree c m other) (ops : List (Circumstance × Operation)) :
    (m.journal ops).filter (·.op.concerns c) = other.journal (about c ops) ∧
      notices c (m.run ops) = notices c (other.run (about c ops)) ∧
      Agree c (m.after ops) (other.after (about c ops)) := by
  induction ops generalizing m other with
  | nil => exact ⟨rfl, rfl, h⟩
  | cons asked rest ih =>
      obtain ⟨moment, op⟩ := asked
      rw [journal_cons, notices_run_cons]
      by_cases hop : op.concerns c = true
      · have hkept : about c ((moment, op) :: rest) = (moment, op) :: about c rest :=
          List.filter_cons_of_pos hop
        obtain ⟨hanswer, hnotified, hnext⟩ := h.perform moment hop
        obtain ⟨hjournal, hnotices, hafter⟩ := ih hnext
        rw [hkept, journal_cons, notices_run_cons]
        refine ⟨?_, ?_, hafter⟩
        · rw [← hjournal, ← hanswer]
          exact List.filter_cons_of_pos hop
        · rw [hnotices, hnotified]
      · have hleft : about c ((moment, op) :: rest) = about c rest :=
          List.filter_cons_of_neg hop
        cases op with
        | register listener | unregister listener => exact absurd rfl hop
        | carrier addressed op =>
            have hne : addressed ≠ c := fun heq => hop (decide_eq_true heq)
            have hsame := agree_performOn_of_ne hne m moment op
            obtain ⟨hjournal, hnotices, hafter⟩ := ih (hsame.trans h)
            rw [hleft, ← hjournal, ← hnotices]
            refine ⟨List.filter_cons_of_neg hop, ?_, hafter⟩
            exact congrArg (· ++ _) (filter_notified_of_ne hne m moment op)

theorem answer_performOn_of_ne (h : d ≠ c) (m : Manager) (earlier moment : Circumstance)
    (op asked : CarrierOperation) :
    ((m.performOn earlier d op).manager.performOn moment c asked).answer =
      (m.performOn moment c asked).answer :=
  answer_performOn_congr moment (agree_performOn_of_ne h m earlier op).state_eq asked

theorem manager_performOn_of_ne (h : d ≠ c) (m : Manager) (earlier moment : Circumstance)
    (op asked : CarrierOperation) :
    ((m.performOn earlier d op).manager.performOn moment c asked).manager =
      if asked.writes (m.performOn moment c asked).answer then
        (m.performOn earlier d op).manager.modify c
          (·.next moment.now asked (m.performOn moment c asked).answer)
      else (m.performOn earlier d op).manager := by
  rw [manager_performOn _ c, answer_performOn_of_ne h]

theorem manager_performOn_comm (h : c ≠ d) (m : Manager) (x y : Circumstance)
    (op asked : CarrierOperation) :
    ((m.performOn x c op).manager.performOn y d asked).manager =
      ((m.performOn y d asked).manager.performOn x c op).manager := by
  rw [manager_performOn_of_ne h, manager_performOn_of_ne h.symm, manager_performOn m c,
    manager_performOn m d]
  by_cases hfirst : op.writes (m.performOn x c op).answer = true
  · by_cases hsecond : asked.writes (m.performOn y d asked).answer = true
    · simp only [hfirst, hsecond, ↓reduceIte]
      exact modify_comm m h _ _
    · simp only [hfirst, hsecond, Bool.false_eq_true, ↓reduceIte]
  · simp only [hfirst, Bool.false_eq_true, ↓reduceIte]

theorem notices_performOn_comm (h : c ≠ d) (m : Manager) (x y : Circumstance)
    (op asked : CarrierOperation) (either : CarrierId) :
    notices either [m.performOn x c op, (m.performOn x c op).manager.performOn y d asked] =
      notices either [m.performOn y d asked, (m.performOn y d asked).manager.performOn x c op] := by
  have hfirst := (agree_performOn_of_ne h m x op).notified_performOn y asked
  have hsecond := (agree_performOn_of_ne h.symm m y asked).notified_performOn x op
  simp only [notices, List.flatMap_cons, List.flatMap_nil, List.append_nil, hfirst, hsecond]
  -- Of one carrier at most one of the two operations says anything.
  by_cases heither : c = either
  · subst heither
    rw [filter_notified_of_ne h.symm, List.append_nil, List.nil_append]
  · rw [filter_notified_of_ne heither, List.append_nil, List.nil_append]

end Runs

/-- What is addressed to other carriers can be left out of a run: the answers to the rest stay the
same, and so does all that listeners are told of the carrier.  Two operations on different carriers
can be done in either order. -/
theorem carriers_apart (m : Manager) (ops : List (Circumstance × Operation)) (c : CarrierId) :
    (m.journal ops).filter (·.op.concerns c) = m.journal (about c ops) ∧
      (m.after ops).lastFailure c = (m.after (about c ops)).lastFailure c ∧
      notices c (m.run ops) = notices c (m.run (about c ops)) ∧
      ∀ d, c ≠ d → ∀ x y op asked,
        let first := (x, Operation.carrier c op)
        let second := (y, Operation.carrier d asked)
        m.journal [first, second] = (m.journal [second, first]).reverse ∧
        (∀ either, notices either (m.run [first, second]) =
          notices either (m.run [second, first])) ∧
        m.after [first, second] = m.after [second, first] := by
  obtain ⟨hjournal, hnotices, hafter⟩ := (Agree.refl c m).run ops
  have hlast := congrArg CarrierState.lastFailure hafter.state_eq
  refine ⟨hjournal, hlast, hnotices, ?_⟩
  intro d hne x y op asked
  refine ⟨?_, notices_performOn_comm hne m x y op asked, manager_performOn_comm hne m x y op asked⟩
  simp only [journal_cons, perform, answer_performOn_of_ne hne, answer_performOn_of_ne hne.symm]
  rfl

end ImsiPseudonym.Manager
