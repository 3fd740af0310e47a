import ImsiPseudonym.Proofs.Manager.Change
import ImsiPseudonym.Proofs.Manager.Fallback

/-!
Who is told of new pseudonyms.  The listeners are those whose last registration has not been undone,
in the order in which these registrations were first made, and each success is told to each of them
once.  Main statements: `pairwise_registeredBefore`, about who is told and in which order, and
`told_eq_owed`, about what each is told.
-/
namespace ImsiPseudonym.Manager

variable {listener other : Listener} {ops : List (Circumstance × Operation)}

/-- Whether an operation registers a listener or removes it, if it does one of the two. -/
def Operation.registers? (listener : Listener) : Operation → Option Bool
  | .register other => if other = listener then some true else none
  | .unregister other => if other = listener then some false else none
  | .carrier _ _ => none

/-- The last registration or removal of a listener in a run is a registration. -/
def Registered (listener : Listener) (ops : List (Circumstance × Operation)) : Prop :=
  (ops.filterMap (·.2.registers? listener)).getLast? = some true

instance : Decidable (Registered listener ops) :=
  inferInstanceAs (Decidable (_ = _))

/-- The current registration of a listener was first made by the operation at a position. -/
structure RegisteredSince (listener : Listener) (ops : List (Circumstance × Operation)) (i : Nat) :
    Prop where
  registers : ∃ moment, ops[i]? = some (moment, .register listener)
  not_before : ¬ Registered listener (ops.take i)
  ever_since : ∀ j, i < j → j ≤ ops.length → Registered listener (ops.take j)

/-- The current registration of one listener was first made before that of another. -/
def RegisteredBefore (ops : List (Circumstance × Operation)) (listener other : Listener) : Prop :=
  ∃ i j, RegisteredSince listener ops i ∧ RegisteredSince other ops j ∧ i < j

section Registrations

variable {asked : Circumstance × Operation} {i : Nat}

theorem Operation.registers?_eq_some_true_iff {op : Operation} :
    op.registers? listener = some true ↔ op = .register listener := by
  cases op <;> simp [registers?]

theorem registered_append_singleton_iff :
    Registered listener (ops ++ [asked]) ↔
      asked.2.registers? listener = some true ∨
        asked.2.registers? listener = none ∧ Registered listener ops := by
  rw [Registered, List.filterMap_append]
  cases h : asked.2.registers? listener <;> simp [Registered, h]

namespace RegisteredSince

theorem lt_length (h : RegisteredSince listener ops i) : i < ops.length := by
  obtain ⟨moment, hi⟩ := h.registers
  exact (List.getElem?_eq_some_iff.mp hi).1

theorem registered (h : RegisteredSince listener ops i) : Registered listener ops := by
  have hall := h.ever_since ops.length h.lt_length (Nat.le_refl _)
  rwa [List.take_length] at hall

theorem unique {j : Nat} (h : RegisteredSince listener ops i)
    (hj : RegisteredSince listener ops j) : i = j := by
  rcases Nat.lt_trichotomy i j with hlt | heq | hgt
  · exact absurd (h.ever_since j hlt (Nat.le_of_lt hj.lt_length)) hj.not_before
  · exact heq
  · exact absurd (hj.ever_since i hgt (Nat.le_of_lt h.lt_length)) h.not_before

/-- As long as a listener is not removed, its current registration stays the same. -/
theorem append_singleton (h : RegisteredSince listener ops i)
    (hasked : asked.2.registers? listener ≠ some false) :
    RegisteredSince listener (ops ++ [asked]) i := by
  refine ⟨?_, ?_, ?_⟩
  · rw [List.getElem?_append_left h.lt_length]
    exact h.registers
  · rw [List.take_append_of_le_length (Nat.le_of_lt h.lt_length)]
    exact h.not_before
  · intro j hlt hle
    by_cases hold : j ≤ ops.length
    · rw [List.take_append_of_le_length hold]
      exact h.ever_since j hlt hold
    · rw [List.take_of_length_le (by grind), registered_append_singleton_iff]
      cases hregisters : asked.2.registers? listener with
      | none => exact Or.inr ⟨rfl, h.registered⟩
      | some made =>
          cases made with
          | false => exact absurd hregisters hasked
          | true => exact Or.inl rfl

theorem of_new (h : ¬ Registered listener ops)
    (hasked : asked.2.registers? listener = some true) :
    RegisteredSince listener (ops ++ [asked]) ops.length := by
  refine ⟨⟨asked.1, ?_⟩, ?_, ?_⟩
  · rw [List.getElem?_concat_length, ← Operation.registers?_eq_some_true_iff.mp hasked]
  · rwa [List.take_left' rfl]
  · intro j hlt hle
    rw [List.take_of_length_le (by grind)]
    exact registered_append_singleton_iff.mpr (Or.inl hasked)

end RegisteredSince

theorem exists_registeredSince (h : Registered listener ops) :
    ∃ i, RegisteredSince listener ops i := by
  induction ops using List.reverseRecOn with
  | nil => cases h
  | append_singleton ops asked ih =>
      by_cases hold : Registered listener ops
      · obtain ⟨i, hi⟩ := ih hold
        refine ⟨i, hi.append_singleton ?_⟩
        rcases registered_append_singleton_iff.mp h with hasked | ⟨hasked, -⟩ <;> simp [hasked]
      · rcases registered_append_singleton_iff.mp h with hasked | ⟨-, hkept⟩
        · exact ⟨ops.length, .of_new hold hasked⟩
        · exact absurd hkept hold

theorem RegisteredBefore.append_singleton (h : RegisteredBefore ops listener other)
    (hlistener : asked.2.registers? listener ≠ some false)
    (hother : asked.2.registers? other ≠ some false) :
    RegisteredBefore (ops ++ [asked]) listener other := by
  obtain ⟨i, j, hi, hj, hlt⟩ := h
  exact ⟨i, j, hi.append_singleton hlistener, hj.append_singleton hother, hlt⟩

/-- Who was registered already comes before who is registered now. -/
theorem RegisteredBefore.of_new (h : Registered listener ops)
    (hlistener : asked.2.registers? listener ≠ some false) (hnew : ¬ Registered other ops)
    (hother : asked.2.registers? other = some true) :
    RegisteredBefore (ops ++ [asked]) listener other := by
  obtain ⟨i, hi⟩ := exists_registeredSince h
  exact ⟨i, ops.length, hi.append_singleton hlistener, .of_new hnew hother, hi.lt_length⟩

end Registrations

theorem mem_listeners_register_iff {m : Manager} :
    listener ∈ (m.register other).listeners ↔ listener = other ∨ listener ∈ m.listeners := by
  rw [register]
  split
  case isTrue hmem =>
      refine ⟨Or.inr, ?_⟩
      rintro (rfl | hlistener)
      · exact hmem
      · exact hlistener
  case isFalse hmem => simp [or_comm]

theorem mem_listeners_unregister_iff {m : Manager} :
    listener ∈ (m.unregister other).listeners ↔ listener ∈ m.listeners ∧ listener ≠ other := by
  simp [unregister]

theorem mem_listeners_perform_iff (m : Manager) (moment : Circumstance) {op : Operation} :
    listener ∈ (m.perform moment op).manager.listeners ↔
      op.registers? listener = some true ∨
        op.registers? listener = none ∧ listener ∈ m.listeners := by
  cases op with
  | carrier c op => simp [perform, listeners_performOn, Operation.registers?]
  | register other =>
      rw [perform, mem_listeners_register_iff, Operation.registers?]
      rcases eq_or_ne other listener with rfl | hne
      · simp
      · simp [hne, hne.symm]
  | unregister other =>
      rw [perform, mem_listeners_unregister_iff, Operation.registers?]
      rcases eq_or_ne other listener with rfl | hne
      · simp
      · simp [hne, hne.symm]

theorem mem_listeners_iff :
    listener ∈ (empty.after ops).listeners ↔ Registered listener ops := by
  induction ops using List.reverseRecOn with
  | nil => simp [after, empty, Registered]
  | append_singleton ops asked ih =>
      rw [after_append_singleton, mem_listeners_perform_iff, registered_append_singleton_iff, ih]

/-- Who registers comes behind the others, and those who are registered already keep their
places. -/
theorem pairwise_registeredBefore (ops : List (Circumstance × Operation)) :
    (empty.after ops).listeners.Pairwise (RegisteredBefore ops) := by
  induction ops using List.reverseRecOn with
  | nil => exact List.Pairwise.nil
  | append_singleton ops asked ih =>
      obtain ⟨moment, op⟩ := asked
      rw [after_append_singleton]
      cases op with
      | carrier c op =>
          have hstays (stays : Listener) :
              (Operation.carrier c op).registers? stays ≠ some false := by
            simp [Operation.registers?]
          rw [perform, listeners_performOn]
          exact ih.imp fun hbefore => hbefore.append_singleton (hstays _) (hstays _)
      | unregister gone =>
          refine (ih.filter _).imp_of_mem ?_
          intro first second hfirst hsecond hbefore
          have hstays {stays : Listener}
              (hmem : stays ∈ (empty.after ops).listeners.filter (· ≠ gone)) :
              (Operation.unregister gone).registers? stays ≠ some false := by
            have hne : stays ≠ gone := of_decide_eq_true (List.mem_filter.mp hmem).2
            simp [Operation.registers?, hne.symm]
          exact hbefore.append_singleton (hstays hfirst) (hstays hsecond)
      | register new =>
          have hstays (stays : Listener) :
              (Operation.register new).registers? stays ≠ some false := by
            simp [Operation.registers?]
          have hold : (empty.after ops).listeners.Pairwise
              (RegisteredBefore (ops ++ [(moment, .register new)])) :=
            ih.imp fun hbefore => hbefore.append_singleton (hstays _) (hstays _)
          rw [perform, register]
          split
          case isTrue hmem => exact hold
          case isFalse hmem =>
              refine List.pairwise_append.mpr ⟨hold, List.pairwise_singleton _ _, ?_⟩
              intro first hfirst second hsecond
              obtain rfl := List.mem_singleton.mp hsecond
              exact .of_new (mem_listeners_iff.mp hfirst) (hstays first)
                (mt mem_listeners_iff.mpr hmem) (if_pos rfl)

theorem nodup_listeners (ops : List (Circumstance × Operation)) :
    (empty.after ops).listeners.Nodup := by
  refine (pairwise_registeredBefore ops).imp ?_
  rintro listener _ ⟨i, j, hi, hj, hlt⟩ rfl
  exact Nat.ne_of_lt hlt (hi.unique hj)

/-- What a registered listener is told of an operation, if anything. -/
def Operation.notice? (listener : Listener) : Operation → Option Notification
  | .carrier c (.onSuccess r) => some ⟨listener, c, r.pseudonym⟩
  | _ => none

theorem Operation.notice?_eq_none {op : Operation} (h : ∀ c r, op ≠ .carrier c (.onSuccess r)) :
    op.notice? listener = none := by
  unfold notice?
  split
  · exact absurd rfl (h _ _)
  · rfl

/-- What a listener is told in a run. -/
def told (listener : Listener) (effects : List Effect) : List Notification :=
  effects.flatMap fun effect => effect.notified.filter (·.listener = listener)

/-- What a listener is to be told in a run: of each success while it is registered. -/
def owed (listener : Listener) (ops : List (Circumstance × Operation)) : List Notification :=
  ops.zipIdx.filterMap fun asked =>
    if Registered listener (ops.take asked.2) then asked.1.2.notice? listener else none

theorem owed_append_singleton (listener : Listener) (ops : List (Circumstance × Operation))
    (asked : Circumstance × Operation) :
    owed listener (ops ++ [asked]) =
      owed listener ops ++
        (if Registered listener ops then asked.2.notice? listener else none).toList := by
  rw [owed, List.zipIdx_append, List.filterMap_append]
  congr 1
  · refine List.filterMap_congr ?_
    rintro ⟨earlier, i⟩ hearlier
    have hi : i < ops.length := List.snd_lt_of_mem_zipIdx hearlier
    rw [List.take_append_of_le_length (Nat.le_of_lt hi)]
  · have hall : (ops ++ [asked]).take ops.length = ops := List.take_left' rfl
    simp only [List.zipIdx_singleton, Nat.zero_add, List.filterMap_cons, hall, List.filterMap_nil]
    split <;> simp [*]

theorem notified_perform_eq_nil (m : Manager) (moment : Circumstance) {op : Operation}
    (h : ∀ c r, op ≠ .carrier c (.onSuccess r)) : (m.perform moment op).notified = [] := by
  cases op with
  | register other | unregister other => rfl
  | carrier c op =>
      rw [perform, notified_performOn]
      cases op with
      | onSuccess r => exact absurd rfl (h c r)
      | _ => rfl

/-- A success is told once to each who is registered. -/
theorem filter_notified_perform {m : Manager} (hnodup : m.listeners.Nodup) (moment : Circumstance)
    (op : Operation) :
    (m.perform moment op).notified.filter (·.listener = listener) =
      (if listener ∈ m.listeners then op.notice? listener else none).toList := by
  by_cases h : ∃ c r, op = .carrier c (.onSuccess r)
  · obtain ⟨c, r, rfl⟩ := h
    have htold : (m.perform moment (.carrier c (.onSuccess r))).notified =
        m.listeners.map fun registered => ⟨registered, c, r.pseudonym⟩ :=
      notified_performOn m c moment _
    rw [htold, List.filter_map]
    change List.map _ (m.listeners.filter fun registered => registered = listener) = _
    rw [List.filter_eq, hnodup.count]
    split <;> rfl
  · push Not at h
    rw [notified_perform_eq_nil m moment h, Operation.notice?_eq_none h, ite_self]
    rfl

theorem told_eq_owed (listener : Listener) (ops : List (Circumstance × Operation)) :
    told listener (empty.run ops) = owed listener ops := by
  induction ops using List.reverseRecOn with
  | nil => rfl
  | append_singleton ops asked ih =>
      obtain ⟨moment, op⟩ := asked
      rw [run_append_singleton, told, List.flatMap_append, List.flatMap_singleton,
        filter_notified_perform (nodup_listeners ops), owed_append_singleton, ← ih, told]
      simp only [mem_listeners_iff]

/-- In every run a listener is told of each success while it is registered, and of nothing else.
Each success is told to those who are registered, once to each and in the order of their
registrations; to register again changes nothing, and one removal undoes all registrations. -/
theorem successes_told_once (ops : List (Circumstance × Operation)) :
    let m := empty.after ops
    (∀ listener, told listener (empty.run ops) = owed listener ops) ∧
    (∀ moment op, (∀ c r, op ≠ .carrier c (.onSuccess r)) →
      (m.perform moment op).notified = []) ∧
    (∀ moment c r, (m.perform moment (.carrier c (.onSuccess r))).notified =
      m.listeners.map fun listener => ⟨listener, c, r.pseudonym⟩) ∧
    (∀ listener, listener ∈ m.listeners ↔ Registered listener ops) ∧
    m.listeners.Nodup ∧ m.listeners.Pairwise (RegisteredBefore ops) ∧
    (∀ moment listener, Registered listener ops →
      m.perform moment (.register listener) = ⟨.nothing, [], m⟩) ∧
    ∀ moment listener,
      let removed := (m.perform moment (.unregister listener)).manager
      listener ∉ removed.listeners ∧
        removed = { m with listeners := m.listeners.erase listener } := by
  intro m
  refine ⟨?_, ?_, ?_, ?_, nodup_listeners ops, pairwise_registeredBefore ops, ?_, ?_⟩
  · intro listener
    exact told_eq_owed listener ops
  · intro moment op hop
    exact notified_perform_eq_nil m moment hop
  · intro moment c r
    exact notified_performOn m c moment (.onSuccess r)
  · intro listener
    exact mem_listeners_iff
  · intro moment listener hregistered
    have hsame : m.register listener = m := if_pos (mem_listeners_iff.mpr hregistered)
    rw [perform, hsame]
  · intro moment listener removed
    constructor
    · intro hmem
      exact (mem_listeners_unregister_iff.mp hmem).2 rfl
    · rw [(nodup_listeners ops).erase_eq_filter]
      exact congrArg (Manager.mk m.carriers) (List.filter_congr fun _ _ => decide_not)

namespace Rehearsed

def early : Listener := ⟨"early"⟩

def late : Listener := ⟨"late"⟩

/-- Two listeners register, one of them again, and that one is removed between two successes. -/
def broadcast : List (Circumstance × Operation) :=
  [(moment 1, .register early), (moment 2, .register late), (moment 3, .register early),
    (moment 4, .carrier carrier (.onSuccess acquired)), (moment 5, .unregister early),
    (moment 6, .carrier carrier (.onSuccess acquired))]

end Rehearsed

theorem successes_told_once_rehearsed :
    (told Rehearsed.early (empty.run Rehearsed.broadcast)).map (·.pseudonym) =
        ["pseudo-1234567"] ∧
      (told Rehearsed.late (empty.run Rehearsed.broadcast)).map (·.pseudonym) =
        ["pseudo-1234567", "pseudo-1234567"] ∧
      ((empty.after Rehearsed.broadcast).perform (Rehearsed.moment 7)
        (.register Rehearsed.late)).manager = empty.after Rehearsed.broadcast := by
  obtain ⟨htold, -, -, -, -, -, hagain, -⟩ := successes_told_once Rehearsed.broadcast
  refine ⟨?_, ?_, ?_⟩
  · rw [htold]
    decide
  · rw [htold]
    decide
  · rw [hagain _ _ (by decide)]

end ImsiPseudonym.Manager
