import ImsiPseudonym.Proofs.Manager.Fallback
import ImsiPseudonym.Proofs.Manager.Change

/-!
What refused operations leave behind: nothing.  Whether a replacement is refused depends on the
pseudonym first and on the record second.  A failure that leads to no retry leaves its time, and with
that an entry for its carrier, which may be the first that is heard of it.
-/
namespace ImsiPseudonym.Manager

/-- Something is kept about the carrier. -/
def Knows (m : Manager) (c : CarrierId) : Prop :=
  c ∈ Table.keys m.carriers

instance (m : Manager) (c : CarrierId) : Decidable (m.Knows c) :=
  inferInstanceAs (Decidable (c ∈ Table.keys m.carriers))

section

variable {m : Manager} {moment : Circumstance} {c : CarrierId} {pseudonym : String}

theorem knows_modify (f : CarrierState → CarrierState) {d : CarrierId} :
    (m.modify c f).Knows d ↔ d = c ∨ m.Knows d :=
  Table.mem_keys_insert

theorem checkPseudonym_eq_error_iff :
    (∃ e, checkPseudonym pseudonym = .error e) ↔
      pseudonym = "" ∨ maxPseudonymBytes < pseudonym.utf8ByteSize := by
  unfold checkPseudonym
  split
  · simp_all
  · split <;> simp_all

theorem answer_setInBand (m : Manager) (moment : Circumstance) (c : CarrierId)
    (pseudonym : String) :
    (m.perform moment (.carrier c (.setInBand pseudonym))).answer =
      match checkPseudonym pseudonym, m.record? c with
      | .error e, _ => .refused (.invalidPseudonym e)
      | .ok _, none => .refused (.noRecord c)
      | .ok _, some r =>
          .delay (some ((r.replace pseudonym moment.now).timeToRefresh moment.now)) := by
  simp only [perform, performOn, setInBand_eq]
  cases checkPseudonym pseudonym with
  | error e => rfl
  | ok _ => cases m.record? c <;> rfl

theorem invalidPseudonym_iff :
    (∃ e, (m.perform moment (.carrier c (.setInBand pseudonym))).answer =
        .refused (.invalidPseudonym e)) ↔
      ∃ e, checkPseudonym pseudonym = .error e := by
  rw [answer_setInBand]
  cases checkPseudonym pseudonym with
  | error e => simp
  | ok _ => cases m.record? c <;> simp

theorem noRecord_iff :
    (m.perform moment (.carrier c (.setInBand pseudonym))).answer = .refused (.noRecord c) ↔
      checkPseudonym pseudonym = .ok () ∧ m.record? c = none := by
  rw [answer_setInBand]
  cases checkPseudonym pseudonym with
  | error e => simp
  | ok _ => cases m.record? c <;> simp

theorem replaced_iff :
    (∃ delay, (m.perform moment (.carrier c (.setInBand pseudonym))).answer =
        .delay (some delay)) ↔
      checkPseudonym pseudonym = .ok () ∧ ∃ r, m.record? c = some r := by
  rw [answer_setInBand]
  cases checkPseudonym pseudonym with
  | error e => simp
  | ok _ => cases m.record? c <;> simp

/-- An operation that leads to nothing changes nothing, unless it reports a failure. -/
theorem unchanged_of_refused {op : CarrierOperation} (hop : ∀ reason, op ≠ .onFailure reason)
    (h : (m.performOn moment c op).answer = .delay none ∨
      ∃ e, (m.performOn moment c op).answer = .refused e) :
    (m.performOn moment c op).manager = m ∧ (m.performOn moment c op).notified = [] := by
  rw [manager_performOn, notified_performOn]
  cases op with
  | onSuccess r | retrieveIfNeeded imsi => rcases h with h | ⟨e, h⟩ <;> cases h
  | onFailure reason => exact absurd rfl (hop reason)
  | _ =>
      rcases h with h | ⟨e, h⟩
      · rw [h]
        exact ⟨rfl, rfl⟩
      · rw [h]
        exact ⟨rfl, rfl⟩

theorem performOn_of_no_retry {reason : FailureReason}
    (h : (m.performOn moment c (.onFailure reason)).answer = .delay none) :
    m.performOn moment c (.onFailure reason) = ⟨.delay none, [], m.stamp moment.now c⟩ := by
  simp only [performOn] at h ⊢
  rcases m.onFailure_cases moment.now c reason with ⟨delay, -, hfailed⟩ | ⟨-, hfailed⟩
  · rw [hfailed] at h
    cases h
  · rw [hfailed]

end

/-- A replacement is refused for its pseudonym if that cannot be sent, else for want of a record, and
for nothing else; the time span that it takes over is one that a new record could have.  What is
refused or leads to nothing leaves the manager as it was, and nobody is told.  Of a failure that is
not retried the time is kept, and its carrier is known from then on; all else stays. -/
theorem refusals_change_nothing (m : Manager) (moment : Circumstance) (c : CarrierId) :
    (∀ pseudonym : String,
      let answer := (m.perform moment (.carrier c (.setInBand pseudonym))).answer
      ((∃ e, answer = .refused (.invalidPseudonym e)) ↔
        pseudonym = "" ∨ 1020 < pseudonym.utf8ByteSize) ∧
      (answer = .refused (.noRecord c) ↔
        ¬(pseudonym = "" ∨ 1020 < pseudonym.utf8ByteSize) ∧ m.record? c = none) ∧
      ((∃ delay, answer = .delay (some delay)) ↔
        ¬(pseudonym = "" ∨ 1020 < pseudonym.utf8ByteSize) ∧ ∃ r, m.record? c = some r) ∧
      ∀ r, m.record? c = some r →
        Grant.ofTtl pseudonym r.owner r.ttl = .ok (r.replace pseudonym moment.now).toGrant) ∧
    (∀ op : CarrierOperation, (∀ reason, op ≠ .onFailure reason) →
      let effect := m.perform moment (.carrier c op)
      (effect.answer = .delay none ∨ ∃ e, effect.answer = .refused e) →
        effect.manager = m ∧ effect.notified = []) ∧
    ∀ reason : FailureReason,
      let effect := m.perform moment (.carrier c (.onFailure reason))
      effect.answer = .delay none →
        effect.notified = [] ∧ effect.manager.listeners = m.listeners ∧
        (∀ d, effect.manager.Knows d ↔ d = c ∨ m.Knows d) ∧
        ∀ d, effect.manager.state d =
          if d = c then { m.state c with lastFailure := moment.now } else m.state d := by
  refine ⟨?_, ?_, ?_⟩
  · intro pseudonym answer
    have hcheck : checkPseudonym pseudonym = .ok () ↔
        ¬(pseudonym = "" ∨ 1020 < pseudonym.utf8ByteSize) := by
      rw [not_or, Nat.not_lt]
      exact checkPseudonym_eq_ok_iff
    refine ⟨invalidPseudonym_iff.trans checkPseudonym_eq_error_iff, ?_, ?_, ?_⟩
    · rw [← hcheck]
      exact noRecord_iff
    · rw [← hcheck]
      exact replaced_iff
    · intro r _
      exact r.ofTtl_eq pseudonym
  · intro op hop effect hrefused
    exact unchanged_of_refused hop hrefused
  · intro reason effect hanswer
    have heffect : effect = ⟨.delay none, [], m.stamp moment.now c⟩ :=
      performOn_of_no_retry hanswer
    rw [heffect]
    exact ⟨rfl, rfl, fun d => knows_modify _, state_stamp m moment.now c⟩

/-- After a success and a failure, a replacement for another carrier is refused, and so is one by a
text that is empty. -/
theorem refusals_change_nothing_rehearsed :
    let m := empty.after Rehearsed.retrievals
    let refused := m.perform (Rehearsed.moment day) (.carrier ⟨2⟩ (.setInBand "q"))
    refused.answer = .refused (.noRecord ⟨2⟩) ∧ refused.manager = m ∧ refused.notified = [] ∧
      ∃ e, (m.perform (Rehearsed.moment day) (.carrier ⟨2⟩ (.setInBand ""))).answer =
        .refused (.invalidPseudonym e) := by
  intro m refused
  obtain ⟨hset, hunchanged, -⟩ := refusals_change_nothing m (Rehearsed.moment day) ⟨2⟩
  obtain ⟨-, hnoRecord, -, -⟩ := hset "q"
  have hanswer : refused.answer = .refused (.noRecord ⟨2⟩) := hnoRecord.mpr ⟨by decide, by decide⟩
  obtain ⟨hmanager, hnotified⟩ := hunchanged (.setInBand "q") nofun (Or.inr ⟨_, hanswer⟩)
  exact ⟨hanswer, hmanager, hnotified, (hset "").1.mpr (Or.inl rfl)⟩

/-- A failure can be the first that is heard of a carrier.  At the start of time it leaves nothing
but that the carrier is known. -/
theorem stranger_known_after_failure :
    let effect := empty.perform (Rehearsed.moment 0)
      (.carrier Rehearsed.carrier (.onFailure .nonTransient))
    effect.answer = .delay none ∧
      effect.manager.state Rehearsed.carrier = empty.state Rehearsed.carrier ∧
      ¬ empty.Knows Rehearsed.carrier ∧ effect.manager.Knows Rehearsed.carrier := by
  decide

end ImsiPseudonym.Manager
