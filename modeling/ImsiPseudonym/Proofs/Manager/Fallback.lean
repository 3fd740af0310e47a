import ImsiPseudonym.Proofs.Engine.Life
import ImsiPseudonym.Proofs.Manager.FailureTime

/-!
The weekly fallback.  If the clock never goes back, a retrieval on that occasion means that nothing
has been scheduled or reported for the carrier during a whole week.
-/
namespace ImsiPseudonym.Manager

variable {c : CarrierId} {past : List Entry} {last : Entry}

theorem mem_of_lastStamp? (h : lastStamp? c past = some last) :
    last ∈ sinceSuccess c past ∧ last.stamps c = true :=
  List.mem_filter.mp (List.mem_of_getLast? h)

/-- No success and no other stamp is later than the one that is left. -/
theorem le_of_lastStamp? (hclock : (past.map (·.moment.now)).Pairwise (· ≤ ·))
    (hlast : lastStamp? c past = some last) :
    ∀ e ∈ past, e.op.succeeds c = true ∨ e.stamps c = true →
      e.moment.now ≤ last.moment.now := by
  induction past using List.reverseRecOn with
  | nil => exact nofun
  | append_singleton past new ih =>
      rw [List.map_append, List.pairwise_append] at hclock
      obtain ⟨hpast, -, hnew⟩ := hclock
      rw [lastStamp?_append_singleton] at hlast
      intro e he hreport
      by_cases hsuccess : new.op.succeeds c = true
      · rw [if_pos hsuccess] at hlast
        cases hlast
      · rw [if_neg hsuccess] at hlast
        rcases List.mem_append.mp he with hmem | hmem
        · by_cases hstamp : new.stamps c = true
          · rw [if_pos hstamp] at hlast
            cases hlast
            apply hnew
            · exact List.mem_map_of_mem hmem
            · simp
          · rw [if_neg hstamp] at hlast
            exact ih hpast hlast e hmem hreport
        · obtain rfl := List.mem_singleton.mp hmem
          have hstamp : e.stamps c = true := hreport.resolve_left hsuccess
          rw [if_pos hstamp] at hlast
          cases hlast
          exact Int.le_refl _

theorem eq_of_retrieveOnFailureTimeout {m : Manager} {moment : Circumstance} {imsi : Imsi}
    {delay : Millis}
    (h : (m.perform moment (.carrier c (.retrieveOnFailureTimeout imsi))).answer =
      .delay (some delay)) :
    delay = 0 ∧ m.validRecord? moment.now c imsi = none ∧ 0 < m.lastFailure c ∧
      failureTimeout ≤ moment.now - m.lastFailure c := by
  simp only [perform, performOn, retrieveOnFailureTimeout] at h
  split at h
  · rename_i hdue
    cases h
    exact ⟨rfl, Option.isNone_iff_eq_none.mp hdue.1, hdue.2⟩
  · cases h

/-- The fallback comes at once, only if no record holds, and only if the last retrieval that was
scheduled or failed since the last success, and so all that was scheduled or reported before, is a
week past. -/
theorem idle_week_before_fallback {ops : List (Circumstance × Operation)} {moment : Circumstance}
    {c : CarrierId} {imsi : Imsi} {delay : Millis}
    (hclock : (ops.map (·.1.now)).Pairwise (· ≤ ·))
    (hfallback : ((empty.after ops).perform moment
      (.carrier c (.retrieveOnFailureTimeout imsi))).answer = .delay (some delay)) :
    delay = 0 ∧ (empty.after ops).validRecord? moment.now c imsi = none ∧
      (∃ e ∈ sinceSuccess c (empty.journal ops), e.stamps c = true) ∧
      (∀ e ∈ empty.journal ops, e.op.succeeds c = true ∨ e.stamps c = true →
        e.moment.now ≤ moment.now - 7 * day) ∧
      ∀ e ∈ empty.journal ops, ∀ imsi' delay',
        e.op = .carrier c (.retrieveOnFailureTimeout imsi') → e.answer = .delay (some delay') →
        e.moment.now + 7 * day ≤ moment.now := by
  obtain ⟨hdelay, hrecord, hpositive, hdue⟩ := eq_of_retrieveOnFailureTimeout hfallback
  have htimes : ((empty.journal ops).map (·.moment.now)).Pairwise (· ≤ ·) := by
    have hmoments := congrArg (List.map Circumstance.now) (journal_map_moment empty ops)
    rw [List.map_map, List.map_map] at hmoments
    have hsame : (empty.journal ops).map (·.moment.now) = ops.map (·.1.now) := hmoments
    rwa [hsame]
  have hlast := lastFailure_eq c ops
  cases hstamp : lastStamp? c (empty.journal ops) with
  | none =>
      rw [hlast, hstamp] at hpositive
      exact absurd hpositive (Int.lt_irrefl 0)
  | some last =>
      rw [hstamp] at hlast
      have hle : last.moment.now ≤ moment.now - 7 * day := by
        rw [hlast] at hdue
        exact Int.le_sub_right_of_add_le (Int.add_le_of_le_sub_left hdue)
      have hall : ∀ e ∈ empty.journal ops, e.op.succeeds c = true ∨ e.stamps c = true →
          e.moment.now ≤ moment.now - 7 * day := fun e he hreport =>
        Int.le_trans (le_of_lastStamp? htimes hstamp e he hreport) hle
      refine ⟨hdelay, hrecord, ⟨last, mem_of_lastStamp? hstamp⟩, hall, ?_⟩
      intro e he imsi' delay' hop hanswer
      have hearlier : e.moment.now ≤ moment.now - 7 * day := by
        apply hall e he
        simp [Entry.stamps, Operation.on?, hop, hanswer, CarrierOperation.stamps]
      exact Int.add_le_of_le_sub_right hearlier

namespace Rehearsed

def imsi : Imsi := Engine.Rehearsed.subscriber.imsi

def carrier : CarrierId := ⟨1⟩

def acquired : Record := (Grant.ofDefaultTtl "pseudo-1234567" imsi).acquiredAt 1

def moment (now : Instant) : Circumstance := ⟨now, 0, by decide⟩

/-- A retrieval that succeeds, and another one a day later that fails. -/
def retrievals : List (Circumstance × Operation) :=
  [(moment 1, .carrier carrier (.onSuccess acquired)),
    (moment (day + 1), .carrier carrier (.onFailure .transient))]

end Rehearsed

theorem idle_week_before_rehearsed_fallback :
    ((empty.after Rehearsed.retrievals).perform (Rehearsed.moment (8 * day + 1))
      (.carrier Rehearsed.carrier (.retrieveOnFailureTimeout Rehearsed.imsi))).answer =
        .delay (some 0) ∧
    ∃ e ∈ sinceSuccess Rehearsed.carrier (empty.journal Rehearsed.retrievals),
      e.stamps Rehearsed.carrier = true ∧ e.moment.now ≤ 8 * day + 1 - 7 * day := by
  have hfallback : ((empty.after Rehearsed.retrievals).perform (Rehearsed.moment (8 * day + 1))
      (.carrier Rehearsed.carrier (.retrieveOnFailureTimeout Rehearsed.imsi))).answer =
        .delay (some 0) := by decide
  have hclock : (Rehearsed.retrievals.map (·.1.now)).Pairwise (· ≤ ·) := by decide
  obtain ⟨-, -, ⟨e, he, hstamp⟩, hidle, -⟩ := idle_week_before_fallback hclock hfallback
  have hmem : e ∈ empty.journal Rehearsed.retrievals := (List.rtakeWhile_suffix _ _).subset he
  exact ⟨hfallback, e, he, hstamp, hidle e hmem (Or.inr hstamp)⟩

end ImsiPseudonym.Manager
