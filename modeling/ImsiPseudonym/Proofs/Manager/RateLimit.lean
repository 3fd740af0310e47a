import Mathlib.Order.MinMax
import ImsiPseudonym.Proofs.Manager.Due

/-!
Retrievals after authentication errors.  A stored record lets them pass from one instant on: when it
has been held for twelve hours or is due for a refresh, whichever comes first.  So until another
record is put in its place, the answers change at most once, from a refusal to a delay.  Main
statement: `Undisturbed.answer_of_mem`, what each such retrieval of a run is answered.
-/
namespace ImsiPseudonym

namespace Record

variable {r : Record} {t : Instant}

theorem mayRefresh_iff_le :
    r.mayRefresh t = true ↔ min (r.acquiredAt + 12 * hour) r.refreshAt ≤ t := by
  have hage (acquired wait now : Int) : wait ≤ now - acquired ↔ acquired + wait ≤ now := by omega
  rw [mayRefresh_iff, min_le_iff]
  exact or_congr_left (hage r.acquiredAt (12 * hour) t)

/-- Where the expiry fits the counter, the instant follows from the time that the record lasts. -/
theorem min_refreshAt_eq (hend : r.acquiredAt + r.ttl ≤ Instant.last) :
    min (r.acquiredAt + 12 * hour) r.refreshAt =
      r.acquiredAt + min (12 * hour) (r.ttl - min (30 * minute) (r.ttl / 2)) := by
  have hexpiry : r.expiresAt = r.acquiredAt + r.ttl := Int.min_eq_left hend
  have hmin (acquired wait ttl ahead : Int) :
      min (acquired + wait) (acquired + ttl - ahead) = acquired + min wait (ttl - ahead) := by
    omega
  rw [refreshAt, hexpiry]
  exact hmin r.acquiredAt (12 * hour) r.ttl r.refreshAhead

end Record

namespace Manager

variable {m : Manager} {c : CarrierId} {ops : List (Circumstance × Operation)}

/-- The delay until a rate-limited retrieval while this record is stored, or none. -/
def rateLimited (stored : Option Record) (moment : Circumstance) : Option Millis :=
  if stored.any (·.mayRefresh moment.now) then some (moment.draw.val : Int) else none

theorem answer_retrieveWithRateLimit (m : Manager) (moment : Circumstance) (c : CarrierId) :
    (m.perform moment (.carrier c .retrieveWithRateLimit)).answer =
      .delay (rateLimited (m.record? c) moment) := by
  simp only [perform, performOn, retrieveWithRateLimit_eq, rateLimited]
  split <;> rfl

theorem rateLimited_isSome_iff {stored : Option Record} {moment : Circumstance} :
    (rateLimited stored moment).isSome = true ↔
      ∃ r, stored = some r ∧ min (r.acquiredAt + 12 * hour) r.refreshAt ≤ moment.now := by
  simp only [← Record.mayRefresh_iff_le, rateLimited]
  cases stored with
  | none => simp
  | some r => simp

/-- The delay is drawn from ten seconds. -/
theorem bounds_of_rateLimited {stored : Option Record} {moment : Circumstance} {delay : Millis}
    (h : rateLimited stored moment = some delay) : 0 ≤ delay ∧ delay < 10 * second := by
  rw [rateLimited] at h
  split at h
  · cases h
    exact ⟨Int.natCast_nonneg _, Int.ofNat_lt.mpr moment.draw.isLt⟩
  · cases h

/-- A record never ceases to let them pass. -/
theorem rateLimited_isSome_mono {stored : Option Record} {moment later : Circumstance}
    (hle : moment.now ≤ later.now) (h : (rateLimited stored moment).isSome = true) :
    (rateLimited stored later).isSome = true := by
  obtain ⟨r, hr, hfrom⟩ := rateLimited_isSome_iff.mp h
  exact rateLimited_isSome_iff.mpr ⟨r, hr, Int.le_trans hfrom hle⟩

theorem Undisturbed.answer_of_mem (h : m.Undisturbed c ops) {e : Entry} (he : e ∈ m.journal ops)
    (hop : e.op = .carrier c .retrieveWithRateLimit) :
    e.answer = .delay (rateLimited (m.record? c) e.moment) := by
  induction ops generalizing m with
  | nil => cases he
  | cons asked rest ih =>
      obtain ⟨moment, op⟩ := asked
      obtain ⟨hfirst, hrest⟩ := h.cons
      rw [journal_cons] at he
      rcases List.mem_cons.mp he with rfl | hlater
      · obtain rfl : op = .carrier c .retrieveWithRateLimit := hop
        exact answer_retrieveWithRateLimit m moment c
      · rw [← hfirst]
        exact ih hrest hlater

/-- An answer that schedules a retrieval. -/
def Answer.isDelay : Answer → Bool
  | .delay (some _) => true
  | _ => false

/-- Whether an entry grants a rate-limited retrieval for a carrier, if it asks for one. -/
def Entry.grants? (c : CarrierId) (e : Entry) : Option Bool :=
  match e.op.on? c with
  | some .retrieveWithRateLimit => some e.answer.isDelay
  | _ => none

/-- Which rate-limited retrievals for a carrier are granted, in order. -/
def grants (c : CarrierId) (past : List Entry) : List Bool :=
  past.filterMap (·.grants? c)

theorem Entry.eq_of_grants? {e : Entry} {granted : Bool} (h : e.grants? c = some granted) :
    e.op = .carrier c .retrieveWithRateLimit ∧ e.answer.isDelay = granted := by
  unfold grants? at h
  split at h
  · rename_i hop
    exact ⟨Operation.on?_eq_some_iff.mp hop, Option.some.inj h⟩
  · cases h

theorem Undisturbed.eq_of_grants? (h : m.Undisturbed c ops) {e : Entry} (he : e ∈ m.journal ops)
    {granted : Bool} (hgranted : e.grants? c = some granted) :
    granted = (rateLimited (m.record? c) e.moment).isSome := by
  obtain ⟨hop, rfl⟩ := Entry.eq_of_grants? hgranted
  rw [h.answer_of_mem he hop]
  cases rateLimited (m.record? c) e.moment <;> rfl

theorem pairwise_journal (m : Manager) (hclock : (ops.map (·.1.now)).Pairwise (· ≤ ·)) :
    (m.journal ops).Pairwise (·.moment.now ≤ ·.moment.now) := by
  have hmoments := congrArg (List.map Circumstance.now) (journal_map_moment m ops)
  rw [List.map_map, List.map_map] at hmoments
  have hsame : (m.journal ops).map (·.moment.now) = ops.map (·.1.now) := hmoments
  rw [← hsame] at hclock
  exact List.pairwise_map.mp hclock

theorem Undisturbed.pairwise_grants (h : m.Undisturbed c ops)
    (hclock : (ops.map (·.1.now)).Pairwise (· ≤ ·)) :
    (grants c (m.journal ops)).Pairwise fun first later => first = true → later = true := by
  rw [grants, List.pairwise_filterMap]
  refine (pairwise_journal m hclock).imp_of_mem ?_
  intro e later he hlater hle granted hgranted granted' hgranted' htrue
  rw [h.eq_of_grants? he hgranted] at htrue
  rw [h.eq_of_grants? hlater hgranted']
  exact rateLimited_isSome_mono hle htrue

/-- Truth values of which none is false behind a true one. -/
theorem exists_eq_replicate_append {l : List Bool}
    (h : l.Pairwise fun first later => first = true → later = true) :
    ∃ n k, l = List.replicate n false ++ List.replicate k true := by
  induction l with
  | nil => exact ⟨0, 0, rfl⟩
  | cons first rest ih =>
      obtain ⟨hfirst, hrest⟩ := List.pairwise_cons.mp h
      cases first with
      | false =>
          obtain ⟨n, k, rfl⟩ := ih hrest
          exact ⟨n + 1, k, rfl⟩
      | true =>
          have hall : rest = List.replicate rest.length true :=
            List.eq_replicate_of_mem fun later hmem => hfirst later hmem rfl
          refine ⟨0, rest.length + 1, ?_⟩
          rw [List.replicate_succ, ← hall]
          rfl

theorem record?_of_inBand {moment : Circumstance} {pseudonym : String} {delay : Millis}
    (h : (m.perform moment (.carrier c (.setInBand pseudonym))).answer = .delay (some delay)) :
    ∃ r, m.record? c = some r ∧
      (m.perform moment (.carrier c (.setInBand pseudonym))).manager.record? c =
        some (r.replace pseudonym moment.now) := by
  simp only [perform, performOn] at h ⊢
  rcases m.setInBand_cases moment.now c pseudonym with
    ⟨e, -, hset⟩ | ⟨-, ⟨-, hset⟩ | ⟨r, hrecord, hset⟩⟩
  · rw [hset] at h
    cases h
  · rw [hset] at h
    cases h
  · rw [hset, store_eq]
    exact ⟨r, hrecord, record?_modify_self m c _⟩

/-- A rate-limited retrieval is granted just if there is a record that has been held for twelve
hours or is due for a refresh, and then within ten seconds; no value on the way leaves the range of
the counter.  As the clock goes on, there is at most one change of the answers until another record
is stored, from refusals to delays; after a replacement it comes as soon as the replacement has been
held for twelve hours or is due. -/
theorem rate_limit_opens_once (ops : List (Circumstance × Operation)) (c : CarrierId) :
    let m := empty.after ops
    (∀ moment : Circumstance, ∃ delay : Option Millis,
      (m.perform moment (.carrier c .retrieveWithRateLimit)).answer = .delay delay ∧
      (delay.isSome = true ↔
        ∃ r, m.record? c = some r ∧ min (r.acquiredAt + 12 * hour) r.refreshAt ≤ moment.now) ∧
      (∀ d ∈ delay, 0 ≤ d ∧ d < 10 * second) ∧
      ∀ r, m.record? c = some r → 0 ≤ r.acquiredAt → r.acquiredAt ≤ Instant.last →
        0 ≤ moment.now → moment.now ≤ Instant.last →
          FitsCounter (r.age moment.now) ∧ FitsCounter r.expiresAt ∧
            FitsCounter r.refreshAhead ∧ FitsCounter r.refreshAt) ∧
    (∀ later, m.Undisturbed c later → (later.map (·.1.now)).Pairwise (· ≤ ·) →
      ∃ refusals delays, grants c (m.journal later) =
        List.replicate refusals false ++ List.replicate delays true) ∧
    ∀ (moment : Circumstance) (pseudonym : String) (delay : Millis),
      let replaced := m.perform moment (.carrier c (.setInBand pseudonym))
      replaced.answer = .delay (some delay) →
        ∃ r, m.record? c = some r ∧
          (moment.now + r.ttl ≤ Instant.last →
            let opening := moment.now + min (12 * hour) (r.ttl - min (30 * minute) (r.ttl / 2))
            ∀ later, replaced.manager.Undisturbed c later →
              ∀ e ∈ replaced.manager.journal later,
                e.op = .carrier c .retrieveWithRateLimit →
                  (e.moment.now < opening → e.answer = .delay none) ∧
                  (opening ≤ e.moment.now → ∃ d, e.answer = .delay (some d))) := by
  intro m
  refine ⟨?_, ?_, ?_⟩
  · intro moment
    refine ⟨rateLimited (m.record? c) moment, answer_retrieveWithRateLimit m moment c,
      rateLimited_isSome_iff, fun d hd => bounds_of_rateLimited hd, ?_⟩
    intro r _ hstart hstart' ht hend
    exact ⟨.sub ht hend hstart hstart', Record.fitsCounter_instants hstart⟩
  · intro later hlater hclock
    exact exists_eq_replicate_append (hlater.pairwise_grants hclock)
  · intro moment pseudonym delay replaced hanswer
    obtain ⟨r, hrecord, hstored⟩ := record?_of_inBand hanswer
    refine ⟨r, hrecord, ?_⟩
    intro hend opening later hlater e he hop
    have hopening : (rateLimited (replaced.manager.record? c) e.moment).isSome = true ↔
        opening ≤ e.moment.now := by
      rw [rateLimited_isSome_iff, hstored]
      have hsame := Record.min_refreshAt_eq (r := r.replace pseudonym moment.now) hend
      simp only [Option.some.injEq, exists_eq_left', hsame]
      rfl
    rw [hlater.answer_of_mem he hop]
    constructor
    · intro hearly
      have hnone := mt hopening.mp (Int.not_le.mpr hearly)
      rw [Option.not_isSome_iff_eq_none.mp hnone]
    · intro hlate
      obtain ⟨d, hd⟩ := Option.isSome_iff_exists.mp (hopening.mpr hlate)
      exact ⟨d, congrArg Answer.delay hd⟩

namespace Rehearsed

/-- A retrieval that succeeds. -/
def success : List (Circumstance × Operation) :=
  [(moment 1, .carrier carrier (.onSuccess acquired))]

/-- The record of that retrieval, replaced a second later. -/
def replaced : Manager :=
  ((empty.after success).perform (moment 1000) (.carrier carrier (.setInBand "q"))).manager

/-- Two rate-limited retrievals, right before twelve hours are over and right after. -/
def attempts : List (Circumstance × Operation) :=
  [(moment (999 + 12 * hour), .carrier carrier .retrieveWithRateLimit),
    (moment (1000 + 12 * hour), .carrier carrier .retrieveWithRateLimit)]

theorem undisturbed : replaced.Undisturbed carrier attempts := by
  unfold Undisturbed
  decide

end Rehearsed

theorem rate_limit_opens_once_rehearsed :
    ∃ refused granted, Rehearsed.replaced.journal Rehearsed.attempts = [refused, granted] ∧
      refused.answer = .delay none ∧ ∃ d, granted.answer = .delay (some d) := by
  obtain ⟨-, -, hreplaced⟩ := rate_limit_opens_once Rehearsed.success Rehearsed.carrier
  obtain ⟨r, hrecord, hopening⟩ := hreplaced (Rehearsed.moment 1000) "q" (171000000) (by decide)
  obtain rfl : Rehearsed.acquired = r := Option.some.inj hrecord
  have hanswers := hopening (by decide) Rehearsed.attempts Rehearsed.undisturbed
  refine ⟨_, _, rfl, ?_, ?_⟩
  · exact (hanswers _ List.mem_cons_self rfl).1 (by decide)
  · exact (hanswers _ (List.mem_cons_of_mem _ List.mem_cons_self) rfl).2 (by decide)

end Manager
end ImsiPseudonym
