import ImsiPseudonym.Proofs.Manager.Fallback
import ImsiPseudonym.Proofs.Manager.Lineage
import ImsiPseudonym.Proofs.Manager.Separation
import ImsiPseudonym.Proofs.Record.Timing

/-!
When a stored record falls due.  However often and whenever one asks, the clock and the delay of the
answer add up to the same instant, as long as no other record is put in its place; and whoever wakes
after that delay finds the record due but not yet expired.
-/
namespace ImsiPseudonym

namespace Record

variable {r : Record} {t span : Instant}

theorem add_timeToRefresh (r : Record) (t : Instant) :
    t + r.timeToRefresh t = max t r.refreshAt := by
  have hmax (due now : Int) : now + max (due - now) 0 = max now due := by omega
  exact hmax r.refreshAt t

theorem timeToRefresh_add (hspan : 0 ≤ span) (hle : span ≤ r.timeToRefresh t) :
    r.timeToRefresh (t + span) = r.timeToRefresh t - span := by
  have hmax (due now : Int) {span : Int} (hspan : 0 ≤ span) (hle : span ≤ max (due - now) 0) :
      max (due - (now + span)) 0 = max (due - now) 0 - span := by omega
  exact hmax r.refreshAt t hspan hle

/-- A record that lasts for two milliseconds at least has not expired when it falls due. -/
theorem hasExpired_add_timeToRefresh (httl : 2 ≤ r.ttl) (h : r.hasExpired t = false) :
    r.hasExpired (t + r.timeToRefresh t) = false := by
  have hnow : t < r.expiresAt := Int.not_le.mp (of_decide_eq_false h)
  rw [add_timeToRefresh]
  exact decide_eq_false (Int.not_le.mpr (Int.max_lt.mpr ⟨hnow, refreshAt_lt_expiresAt httl⟩))

end Record

namespace Manager

variable {m : Manager} {c : CarrierId} {r : Record} {ops : List (Circumstance × Operation)}

/-- An expired record is long due, so it makes no difference that it is not handed out. -/
theorem retrieveIfNeeded_owner (h : m.record? c = some r) (t : Instant) :
    (m.retrieveIfNeeded t c r.owner).1 = r.timeToRefresh t := by
  have hagrees : r.owner.agreesWith r.owner.digits = true := (Imsi.agreesWith_iff _ _).mpr rfl
  have hvalid : m.validRecord? t c r.owner = if r.hasExpired t then none else some r := by
    rw [validRecord?, h, Option.filter_some, hagrees]
    cases r.hasExpired t <;> rfl
  rw [retrieveIfNeeded, hvalid]
  cases hexpired : r.hasExpired t with
  | false => rfl
  | true => exact (Record.timeToRefresh_of_hasExpired hexpired).symm

theorem retrieveIfNeeded_other (h : m.record? c = some r) (t : Instant) {imsi : Imsi}
    (hne : imsi ≠ r.owner) : (m.retrieveIfNeeded t c imsi).1 = 0 := by
  have hnone : m.validRecord? t c imsi = none := by
    by_contra hsome
    obtain ⟨valid, hvalid⟩ := Option.ne_none_iff_exists'.mp hsome
    obtain ⟨hrecord, -, howner⟩ := validRecord?_eq_some_iff.mp hvalid
    obtain rfl : r = valid := Option.some.inj (h.symm.trans hrecord)
    exact hne (Imsi.digits_injective howner.symm)
  rw [retrieveIfNeeded, hnone]

theorem record?_modify_self (m : Manager) (c : CarrierId) (f : CarrierState → CarrierState) :
    (m.modify c f).record? c = (f (m.state c)).record := by
  rw [record?, state_modify, if_pos rfl]

/-- To ask for the delay leaves the record in place. -/
theorem record?_retrieveIfNeeded (m : Manager) (t : Instant) (c : CarrierId) (imsi : Imsi) :
    (m.retrieveIfNeeded t c imsi).2.record? c = m.record? c :=
  record?_modify_self m c _

/-- No operation of a run puts a record of the carrier in place. -/
def Undisturbed (m : Manager) (c : CarrierId) (ops : List (Circumstance × Operation)) : Prop :=
  ∀ e ∈ m.journal ops, e.given? c = none ∧ e.learned? c = none

/-- The first operation of such a run leaves the record in place, and the rest is such a run. -/
theorem Undisturbed.cons {moment : Circumstance} {op : Operation}
    (h : m.Undisturbed c ((moment, op) :: ops)) :
    (m.perform moment op).manager.record? c = m.record? c ∧
      (m.perform moment op).manager.Undisturbed c ops := by
  rw [Undisturbed, journal_cons] at h
  obtain ⟨hgiven, hlearned⟩ := h _ List.mem_cons_self
  have hstep := record?_perform (c := c) m moment op
  rw [hgiven, hlearned] at hstep
  exact ⟨hstep, fun e he => h e (List.mem_cons_of_mem _ he)⟩

theorem Undisturbed.record? (h : m.Undisturbed c ops) : (m.after ops).record? c = m.record? c := by
  induction ops generalizing m with
  | nil => rfl
  | cons asked rest ih =>
      obtain ⟨hfirst, hrest⟩ := h.cons
      exact (ih hrest).trans hfirst

theorem onSuccess_stored (m : Manager) (t : Instant) (c : CarrierId) (r : Record) :
    (m.onSuccess t c r).1 = r.timeToRefresh t ∧ (m.onSuccess t c r).2.2.record? c = some r := by
  rw [onSuccess_eq]
  exact ⟨rfl, record?_modify_self m c _⟩

theorem setInBand_stored {t : Instant} {pseudonym : String} {delay : Millis} {stored : Manager}
    (h : m.setInBand t c pseudonym = .ok (delay, stored)) :
    ∃ r, stored.record? c = some r ∧ delay = r.timeToRefresh t := by
  rcases m.setInBand_cases t c pseudonym with ⟨e, -, heq⟩ | ⟨-, ⟨-, heq⟩ | ⟨r, -, heq⟩⟩
  · rw [heq] at h
    cases h
  · rw [heq] at h
    cases h
  · rw [heq, store_eq] at h
    cases h
    exact ⟨r.replace pseudonym t, record?_modify_self m c _, rfl⟩

/-- The clock and the delay of a stored record add up to the instant at which it falls due, for its
owner and until another record is put in its place; for others there is no delay.  Who sleeps for a
part of the delay is answered the rest of it, and who sleeps for all of it finds the record due but
not expired.  When a record is stored, the same delay is answered. -/
theorem due_instant_stays :
    (∀ (m : Manager) (c : CarrierId) (r : Record), m.record? c = some r → 0 ≤ r.acquiredAt →
      ∀ ops, m.Undisturbed c ops → ∀ t : Instant, 0 ≤ t → t ≤ Instant.last →
        let delay := max 0 (r.refreshAt - t)
        let asked := (m.after ops).retrieveIfNeeded t c r.owner
        asked.1 = delay ∧ FitsCounter (r.refreshAt - t) ∧
        (∀ imsi, imsi ≠ r.owner → ((m.after ops).retrieveIfNeeded t c imsi).1 = 0) ∧
        t + asked.1 = max t r.refreshAt ∧
        (∀ later, asked.2.Undisturbed c later → ∀ span, 0 ≤ span →
          (span < delay →
            ((asked.2.after later).retrieveIfNeeded (t + span) c r.owner).1 = delay - span ∧
              0 < delay - span) ∧
          (span = delay →
            ((asked.2.after later).retrieveIfNeeded (t + span) c r.owner).1 = 0)) ∧
        (2 ≤ r.ttl → r.hasExpired t = false → r.hasExpired (t + delay) = false)) ∧
    (∀ (m : Manager) (c : CarrierId) (r : Record) (t : Instant),
      (m.onSuccess t c r).2.2.record? c = some r ∧
        (m.onSuccess t c r).1 = max 0 (r.refreshAt - t) ∧
        (m.onSuccess t c r).1 = ((m.onSuccess t c r).2.2.retrieveIfNeeded t c r.owner).1) ∧
    ∀ (m : Manager) (c : CarrierId) (pseudonym : String) (t : Instant) (delay : Millis)
      (stored : Manager), m.setInBand t c pseudonym = .ok (delay, stored) →
        ∃ r, stored.record? c = some r ∧ delay = max 0 (r.refreshAt - t) ∧
          delay = (stored.retrieveIfNeeded t c r.owner).1 := by
  have hdelay (r : Record) (t : Instant) : r.timeToRefresh t = max 0 (r.refreshAt - t) :=
    Int.max_comm _ _
  refine ⟨?_, ?_, ?_⟩
  · intro m c r hrecord hacquired ops hops t ht hend delay asked
    have hkept : (m.after ops).record? c = some r := hops.record?.trans hrecord
    have hasked : asked.1 = r.timeToRefresh t := retrieveIfNeeded_owner hkept t
    have hfits : FitsCounter (r.refreshAt - t) :=
      .sub (Record.refreshAt_nonneg hacquired) r.refreshAt_le_last ht hend
    refine ⟨hasked.trans (hdelay r t), hfits, ?_, ?_, ?_, ?_⟩
    · intro imsi hne
      exact retrieveIfNeeded_other hkept t hne
    · rw [hasked]
      exact r.add_timeToRefresh t
    · intro later hlater span hspan
      have hagain : (asked.2.after later).record? c = some r :=
        hlater.record?.trans ((record?_retrieveIfNeeded _ t c _).trans hkept)
      have hwake (hle : span ≤ delay) :
          ((asked.2.after later).retrieveIfNeeded (t + span) c r.owner).1 = delay - span := by
        rw [retrieveIfNeeded_owner hagain,
          Record.timeToRefresh_add hspan (hle.trans_eq (hdelay r t).symm), hdelay]
      constructor
      · intro hlt
        exact ⟨hwake (Int.le_of_lt hlt), Int.sub_pos_of_lt hlt⟩
      · intro heq
        rw [hwake (Int.le_of_eq heq), heq, Int.sub_self]
    · intro httl hvalid
      have hdue := Record.hasExpired_add_timeToRefresh httl hvalid
      rwa [hdelay] at hdue
  · intro m c r t
    obtain ⟨hanswer, hstored⟩ := m.onSuccess_stored t c r
    refine ⟨hstored, hanswer.trans (hdelay r t), ?_⟩
    rw [hanswer, retrieveIfNeeded_owner hstored]
  · intro m c pseudonym t delay stored h
    obtain ⟨r, hstored, hanswer⟩ := setInBand_stored h
    refine ⟨r, hstored, hanswer.trans (hdelay r t), ?_⟩
    rw [hanswer, retrieveIfNeeded_owner hstored]

/-- Half an hour before its two days are over, a record falls due. -/
theorem due_instant_stays_rehearsed :
    let m := (empty.onSuccess 1 Rehearsed.carrier Rehearsed.acquired).2.2
    1000 + (m.retrieveIfNeeded 1000 Rehearsed.carrier Rehearsed.imsi).1 = 171000001 ∧
      Rehearsed.acquired.hasExpired 171000001 = false := by
  intro m
  obtain ⟨hstays, hsuccess, -⟩ := due_instant_stays
  obtain ⟨hrecord, -, -⟩ := hsuccess empty Rehearsed.carrier Rehearsed.acquired 1
  obtain ⟨-, -, -, hsum, -, hvalid⟩ :=
    hstays m _ _ hrecord (by decide) [] nofun 1000 (by decide) (by decide)
  exact ⟨hsum, hvalid (by decide) (by decide)⟩

end Manager
end ImsiPseudonym
