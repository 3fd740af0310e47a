import ImsiPseudonym.Record

/-!
The phases of a record.  A record is acquired, falls due for a refresh, and expires, in this order,
and none of this is undone as the clock goes on.  No instant and no span on the way leaves the range
of the counter.
-/
namespace ImsiPseudonym

/-- The number can be held by a signed counter of 64 bits. -/
def FitsCounter (n : Int) : Prop :=
  Instant.first ≤ n ∧ n ≤ Instant.last

instance (n : Int) : Decidable (FitsCounter n) :=
  inferInstanceAs (Decidable (_ ∧ _))

theorem FitsCounter.of_le {n : Int} (hlow : 0 ≤ n) (hhigh : n ≤ Instant.last) : FitsCounter n :=
  ⟨Int.le_trans (by decide) hlow, hhigh⟩

/-- Two instants after the start of time are no further apart than the counter goes. -/
theorem FitsCounter.sub {s t : Instant} (hs : 0 ≤ s) (hs' : s ≤ Instant.last) (ht : 0 ≤ t)
    (ht' : t ≤ Instant.last) : FitsCounter (s - t) := by
  constructor
  · calc Instant.first ≤ 0 - Instant.last := by decide
      _ ≤ s - t := Int.sub_le_sub hs ht'
  · exact Int.le_trans (Int.sub_le_self s ht) hs'

namespace Grant

variable (g : Grant)

theorem refreshAhead_nonneg : 0 ≤ g.refreshAhead := by
  have hhalf : 0 ≤ g.ttl / 2 := Int.ediv_nonneg (Int.le_of_lt g.ttl_pos) (by decide)
  exact Int.le_min.mpr ⟨by decide, hhalf⟩

theorem refreshAhead_le : g.refreshAhead ≤ 30 * minute :=
  Int.min_le_left _ _

theorem refreshAhead_le_half : g.refreshAhead ≤ g.ttl / 2 :=
  Int.min_le_right _ _

theorem refreshAhead_le_ttl : g.refreshAhead ≤ g.ttl :=
  Int.le_trans g.refreshAhead_le_half (Int.ediv_le_self 2 (Int.le_of_lt g.ttl_pos))

theorem refreshAhead_pos {g : Grant} (h : 2 ≤ g.ttl) : 0 < g.refreshAhead := by
  have hhalf : 1 ≤ g.ttl / 2 := (Int.le_ediv_iff_mul_le (by decide)).mpr h
  exact Int.le_min.mpr ⟨by decide, hhalf⟩

end Grant

namespace Record

variable {r : Record} {t u : Instant}

theorem expiresAt_le_last (r : Record) : r.expiresAt ≤ Instant.last :=
  Int.min_le_right _ _

theorem refreshAt_le_expiresAt (r : Record) : r.refreshAt ≤ r.expiresAt :=
  Int.sub_le_self _ r.refreshAhead_nonneg

theorem refreshAt_lt_expiresAt (h : 2 ≤ r.ttl) : r.refreshAt < r.expiresAt :=
  Int.sub_lt_self _ (Grant.refreshAhead_pos h)

theorem refreshAt_le_last (r : Record) : r.refreshAt ≤ Instant.last :=
  Int.le_trans r.refreshAt_le_expiresAt r.expiresAt_le_last

/-- Where the expiry does not fit the counter, the time before the end of the counter decides. -/
theorem acquiredAt_le_refreshAt (h : r.acquiredAt ≤ Instant.last - 30 * minute) :
    r.acquiredAt ≤ r.refreshAt := by
  apply Int.le_sub_right_of_add_le
  apply Int.le_min.mpr
  constructor
  · exact Int.add_le_add_left r.refreshAhead_le_ttl _
  · calc r.acquiredAt + r.refreshAhead ≤ r.acquiredAt + 30 * minute :=
          Int.add_le_add_left r.refreshAhead_le _
      _ ≤ Instant.last := Int.add_le_of_le_sub_right h

theorem refreshAt_nonneg (h : 0 ≤ r.acquiredAt) : 0 ≤ r.refreshAt := by
  apply Int.sub_nonneg_of_le
  apply Int.le_min.mpr
  constructor
  · calc r.refreshAhead ≤ r.ttl := r.refreshAhead_le_ttl
      _ ≤ r.acquiredAt + r.ttl := Int.le_add_of_nonneg_left h
  · exact Int.le_trans r.refreshAhead_le (by decide)

/-- No instant of a record that was acquired after the start of time leaves the counter. -/
theorem fitsCounter_instants (h : 0 ≤ r.acquiredAt) :
    FitsCounter r.expiresAt ∧ FitsCounter r.refreshAhead ∧ FitsCounter r.refreshAt := by
  have hdue : 0 ≤ r.refreshAt := refreshAt_nonneg h
  have hexpiry : 0 ≤ r.expiresAt := Int.le_trans hdue r.refreshAt_le_expiresAt
  have hahead : r.refreshAhead ≤ Instant.last := Int.le_trans r.refreshAhead_le (by decide)
  exact ⟨.of_le hexpiry r.expiresAt_le_last, .of_le r.refreshAhead_nonneg hahead,
    .of_le hdue r.refreshAt_le_last⟩

theorem timeToRefresh_eq_zero_iff : r.timeToRefresh t = 0 ↔ r.refreshAt ≤ t := by
  constructor
  · intro h
    exact Int.le_of_sub_nonpos (h ▸ Int.le_max_left (r.refreshAt - t) 0)
  · intro h
    exact Int.max_eq_right (Int.sub_nonpos_of_le h)

theorem hasExpired_iff : r.hasExpired t = true ↔ r.expiresAt ≤ t :=
  decide_eq_true_iff

theorem mayRefresh_iff :
    r.mayRefresh t = true ↔ minRefreshAge ≤ r.age t ∨ r.refreshAt ≤ t := by
  simp [mayRefresh]

/-- A record that has expired has long been due. -/
theorem timeToRefresh_of_hasExpired (h : r.hasExpired t = true) : r.timeToRefresh t = 0 :=
  timeToRefresh_eq_zero_iff.mpr (Int.le_trans r.refreshAt_le_expiresAt (hasExpired_iff.mp h))

theorem mayRefresh_of_timeToRefresh (h : r.timeToRefresh t = 0) : r.mayRefresh t = true :=
  mayRefresh_iff.mpr (.inr (timeToRefresh_eq_zero_iff.mp h))

theorem hasExpired_mono (htu : t ≤ u) (h : r.hasExpired t = true) : r.hasExpired u = true :=
  hasExpired_iff.mpr (Int.le_trans (hasExpired_iff.mp h) htu)

theorem timeToRefresh_eq_zero_mono (htu : t ≤ u) (h : r.timeToRefresh t = 0) :
    r.timeToRefresh u = 0 :=
  timeToRefresh_eq_zero_iff.mpr (Int.le_trans (timeToRefresh_eq_zero_iff.mp h) htu)

theorem mayRefresh_mono (htu : t ≤ u) (h : r.mayRefresh t = true) : r.mayRefresh u = true := by
  apply mayRefresh_iff.mpr
  rcases mayRefresh_iff.mp h with hage | hdue
  · have hlater : r.age t ≤ r.age u := Int.sub_le_sub_right htu _
    exact .inl (Int.le_trans hage hlater)
  · exact .inr (Int.le_trans hdue htu)

/-- A record falls due between its acquisition and its expiry, and not before half of its time or
half an hour is left.  It is due just if no time is left to its refresh; this holds of an expired
record, allows a refresh, and lasts.  All values on the way fit the counter. -/
theorem phases_ordered (r : Record) (hacquired : 0 ≤ r.acquiredAt)
    (hlate : r.acquiredAt ≤ Instant.last - 30 * minute) (t u : Instant) (ht : 0 ≤ t) (htu : t ≤ u)
    (hu : u ≤ Instant.last) :
    (r.expiresAt = min (r.acquiredAt + r.ttl) 9223372036854775807 ∧ FitsCounter r.expiresAt ∧
      FitsCounter r.refreshAhead ∧ FitsCounter r.refreshAt ∧ FitsCounter (r.refreshAt - t) ∧
      FitsCounter (r.age t)) ∧
    (r.acquiredAt ≤ r.refreshAt ∧ r.refreshAt ≤ r.expiresAt) ∧
    (r.refreshAt = r.expiresAt - r.refreshAhead ∧ r.refreshAhead ≤ 1800000 ∧
      r.refreshAhead ≤ r.ttl / 2) ∧
    (r.timeToRefresh t = 0 ↔ r.refreshAt ≤ t) ∧
    (r.hasExpired t = true → r.timeToRefresh t = 0) ∧
    (r.timeToRefresh t = 0 → r.mayRefresh t = true) ∧
    (r.hasExpired t = true → r.hasExpired u = true) ∧
    (r.timeToRefresh t = 0 → r.timeToRefresh u = 0) ∧
    (r.mayRefresh t = true → r.mayRefresh u = true) := by
  have hend : t ≤ Instant.last := Int.le_trans htu hu
  have hstart : r.acquiredAt ≤ Instant.last := Int.le_trans hlate (by decide)
  have hdue : 0 ≤ r.refreshAt := refreshAt_nonneg hacquired
  have hexpiry : 0 ≤ r.expiresAt := Int.le_trans hdue r.refreshAt_le_expiresAt
  have hahead : r.refreshAhead ≤ Instant.last := Int.le_trans r.refreshAhead_le (by decide)
  refine ⟨⟨rfl, ?_, ?_, ?_, ?_, ?_⟩, ?_, ⟨rfl, r.refreshAhead_le, r.refreshAhead_le_half⟩, ?_, ?_,
    ?_, ?_, ?_, ?_⟩
  · exact .of_le hexpiry r.expiresAt_le_last
  · exact .of_le r.refreshAhead_nonneg hahead
  · exact .of_le hdue r.refreshAt_le_last
  · exact .sub hdue r.refreshAt_le_last ht hend
  · exact .sub ht hend hacquired hstart
  · exact ⟨acquiredAt_le_refreshAt hlate, r.refreshAt_le_expiresAt⟩
  · exact timeToRefresh_eq_zero_iff
  · exact timeToRefresh_of_hasExpired
  · exact mayRefresh_of_timeToRefresh
  · exact hasExpired_mono htu
  · exact timeToRefresh_eq_zero_mono htu
  · exact mayRefresh_mono htu

/-- A record that would last as long as anything can, acquired half an hour before the end of time,
is due at once. -/
theorem phases_ordered_at_last :
    let r : Record := Grant.acquiredAt
      ⟨"p", ⟨"001010", by decide, by decide⟩, Millis.longest, by decide⟩
      (Instant.last - 30 * minute)
    r.timeToRefresh r.acquiredAt = 0 ∧ r.timeToRefresh Instant.last = 0 ∧
      r.mayRefresh Instant.last = true ∧ FitsCounter (r.age r.acquiredAt) := by
  intro r
  obtain ⟨⟨-, -, -, -, -, hage⟩, -, -, hdue, -, hrefresh, -, hlater, hmono⟩ := r.phases_ordered
    (by decide) (by decide) r.acquiredAt Instant.last (by decide) (by decide) (by decide)
  have hzero := hdue.mpr (by decide)
  exact ⟨hzero, hlater hzero, hmono (hrefresh hzero), hage⟩

end Record
end ImsiPseudonym
