import ImsiPseudonym.Proofs.Calendar.Reading
import ImsiPseudonym.Proofs.Json.Documents

/-!
The times in the report of a record.  Each is null if it lies outside the years that are written, and
otherwise the text of a date and time of the calendar that denotes it, to the millisecond.
-/
namespace ImsiPseudonym

open Json

/-- What a value says as a time.  Null says that there is none, and a text says the instant that its
date and time denotes, if it is one of the calendar. -/
def Json.Value.time? : Value → Option (Option Int)
  | .null => some none
  | .string text =>
    (DateTime.ofText? text).bind fun d => if d.IsValid then some (some d.denoted) else none
  | _ => none

/-- What a member of a written object says as a time. -/
def Json.timeIn? (line field : String) : Option (Option Int) :=
  match read? line with
  | some (.object members) => (Table.get? members field).bind Value.time?
  | _ => none

/-- The instant lies in a year from -262143 to 262142. -/
def Instant.InWrittenYear (t : Int) : Prop :=
  DateTime.startOfYear (-262143) ≤ t ∧ t < DateTime.startOfYear 262143

instance (t : Int) : Decidable (Instant.InWrittenYear t) :=
  inferInstanceAs (Decidable (_ ∧ _))

theorem Instant.inWrittenYear_iff (t : Int) :
    InWrittenYear t ↔ DateTime.firstYear ≤ (DateTime.ofInstant t).year ∧
      (DateTime.ofInstant t).year ≤ DateTime.lastYear := by
  have hfirst := DateTime.startOfYear_le_iff (-262143) t
  have hlast := DateTime.startOfYear_le_iff 262143 t
  rw [InWrittenYear, DateTime.firstYear, DateTime.lastYear, hfirst, ← Int.not_le, hlast]
  omega

/-- The text of an instant, as a value, says this instant; outside the written years it is null. -/
theorem Json.Value.time?_ofString? (t : Int) :
    (Value.ofString? (Instant.text? t)).time? =
      some (if Instant.InWrittenYear t then some t else none) := by
  have hvalid := DateTime.isValid_ofInstant t
  by_cases hwritten : Instant.InWrittenYear t
  · have hyear := (Instant.inWrittenYear_iff t).mp hwritten
    have htime : (Value.string (DateTime.ofInstant t).text).time? = some (some t) := by
      rw [time?, DateTime.ofText?_text hvalid, Option.bind_some, if_pos hvalid,
        DateTime.denoted_ofInstant]
    rw [if_pos hwritten, Instant.text?, if_pos hyear]
    exact htime
  · have hyear := mt (Instant.inWrittenYear_iff t).mpr hwritten
    rw [if_neg hwritten, Instant.text?, if_neg hyear]
    rfl

inductive Occasion where
  | acquisition
  | refresh
  | expiry
deriving DecidableEq, Repr

def Occasion.field : Occasion → String
  | .acquisition => "acquired_at"
  | .refresh => "refresh_at"
  | .expiry => "expires_at"

def Occasion.instant (r : Record) : Occasion → Int
  | .acquisition => r.acquiredAt
  | .refresh => r.refreshAt
  | .expiry => r.expiresAt

namespace Record

variable {r r' : Record} {carrier carrier' : CarrierId}

theorem timeIn?_report (httl : r.ttl ≤ Millis.longest) (carrier : CarrierId) (o : Occasion) :
    timeIn? (r.report carrier).compact o.field =
      some (if Instant.InWrittenYear (o.instant r) then some (o.instant r) else none) := by
  rw [timeIn?, r.read?_report httl carrier _ List.mem_cons_self, ← Json.Value.time?_ofString?]
  cases o <;> simp [Occasion.field, Occasion.instant, Table.get?_cons]

theorem timeIn?_report_eq_some_iff (httl : r.ttl ≤ Millis.longest) (carrier : CarrierId)
    (o : Occasion) {t : Int} : timeIn? (r.report carrier).compact o.field = some (some t) ↔
      Instant.InWrittenYear (o.instant r) ∧ o.instant r = t := by
  rw [timeIn?_report httl]
  split
  · rename_i hwritten
    simp [hwritten]
  · rename_i hwritten
    simp [hwritten]

/-- Reports of one text are of records with the same pseudonym that last equally long. -/
theorem eq_of_report_eq (httl : r.ttl ≤ Millis.longest) (httl' : r'.ttl ≤ Millis.longest)
    (h : (r.report carrier).compact = (r'.report carrier').compact) :
    r.pseudonym = r'.pseudonym ∧ r.ttl = r'.ttl := by
  have hread := r.read?_report httl carrier _ List.mem_cons_self
  have hread' := r'.read?_report httl' carrier' _ List.mem_cons_self
  rw [h, hread'] at hread
  simp only [Option.some.injEq, Value.object.injEq, List.cons.injEq, Prod.mk.injEq,
    Value.string.injEq, Value.int, Value.number.injEq, Number.integer.injEq, true_and] at hread
  obtain ⟨-, -, -, hpseudonym, -, httl, -⟩ := hread
  exact ⟨hpseudonym.symm, httl.symm⟩

/-- An expiry that is written is not cut off at the last instant. -/
theorem expiresAt_eq_of_inWrittenYear (h : Instant.InWrittenYear r.expiresAt) :
    r.expiresAt = r.acquiredAt + r.ttl := by
  have hlast : DateTime.startOfYear 262143 ≤ Instant.last := by
    rw [DateTime.startOfYear, DateTime.daysBeforeYear_eq]
    decide
  have hlt : r.expiresAt < Instant.last := Int.lt_of_lt_of_le h.2 hlast
  have hmin (sum last : Int) (hlt : min sum last < last) : min sum last = sum := by omega
  exact hmin _ _ hlt

/-- The times in the report of a record are its instants: each member, read back as a date and time
of the calendar, denotes the instant of the record, and is null exactly if that lies in no year from
-262143 to 262142.  So a report tells the pseudonym, the time that it lasts and the instants; and where
these are there, they are as far apart as the record says. -/
theorem reported_times_denote_instants (r : Record) (httl : r.ttl ≤ Millis.longest)
    (carrier : CarrierId) :
    (∀ o : Occasion, timeIn? (r.report carrier).compact o.field =
      some (if DateTime.startOfYear (-262143) ≤ o.instant r ∧
        o.instant r < DateTime.startOfYear 262143 then some (o.instant r) else none)) ∧
    (∀ (r' : Record) (carrier' : CarrierId), r'.ttl ≤ Millis.longest →
      (r'.report carrier').compact = (r.report carrier).compact →
      r'.pseudonym = r.pseudonym ∧ r'.ttl = r.ttl ∧
        ∀ o : Occasion, timeIn? (r.report carrier).compact o.field ≠ some none →
          o.instant r' = o.instant r) ∧
    (∀ acquired refresh expiry : Int,
      timeIn? (r.report carrier).compact "acquired_at" = some (some acquired) →
      timeIn? (r.report carrier).compact "refresh_at" = some (some refresh) →
      timeIn? (r.report carrier).compact "expires_at" = some (some expiry) →
      expiry - acquired = r.ttl ∧ expiry - refresh = min (30 * minute) (r.ttl / 2)) := by
  have htime := timeIn?_report httl carrier
  refine ⟨htime, ?_, ?_⟩
  · intro r' carrier' httl' hline
    obtain ⟨hpseudonym, hspan⟩ := eq_of_report_eq httl' httl hline
    refine ⟨hpseudonym, hspan, ?_⟩
    intro o hsome
    have hwritten : Instant.InWrittenYear (o.instant r) := by
      by_contra hnot
      rw [htime o, if_neg hnot] at hsome
      exact hsome rfl
    have hread := (timeIn?_report_eq_some_iff httl carrier o).mpr ⟨hwritten, rfl⟩
    rw [← hline, timeIn?_report_eq_some_iff httl'] at hread
    exact hread.2
  · intro acquired refresh expiry hacquired hrefresh hexpiry
    obtain ⟨-, rfl⟩ := (timeIn?_report_eq_some_iff httl carrier .acquisition).mp hacquired
    obtain ⟨-, rfl⟩ := (timeIn?_report_eq_some_iff httl carrier .refresh).mp hrefresh
    obtain ⟨hwritten, rfl⟩ := (timeIn?_report_eq_some_iff httl carrier .expiry).mp hexpiry
    have hexpiry : r.expiresAt = r.acquiredAt + r.ttl := expiresAt_eq_of_inWrittenYear hwritten
    have hahead : r.refreshAhead = min (30 * minute) (r.ttl / 2) := rfl
    simp only [Occasion.instant, refreshAt]
    rw [← hahead, hexpiry]
    have hsub (start span ahead : Int) :
        start + span - start = span ∧ start + span - (start + span - ahead) = ahead := by omega
    exact hsub _ _ _

/-- A record from the last millisecond before year 0, which lasts for two hours and a millisecond. -/
def Rehearsed.ancient : Record where
  pseudonym := "p"
  owner := ⟨"001010000000012", by decide, by decide⟩
  ttl := 2 * hour + 1
  ttl_pos := by decide
  acquiredAt := -62167219200001

theorem ancient_reported_times :
    Rehearsed.ancient.ttl ≤ Millis.longest ∧
    timeIn? (Rehearsed.ancient.report ⟨5⟩).compact "acquired_at" = some (some (-62167219200001)) ∧
    timeIn? (Rehearsed.ancient.report ⟨5⟩).compact "refresh_at" = some (some (-62167213800000)) ∧
    timeIn? (Rehearsed.ancient.report ⟨5⟩).compact "expires_at" = some (some (-62167212000000)) ∧
    (-62167212000000 : Int) - -62167219200001 = Rehearsed.ancient.ttl ∧
    (-62167212000000 : Int) - -62167213800000 = min (30 * minute) (Rehearsed.ancient.ttl / 2) := by
  have httl : Rehearsed.ancient.ttl ≤ Millis.longest := by decide
  obtain ⟨htime, -, hspans⟩ := reported_times_denote_instants Rehearsed.ancient httl ⟨5⟩
  have hfirst : DateTime.startOfYear (-262143) ≤ -62167219200001 := by
    rw [DateTime.startOfYear, DateTime.daysBeforeYear_eq]
    decide
  have hlast : -62167212000000 < DateTime.startOfYear 262143 := by
    rw [DateTime.startOfYear, DateTime.daysBeforeYear_eq]
    decide
  have hread (o : Occasion) (hlow : -62167219200001 ≤ o.instant Rehearsed.ancient)
      (hhigh : o.instant Rehearsed.ancient ≤ -62167212000000) :
      timeIn? (Rehearsed.ancient.report ⟨5⟩).compact o.field =
        some (some (o.instant Rehearsed.ancient)) := by
    rw [htime o, if_pos ⟨Int.le_trans hfirst hlow, Int.lt_of_le_of_lt hhigh hlast⟩]
  have hacquired := hread .acquisition (by decide) (by decide)
  have hrefresh := hread .refresh (by decide) (by decide)
  have hexpiry := hread .expiry (by decide) (by decide)
  exact ⟨httl, hacquired, hrefresh, hexpiry, hspans _ _ _ hacquired hrefresh hexpiry⟩

end Record
end ImsiPseudonym
