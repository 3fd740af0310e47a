import ImsiPseudonym.Message.Response

/-!
Usable grants.  What a server grants has a pseudonym that fits one packet, and it lasts for an hour
at least, so that it should be refreshed half an hour before it expires.  Unless the end of time is
near, that is half an hour after it was acquired, or later.  Main statements: `grant?_eq_some_iff`,
which says what an answer needs in order to grant something, and `grant?_usable`.
-/
namespace ImsiPseudonym

/-- A grant that stands in for an owner: its pseudonym can be sent, and it lasts for the default
time, for whole hours, or for as long as anything can. -/
structure Grant.Usable (g : Grant) (owner : Imsi) : Prop where
  owner_eq : g.owner = owner
  size_pos : 1 ≤ g.pseudonym.utf8ByteSize
  size_le : g.pseudonym.utf8ByteSize ≤ 1020
  ttl_cases : g.ttl = 2 * day ∨ (∃ hours, 0 < hours ∧ g.ttl = hours * hour) ∨
    g.ttl = Millis.longest
  ttl_le : g.ttl ≤ Millis.longest

theorem size_of_checkPseudonym {pseudonym : String} (h : checkPseudonym pseudonym = .ok ()) :
    1 ≤ pseudonym.utf8ByteSize ∧ pseudonym.utf8ByteSize ≤ 1020 := by
  obtain ⟨hne, hle⟩ := checkPseudonym_eq_ok_iff.mp h
  refine ⟨Nat.one_le_iff_ne_zero.mpr ?_, hle⟩
  intro hzero
  exact hne (String.utf8ByteSize_eq_zero_iff.mp hzero)

theorem checkPseudonym_of_size {pseudonym : String} (hpos : 1 ≤ pseudonym.utf8ByteSize)
    (hle : pseudonym.utf8ByteSize ≤ 1020) : checkPseudonym pseudonym = .ok () := by
  refine checkPseudonym_eq_ok_iff.mpr ⟨?_, hle⟩
  rintro rfl
  exact absurd hpos (by decide)

theorem checkPseudonym_ne_nonPositiveTtl (pseudonym : String) (ttl : Millis) :
    checkPseudonym pseudonym ≠ .error (.nonPositiveTtl ttl) := by
  unfold checkPseudonym
  split
  · exact nofun
  · split <;> exact nofun

namespace PseudonymResponse

variable {answer : PseudonymResponse} {owner : Imsi} {g : Grant}

theorem ttl_cases (answer : PseudonymResponse) :
    answer.ttl = 2 * day ∨ (∃ hours, 0 < hours ∧ answer.ttl = hours * hour) ∨
      answer.ttl = Millis.longest := by
  rw [ttl]
  cases answer.refreshHours with
  | none => exact Or.inl rfl
  | some hours =>
      dsimp only
      by_cases hpos : 0 < hours
      · rw [if_pos hpos]
        rcases Int.le_total (hours * hour) Millis.longest with hle | hle
        · exact Or.inr (Or.inl ⟨hours, hpos, Int.min_eq_left hle⟩)
        · exact Or.inr (Or.inr (Int.min_eq_right hle))
      · rw [if_neg hpos]
        exact Or.inl rfl

theorem ttl_le (answer : PseudonymResponse) : answer.ttl ≤ Millis.longest := by
  rw [ttl]
  cases answer.refreshHours with
  | none => decide
  | some hours =>
      dsimp only
      split
      · exact Int.min_le_right _ _
      · decide

/-- All that has to hold for an answer to grant something. -/
theorem eq_of_grant? (h : answer.grant? owner = some g) :
    answer.authCode = .success ∧ answer.pseudonymCode = .success ∧
      answer.pseudonym = some g.pseudonym ∧ checkPseudonym g.pseudonym = .ok () ∧
      g.owner = owner ∧ g.ttl = answer.ttl := by
  rw [grant?] at h
  split at h
  · rename_i hcodes
    split at h
    · cases h
    · rename_i pseudonym hpseudonym
      split at h
      · cases h
      · rename_i hcheck
        rw [Grant.ofTtl] at h
        split at h
        · cases h
          exact ⟨hcodes.1, hcodes.2, hpseudonym, hcheck, rfl, rfl⟩
        · cases h
  · cases h

theorem grant?_usable (h : answer.grant? owner = some g) : g.Usable owner := by
  obtain ⟨-, -, -, hcheck, howner, httl⟩ := eq_of_grant? h
  obtain ⟨hpos, hle⟩ := size_of_checkPseudonym hcheck
  refine ⟨howner, hpos, hle, ?_, ?_⟩
  · rw [httl]
    exact answer.ttl_cases
  · rw [httl]
    exact answer.ttl_le

theorem ttl_pos (answer : PseudonymResponse) : 0 < answer.ttl := by
  rcases answer.ttl_cases with httl | ⟨hours, hpos, httl⟩ | httl
  · rw [httl]
    decide
  · rw [httl]
    exact Int.mul_pos hpos (by decide)
  · rw [httl]
    decide

/-- No answer gives a time span that a grant cannot have. -/
theorem ofTtl_ttl (answer : PseudonymResponse) (pseudonym : String) (owner : Imsi) :
    Grant.ofTtl pseudonym owner answer.ttl = .ok ⟨pseudonym, owner, answer.ttl, answer.ttl_pos⟩ :=
  dif_pos answer.ttl_pos

theorem grant?_of_success {pseudonym : String} (hauth : answer.authCode = .success)
    (hcode : answer.pseudonymCode = .success) (hpseudonym : answer.pseudonym = some pseudonym)
    (hcheck : checkPseudonym pseudonym = .ok ()) (owner : Imsi) :
    answer.grant? owner = some ⟨pseudonym, owner, answer.ttl, answer.ttl_pos⟩ := by
  rw [grant?, if_pos ⟨hauth, hcode⟩, hpseudonym]
  dsimp only
  rw [hcheck]
  dsimp only
  rw [ofTtl_ttl]
  rfl

theorem grant?_eq_some_iff :
    answer.grant? owner = some g ↔
      answer.authCode = .success ∧ answer.pseudonymCode = .success ∧
        answer.pseudonym = some g.pseudonym ∧ checkPseudonym g.pseudonym = .ok () ∧
        g.owner = owner ∧ g.ttl = answer.ttl := by
  constructor
  · exact eq_of_grant?
  · intro ⟨hauth, hcode, hpseudonym, hcheck, howner, httl⟩
    rw [grant?_of_success hauth hcode hpseudonym hcheck owner]
    obtain ⟨pseudonym, owner', ttl', hpos⟩ := g
    obtain rfl : owner' = owner := howner
    obtain rfl : ttl' = answer.ttl := httl
    rfl

theorem ttl_eq (answer : PseudonymResponse) :
    answer.ttl =
      match answer.refreshHours with
      | some hours => if 0 < hours then min (hours * 3600000) 9223372036854775807 else 172800000
      | none => 172800000 := by
  rw [ttl]
  cases answer.refreshHours <;> rfl

theorem eq_success_iff {code : ResponseCode} : code = .success ↔ code.code = 1000 := by
  cases code
  simp [ResponseCode.success]

/-- An answer gives a record just if both codes are 1000 and the pseudonym has from 1 to 1020 bytes.
The record lasts for the hours of the answer, if they are positive and until the counter ends at
most, and otherwise for two days; no such time span is refused. -/
theorem record_iff (answer : PseudonymResponse) (owner : Imsi) :
    (∀ (now : Instant) (r : Record),
      (answer.grant? owner).map (·.acquiredAt now) = some r ↔
        answer.authCode.code = 1000 ∧ answer.pseudonymCode.code = 1000 ∧
          answer.pseudonym = some r.pseudonym ∧ 1 ≤ r.pseudonym.utf8ByteSize ∧
          r.pseudonym.utf8ByteSize ≤ 1020 ∧ r.owner = owner ∧
          (r.ttl = match answer.refreshHours with
            | some hours =>
              if 0 < hours then min (hours * 3600000) 9223372036854775807 else 172800000
            | none => 172800000) ∧
          r.acquiredAt = now) ∧
      ((∃ g, answer.grant? owner = some g) ↔
        answer.authCode.code = 1000 ∧ answer.pseudonymCode.code = 1000 ∧
          ∃ pseudonym, answer.pseudonym = some pseudonym ∧ 1 ≤ pseudonym.utf8ByteSize ∧
            pseudonym.utf8ByteSize ≤ 1020) ∧
      ∀ pseudonym, ∃ g, Grant.ofTtl pseudonym owner answer.ttl = .ok g := by
  refine ⟨?_, ?_, ?_⟩
  · intro now r
    rw [← ttl_eq, ← eq_success_iff, ← eq_success_iff]
    constructor
    · intro h
      obtain ⟨g, hgrant, rfl⟩ := Option.map_eq_some_iff.mp h
      obtain ⟨hauth, hcode, hpseudonym, hcheck, howner, httl⟩ := eq_of_grant? hgrant
      obtain ⟨hpos, hle⟩ := size_of_checkPseudonym hcheck
      exact ⟨hauth, hcode, hpseudonym, hpos, hle, howner, httl, rfl⟩
    · intro ⟨hauth, hcode, hpseudonym, hpos, hle, howner, httl, hnow⟩
      have hcheck := checkPseudonym_of_size hpos hle
      rw [grant?_eq_some_iff.mpr ⟨hauth, hcode, hpseudonym, hcheck, howner, httl⟩, ← hnow]
      rfl
  · rw [← eq_success_iff, ← eq_success_iff]
    constructor
    · intro ⟨g, hgrant⟩
      obtain ⟨hauth, hcode, hpseudonym, hcheck, -, -⟩ := eq_of_grant? hgrant
      exact ⟨hauth, hcode, g.pseudonym, hpseudonym, size_of_checkPseudonym hcheck⟩
    · intro ⟨hauth, hcode, pseudonym, hpseudonym, hpos, hle⟩
      have hcheck := checkPseudonym_of_size hpos hle
      exact ⟨_, grant?_of_success hauth hcode hpseudonym hcheck owner⟩
  · intro pseudonym
    exact ⟨_, answer.ofTtl_ttl pseudonym owner⟩

end PseudonymResponse

namespace Grant.Usable

variable {g : Grant} {owner : Imsi}

theorem hour_le_ttl (h : g.Usable owner) : hour ≤ g.ttl := by
  rcases h.ttl_cases with httl | ⟨hours, hpos, httl⟩ | httl
  · rw [httl]
    decide
  · rw [httl]
    calc hour = 1 * hour := (Int.one_mul hour).symm
      _ ≤ hours * hour := Int.mul_le_mul_of_nonneg_right hpos (by decide)
  · rw [httl]
    decide

theorem refreshAhead_eq (h : g.Usable owner) : g.refreshAhead = 30 * minute := by
  have hhalf : 30 * minute ≤ g.ttl / 2 :=
    (Int.le_ediv_iff_mul_le (by decide)).mpr h.hour_le_ttl
  exact Int.min_eq_left hhalf

/-- A pseudonym that can be sent may take the place of another. -/
theorem replace {r : Record} (h : r.toGrant.Usable owner) {pseudonym : String}
    (hcheck : checkPseudonym pseudonym = .ok ()) (now : Instant) :
    (r.replace pseudonym now).toGrant.Usable owner := by
  obtain ⟨hpos, hle⟩ := size_of_checkPseudonym hcheck
  exact ⟨h.owner_eq, hpos, hle, h.ttl_cases, h.ttl_le⟩

variable {t : Instant}

theorem add_hour_le_expiresAt (h : g.Usable owner) (ht : t ≤ Instant.last - hour) :
    t + hour ≤ (g.acquiredAt t).expiresAt := by
  apply Int.le_min.mpr
  constructor
  · exact Int.add_le_add_left h.hour_le_ttl t
  · exact Int.add_le_of_le_sub_right ht

theorem half_hour_le_refreshAt (h : g.Usable owner) (ht : t ≤ Instant.last - hour) :
    30 * minute ≤ (g.acquiredAt t).refreshAt - t := by
  have hexpires : hour ≤ (g.acquiredAt t).expiresAt - t :=
    Int.le_sub_left_of_add_le (h.add_hour_le_expiresAt ht)
  have hahead : (g.acquiredAt t).refreshAhead = 30 * minute := h.refreshAhead_eq
  calc 30 * minute = hour - 30 * minute := by decide
    _ ≤ (g.acquiredAt t).expiresAt - t - 30 * minute := Int.sub_le_sub_right hexpires _
    _ = (g.acquiredAt t).expiresAt - 30 * minute - t := by
      rw [Int.sub_sub, Int.sub_sub, Int.add_comm t]
    _ = (g.acquiredAt t).refreshAt - t := by rw [Record.refreshAt, hahead]

theorem timeToRefresh_eq (h : g.Usable owner) (ht : t ≤ Instant.last - hour) :
    (g.acquiredAt t).timeToRefresh t = (g.acquiredAt t).refreshAt - t := by
  apply Int.max_eq_left
  exact Int.le_trans (by decide) (h.half_hour_le_refreshAt ht)

/-- An instant after the start of time, and the time from it until a refresh, are both within the
range of the counter. -/
theorem refreshAt_sub_le (h : g.Usable owner) (ht : 0 ≤ t) :
    (g.acquiredAt t).refreshAt - t ≤ Millis.longest := by
  have hahead : 0 ≤ (g.acquiredAt t).refreshAhead := by
    have heq : (g.acquiredAt t).refreshAhead = 30 * minute := h.refreshAhead_eq
    rw [heq]
    decide
  calc (g.acquiredAt t).refreshAt - t ≤ (g.acquiredAt t).refreshAt := Int.sub_le_self _ ht
    _ ≤ (g.acquiredAt t).expiresAt := Int.sub_le_self _ hahead
    _ ≤ Instant.last := Int.min_le_right _ _

end Grant.Usable
end ImsiPseudonym
