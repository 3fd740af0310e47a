import ImsiPseudonym.Proofs.Manager.Journal

/-!
Where a stored record comes from.  Owner and time span are those of the last success; pseudonym and
time of acquisition are those of the last replacement since then, if there was one.
-/
namespace ImsiPseudonym

theorem toLower_of_isDigit {d : Char} (h : d.isDigit = true) : d.toLower = d := by
  simp only [Char.isDigit, Bool.and_eq_true, decide_eq_true_eq] at h
  apply dif_neg
  rintro ⟨hle, -⟩
  exact absurd (Nat.le_trans hle h.2) (by decide)

/-- Digits have no case, so that IMSIs agree only if they are the same. -/
theorem Imsi.agreesWith_iff (imsi other : Imsi) :
    imsi.agreesWith other.digits = true ↔ imsi.digits = other.digits := by
  have hsame (i : Imsi) : i.digits.toList.map Char.toLower = i.digits.toList := by
    have hdigit (d : Char) (hd : d ∈ i.digits.toList) : d.toLower = id d :=
      toLower_of_isDigit (List.all_eq_true.mp i.digits_ok d hd)
    rw [List.map_congr_left hdigit, List.map_id]
  rw [agreesWith, hsame, hsame, beq_iff_eq, String.toList_inj]

namespace Manager

/-- The record that a success brings. -/
def CarrierOperation.given? : CarrierOperation → Option Record
  | .onSuccess r => some r
  | _ => none

/-- The pseudonym that replaces another one, if it is not refused. -/
def CarrierOperation.learned? : CarrierOperation → Answer → Option String
  | .setInBand pseudonym, .delay (some _) => some pseudonym
  | _, _ => none

def Entry.given? (c : CarrierId) (e : Entry) : Option Record :=
  (e.op.on? c).bind (·.given?)

/-- The pseudonym that an entry puts in place of a carrier's, and when. -/
def Entry.learned? (c : CarrierId) (e : Entry) : Option (String × Instant) :=
  ((e.op.on? c).bind (·.learned? e.answer)).map fun pseudonym => (pseudonym, e.moment.now)

/-- The record of the last success of a carrier. -/
def lastGiven? (c : CarrierId) (past : List Entry) : Option Record :=
  (past.filterMap (·.given? c)).getLast?

/-- The last pseudonym that has replaced the one of the last success, and when. -/
def lastLearned? (c : CarrierId) (past : List Entry) : Option (String × Instant) :=
  ((sinceSuccess c past).filterMap (·.learned? c)).getLast?

/-- The record of a carrier as it follows from a journal. -/
def lineage? (c : CarrierId) (past : List Entry) : Option Record :=
  (lastGiven? c past).map fun given =>
    match lastLearned? c past with
    | some (pseudonym, now) => given.replace pseudonym now
    | none => given

variable {c : CarrierId} {past : List Entry} {e : Entry}

theorem Entry.given?_eq_some_iff {r : Record} :
    e.given? c = some r ↔ e.op = .carrier c (.onSuccess r) := by
  rw [given?, Option.bind_eq_some_iff]
  constructor
  · rintro ⟨asked, hop, hgiven⟩
    obtain hop := Operation.on?_eq_some_iff.mp hop
    cases asked with
    | onSuccess given =>
        cases hgiven
        exact hop
    | _ => cases hgiven
  · intro hop
    exact ⟨.onSuccess r, Operation.on?_eq_some_iff.mpr hop, rfl⟩

theorem CarrierOperation.eq_of_learned? {op : CarrierOperation} {answer : Answer}
    {pseudonym : String} (h : op.learned? answer = some pseudonym) :
    op = .setInBand pseudonym ∧ ∃ delay, answer = .delay (some delay) := by
  unfold learned? at h
  split at h
  · cases h
    exact ⟨rfl, _, rfl⟩
  · cases h

theorem Entry.succeeds_eq (c : CarrierId) (e : Entry) : e.op.succeeds c = (e.given? c).isSome := by
  rw [given?, Operation.succeeds]
  cases e.op.on? c with
  | none => rfl
  | some asked => cases asked <;> rfl

theorem lineage?_append_of_given {r : Record} (h : e.given? c = some r) :
    lineage? c (past ++ [e]) = some r := by
  have hsuccess : e.op.succeeds c = true := by rw [e.succeeds_eq, h, Option.isSome_some]
  rw [lineage?, lastLearned?, sinceSuccess_append_of_succeeds hsuccess]
  simp [lastGiven?, h]

theorem lastGiven?_append_of_not_given (h : e.given? c = none) :
    lastGiven? c (past ++ [e]) = lastGiven? c past := by
  simp [lastGiven?, h]

theorem lastLearned?_append_of_not_given (h : e.given? c = none) :
    lastLearned? c (past ++ [e]) = (e.learned? c).or (lastLearned? c past) := by
  have hfailure : e.op.succeeds c = false := by rw [e.succeeds_eq, h, Option.isSome_none]
  rw [lastLearned?, sinceSuccess_append_of_not_succeeds hfailure]
  cases hlearned : e.learned? c <;> simp [hlearned, lastLearned?]

theorem lineage?_append_of_learned {pseudonym : String} {now : Instant} (h : e.given? c = none)
    (hlearned : e.learned? c = some (pseudonym, now)) :
    lineage? c (past ++ [e]) = (lineage? c past).map (·.replace pseudonym now) := by
  simp only [lineage?, lastGiven?_append_of_not_given h, lastLearned?_append_of_not_given h,
    hlearned, Option.some_or, Option.map_map]
  -- A replacement covers those before it.
  congr 1
  funext given
  rw [Function.comp_apply]
  split <;> rfl

theorem lineage?_append_of_unchanged (h : e.given? c = none) (hlearned : e.learned? c = none) :
    lineage? c (past ++ [e]) = lineage? c past := by
  simp only [lineage?, lastGiven?_append_of_not_given h, lastLearned?_append_of_not_given h,
    hlearned, Option.none_or]

theorem record_next (s : CarrierState) (now : Instant) (op : CarrierOperation) (answer : Answer) :
    (s.next now op answer).record =
      match op.given?, op.learned? answer with
      | some r, _ => some r
      | none, some pseudonym => s.record.map (·.replace pseudonym now)
      | none, none => s.record := by
  cases op with
  | onSuccess r => rfl
  | onFailure reason =>
      cases answer with
      | delay delay => cases delay <;> cases reason <;> rfl
      | _ => rfl
  | _ =>
      cases answer with
      | delay delay => cases delay <;> rfl
      | _ => rfl

theorem record?_perform (m : Manager) (moment : Circumstance) (op : Operation) :
    (m.perform moment op).manager.record? c =
      match Entry.given? c ⟨moment, op, (m.perform moment op).answer⟩,
        Entry.learned? c ⟨moment, op, (m.perform moment op).answer⟩ with
      | some r, _ => some r
      | none, some (pseudonym, now) => (m.record? c).map (·.replace pseudonym now)
      | none, none => m.record? c := by
  simp only [record?, state_perform, Entry.given?, Entry.learned?]
  cases op.on? c with
  | none => rfl
  | some asked =>
      simp only [Option.bind_some, record_next]
      cases asked.given? with
      | some r => rfl
      | none => cases asked.learned? (m.perform moment op).answer <;> rfl

theorem record?_eq_lineage? (c : CarrierId) (ops : List (Circumstance × Operation)) :
    (empty.after ops).record? c = lineage? c (empty.journal ops) := by
  apply journal_induction (P := fun past m => m.record? c = lineage? c past)
  · rfl
  · intro past m moment op ih
    rw [record?_perform]
    cases hgiven : Entry.given? c ⟨moment, op, (m.perform moment op).answer⟩ with
    | some r => exact (lineage?_append_of_given hgiven).symm
    | none =>
        cases hlearned : Entry.learned? c ⟨moment, op, (m.perform moment op).answer⟩ with
        | some learned =>
            rw [lineage?_append_of_learned hgiven hlearned, ← ih]
        | none =>
            rw [lineage?_append_of_unchanged hgiven hlearned, ← ih]

theorem validRecord?_eq_some_iff {m : Manager} {now : Instant} {imsi : Imsi} {r : Record} :
    m.validRecord? now c imsi = some r ↔
      m.record? c = some r ∧ now < min (r.acquiredAt + r.ttl) Instant.last ∧
        r.owner.digits = imsi.digits := by
  rw [validRecord?, Option.filter_eq_some_iff, Bool.and_eq_true, Imsi.agreesWith_iff,
    Record.hasExpired, Bool.not_eq_true', decide_eq_false_iff_not, Int.not_le,
    eq_comm (a := imsi.digits)]
  rfl

theorem journal_map_asked (m : Manager) (ops : List (Circumstance × Operation)) :
    (m.journal ops).map (fun e => (e.moment, e.op)) = ops := by
  induction ops generalizing m with
  | nil => rfl
  | cons asked rest ih => exact congrArg (asked :: ·) (ih (m.perform asked.1 asked.2).manager)

theorem lineage?_eq_none_iff : lineage? c past = none ↔ ∀ e ∈ past, e.given? c = none := by
  rw [lineage?, Option.map_eq_none_iff, lastGiven?, List.getLast?_eq_none_iff,
    List.filterMap_eq_nil_iff]

theorem record?_eq_none_iff (c : CarrierId) (ops : List (Circumstance × Operation)) :
    (empty.after ops).record? c = none ↔
      ∀ moment r, (moment, .carrier c (.onSuccess r)) ∉ ops := by
  rw [record?_eq_lineage?, lineage?_eq_none_iff]
  have hasked := journal_map_asked empty ops
  constructor
  · intro hnone moment r hmem
    rw [← hasked] at hmem
    obtain ⟨e, he, heq⟩ := List.mem_map.mp hmem
    have hgiven : e.given? c = some r := Entry.given?_eq_some_iff.mpr (congrArg Prod.snd heq)
    rw [hnone e he] at hgiven
    cases hgiven
  · intro hnever e he
    cases hgiven : e.given? c with
    | none => rfl
    | some r =>
        have hmem : (e.moment, e.op) ∈ ops := by
          rw [← hasked]
          exact List.mem_map_of_mem he
        rw [Entry.given?_eq_some_iff.mp hgiven] at hmem
        exact absurd hmem (hnever e.moment r)

/-- There is no record of a carrier before its first success.  After that the owner and the time
span are those of the last success, and so are pseudonym and time of acquisition unless they have
been replaced; then they are those of the last replacement.  A record is handed out only to its owner
and before it expires. -/
theorem stored_record_of_journal (ops : List (Circumstance × Operation)) (c : CarrierId) :
    let m := empty.after ops
    let past := empty.journal ops
    (m.record? c = none ↔ ∀ moment r, (moment, .carrier c (.onSuccess r)) ∉ ops) ∧
    (∀ r, m.record? c = some r → ∃ given, lastGiven? c past = some given ∧
      r.owner = given.owner ∧ r.ttl = given.ttl ∧
      (lastLearned? c past = none →
        r.pseudonym = given.pseudonym ∧ r.acquiredAt = given.acquiredAt) ∧
      ∀ pseudonym now, lastLearned? c past = some (pseudonym, now) →
        r.pseudonym = pseudonym ∧ r.acquiredAt = now) ∧
    (∀ imsi other : Imsi, imsi.agreesWith other.digits = true ↔ imsi.digits = other.digits) ∧
    ∀ now imsi r, m.validRecord? now c imsi = some r ↔
      m.record? c = some r ∧ now < min (r.acquiredAt + r.ttl) Instant.last ∧
        r.owner.digits = imsi.digits := by
  intro m past
  refine ⟨record?_eq_none_iff c ops, ?_, Imsi.agreesWith_iff,
    fun now imsi r => validRecord?_eq_some_iff⟩
  intro r hr
  rw [record?_eq_lineage?] at hr
  obtain ⟨given, hgiven, rfl⟩ := Option.map_eq_some_iff.mp hr
  refine ⟨given, hgiven, ?_⟩
  cases hlearned : lastLearned? c past with
  | none =>
      refine ⟨rfl, rfl, fun _ => ⟨rfl, rfl⟩, ?_⟩
      exact nofun
  | some learned =>
      refine ⟨rfl, rfl, nofun, ?_⟩
      intro pseudonym now heq
      cases heq
      exact ⟨rfl, rfl⟩

end Manager
end ImsiPseudonym
