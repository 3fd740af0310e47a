import ImsiPseudonym.Proofs.Json.RoundTrip
import ImsiPseudonym.Report
import ImsiPseudonym.Subscriber

/-!
The JSON texts that are handed out: the bodies of the two requests, and the reports of a record and
of a failure.  Each is read back as exactly the members that were put into it.
-/
namespace ImsiPseudonym

open Text Json

/-- An object is plain if all values put into it are. -/
theorem Json.Plain.ofMembers {depth : Nat} {entries : List (String × Value)}
    (h : ∀ entry ∈ entries, Plain depth entry.2) : Plain (depth + 1) (Value.ofMembers entries) := by
  apply Plain.object (Table.sorted_ofList entries)
  intro entry hmem
  exact h entry (Table.mem_of_mem_ofList hmem)

namespace Subscriber

/-- The members of an authentication entry, in the order of their keys. -/
def members (s : Subscriber) (deviceId : String) (token response : Option String) : Object :=
  member? "aka-challenge-rsp" (nonEmpty? response) ++
  member? "aka-token" (nonEmpty? token) ++
  [("device-id", .string deviceId),
    ("device-name", .string s.deviceModel),
    ("device-type", .int 0)] ++
  member? "imsi-eap" s.networkIdentity? ++
  [("message-id", .int 1),
    ("method", .string "3gppAuthentication"),
    ("os-type", .int 0)]

variable {s : Subscriber} {token response : Option String}

theorem authenticationEntry?_eq (s : Subscriber) (token response : Option String) :
    s.authenticationEntry? token response =
      s.deviceId?.map fun deviceId => .object (s.members deviceId token response) := by
  unfold authenticationEntry? members
  cases s.deviceId? with
  | none => rfl
  | some deviceId =>
      cases s.networkIdentity? <;> cases nonEmpty? token <;> cases nonEmpty? response <;> rfl

theorem plain_of_mem_member? {depth : Nat} {field : String} {text : Option String}
    {entry : String × Value} (h : entry ∈ member? field text) : Plain depth entry.2 := by
  rw [member?, Option.mem_toList] at h
  obtain ⟨t, -, rfl⟩ := Option.map_eq_some_iff.mp h
  exact .string t

theorem plain_of_authenticationEntry? {depth : Nat} {v : Value}
    (h : s.authenticationEntry? token response = some v) : Plain (depth + 1) v := by
  unfold authenticationEntry? at h
  simp only [Option.bind_eq_bind, Option.bind_eq_some_iff, Option.pure_def, Option.some.injEq] at h
  obtain ⟨deviceId, -, rfl⟩ := h
  apply Plain.ofMembers
  intro entry hmem
  simp only [List.mem_append, List.mem_cons, List.not_mem_nil, or_false] at hmem
  rcases hmem with ((hfixed | hidentity) | htoken) | hresponse
  · rcases hfixed with rfl | rfl | rfl | rfl | rfl | rfl
    · exact .int (by decide)
    · exact .string _
    · exact .string _
    · exact .int (by decide)
    · exact .int (by decide)
    · exact .string _
  · exact plain_of_mem_member? hidentity
  · exact plain_of_mem_member? htoken
  · exact plain_of_mem_member? hresponse

theorem plain_pseudonymEntry {depth : Nat} : Plain (depth + 1) pseudonymEntry := by
  apply Plain.ofMembers
  intro entry hmem
  simp only [List.mem_cons, List.not_mem_nil, or_false] at hmem
  rcases hmem with rfl | rfl
  · exact .int (by decide)
  · exact .string _

/-- An authentication entry is read back, whichever entries come behind it. -/
theorem read?_authenticationEntry? (s : Subscriber) (token response : Option String)
    {others : List Value} (hothers : ∀ other ∈ others, ∀ depth, Plain (depth + 1) other) :
    (s.authenticationEntry? token response).map
        (fun entry => read? (Value.array (entry :: others)).compact) =
      s.deviceId?.map fun deviceId =>
        some (.array (.object (s.members deviceId token response) :: others)) := by
  have hread : (s.authenticationEntry? token response).map
      (fun entry => read? (Value.array (entry :: others)).compact) =
      (s.authenticationEntry? token response).map fun entry => some (.array (entry :: others)) := by
    apply Option.map_congr
    intro entry hentry
    apply Plain.read?_compact
    apply Plain.array
    intro item hmem
    rcases List.mem_cons.mp hmem with rfl | hmem
    · exact plain_of_authenticationEntry? hentry
    · exact hothers item hmem _
  rw [hread, authenticationEntry?_eq, Option.map_map]
  rfl

/-- The body that asks for a challenge is read back as its one entry. -/
theorem read?_challengeRequest? (s : Subscriber) :
    s.challengeRequest?.map (fun body => read? body.compact) =
      s.deviceId?.map fun deviceId => some (.array [.object (s.members deviceId none none)]) := by
  have hread := read?_authenticationEntry? s none none (List.forall_mem_nil _)
  rw [← hread, challengeRequest?]
  cases s.authenticationEntry? none none <;> rfl

/-- The body that asks for a pseudonym is read back as its two entries. -/
theorem read?_pseudonymRequest? (s : Subscriber) (token response : Option String) :
    (s.pseudonymRequest? token response).map (fun body => read? body.compact) =
      s.deviceId?.map fun deviceId => some (.array [
        .object (s.members deviceId token response),
        .object [("message-id", .int 2), ("method", .string "getImsiPseudonym")]]) := by
  have hothers : ∀ other ∈ [pseudonymEntry], ∀ depth, Plain (depth + 1) other := by
    intro other hmem depth
    rw [List.mem_singleton.mp hmem]
    exact plain_pseudonymEntry
  have hread := read?_authenticationEntry? s token response hothers
  refine Eq.trans ?_ hread
  rw [pseudonymRequest?]
  cases s.authenticationEntry? token response <;> rfl

end Subscriber

theorem CarrierId.fitsNumber (carrier : CarrierId) : FitsNumber carrier.toInt := by
  have hlow := carrier.number.le_toInt
  have hhigh := carrier.number.toInt_lt
  simp only [FitsNumber, CarrierId.toInt, minInt64, maxUInt64]
  omega

theorem plain_ofString? {depth : Nat} (text : Option String) : Plain depth (.ofString? text) := by
  cases text with
  | none => exact .null
  | some t => exact .string t

/-- The report of a record is read back as its six members. -/
theorem Record.read?_report (r : Record) (httl : r.ttl ≤ Millis.longest) (carrier : CarrierId) :
    ∀ text ∈ [(r.report carrier).compact, (r.report carrier).indented], read? text = some (.object [
      ("acquired_at", .ofString? r.acquiredAt.text?),
      ("carrier_id", .int carrier.toInt),
      ("expires_at", .ofString? r.expiresAt.text?),
      ("pseudonym", .string r.pseudonym),
      ("refresh_at", .ofString? r.refreshAt.text?),
      ("ttl_millis", .int r.ttl)]) := by
  have hpos : (0 : Int) < r.ttl := r.ttl_pos
  have hfits : FitsNumber r.ttl :=
    ⟨Int.le_trans (by decide) (Int.le_of_lt hpos), Int.le_trans httl (by decide)⟩
  have hplain : Plain maxDepth (r.report carrier) := by
    apply Plain.ofMembers
    intro entry hmem
    simp only [List.mem_cons, List.not_mem_nil, or_false] at hmem
    rcases hmem with rfl | rfl | rfl | rfl | rfl | rfl
    · exact .int carrier.fitsNumber
    · exact .string _
    · exact .int hfits
    · exact plain_ofString? _
    · exact plain_ofString? _
    · exact plain_ofString? _
  intro text htext
  rw [hplain.read?_texts text htext]
  rfl

/-- The report of a failure is read back as its three members. -/
theorem FailureReason.read?_report (reason : FailureReason) (carrier : CarrierId)
    (description : String) :
    ∀ text ∈ [(reason.report carrier description).compact,
        (reason.report carrier description).indented], read? text = some (.object [
      ("carrier_id", .int carrier.toInt),
      ("description", .string description),
      ("reason", .string reason.code)]) := by
  have hplain : Plain maxDepth (reason.report carrier description) := by
    apply Plain.ofMembers
    intro entry hmem
    simp only [List.mem_cons, List.not_mem_nil, or_false] at hmem
    rcases hmem with rfl | rfl | rfl
    · exact .int carrier.fitsNumber
    · exact .string _
    · exact .string _
  intro text htext
  rw [hplain.read?_texts text htext]
  rfl

/-- Each text that is handed out is read back as exactly what was put into it, whatever the texts
inside it are; only a span of time has to fit its 64 bits.  A request is written on one line, and
there is none while the device is unknown; a report may also be spread over several lines. -/
theorem written_reads_back (s : Subscriber) (token response : Option String) (carrier : CarrierId)
    (r : Record) (httl : r.ttl ≤ Millis.longest) (reason : FailureReason) (description : String) :
    s.challengeRequest?.map (fun body => read? body.compact) =
      s.deviceId?.map (fun deviceId => some (.array [.object (s.members deviceId none none)])) ∧
    (s.pseudonymRequest? token response).map (fun body => read? body.compact) =
      s.deviceId?.map (fun deviceId => some (.array [
        .object (s.members deviceId token response),
        .object [("message-id", .int 2), ("method", .string "getImsiPseudonym")]])) ∧
    (∀ text ∈ [(r.report carrier).compact, (r.report carrier).indented],
      read? text = some (.object [
        ("acquired_at", .ofString? r.acquiredAt.text?),
        ("carrier_id", .int carrier.toInt),
        ("expires_at", .ofString? r.expiresAt.text?),
        ("pseudonym", .string r.pseudonym),
        ("refresh_at", .ofString? r.refreshAt.text?),
        ("ttl_millis", .int r.ttl)])) ∧
    ∀ text ∈ [(reason.report carrier description).compact,
        (reason.report carrier description).indented],
      read? text = some (.object [
        ("carrier_id", .int carrier.toInt),
        ("description", .string description),
        ("reason", .string reason.code)]) := by
  refine ⟨s.read?_challengeRequest?, s.read?_pseudonymRequest? token response, ?_, ?_⟩
  · exact r.read?_report httl carrier
  · exact reason.read?_report carrier description

/-- A pseudonym that would close its string and add a member, if it were not escaped. -/
def Rehearsed.record : Record where
  pseudonym := "\",\"ttl_millis\":\"\\"
  owner := ⟨"001010000000009", by decide, by decide⟩
  ttl := Millis.longest
  ttl_pos := by decide
  acquiredAt := Instant.last

/-- A subscriber whose device model would begin another entry. -/
def Rehearsed.subscriber : Subscriber where
  imsi := Rehearsed.record.owner
  simOperator := some "00101"
  imei := some "35209900176148"
  softwareVersion := some "\"\\"
  deviceModel := "\"\x7d,\x7b\"message-id\":2,\"\x00\u20ac"

theorem Rehearsed.deviceId?_eq : subscriber.deviceId? = some "MzUyMDk5MDAxNzYxNDgiXA==" := by
  decide +kernel

theorem Rehearsed.networkIdentity?_eq : subscriber.networkIdentity? =
    some "0001010000000009@nai.epc.mnc01.mcc001.3gppnetwork.org" := by
  decide +kernel

theorem hostile_written_reads_back :
    Rehearsed.record.ttl ≤ Millis.longest ∧
    read? (Rehearsed.record.report ⟨-1⟩).compact = some (.object [
      ("acquired_at", .null),
      ("carrier_id", .int (-1)),
      ("expires_at", .null),
      ("pseudonym", .string "\",\"ttl_millis\":\"\\"),
      ("refresh_at", .null),
      ("ttl_millis", .int 9223372036854775807)]) ∧
    (Rehearsed.subscriber.pseudonymRequest? (some "\",\"aka-token\":\"") (some "\\\"\n\x7d]")).map
      (fun body => read? body.compact) = some (some (.array [
        .object [
          ("aka-challenge-rsp", .string "\\\"\n\x7d]"),
          ("aka-token", .string "\",\"aka-token\":\""),
          ("device-id", .string "MzUyMDk5MDAxNzYxNDgiXA=="),
          ("device-name", .string "\"\x7d,\x7b\"message-id\":2,\"\x00\u20ac"),
          ("device-type", .int 0),
          ("imsi-eap", .string "0001010000000009@nai.epc.mnc01.mcc001.3gppnetwork.org"),
          ("message-id", .int 1),
          ("method", .string "3gppAuthentication"),
          ("os-type", .int 0)],
        .object [("message-id", .int 2), ("method", .string "getImsiPseudonym")]])) := by
  have httl : Rehearsed.record.ttl ≤ Millis.longest := Int.le_refl _
  obtain ⟨-, hrequest, hrecord, -⟩ := written_reads_back Rehearsed.subscriber
    (some "\",\"aka-token\":\"") (some "\\\"\n\x7d]") ⟨-1⟩ Rehearsed.record httl .transient ""
  -- no date of the calendar is as late as the last instant
  have hacquired : Rehearsed.record.acquiredAt.text? = none := by decide +kernel
  have hexpires : Rehearsed.record.expiresAt.text? = none := by decide +kernel
  have hrefresh : Rehearsed.record.refreshAt.text? = none := by decide +kernel
  rw [hacquired, hexpires, hrefresh] at hrecord
  rw [Rehearsed.deviceId?_eq, Option.map_some, Subscriber.members,
    Rehearsed.networkIdentity?_eq] at hrequest
  exact ⟨httl, hrecord _ List.mem_cons_self, hrequest⟩

end ImsiPseudonym
