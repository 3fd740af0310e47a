import Mathlib.Data.List.DropRight
import ImsiPseudonym.Proofs.Engine.Content
import ImsiPseudonym.Proofs.Json.Documents
import ImsiPseudonym.Text.Pieces

/-!
The two identities in a request: the device, and the network identity of the SIM.  Each can be read
back from its text, so that no two devices or SIMs are taken for one another.
-/
namespace ImsiPseudonym

open Text Json

theorem Base64.encodeText_injective {bytes others : List UInt8}
    (h : encodeText bytes = encodeText others) : bytes = others := by
  have hchars : encode bytes = encode others := String.ofList_injective h
  have hdecoded := decode_encode bytes
  rw [hchars, decode_encode] at hdecoded
  exact (Option.some.inj hdecoded).symm

namespace Subscriber

/-- The text behind a device identity: what is sent of the IMEI, and the software version. -/
def deviceText (imei version : String) : String :=
  String.ofList (imei.toList.take 14 ++ version.toList)

variable {s s' : Subscriber} {imei imei' version version' : String}

/-- The device of a subscriber is known as this one. -/
structure HasDevice (s : Subscriber) (imei version : String) : Prop where
  imei_eq : s.imei = some imei
  imei_ne : imei ≠ ""
  version_eq : s.softwareVersion = some version
  version_ne : version ≠ ""

theorem HasDevice.deviceId?_eq (h : s.HasDevice imei version) :
    s.deviceId? = some (Base64.encodeText (Utf8.encode (deviceText imei version))) := by
  have himei : nonEmpty? s.imei = some imei := nonEmpty?_eq_some_iff.mpr ⟨h.imei_eq, h.imei_ne⟩
  have hversion : nonEmpty? s.softwareVersion = some version :=
    nonEmpty?_eq_some_iff.mpr ⟨h.version_eq, h.version_ne⟩
  simp only [deviceId?, himei, hversion]
  rfl

theorem decode?_encodeText (bytes : List UInt8) :
    Base64.decode? (Base64.encodeText bytes).toList = some bytes := by
  rw [Base64.encodeText, String.toList_ofList, Base64.decode_encode]

/-- IMEIs that are sent in full give away where the software version begins. -/
theorem deviceText_injective (himei : 14 ≤ imei.toList.length) (himei' : 14 ≤ imei'.toList.length)
    (h : deviceText imei version = deviceText imei' version') :
    imei.toList.take 14 = imei'.toList.take 14 ∧ version = version' := by
  have hchars := String.ofList_injective h
  have hlength : (imei.toList.take 14).length = (imei'.toList.take 14).length := by
    rw [List.length_take_of_le himei, List.length_take_of_le himei']
  obtain ⟨hsent, hversion⟩ := List.append_inj hchars hlength
  exact ⟨hsent, String.toList_injective hversion⟩

/-- Of the IMEI only the characters that are sent count. -/
theorem deviceId?_of_take_eq (himei : s.imei = some imei)
    (h : imei'.toList.take 14 = imei.toList.take 14) :
    deviceId? { s with imei := some imei' } = s.deviceId? := by
  have hempty : imei' = "" ↔ imei = "" := by
    rw [← String.toList_eq_nil_iff, ← String.toList_eq_nil_iff]
    have hnil (cs : List Char) : cs.take 14 = [] ↔ cs = [] := by simp
    rw [← hnil, h, hnil]
  unfold deviceId?
  by_cases hne : imei = ""
  · simp [himei, hne, hempty.mpr hne]
  · have hsome : nonEmpty? (some imei) = some imei := nonEmpty?_eq_some_iff.mpr ⟨rfl, hne⟩
    have hsome' : nonEmpty? (some imei') = some imei' :=
      nonEmpty?_eq_some_iff.mpr ⟨rfl, mt hempty.mp hne⟩
    simp [himei, hsome, hsome', sentImeiChars, h]

/-- The request is one that the subscriber makes: for a challenge, or for the pseudonym with some
credentials. -/
def Sends (s : Subscriber) (r : Request) : Prop :=
  s.challengeRequest? = some r.body ∨
    ∃ token response, s.pseudonymRequest? token response = some r.body

theorem authenticationEntry?_of_deviceId?_eq {imei : Option String}
    (h : deviceId? { s with imei } = s.deviceId?) (token response : Option String) :
    authenticationEntry? { s with imei } token response = s.authenticationEntry? token response := by
  rw [authenticationEntry?_eq, authenticationEntry?_eq, h]
  rfl

theorem challengeRequest?_of_deviceId?_eq {imei : Option String}
    (h : deviceId? { s with imei } = s.deviceId?) :
    challengeRequest? { s with imei } = s.challengeRequest? := by
  rw [challengeRequest?, challengeRequest?, authenticationEntry?_of_deviceId?_eq h]

theorem pseudonymRequest?_of_deviceId?_eq {imei : Option String}
    (h : deviceId? { s with imei } = s.deviceId?) (token response : Option String) :
    pseudonymRequest? { s with imei } token response = s.pseudonymRequest? token response := by
  rw [pseudonymRequest?, pseudonymRequest?, authenticationEntry?_of_deviceId?_eq h]

theorem get?_members (s : Subscriber) (deviceId : String) (token response : Option String) :
    Table.get? (s.members deviceId token response) "device-id" = some (.string deviceId) ∧
      Table.get? (s.members deviceId token response) "imsi-eap" =
        s.networkIdentity?.map Value.string := by
  unfold members
  cases s.networkIdentity? <;> cases nonEmpty? token <;> cases nonEmpty? response <;>
    simp [member?, Table.get?_cons]

/-- Each request begins with the two identities. -/
theorem Sends.identities {r : Request} (h : s.Sends r) :
    ∃ deviceId, s.deviceId? = some deviceId ∧ r.member? "device-id" = some (.string deviceId) ∧
      r.member? "imsi-eap" = s.networkIdentity?.map Value.string := by
  have hentry : ∃ token response v others,
      s.authenticationEntry? token response = some v ∧ r.body = .array (v :: others) := by
    rcases h with h | ⟨token, response, h⟩
    · obtain ⟨v, hv, hbody⟩ := Option.bind_eq_some_iff.mp h
      exact ⟨none, none, v, [], hv, (Option.some.inj hbody).symm⟩
    · obtain ⟨v, hv, hbody⟩ := Option.bind_eq_some_iff.mp h
      exact ⟨token, response, v, [pseudonymEntry], hv, (Option.some.inj hbody).symm⟩
  obtain ⟨token, response, v, others, hv, hbody⟩ := hentry
  rw [authenticationEntry?_eq] at hv
  obtain ⟨deviceId, hdevice, rfl⟩ := Option.map_eq_some_iff.mp hv
  obtain ⟨hdeviceId, hnetwork⟩ := s.get?_members deviceId token response
  refine ⟨deviceId, hdevice, ?_, ?_⟩
  · rw [Request.member?, hbody]
    exact hdeviceId
  · rw [Request.member?, hbody]
    exact hnetwork

/-- An operator code that makes a network identity. -/
structure IsOperator (operator : String) : Prop where
  size : 5 ≤ operator.utf8ByteSize
  ascii : ∀ c ∈ operator.toList, c.toNat < 128

/-- What stands between the IMSI and the network code. -/
def realmStart : List Char := "@nai.epc.mnc".toList

/-- What stands between the network code and the country code. -/
def countryMark : List Char := ".mcc".toList

/-- What stands behind the country code. -/
def realmEnd : List Char := ".3gppnetwork.org".toList

/-- A network identity, by its parts. -/
def networkText (imsi country network : List Char) : List Char :=
  '0' :: (imsi ++ (realmStart ++ (network ++ (countryMark ++ (country ++ realmEnd)))))

variable {operator text : String}

theorem isOperator_iff :
    IsOperator operator ↔ ¬ (operator.utf8ByteSize < minOperatorLength ∨
      (!operator.toList.all (·.toNat < 0x80)) = true) := by
  simp only [not_or, Nat.not_lt, Bool.not_eq_true', Bool.not_eq_false, List.all_eq_true,
    decide_eq_true_eq]
  exact ⟨fun h => ⟨h.size, h.ascii⟩, fun h => ⟨h.1, h.2⟩⟩

theorem toList_identity (imsi country network : String) :
    s!"0{imsi}@nai.epc.mnc{network}.mcc{country}.3gppnetwork.org".toList =
      networkText imsi.toList country.toList network.toList := by
  unfold networkText realmStart countryMark realmEnd
  simp [toString]

theorem networkIdentity?_eq (hoperator : s.simOperator = some operator) :
    s.networkIdentity? = if operator.utf8ByteSize < minOperatorLength ∨
        (!operator.toList.all (·.toNat < 0x80)) = true then none
      else some (String.ofList (networkText s.imsi.digits.toList (operator.toList.take 3)
        (operator.toList.drop 3))) := by
  unfold networkIdentity?
  rw [hoperator, Option.bind_eq_bind, Option.bind_some]
  split
  · rfl
  · apply congrArg some
    apply String.toList_injective
    rw [toList_identity, String.toList_ofList, String.toList_ofList, String.toList_ofList]

/-- A network identity takes an operator code that can be split. -/
theorem networkIdentity?_eq_some_iff :
    s.networkIdentity? = some text ↔ ∃ operator, s.simOperator = some operator ∧
      IsOperator operator ∧ text = String.ofList
        (networkText s.imsi.digits.toList (operator.toList.take 3) (operator.toList.drop 3)) := by
  cases hoperator : s.simOperator with
  | none => simp [networkIdentity?, hoperator]
  | some operator =>
      rw [networkIdentity?_eq hoperator]
      by_cases h : IsOperator operator
      · rw [if_neg (isOperator_iff.mp h), Option.some.injEq, eq_comm]
        constructor
        · intro htext
          exact ⟨operator, rfl, h, htext⟩
        · rintro ⟨other, hother, -, htext⟩
          cases hother
          exact htext
      · rw [if_pos (not_not.mp (mt isOperator_iff.mpr h))]
        simp [h]

theorem networkIdentity?_ne_none_iff :
    s.networkIdentity? ≠ none ↔ ∃ operator, s.simOperator = some operator ∧ IsOperator operator := by
  rw [Option.ne_none_iff_exists']
  constructor
  · rintro ⟨text, htext⟩
    obtain ⟨operator, hoperator, hok, -⟩ := networkIdentity?_eq_some_iff.mp htext
    exact ⟨operator, hoperator, hok⟩
  · rintro ⟨operator, hoperator, hok⟩
    exact ⟨_, networkIdentity?_eq_some_iff.mpr ⟨operator, hoperator, hok, rfl⟩⟩

theorem IsOperator.le_length (h : IsOperator operator) : 5 ≤ operator.toList.length := by
  have hbytes := Utf8.length_encode operator
  rw [Utf8.length_encode_of_ascii h.ascii] at hbytes
  exact hbytes ▸ h.size

/-- The country code is the first three bytes, and ends where a character ends. -/
theorem IsOperator.splits (h : IsOperator operator) :
    (⟨3⟩ : String.Pos.Raw).IsValid operator ∧
      Utf8.encode (String.ofList (operator.toList.take 3)) = (Utf8.encode operator).take 3 ∧
      Utf8.encode (String.ofList (operator.toList.drop 3)) = (Utf8.encode operator).drop 3 := by
  have hjoin : String.ofList (operator.toList.take 3) ++ String.ofList (operator.toList.drop 3) =
      operator := by
    rw [← String.ofList_append, List.take_append_drop, String.ofList_toList]
  have hascii : ∀ c ∈ (String.ofList (operator.toList.take 3)).toList, c.toNat < 0x80 := by
    intro c hc
    rw [String.toList_ofList] at hc
    exact h.ascii c (List.mem_of_mem_take hc)
  have hlength : (Utf8.encode (String.ofList (operator.toList.take 3))).length = 3 := by
    have hle := h.le_length
    rw [Utf8.length_encode_of_ascii hascii, String.toList_ofList, List.length_take_of_le (by omega)]
  have hbytes := congrArg Utf8.encode hjoin
  rw [Utf8.encode_append] at hbytes
  refine ⟨?_, ?_, ?_⟩
  · rw [String.Pos.Raw.isValid_iff_exists_append]
    refine ⟨_, _, hjoin.symm, ?_⟩
    rw [Utf8.length_encode] at hlength
    rw [String.Pos.Raw.ext_iff, String.byteIdx_rawEndPos, hlength]
  · rw [← hbytes, List.take_left' hlength]
  · rw [← hbytes, List.drop_left' hlength]

/-- What a network identity says. -/
structure NetworkIdentity where
  imsi : List Char
  country : List Char
  network : List Char
deriving DecidableEq

/-- Reads a network identity.  The IMSI ends before the first character that is no digit, and the
country code has three characters; what is between them is the network code. -/
def NetworkIdentity.ofText (text : List Char) : NetworkIdentity :=
  let imsi := (text.drop 1).takeWhile Char.isDigit
  let realm := (text.drop (1 + imsi.length + realmStart.length)).rdrop realmEnd.length
  ⟨imsi, realm.rtake 3, realm.rdrop (3 + countryMark.length)⟩

theorem NetworkIdentity.ofText_eq {imsi country network : List Char}
    (himsi : imsi.all Char.isDigit = true) (hcountry : country.length = 3) :
    ofText (networkText imsi country network) = ⟨imsi, country, network⟩ := by
  have hread (realm : List Char) :
      (imsi ++ (realmStart ++ realm)).takeWhile Char.isDigit = imsi := by
    have hstart : realmStart ++ realm = '@' :: (realmStart.tail ++ realm) := rfl
    exact (span_append (List.all_eq_true.mp himsi) (by simp [hstart])).1
  have hrealm (realm : List Char) : ('0' :: (imsi ++ (realmStart ++ realm))).drop
      (1 + imsi.length + realmStart.length) = realm := by
    rw [← List.append_assoc, ← List.cons_append]
    apply List.drop_left'
    simp only [List.length_cons, List.length_append]
    omega
  have hfront : network ++ (countryMark ++ (country ++ realmEnd)) =
      network ++ countryMark ++ country ++ realmEnd := by
    simp only [List.append_assoc]
  have hlast : (network ++ countryMark ++ country).rtake 3 = country := by
    apply List.drop_left'
    simp only [List.length_append, hcountry, Nat.add_sub_cancel]
  have hfirst : (network ++ countryMark ++ country).rdrop (3 + countryMark.length) = network := by
    rw [← hcountry, List.rdrop_append_length_add, List.rdrop_append_length]
  simp only [networkText, ofText, List.drop_one, List.tail_cons, hread, hrealm, hfront]
  rw [List.rdrop_append_length, hlast, hfirst]

theorem ofText_networkIdentity? (hoperator : s.simOperator = some operator)
    (htext : s.networkIdentity? = some text) : NetworkIdentity.ofText text.toList =
      ⟨s.imsi.digits.toList, operator.toList.take 3, operator.toList.drop 3⟩ := by
  obtain ⟨other, hother, hok, rfl⟩ := networkIdentity?_eq_some_iff.mp htext
  cases hoperator.symm.trans hother
  rw [String.toList_ofList]
  apply NetworkIdentity.ofText_eq s.imsi.digits_ok
  have hlength := hok.le_length
  exact List.length_take_of_le (by omega)

/-- Subscribers of one network identity have one IMSI and one operator code. -/
theorem networkIdentity?_injective (htext : s.networkIdentity? = some text)
    (htext' : s'.networkIdentity? = some text) :
    s.imsi = s'.imsi ∧ s.simOperator = s'.simOperator := by
  obtain ⟨operator, hoperator, -⟩ := networkIdentity?_eq_some_iff.mp htext
  obtain ⟨operator', hoperator', -⟩ := networkIdentity?_eq_some_iff.mp htext'
  have hparts := ofText_networkIdentity? hoperator htext
  rw [ofText_networkIdentity? hoperator' htext'] at hparts
  injection hparts with himsi hcountry hnetwork
  constructor
  · exact Imsi.digits_injective (String.toList_injective himsi).symm
  · rw [hoperator, hoperator']
    apply congrArg some
    apply String.toList_injective
    rw [← List.take_append_drop 3 operator.toList, ← hcountry, ← hnetwork, List.take_append_drop]

/-- Each request names the device by the first fourteen characters of the IMEI and the software
version, and no character of the IMEI behind these counts; and it names the SIM, if its operator code
is ASCII and has at least five bytes.  Both names can be read back. -/
theorem identities_read_back (s : Subscriber) :
    (∀ imei version, s.HasDevice imei version →
      s.challengeRequest? ≠ none ∧ (∀ token response, s.pseudonymRequest? token response ≠ none) ∧
      ∃ deviceId, Base64.decode? deviceId.toList =
          some (Utf8.encode (String.ofList (imei.toList.take 14 ++ version.toList))) ∧
        ∀ r, s.Sends r → r.member? "device-id" = some (.string deviceId)) ∧
    (∀ imei imei', s.imei = some imei → imei'.toList.take 14 = imei.toList.take 14 →
      challengeRequest? { s with imei := some imei' } = s.challengeRequest? ∧
      ∀ token response, pseudonymRequest? { s with imei := some imei' } token response =
        s.pseudonymRequest? token response) ∧
    (∀ s' : Subscriber, ∀ imei version imei' version', s.HasDevice imei version →
      s'.HasDevice imei' version' → 14 ≤ imei.toList.length → 14 ≤ imei'.toList.length →
      s.deviceId? = s'.deviceId? → imei.toList.take 14 = imei'.toList.take 14 ∧
        version = version') ∧
    (∀ r, s.Sends r → r.member? "imsi-eap" = s.networkIdentity?.map Value.string) ∧
    (s.networkIdentity? ≠ none ↔ ∃ operator, s.simOperator = some operator ∧
      5 ≤ operator.utf8ByteSize ∧ ∀ c ∈ operator.toList, c.toNat < 128) ∧
    (∀ operator text, s.simOperator = some operator → s.networkIdentity? = some text →
      NetworkIdentity.ofText text.toList =
        ⟨s.imsi.digits.toList, operator.toList.take 3, operator.toList.drop 3⟩ ∧
      (⟨3⟩ : String.Pos.Raw).IsValid operator ∧
      Utf8.encode (String.ofList (operator.toList.take 3)) = (Utf8.encode operator).take 3 ∧
      Utf8.encode (String.ofList (operator.toList.drop 3)) = (Utf8.encode operator).drop 3) ∧
    (∀ s' : Subscriber, s.networkIdentity? ≠ none → s.networkIdentity? = s'.networkIdentity? →
      s.imsi = s'.imsi ∧ s.simOperator = s'.simOperator) := by
  refine ⟨?_, ?_, ?_, ?_, ?_, ?_, ?_⟩
  · intro imei version h
    have hsome : s.deviceId? ≠ none := by
      rw [h.deviceId?_eq]
      exact Option.some_ne_none _
    refine ⟨mt challengeRequest?_eq_none_iff.mp hsome,
      fun token response => mt pseudonymRequest?_eq_none_iff.mp hsome,
      _, decode?_encodeText _, ?_⟩
    intro r hr
    obtain ⟨deviceId, hdeviceId, hmember, -⟩ := hr.identities
    rw [hmember, Option.some.inj (hdeviceId.symm.trans h.deviceId?_eq)]
    rfl
  · intro imei imei' himei htake
    have hdevice := deviceId?_of_take_eq himei htake
    exact ⟨challengeRequest?_of_deviceId?_eq hdevice, pseudonymRequest?_of_deviceId?_eq hdevice⟩
  · intro s' imei version imei' version' h h' hlength hlength' hequal
    rw [h.deviceId?_eq, h'.deviceId?_eq] at hequal
    have htext := Utf8.encode_injective (Base64.encodeText_injective (Option.some.inj hequal))
    exact deviceText_injective hlength hlength' htext
  · intro r hr
    obtain ⟨-, -, -, hmember⟩ := hr.identities
    exact hmember
  · rw [networkIdentity?_ne_none_iff]
    constructor
    · rintro ⟨operator, hoperator, hok⟩
      exact ⟨operator, hoperator, hok.size, hok.ascii⟩
    · rintro ⟨operator, hoperator, hsize, hascii⟩
      exact ⟨operator, hoperator, hsize, hascii⟩
  · intro operator text hoperator htext
    refine ⟨ofText_networkIdentity? hoperator htext, ?_⟩
    obtain ⟨other, hother, hok, -⟩ := networkIdentity?_eq_some_iff.mp htext
    cases hoperator.symm.trans hother
    exact hok.splits
  · intro s' hsome hequal
    obtain ⟨text, htext⟩ := Option.ne_none_iff_exists'.mp hsome
    exact networkIdentity?_injective htext (hequal.symm.trans htext)

/-- A subscriber with marks of the network identity in its operator code, and an IMEI with a character
of three bytes among those that are sent. -/
def Rehearsed.odd : Subscriber where
  imsi := ⟨"001010000000011", by decide, by decide⟩
  simOperator := some "@.m.mcc@"
  imei := some "3520990017614\u20ac123"
  softwareVersion := some "01"
  deviceModel := ""

theorem odd_identities_read_back :
    Rehearsed.odd.HasDevice "3520990017614\u20ac123" "01" ∧
    (∃ deviceId, Base64.decode? deviceId.toList = some (Utf8.encode "3520990017614\u20ac01") ∧
      ∀ r, Rehearsed.odd.Sends r → r.member? "device-id" = some (.string deviceId)) ∧
    challengeRequest? { Rehearsed.odd with imei := some "3520990017614\u20ac9" } =
      Rehearsed.odd.challengeRequest? ∧
    ∃ text, Rehearsed.odd.networkIdentity? = some text ∧ NetworkIdentity.ofText text.toList =
      ⟨"001010000000011".toList, "@.m".toList, ".mcc@".toList⟩ := by
  obtain ⟨hdevice, himei, -, -, hpresent, hparts, -⟩ := identities_read_back Rehearsed.odd
  have hhas : Rehearsed.odd.HasDevice "3520990017614\u20ac123" "01" :=
    ⟨rfl, by decide, rfl, by decide⟩
  have hoperator : Rehearsed.odd.networkIdentity? ≠ none :=
    hpresent.mpr ⟨"@.m.mcc@", rfl, by decide, by simp⟩
  obtain ⟨text, htext⟩ := Option.ne_none_iff_exists'.mp hoperator
  obtain ⟨-, -, hid⟩ := hdevice _ _ hhas
  exact ⟨hhas, hid, (himei _ _ rfl (by decide)).1, text, htext, (hparts _ _ rfl htext).1⟩

end Subscriber
end ImsiPseudonym
