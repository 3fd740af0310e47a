import Mathlib.Data.Option.Basic
import Mathlib.Tactic.MkIffOfInductiveProp
import ImsiPseudonym.Engine
import ImsiPseudonym.Manager.Basic
import ImsiPseudonym.Message.Response
import ImsiPseudonym.Proofs.Text.Unambiguous

/-!
What diagnostic text and log lines give away.  Two values have the same text exactly if they are alike
in what is shown of them, so nothing else can be learned from it: of an IMSI no digit but the last
three, of a pseudonym no character behind the seventh, and neither a token nor an IMEI.
-/
namespace ImsiPseudonym

open Text Diagnostic

/-- The last three digits. -/
def Imsi.shown (imsi : Imsi) : List Char :=
  (imsi.digits.toList.reverse.take 3).reverse

theorem Imsi.toList_masked (imsi : Imsi) :
    imsi.masked.toList = '*' :: '*' :: '*' :: imsi.shown := by
  have hmasked : imsi.masked.toList =
      "***".toList ++ imsi.digits.toList.drop (imsi.digits.toList.length - 3) :=
    String.toList_ofList
  rw [hmasked, shown, List.take_reverse, List.reverse_reverse]
  rfl

theorem Imsi.shows (imsi other : Imsi) :
    Shows imsi.diagnostic other.diagnostic (imsi.shown = other.shown) := by
  apply ((shows_quoted imsi.masked other.masked).applied "Imsi").congr
  rw [← String.toList_inj, toList_masked, toList_masked]
  simp

theorem CarrierId.shows (c c' : CarrierId) : Shows c.diagnostic c'.diagnostic (c = c') :=
  ((shows_intText c.toInt c'.toInt).applied "CarrierId").congr
    ⟨toInt_injective, fun hc => congrArg toInt hc⟩

theorem ResponseCode.shows (c c' : ResponseCode) : Shows c.diagnostic c'.diagnostic (c = c') := by
  apply ((shows_intText c.code c'.code).applied "ResponseCode").congr
  cases c
  cases c'
  rw [mk.injEq]

theorem Imsi.isDigit_of_mem_shown {imsi : Imsi} {c : Char} (hc : c ∈ imsi.shown) :
    c.isDigit = true := by
  have hmem := List.mem_of_mem_take (List.mem_reverse.mp hc)
  exact List.all_eq_true.mp imsi.digits_ok c (List.mem_reverse.mp hmem)

theorem Imsi.length_shown (imsi : Imsi) : imsi.shown.length = 3 := by
  have hascii : ∀ c ∈ imsi.digits.toList, c.toNat < 0x80 := by
    intro c hc
    have hdigit := List.all_eq_true.mp imsi.digits_ok c hc
    have hle : c.toNat ≤ 0x39 := by
      simp only [Char.isDigit, ge_iff_le, Bool.and_eq_true, decide_eq_true_eq] at hdigit
      exact UInt32.le_iff_toNat_le.mp hdigit.2
    omega
  have hbytes := Utf8.length_encode imsi.digits
  rw [Utf8.length_encode_of_ascii hascii] at hbytes
  obtain ⟨hmin, -⟩ := imsi.length_ok
  unfold minLength at hmin
  rw [shown, List.length_reverse, List.length_take, List.length_reverse]
  omega

/-- Two pseudonyms are the same, or they have seven characters or more and agree in the first seven. -/
def SameStart (p q : String) : Prop :=
  p = q ∨ 7 ≤ p.toList.length ∧ 7 ≤ q.toList.length ∧ p.toList.take 7 = q.toList.take 7

variable {p q : String}

theorem maskPseudonym_of_le (h : 7 ≤ p.toList.length) :
    (maskPseudonym p).toList = p.toList.take 7 ++ "***".toList := by
  have hlong : shownPseudonymChars ≤ p.toList.length := h
  rw [maskPseudonym, if_pos hlong, String.toList_ofList]
  rfl

theorem maskPseudonym_of_lt (h : p.toList.length < 7) : maskPseudonym p = p :=
  if_neg (Nat.not_le.mpr h)

theorem length_maskPseudonym_of_le (h : 7 ≤ p.toList.length) :
    (maskPseudonym p).toList.length = 10 := by
  rw [maskPseudonym_of_le h, List.length_append, List.length_take_of_le h]
  rfl

theorem length_maskPseudonym_le (p : String) : (maskPseudonym p).toList.length ≤ 10 := by
  by_cases h : 7 ≤ p.toList.length
  · exact Nat.le_of_eq (length_maskPseudonym_of_le h)
  · rw [maskPseudonym_of_lt (by omega)]
    omega

theorem maskPseudonym_eq_iff : maskPseudonym p = maskPseudonym q ↔ SameStart p q := by
  constructor
  · intro h
    have hlength : (maskPseudonym p).toList.length = (maskPseudonym q).toList.length := by rw [h]
    by_cases hp : 7 ≤ p.toList.length
    · by_cases hq : 7 ≤ q.toList.length
      · have hchars := congrArg String.toList h
        rw [maskPseudonym_of_le hp, maskPseudonym_of_le hq] at hchars
        exact .inr ⟨hp, hq, List.append_cancel_right hchars⟩
      · rw [length_maskPseudonym_of_le hp, maskPseudonym_of_lt (p := q) (by omega)] at hlength
        omega
    · by_cases hq : 7 ≤ q.toList.length
      · rw [length_maskPseudonym_of_le hq, maskPseudonym_of_lt (p := p) (by omega)] at hlength
        omega
      · rw [maskPseudonym_of_lt (by omega), maskPseudonym_of_lt (by omega)] at h
        exact .inl h
  · rintro (rfl | ⟨hp, hq, htake⟩)
    · rfl
    · apply String.toList_injective
      rw [maskPseudonym_of_le hp, maskPseudonym_of_le hq, htake]

/-- Seven characters are enough for the mask. -/
example : maskPseudonym "310260é" = "310260é***" := by decide

/-- Two records are alike in what is shown of them. -/
@[mk_iff]
structure Record.Alike (r r' : Record) : Prop where
  pseudonym : SameStart r.pseudonym r'.pseudonym
  owner : r.owner.shown = r'.owner.shown
  ttl : r.ttl = r'.ttl
  acquiredAt : r.acquiredAt = r'.acquiredAt

namespace Record

variable {r r' : Record}

theorem Alike.refreshAhead (h : r.Alike r') : r.refreshAhead = r'.refreshAhead := by
  rw [Grant.refreshAhead, Grant.refreshAhead, h.ttl]

theorem shows (r r' : Record) : Shows r.diagnostic r'.diagnostic (r.Alike r') := by
  have hfields : Shows r.diagnostic r'.diagnostic _ := .structured "PseudonymRecord" <|
    .cons ((shows_quoted r.masked r'.masked).congr maskPseudonym_eq_iff) <|
    .cons (r.owner.shows r'.owner) <|
    .cons (shows_intText r.ttl r'.ttl) <|
    .cons (shows_intText r.acquiredAt r'.acquiredAt) .nil
  exact hfields.congr (by simp [alike_iff])

/-- What stands behind the pseudonym on a log line. -/
def behindPseudonym (owner : List Char) (acquiredAt ttl ahead : Int) : List Char :=
  "imsi=***".toList ++ (owner ++ (" acquired_at=".toList ++ (Decimal.intDigits acquiredAt ++
    (" ttl=".toList ++ (Decimal.intDigits ttl ++ ("ms refresh_ahead=".toList ++
      (Decimal.intDigits ahead ++ "ms".toList)))))))

theorem toList_text (r : Record) :
    r.text.toList = "pseudonym=".toList ++ ((maskPseudonym r.pseudonym).toList ++
      ' ' :: behindPseudonym r.owner.shown r.acquiredAt r.ttl r.refreshAhead) := by
  delta text behindPseudonym
  simp [toString, Grant.masked, Imsi.toList_masked, Decimal.intText]

theorem eq_nil_of_space_cons {w x y : List Char} (hw : w.length ≤ 10) (hx : ' ' ∉ x.take 10)
    (h : ' ' :: x = w ++ ' ' :: y) : w = [] := by
  cases w with
  | nil => rfl
  | cons c w =>
      have hx' : x = w ++ ' ' :: y := (List.cons.inj h).2
      rw [List.length_cons] at hw
      apply absurd _ hx
      rw [hx', List.take_append, List.take_of_length_le (by omega)]
      obtain ⟨k, hk⟩ : ∃ k, 10 - w.length = k + 1 := ⟨9 - w.length, by omega⟩
      rw [hk, List.take_succ_cons]
      exact List.mem_append_right w List.mem_cons_self

/-- A short text ends at a space, if behind the space there is none for long enough. -/
theorem eq_of_append_space {u v x y : List Char} (hu : u.length ≤ 10) (hv : v.length ≤ 10)
    (hx : ' ' ∉ x.take 10) (hy : ' ' ∉ y.take 10) (h : u ++ ' ' :: x = v ++ ' ' :: y) :
    u = v ∧ x = y := by
  have huv : u = v := by
    rcases List.append_eq_append_iff.mp h with ⟨w, rfl, hw⟩ | ⟨w, rfl, hw⟩
    · have hlength : w.length ≤ 10 := by
        rw [List.length_append] at hv
        omega
      rw [eq_nil_of_space_cons hlength hx hw, List.append_nil]
    · have hlength : w.length ≤ 10 := by
        rw [List.length_append] at hu
        omega
      rw [eq_nil_of_space_cons hlength hy hw, List.append_nil]
  subst huv
  exact ⟨rfl, (List.cons.inj (List.append_cancel_left h)).2⟩

theorem space_not_mem_take_behindPseudonym (r : Record) (acquiredAt ttl ahead : Int) :
    ' ' ∉ (behindPseudonym r.owner.shown acquiredAt ttl ahead).take 10 := by
  unfold behindPseudonym
  rw [← List.append_assoc, List.take_append_of_le_length]
  · intro hmem
    rcases List.mem_append.mp (List.mem_of_mem_take hmem) with hmem | hmem
    · revert hmem
      decide
    · exact absurd (Imsi.isDigit_of_mem_shown hmem) (by decide)
  · rw [List.length_append, Imsi.length_shown]
    decide

theorem alike_of_text_eq (h : r.text = r'.text) : r.Alike r' := by
  have hchars := congrArg String.toList h
  rw [toList_text, toList_text, List.append_cancel_left_eq] at hchars
  obtain ⟨hmasked, hbehind⟩ := eq_of_append_space (length_maskPseudonym_le _)
    (length_maskPseudonym_le _) (r.space_not_mem_take_behindPseudonym _ _ _)
    (r'.space_not_mem_take_behindPseudonym _ _ _) hchars
  unfold behindPseudonym at hbehind
  rw [List.append_cancel_left_eq] at hbehind
  obtain ⟨howner, hbehind⟩ := append_inj_of_all (fun c => Imsi.isDigit_of_mem_shown)
    (fun c => Imsi.isDigit_of_mem_shown) (by simp) (by simp) hbehind
  rw [List.append_cancel_left_eq] at hbehind
  obtain ⟨hacquired, hbehind⟩ := intDigits_append_inj (by simp [isNumeric]) (by simp [isNumeric])
    hbehind
  rw [List.append_cancel_left_eq] at hbehind
  obtain ⟨httl, -⟩ := intDigits_append_inj (by simp [isNumeric]) (by simp [isNumeric]) hbehind
  exact ⟨maskPseudonym_eq_iff.mp (String.toList_injective hmasked), howner, httl, hacquired⟩

theorem text_eq_iff : r.text = r'.text ↔ r.Alike r' := by
  constructor
  · exact alike_of_text_eq
  · intro h
    apply String.toList_injective
    rw [toList_text, toList_text, maskPseudonym_eq_iff.mpr h.pseudonym, h.owner, h.refreshAhead,
      h.ttl, h.acquiredAt]

end Record

/-- Two states of a carrier are alike in what is shown of them. -/
@[mk_iff]
structure CarrierState.Alike (s s' : CarrierState) : Prop where
  record : Option.Rel Record.Alike s.record s'.record
  connectionRetries : s.connectionRetries = s'.connectionRetries
  serverRetries : s.serverRetries = s'.serverRetries
  lastFailure : s.lastFailure = s'.lastFailure

theorem CarrierState.shows (s s' : CarrierState) :
    Shows s.diagnostic s'.diagnostic (s.Alike s') := by
  have hfields : Shows s.diagnostic s'.diagnostic _ := .structured "CarrierState" <|
    .cons (.optional Record.shows s.record s'.record) <|
    .cons (shows_natText s.connectionRetries s'.connectionRetries) <|
    .cons (shows_natText s.serverRetries s'.serverRetries) <|
    .cons (shows_intText s.lastFailure s'.lastFailure) .nil
  exact hfields.congr (by simp [alike_iff])

/-- Two managers are alike in what is shown of them: they know the same carriers, whose states are
alike, and have equally many listeners. -/
@[mk_iff]
structure Manager.Alike (m m' : Manager) : Prop where
  carriers : List.Forall₂ (fun entry other => entry.1 = other.1 ∧ entry.2.Alike other.2)
    m.carriers m'.carriers
  listeners : m.listeners.length = m'.listeners.length

theorem CarrierId.ne_brace_of_mem_head? (c : CarrierId) :
    ∀ d ∈ c.diagnostic.toList.head?, d ≠ '\x7d' := by
  simp [diagnostic, applied]

theorem Manager.shows (m m' : Manager) : Shows m.diagnostic m'.diagnostic (m.Alike m') := by
  have hfields : Shows m.diagnostic m'.diagnostic _ := .structured "PseudonymManager" <|
    .cons (.mapped CarrierId.shows CarrierId.ne_brace_of_mem_head? CarrierState.shows
      m.carriers m'.carriers) <|
    .cons (shows_natText m.listeners.length m'.listeners.length) .nil
  exact hfields.congr (by simp [alike_iff])

/-- Two engines are alike in what is shown of them. -/
@[mk_iff]
structure Engine.Alike (e e' : Engine) : Prop where
  imsi : e.subscriber.imsi.shown = e'.subscriber.imsi.shown
  host : e.server.url.host.text = e'.server.url.host.text
  transportName : e.transportName = e'.transportName
  token : e.token.isSome = e'.token.isSome

theorem Engine.shows (e e' : Engine) : Shows e.diagnostic e'.diagnostic (e.Alike e') := by
  have hfields : Shows e.diagnostic e'.diagnostic _ := .structured "EntitlementEngine" <|
    .cons (e.subscriber.imsi.shows e'.subscriber.imsi) <|
    .cons ((shows_quoted e.server.url.host.text e'.server.url.host.text).applied "Some") <|
    .cons (shows_quoted e.transportName e'.transportName) <|
    .cons (shows_flag e.token.isSome e'.token.isSome) .nil
  exact hfields.congr (by simp [alike_iff])

/-- Two answers are alike in what is shown of them. -/
@[mk_iff]
structure PseudonymResponse.Alike (r r' : PseudonymResponse) : Prop where
  authCode : r.authCode = r'.authCode
  token : r.token.isSome = r'.token.isSome
  pseudonymCode : r.pseudonymCode = r'.pseudonymCode
  pseudonym : r.pseudonym.map String.utf8ByteSize = r'.pseudonym.map String.utf8ByteSize
  refreshHours : r.refreshHours = r'.refreshHours

theorem PseudonymResponse.shows (r r' : PseudonymResponse) :
    Shows r.diagnostic r'.diagnostic (r.Alike r') := by
  have hsize (p q : Option String) :
      Option.Rel (fun a b => a.utf8ByteSize = b.utf8ByteSize) p q ↔
        p.map String.utf8ByteSize = q.map String.utf8ByteSize := by
    cases p <;> cases q <;> simp
  have hfields : Shows r.diagnostic r'.diagnostic _ := .structured "PseudonymResponse" <|
    .cons (r.authCode.shows r'.authCode) <|
    .cons (shows_presence "[REDACTED]" r.token r'.token) <|
    .cons (r.pseudonymCode.shows r'.pseudonymCode) <|
    .cons (.optional (fun a b => shows_natText a.utf8ByteSize b.utf8ByteSize)
      r.pseudonym r'.pseudonym) <|
    .cons (.optional_eq shows_intText r.refreshHours r'.refreshHours) .nil
  exact hfields.congr (by simp [alike_iff, hsize])

/-- Two subscribers are alike in what is shown of them. -/
@[mk_iff]
structure Subscriber.Alike (s s' : Subscriber) : Prop where
  imsi : s.imsi.shown = s'.imsi.shown
  simOperator : s.simOperator = s'.simOperator
  imei : s.imei.isSome = s'.imei.isSome
  softwareVersion : s.softwareVersion = s'.softwareVersion
  deviceModel : s.deviceModel = s'.deviceModel

theorem Subscriber.shows (s s' : Subscriber) : Shows s.diagnostic s'.diagnostic (s.Alike s') := by
  have hfields : Shows s.diagnostic s'.diagnostic _ := .structured "SubscriberInfo" <|
    .cons (s.imsi.shows s'.imsi) <|
    .cons (.optional_eq shows_quoted s.simOperator s'.simOperator) <|
    .cons (shows_presence "[REDACTED]" s.imei s'.imei) <|
    .cons (.optional_eq shows_quoted s.softwareVersion s'.softwareVersion) <|
    .cons (shows_quoted s.deviceModel s'.deviceModel) .nil
  exact hfields.congr (by simp [alike_iff])

/-- A log line and each diagnostic text shows what its values are alike in, and nothing else. -/
theorem same_text_exactly_if_alike :
    (∀ r r' : Record, (r.text = r'.text ↔ r.Alike r') ∧
      (r.diagnostic = r'.diagnostic ↔ r.Alike r')) ∧
    (∀ m m' : Manager, m.diagnostic = m'.diagnostic ↔ m.Alike m') ∧
    (∀ e e' : Engine, e.diagnostic = e'.diagnostic ↔ e.Alike e') ∧
    (∀ r r' : PseudonymResponse, r.diagnostic = r'.diagnostic ↔ r.Alike r') ∧
    (∀ s s' : Subscriber, s.diagnostic = s'.diagnostic ↔ s.Alike s') :=
  ⟨fun r r' => ⟨Record.text_eq_iff, (r.shows r').eq_iff⟩, fun m m' => (m.shows m').eq_iff,
    fun e e' => (e.shows e').eq_iff, fun r r' => (r.shows r').eq_iff,
    fun s s' => (s.shows s').eq_iff⟩

end ImsiPseudonym
