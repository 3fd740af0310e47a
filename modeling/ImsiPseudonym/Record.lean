import ImsiPseudonym.Identity
import ImsiPseudonym.Instant

/-!
Pseudonyms and the time they last.  A grant is a pseudonym that stands in for an IMSI for a positive
span of time; a record is a grant with the instant at which it was acquired, from which follow the
instants at which it should be refreshed and at which it expires.
-/
namespace ImsiPseudonym

open Text

/-- The most bytes that one packet of the authentication protocol can carry. -/
def maxPseudonymBytes : Nat := 1020

/-- How many leading characters of a pseudonym are shown. -/
def shownPseudonymChars : Nat := 7

inductive RecordError where
  | nonPositiveTtl (ttl : Millis)
  | emptyPseudonym
  | pseudonymTooLong (bytes : Nat)
deriving DecidableEq, Repr

def RecordError.message : RecordError → String
  | .nonPositiveTtl ttl => s!"pseudonym TTL must be positive, got {Decimal.intText ttl}ms"
  | .emptyPseudonym => "pseudonym is empty"
  | .pseudonymTooLong bytes =>
    s!"pseudonym is {Decimal.natText bytes} bytes, exceeds EAP MTU of " ++
      s!"{Decimal.natText maxPseudonymBytes} bytes"

/-- Checks that a pseudonym can be sent as an identity: it is not empty and fits one packet. -/
def checkPseudonym (pseudonym : String) : Except RecordError Unit :=
  if pseudonym = "" then .error .emptyPseudonym
  else if maxPseudonymBytes < pseudonym.utf8ByteSize then
    .error (.pseudonymTooLong pseudonym.utf8ByteSize)
  else .ok ()

theorem checkPseudonym_eq_ok_iff {pseudonym : String} :
    checkPseudonym pseudonym = .ok () ↔
      pseudonym ≠ "" ∧ pseudonym.utf8ByteSize ≤ maxPseudonymBytes := by
  unfold checkPseudonym
  split
  · simp_all
  · split <;> simp_all

/-- The first few characters of a pseudonym that has that many, and three stars; a shorter one is
shown whole. -/
def maskPseudonym (pseudonym : String) : String :=
  if shownPseudonymChars ≤ pseudonym.toList.length then
    String.ofList (pseudonym.toList.take shownPseudonymChars ++ "***".toList)
  else pseudonym

/-- How long a pseudonym lasts if the server does not say. -/
def defaultTtl : Millis := 2 * day

/-- The longest time before expiry at which a refresh falls due. -/
def maxRefreshAhead : Millis := 30 * minute

/-- The age from which an authentication error may lead to a refresh. -/
def minRefreshAge : Millis := 12 * hour

/-- A pseudonym, the IMSI it stands in for, and how long it lasts. -/
structure Grant where
  pseudonym : String
  owner : Imsi
  ttl : Millis
  ttl_pos : 0 < ttl
deriving DecidableEq

namespace Grant

def ofDefaultTtl (pseudonym : String) (owner : Imsi) : Grant :=
  ⟨pseudonym, owner, defaultTtl, by decide⟩

/-- A grant for a given time, which must be positive. -/
def ofTtl (pseudonym : String) (owner : Imsi) (ttl : Millis) : Except RecordError Grant :=
  if hpos : 0 < ttl then .ok ⟨pseudonym, owner, ttl, hpos⟩ else .error (.nonPositiveTtl ttl)

/-- The time of a grant is one that another grant can have. -/
theorem ofTtl_eq (g : Grant) (pseudonym : String) :
    ofTtl pseudonym g.owner g.ttl = .ok { g with pseudonym } :=
  dif_pos g.ttl_pos

/-- The time before expiry at which a refresh falls due: at most half of the whole time. -/
def refreshAhead (g : Grant) : Millis :=
  min maxRefreshAhead (g.ttl / 2)

def masked (g : Grant) : String :=
  maskPseudonym g.pseudonym

end Grant

structure Record extends Grant where
  acquiredAt : Instant
deriving DecidableEq

def Grant.acquiredAt (g : Grant) (now : Instant) : Record :=
  { g with acquiredAt := now }

namespace Record

def replace (r : Record) (pseudonym : String) (now : Instant) : Record :=
  { r with pseudonym := pseudonym, acquiredAt := now }

/-- The instant from which the record no longer holds. -/
def expiresAt (r : Record) : Instant :=
  Instant.later r.acquiredAt r.ttl

/-- The instant from which the record should be refreshed. -/
def refreshAt (r : Record) : Instant :=
  r.expiresAt - r.refreshAhead

def age (r : Record) (now : Instant) : Millis :=
  now - r.acquiredAt

/-- The record no longer holds; this begins exactly at its expiry. -/
def hasExpired (r : Record) (now : Instant) : Bool :=
  r.expiresAt ≤ now

/-- How long until the record should be refreshed, zero if that is due. -/
def timeToRefresh (r : Record) (now : Instant) : Millis :=
  max (r.refreshAt - now) 0

/-- A refresh may be asked for without pressing the server. -/
def mayRefresh (r : Record) (now : Instant) : Bool :=
  minRefreshAge ≤ r.age now || r.refreshAt ≤ now

def text (r : Record) : String :=
  s!"pseudonym={r.masked} imsi={r.owner.masked} acquired_at={Decimal.intText r.acquiredAt} " ++
    s!"ttl={Decimal.intText r.ttl}ms refresh_ahead={Decimal.intText r.refreshAhead}ms"

def diagnostic (r : Record) : String :=
  Diagnostic.structured "PseudonymRecord" [
    ("pseudonym", quoted r.masked),
    ("owner", r.owner.diagnostic),
    ("ttl_millis", Decimal.intText r.ttl),
    ("acquired_at_millis", Decimal.intText r.acquiredAt)]

@[simp] theorem toGrant_acquiredAt (g : Grant) (now : Instant) :
    (g.acquiredAt now).toGrant = g := rfl

@[simp] theorem acquiredAt_acquiredAt (g : Grant) (now : Instant) :
    (g.acquiredAt now).acquiredAt = now := rfl

end Record

end ImsiPseudonym
