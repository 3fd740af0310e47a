import ImsiPseudonym.Url.Percent
import ImsiPseudonym.Url.Punycode
import ImsiPseudonym.Decimal.Integer
import ImsiPseudonym.Text.Unprintable
import ImsiPseudonym.Text.Extending
import ImsiPseudonym.Text.Folding
import ImsiPseudonym.Text.Pieces

/-!
The host of a URL: a domain name, or an address of either version of the Internet protocol, each with
one written form.
-/
namespace ImsiPseudonym.Url

open Text (pieces)

inductive UrlError where
  | noScheme
  | emptyHost
  | badDomain
  | badHostChar
  | badPort
  | badIpv4
  | badIpv6
deriving DecidableEq, Repr

def UrlError.message : UrlError → String
  | .noScheme => "relative URL without a base"
  | .emptyHost => "empty host"
  | .badDomain => "invalid international domain name"
  | .badHostChar => "invalid domain character"
  | .badPort => "invalid port number"
  | .badIpv4 => "invalid IPv4 address"
  | .badIpv6 => "invalid IPv6 address"

inductive Host where
  | domain (name : List Char)
  | ipv4 (address : Nat)
  | ipv6 (groups : List Nat)
deriving DecidableEq, Repr

/-- The number that digits of a base spell, if all of them are digits of that base. -/
def ofBase? (base : Nat) (cs : List Char) : Option Nat :=
  cs.foldlM (fun value c =>
    match hexDigitValue? c with
    | some d => if d < base then some (value * base + d) else none
    | none => none) 0

/-- A number that a leading `0x` marks as hexadecimal and a leading zero as octal. -/
def ipv4Number? (cs : List Char) : Option Nat :=
  match cs with
  | [] => none
  | ['0'] => some 0
  | '0' :: 'x' :: rest => ofBase? 16 rest
  | '0' :: 'X' :: rest => ofBase? 16 rest
  | '0' :: rest => ofBase? 8 rest
  | cs => ofBase? 10 cs

/-- The pieces between dots, without an empty last one. -/
def dotted (cs : List Char) : List (List Char) :=
  let parts := pieces '.' cs
  if 1 < parts.length ∧ parts.getLast? = some [] then parts.dropLast else parts

/-- The last piece is a number, so that the whole must be an address. -/
def endsInNumber (cs : List Char) : Bool :=
  match (dotted cs).getLast? with
  | none => false
  | some last => (last ≠ [] && last.all Char.isDigit) || (ipv4Number? last).isSome

/-- The address of up to four numbers, of which the last fills all bytes that are left. -/
def ipv4? (cs : List Char) : Option Nat := do
  let numbers ← (dotted cs).mapM ipv4Number?
  let last ← numbers.getLast?
  let others := numbers.dropLast
  if 4 < numbers.length ∨ others.any (255 < ·) ∨ 1 <<< (8 * (4 - others.length)) ≤ last then none
  else
    let high := others.foldl (fun value n => value * 256 + n) 0
    return high <<< (8 * (4 - others.length)) + last

def ipv4Text (address : Nat) : List Char :=
  let byte (n : Nat) := Decimal.digits (address >>> (8 * n) % 256)
  byte 3 ++ '.' :: byte 2 ++ '.' :: byte 1 ++ '.' :: byte 0

def ipv6Group? (cs : List Char) : Option Nat :=
  if cs = [] ∨ 4 < cs.length then none else ofBase? 16 cs

def decimalByte? (cs : List Char) : Option Nat := do
  let n ← Decimal.readNat? cs
  if 255 < n ∨ (1 < cs.length ∧ cs.head? = some '0') then none else return n

def embeddedIpv4? (cs : List Char) : Option (List Nat) :=
  match (pieces '.' cs).mapM decimalByte? with
  | some [a, b, c, d] => some [a * 256 + b, c * 256 + d]
  | _ => none

/-- The groups between colons; the last one may be an address of version 4 where told. -/
def ipv6Groups? (mayEmbed : Bool) (cs : List Char) : Option (List Nat) := do
  if cs = [] then return []
  let parts := pieces ':' cs
  let last := parts.getLast?.getD []
  if mayEmbed ∧ last.contains '.' then
    return (← parts.dropLast.mapM ipv6Group?) ++ (← embeddedIpv4? last)
  else parts.mapM ipv6Group?

/-- The text before and after the first two colons in a row. -/
def atDoubleColon? : List Char → Option (List Char × List Char)
  | ':' :: ':' :: rest => some ([], rest)
  | c :: rest => (atDoubleColon? rest).map fun (before, after) => (c :: before, after)
  | [] => none

/-- The eight groups of an address; two colons in a row stand for one or more groups of zero. -/
def ipv6? (cs : List Char) : Option (List Nat) :=
  match atDoubleColon? cs with
  | none => do
    let groups ← ipv6Groups? true cs
    if groups.length = 8 then return groups else none
  | some (before, after) => do
    let front ← ipv6Groups? false before
    let back ← ipv6Groups? true after
    let filled := 8 - (front.length + back.length)
    if 0 < filled then return front ++ List.replicate filled 0 ++ back else none

/-- The first of the longest runs of zeros that begin at or after an index: its start and length. -/
def longestZeros (index : Nat) : List Nat → Nat × Nat
  | [] => (index, 0)
  | group :: groups =>
    let here := ((group :: groups).takeWhile (· = 0)).length
    let later := longestZeros (index + 1) groups
    if later.2 ≤ here then (index, here) else later

def groupsText : List Nat → List Char
  | [] => []
  | [group] => Nat.toDigits 16 group
  | group :: groups => Nat.toDigits 16 group ++ ':' :: groupsText groups

/-- An address with its first longest run of two or more zeros left out. -/
def ipv6Text (groups : List Nat) : List Char :=
  let (start, count) := longestZeros 0 groups
  if count < 2 then groupsText groups
  else groupsText (groups.take start) ++ [':', ':'] ++ groupsText (groups.drop (start + count))

/-- The ASCII characters that no domain name holds. -/
def isForbiddenInDomain (c : Char) : Bool :=
  c.toNat ≤ 0x20 || c.toNat == 0x7F || "#%/:<>?@[\\]^|".toList.contains c

def internationalMark : List Char := "xn--".toList

def maxInternationalLength : Nat := 2000

/-- The character has one form only, and neither divides labels nor stands for another character. -/
def isLabelChar (c : Char) : Bool :=
  !Text.isUnprintable c && !Text.isFolding c && !"\u3002\ufffc\ufffd".toList.contains c

/-- A label is well formed if, where it is marked as international, it stands for a text that needs
the mark. -/
def isLabel (label : List Char) : Bool :=
  if internationalMark.isPrefixOf label then
    let marked := label.drop internationalMark.length
    match Punycode.decode? marked with
    | none => false
    | some decoded =>
      marked.length ≤ maxInternationalLength && decoded.any (0x80 ≤ ·.toNat) &&
        !(decoded.head?.any Text.isExtending) && decoded.all isLabelChar
  else true

/-- The domain name of bytes: ASCII in lower case. -/
def domainOfBytes? (bytes : List UInt8) : Option (List Char) :=
  let name := bytes.map fun b => (Char.ofNat b.toNat).toLower
  if bytes.all (· < 0x80) ∧ !name.any isForbiddenInDomain ∧ (pieces '.' name).all isLabel then
    some name
  else none

def bracketedHost (cs : List Char) : Except UrlError Host :=
  match cs.getLast?, ipv6? (cs.drop 1).dropLast with
  | some ']', some groups => .ok (.ipv6 groups)
  | _, _ => .error .badIpv6

def Host.ofChars (cs : List Char) : Except UrlError Host :=
  if cs.head? = some '[' then bracketedHost cs
  else
    match domainOfBytes? (percentDecode cs) with
    | none => .error .badDomain
    | some [] => .error .emptyHost
    | some name =>
      if endsInNumber name then
        match ipv4? name with
        | some address => .ok (.ipv4 address)
        | none => .error .badIpv4
      else .ok (.domain name)

def isForbiddenInHost (c : Char) : Bool :=
  c.toNat == 0 || " \t\n\r#/:<>?@[\\]^|".toList.contains c

def checkForeignHost (cs : List Char) : Except UrlError Unit :=
  if cs.head? = some '[' then (bracketedHost cs).map fun _ => ()
  else if cs.any isForbiddenInHost then .error .badHostChar
  else .ok ()

def Host.text : Host → String
  | .domain name => String.ofList name
  | .ipv4 address => String.ofList (ipv4Text address)
  | .ipv6 groups => String.ofList ('[' :: ipv6Text groups ++ [']'])

end ImsiPseudonym.Url
