import RecordQuery.Text.Split
import RecordQuery.Url.Domain
import RecordQuery.Url.Percent

/-!
# Hosts in URLs

A host is a domain or an address. Only the validity of addresses is of interest here; a domain
that ends in a number has to be an address of four bytes.
-/

namespace RecordQuery

/-- Why a text is no URL. -/
inductive UrlFault where
  | noScheme
  | emptyHost
  | invalidPort
  | invalidFourByteAddress
  | invalidLongAddress
  | invalidDomain
  | invalidHostCharacter
  deriving DecidableEq

def UrlFault.message : UrlFault → String
  | .noScheme => "relative URL without a base"
  | .emptyHost => "empty host"
  | .invalidPort => "invalid port number"
  | .invalidFourByteAddress => "invalid IPv4 address"
  | .invalidLongAddress => "invalid IPv6 address"
  | .invalidDomain => "invalid international domain name"
  | .invalidHostCharacter => "invalid domain character"

open Text (splitAt)

namespace Url

/-- The part of a URL that names a machine. -/
inductive Host where
  | domain (name : List Char)
  | address
  deriving DecidableEq

def isHexDigit (c : Char) : Bool :=
  c.isDigit || ('a' ≤ c && c ≤ 'f') || ('A' ≤ c && c ≤ 'F')

/-! ## Addresses of four bytes -/

/-- A part of an address: decimal, octal behind a zero, or hexadecimal behind `0x`. Nothing behind
`0x` is zero. -/
def addressPart? (text : List Char) : Option Nat :=
  let valueOf (base : Nat) (isDigitOf : Char → Bool) (digits : List Char) : Option Nat :=
    if digits.all isDigitOf then
      some (digits.foldl (fun value c =>
        value * base + (if c.isDigit then c.toNat - 48 else c.toLower.toNat - 87)) 0)
    else none
  match text with
  | [] => none
  | '0' :: 'x' :: digits | '0' :: 'X' :: digits => valueOf 16 isHexDigit digits
  | '0' :: c :: digits => valueOf 8 (fun c => '0' ≤ c && c ≤ '7') (c :: digits)
  | digits => valueOf 10 Char.isDigit digits

/-- Whether the last part of a domain is a number, so that the whole has to be an address. -/
def endsInNumber (domain : List Char) : Bool :=
  let last := match (splitAt '.' domain).reverse with
    | [] :: part :: _ => part
    | part :: _ => part
    | [] => []
  (!last.isEmpty && last.all Char.isDigit) || (addressPart? last).isSome

/-- Whether a domain is an address: up to four parts of one byte each, of which the last also takes
the bytes that are left out. -/
def isFourByteAddress (domain : List Char) : Bool :=
  let parts := match (splitAt '.' domain).reverse with
    | [] :: part :: rest => (part :: rest).reverse
    | parts => parts.reverse
  match parts.mapM addressPart? with
  | none => false
  | some numbers =>
      parts.length ≤ 4 && numbers.dropLast.all (· < 256) &&
        numbers.getLastD 0 < Nat.pow 256 (4 - numbers.dropLast.length)

/-! ## Addresses of sixteen bytes -/

/-- A decimal byte without leading zeros. -/
def isPlainByte (text : List Char) : Bool :=
  !text.isEmpty && text.all Char.isDigit && (text.length == 1 || text.head? != some '0') &&
    text.length ≤ 3 && Nat.ofDigitChars 10 text 0 < 256

/-- How many groups of two bytes the parts of an address take, or none where one is malformed. Only
the last part may be an address of four bytes. -/
def groups? (mayEndDotted : Bool) : List (List Char) → Option Nat
  | [] => some 0
  | part :: rest =>
      if !part.isEmpty && part.length ≤ 4 && part.all isHexDigit then
        (groups? mayEndDotted rest).map (· + 1)
      else if mayEndDotted && rest.isEmpty then
        let bytes := splitAt '.' part
        if bytes.length == 4 && bytes.all isPlainByte then some 2 else none
      else none

/-- What stands before and behind the first two colons in a row. -/
def splitGap : List Char → Option (List Char × List Char)
  | ':' :: ':' :: rest => some ([], rest)
  | c :: rest => (splitGap rest).map fun (before, behind) => (c :: before, behind)
  | [] => none

/-- Whether a text is an address of sixteen bytes: eight groups, or fewer with one gap. -/
def isLongAddress (text : List Char) : Bool :=
  let parts (text : List Char) := if text.isEmpty then [] else splitAt ':' text
  match splitGap text with
  | none => groups? true (parts text) == some 8
  | some (before, behind) =>
      match groups? false (parts before), groups? true (parts behind) with
      | some first, some last => first ≤ 7 && first + last ≤ 8
      | _, _ => false

/-! ## Hosts -/

/-- A host in brackets. -/
def bracketed (text : List Char) : Except UrlFault Host :=
  if text.getLast? == some ']' && isLongAddress (text.drop 1).dropLast then .ok .address
  else .error .invalidLongAddress

/-- The host of a URL of one of the schemes of the web. -/
def Host.ofWeb (text : List Char) : Except UrlFault Host :=
  if text.head? == some '[' then bracketed text
  else
    match (Text.ofBytes? (percentDecode (Text.toBytes text))).bind readDomain with
    | none => .error .invalidDomain
    | some name =>
        if name.isEmpty then .error .emptyHost
        else if endsInNumber name then
          if isFourByteAddress name then .ok .address else .error .invalidFourByteAddress
        else .ok (.domain name)

/-- The host of a URL of any other scheme. -/
def Host.ofOther (text : List Char) : Except UrlFault Host :=
  if text.head? == some '[' then bracketed text
  else if text.any fun c => c == '\x00' || "\t\n\r #/:<>?@[\\]^|".toList.contains c then
    .error .invalidHostCharacter
  else .ok (.domain text)

end Url

end RecordQuery
