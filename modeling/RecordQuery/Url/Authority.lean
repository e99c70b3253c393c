import RecordQuery.Url.Host

/-!
# Authorities in URLs

An authority names a machine: user information before an at sign, a host, and a port. Reading one
only tells whether it is well formed.
-/

namespace RecordQuery.Url

/-- What reading a URL depends on in its scheme: the schemes of the web need a host and take a
backslash for a slash. -/
inductive SchemeKind where
  | web
  | other
  deriving DecidableEq

/-- Whether a character ends an authority. -/
def SchemeKind.endsAuthority (kind : SchemeKind) (c : Char) : Bool :=
  c == '/' || c == '?' || c == '#' || (kind == .web && c == '\\')

/-- The part of an authority before its last at sign, if it has one, and the part behind. -/
def splitUser (authority : List Char) : Option (List Char) × List Char :=
  let behind := (authority.reverse.takeWhile (· != '@')).reverse
  match authority.reverse.dropWhile (· != '@') with
  | _ :: before => (some before.reverse, behind)
  | [] => (none, authority)

/-- The host at the front of a text; a colon in brackets does not end it. -/
def spanHost (inBrackets : Bool) : List Char → List Char × List Char
  | [] => ([], [])
  | c :: rest =>
      if c == ':' && !inBrackets then ([], c :: rest)
      else
        let (host, behind) := spanHost (c == '[' || (inBrackets && c != ']')) rest
        (c :: host, behind)

/-- A port is a number below `2 ^ 16`, or nothing. -/
def checkPort (text : List Char) : Except UrlFault Unit :=
  let digits := text.takeWhile (· != '\\')
  if digits.all Char.isDigit && Nat.ofDigitChars 10 digits 0 < 0x10000 then .ok ()
  else .error .invalidPort

/-- Checks the authority at the front of a text. -/
def checkAuthority (kind : SchemeKind) (text : List Char) : Except UrlFault Unit := do
  let authority := text.takeWhile (!kind.endsAuthority ·)
  let (user, machine) := splitUser authority
  if user == some [] && machine.isEmpty && authority.length < text.length then
    throw .emptyHost
  let (host, behind) := spanHost false machine
  match kind with
  | .web => if host.isEmpty then throw .emptyHost else discard (Host.ofWeb host)
  | .other => discard (Host.ofOther host)
  if host.isEmpty && behind.head? == some ':' then throw .emptyHost
  if behind.head? == some ':' then checkPort (behind.drop 1)
  let named := user.any fun user => !user.isEmpty && user != [':']
  if host.isEmpty && named then throw .emptyHost

end RecordQuery.Url
