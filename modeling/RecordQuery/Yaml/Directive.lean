import RecordQuery.Yaml.Property
import RecordQuery.Yaml.Token

/-!
# Directives

A directive stands on a line of its own in front of a document, behind a percent sign.
-/

namespace RecordQuery.Yaml

/-- The greatest number of digits in a version. -/
def maxVersionDigits : Nat := 9

/-- A number in a version, and what follows. -/
def readVersionNumber (text : List Letter) : Option (Nat × List Letter) :=
  let digits := (text.takeWhile (·.char.isDigit)).map (·.char)
  if digits.isEmpty || maxVersionDigits < digits.length then none
  else some (Nat.ofDigitChars 10 digits 0, text.dropWhile (·.char.isDigit))

/-- A version: two numbers with a point between them. -/
def readVersion (text : List Letter) : Option (Directive × List Letter) := do
  let (major, behind) ← readVersionNumber text
  if startsWith '.' behind then
    let (minor, behind) ← readVersionNumber (behind.drop 1)
    return (.version major minor, behind)
  else none

/-- A handle, and the start of the tags that it stands for. -/
def readHandle (text : List Letter) : Option (Directive × List Letter) := do
  if startsWith '!' text then
    let (name, behind) := (readHandle? (text.drop 1)).getD ("!", text.drop 1)
    if behind.head?.any (·.isBlank) then
      let (bytes, behind) ← readSomeTagBytes true (skipBlanks behind)
      if atBlank behind then return (.handle name (Tag.cut bytes), behind) else none
    else none
  else none

/-- A directive behind its percent sign, and the lines that follow. -/
def readDirective (text : List Letter) : Option (Directive × List Letter) := do
  let name := (text.takeWhile (·.isName)).map (·.char)
  let behind := text.dropWhile (·.isName)
  if atBlank behind then
    let (directive, behind) ←
      match String.ofList name with
      | "YAML" => readVersion (skipBlanks behind)
      | "TAG" => readHandle (skipBlanks behind)
      | _ => none
    return (directive, ← skipLine? behind)
  else none

end RecordQuery.Yaml
