import RecordQuery.Table.Resource
import RecordQuery.Text.Utf8
import RecordQuery.Value.Json
import RecordQuery.Yaml

/-!
# Lines of tables

A table holds one record on each line. A line may be so many bytes long, its end not counted;
reading stops at the first that is longer. Blank lines hold no record.
-/

namespace RecordQuery

/-- A line of a file, or what was found in its place. -/
inductive Line where
  | text (bytes : List UInt8)
  | tooLong
  | unreadable (fault : FileFault)

namespace Content

/-- The byte that ends a line. -/
def lineEnd : UInt8 := 0x0a

/-- What an attempt to read a line finds: its bytes without the end, and whether there is an end,
where at most `limit` bytes are looked at; and the bytes behind. -/
def takeLine : (limit : Nat) → List UInt8 → List UInt8 × Bool × List UInt8
  | 0, bytes => ([], false, bytes)
  | _ + 1, [] => ([], false, [])
  | limit + 1, byte :: rest =>
      if byte == lineEnd then ([], true, rest)
      else
        let (line, ended, behind) := takeLine limit rest
        (byte :: line, ended, behind)

theorem length_takeLine (limit : Nat) (bytes : List UInt8) :
    (takeLine limit bytes).1.length + (takeLine limit bytes).2.1.toNat +
      (takeLine limit bytes).2.2.length = bytes.length := by
  fun_induction takeLine limit bytes <;> simp_all <;> omega

/-- The lines of a content. One byte more than a line may have is looked at. -/
def lines (limit : Nat) (content : Content) : List Line :=
  match _found : takeLine (limit + 1) content.bytes with
  | (line, true, behind) => .text line :: lines limit ⟨behind, content.fault⟩
  | (line, false, _) =>
      if limit < line.length then [.tooLong]
      else
        match content.fault with
        | some fault => [.unreadable fault]
        | none => if line.isEmpty then [] else [.text line]
termination_by content.bytes.length
decreasing_by
  have total := length_takeLine (limit + 1) content.bytes
  simp only [_found, Bool.toNat_true] at total
  omega

end Content

/-- The value that the text of a line holds. -/
def Format.read : Format → List Char → Option Value
  | .json, text => Json.read text
  | .yaml, text => Yaml.read text

/-- The record on a line; none on a blank one. -/
def Line.record? (format : Format) (bytes : List UInt8) : Except LineFault (Option Value) :=
  match Text.ofBytes? bytes with
  | none => .error .undecodable
  | some chars =>
      let trimmed := Text.trimChars chars
      if trimmed.isEmpty then .ok none
      else
        match format.read trimmed with
        | none => .error .undecodable
        | some value => if value.isObject then .ok (some value) else .error .notObject

end RecordQuery
