import RecordQuery.Text.Alphabetic
import RecordQuery.Text.Numeric
import RecordQuery.Text.Concealed
import RecordQuery.Text.Lowercase

/-!
# Classes of characters

The classes that names, blanks and printed text are made of follow the properties of the Unicode
standard. Inside ASCII they agree with the classes of the core library.
-/

namespace RecordQuery.Text

/-- Membership of a code point in an ascending list of ranges. -/
def inRanges : List (Nat × Nat) → Nat → Bool
  | [], _ => false
  | (first, last) :: rest, code =>
      if code < first then false else code ≤ last || inRanges rest code

/-- The property Alphabetic. -/
def isAlphabetic (c : Char) : Bool :=
  c.isAlpha || (0x80 ≤ c.toNat && inRanges alphabeticRanges c.toNat)

/-- The categories Nd, Nl and No. -/
def isNumeric (c : Char) : Bool :=
  c.isDigit || (0x80 ≤ c.toNat && inRanges numericRanges c.toNat)

/-- A character that may start a bare word. -/
def isWordStart (c : Char) : Bool :=
  isAlphabetic c || c == '_'

/-- A character that may continue a bare word. -/
def isWordChar (c : Char) : Bool :=
  isAlphabetic c || isNumeric c || c == '_'

/-- The property White_Space. -/
def isBlank (c : Char) : Bool :=
  c.isWhitespace || c == '\x0b' || c == '\x0c' || c == '\x85' || c == '\xa0' ||
    c == '\u1680' || ('\u2000' ≤ c && c ≤ '\u200a') || c == '\u2028' || c == '\u2029' ||
    c == '\u202f' || c == '\u205f' || c == '\u3000'

/-- A character that a reader sees as itself: no control, format, separator or unassigned code
point, and none that is ignored or merges with its neighbour. -/
def isVisible (c : Char) : Bool :=
  (0x20 ≤ c.toNat && c.toNat < 0x7f) || (0x80 ≤ c.toNat && !inRanges concealedRanges c.toNat)

/-- The distance to the lower case of a code point above ASCII, where it has one. -/
def lowercaseDistance : List (Nat × Nat × Nat × Int) → Nat → Int
  | [], _ => 0
  | (first, last, step, distance) :: rest, code =>
      if first ≤ code && code ≤ last && (code - first) % step == 0 then distance
      else lowercaseDistance rest code

/-- The lower case of one character; the capital I with a dot becomes two characters. -/
def lowercase (c : Char) : List Char :=
  if c.toNat < 0x80 then [c.toLower]
  else if c == '\u0130' then ['i', '\u0307']
  else [Char.ofNat (c.toNat + lowercaseDistance lowercaseRuns c.toNat).toNat]

/-- Removes blanks at both ends. -/
def trimChars (cs : List Char) : List Char :=
  ((cs.dropWhile isBlank).reverse.dropWhile isBlank).reverse

/-- Removes blanks at both ends of a string. -/
def trim (s : String) : String :=
  String.ofList (trimChars s.toList)

/-- The maximal runs of characters that are not blank. -/
def words (cs : List Char) : List (List Char) :=
  (cs.splitBy fun a b => isBlank a == isBlank b).filter fun run => !run.all isBlank

/-- Equality that ignores the case of ASCII letters. -/
def sameLetters (a b : String) : Bool :=
  a.toLower == b.toLower

theorem isBlank_of_isWhitespace {c : Char} (h : c.isWhitespace) : isBlank c := by
  simp [isBlank, h]

theorem isAlphabetic_of_isAlpha {c : Char} (h : c.isAlpha) : isAlphabetic c := by
  simp [isAlphabetic, h]

theorem isNumeric_of_isDigit {c : Char} (h : c.isDigit) : isNumeric c := by
  simp [isNumeric, h]

theorem isWordChar_of_isWordStart {c : Char} (h : isWordStart c) : isWordChar c := by
  simp only [isWordStart, Bool.or_eq_true] at h
  rcases h with h | h <;> simp [isWordChar, h]

/-- No blank is a word character. -/
theorem isWordChar_eq_false_of_isBlank {c : Char} (blank : isBlank c = true) :
    isWordChar c = false := by
  have spaces : ∀ distance < 11, isWordChar (Char.ofNat (0x2000 + distance)) = false := by
    decide +kernel
  simp only [isBlank, Char.isWhitespace, Bool.or_eq_true, Bool.and_eq_true, beq_iff_eq,
    decide_eq_true_eq, or_assoc] at blank
  rcases blank with rfl | rfl | rfl | rfl | rfl | rfl | rfl | rfl | rfl | ⟨low, high⟩ | rfl | rfl |
    rfl | rfl | rfl
  case inr.inr.inr.inr.inr.inr.inr.inr.inr.inl =>
    have below : 0x2000 ≤ c.toNat := low
    have above : c.toNat ≤ 0x200a := high
    have own := spaces (c.toNat - 0x2000) (by omega)
    rwa [Nat.add_sub_cancel' below, Char.ofNat_toNat] at own
  all_goals decide +kernel

end RecordQuery.Text
