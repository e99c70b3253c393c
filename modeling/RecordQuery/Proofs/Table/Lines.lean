import RecordQuery.Table.Lines

/-!
# Contents and their lines

A content falls into lines that hold no line end and are no longer than the limit, up to
the first longer one. Conversely such lines, each with its end, are the lines of their
content.
-/

namespace RecordQuery.Content

/-- What an attempt to read a line finds holds no line end, and with its end is not longer
than what was looked at. -/
theorem takeLine_spec {limit : Nat} {bytes line behind : List UInt8} {ended : Bool}
    (found : takeLine limit bytes = (line, ended, behind)) :
    lineEnd ∉ line ∧ line.length + ended.toNat ≤ limit := by
  induction limit generalizing bytes line with
  | zero =>
      cases found
      exact ⟨List.not_mem_nil, Nat.le_refl _⟩
  | succ limit ih =>
      cases bytes with
      | nil =>
          cases found
          exact ⟨List.not_mem_nil, Nat.zero_le _⟩
      | cons byte rest =>
          rw [takeLine] at found
          split at found
          · cases found
            exact ⟨List.not_mem_nil, by simp⟩
          · rename_i other
            cases inner : takeLine limit rest with
            | mk text last =>
                rcases last with ⟨done, after⟩
                rw [inner] at found
                cases found
                rcases ih inner with ⟨clean, short⟩
                constructor
                · intro member
                  rcases List.mem_cons.1 member with same | inside
                  · exact other (by simp [same])
                  · exact clean inside
                · rw [List.length_cons]
                  omega

/-- A line with its end is read as it is. -/
theorem takeLine_of_clean {limit : Nat} {line : List UInt8} (clean : lineEnd ∉ line)
    (short : line.length < limit) (rest : List UInt8) :
    takeLine limit (line ++ lineEnd :: rest) = (line, true, rest) := by
  induction line generalizing limit with
  | nil =>
      cases limit with
      | zero => cases short
      | succ limit => simp [takeLine]
  | cons byte line ih =>
      cases limit with
      | zero => cases short
      | succ limit =>
          rw [List.mem_cons, not_or] at clean
          have other : (byte == lineEnd) = false := by simpa using fun same => clean.1 same.symm
          rw [List.cons_append, takeLine, other, ih clean.2 (Nat.lt_of_succ_lt_succ short)]
          rfl

/-- Bytes without a line end are all taken, as long as they are looked at. -/
theorem takeLine_of_unended {limit : Nat} {line : List UInt8} (clean : lineEnd ∉ line)
    (short : line.length ≤ limit) : takeLine limit line = (line, false, []) := by
  induction line generalizing limit with
  | nil => cases limit <;> rfl
  | cons byte line ih =>
      cases limit with
      | zero => cases short
      | succ limit =>
          rw [List.mem_cons, not_or] at clean
          have other : (byte == lineEnd) = false := by simpa using fun same => clean.1 same.symm
          rw [takeLine, other, ih clean.2 (Nat.le_of_succ_le_succ short)]
          rfl

variable {limit : Nat} {line : List UInt8}

/-- The texts among the lines of a content are clean and short. -/
theorem clean_of_mem_lines {content : Content} (member : .text line ∈ content.lines limit) :
    lineEnd ∉ line ∧ line.length ≤ limit := by
  fun_induction lines limit content with
  | case1 content text behind found ih =>
      rcases List.mem_cons.1 member with same | later
      · cases same
        rcases takeLine_spec found with ⟨clean, short⟩
        simp only [Bool.toNat_true] at short
        exact ⟨clean, by omega⟩
      · exact ih later
  | case2 content text behind found long => simp at member
  | case3 content text behind found short fault known => simp at member
  | case4 content text behind found short known empty => simp at member
  | case5 content text behind found short known full =>
      cases List.mem_singleton.1 member
      exact ⟨(takeLine_spec found).1, Nat.le_of_not_lt short⟩

theorem lines_cons (clean : lineEnd ∉ line) (short : line.length ≤ limit) (rest : List UInt8)
    (fault : Option FileFault) :
    lines limit ⟨line ++ lineEnd :: rest, fault⟩ = .text line :: lines limit ⟨rest, fault⟩ := by
  have taken := takeLine_of_clean clean (Nat.lt_succ_of_le short) rest
  rw [lines]
  split
  · rename_i found
    cases taken.symm.trans found
    rfl
  · rename_i found
    cases taken.symm.trans found

/-- The bytes of lines, each with its end. -/
def ofLines (lines : List (List UInt8)) (behind : List UInt8) : Content :=
  ⟨lines.flatMap (· ++ [lineEnd]) ++ behind, none⟩

theorem lines_ofLines {texts : List (List UInt8)}
    (clean : ∀ text ∈ texts, lineEnd ∉ text ∧ text.length ≤ limit) (behind : List UInt8) :
    lines limit (ofLines texts behind) = texts.map Line.text ++ lines limit ⟨behind, none⟩ := by
  induction texts with
  | nil => rfl
  | cons text rest ih =>
      rcases clean text List.mem_cons_self with ⟨own, short⟩
      have later := ih fun other member => clean other (List.mem_cons_of_mem _ member)
      rw [ofLines] at later ⊢
      rw [List.flatMap_cons, List.append_assoc, List.append_assoc, List.singleton_append,
        lines_cons own short, later]
      rfl

theorem lines_nil : lines limit ⟨[], none⟩ = [] := by
  rw [lines]
  simp [takeLine]

/-- A byte too many is not read. -/
theorem lines_of_long (clean : lineEnd ∉ line) (long : line.length = limit + 1) :
    lines limit ⟨line, none⟩ = [.tooLong] := by
  have taken := takeLine_of_unended clean (Nat.le_of_eq long)
  rw [lines]
  split
  · rename_i found
    cases taken.symm.trans found
  · rename_i found
    cases taken.symm.trans found
    rw [if_pos (by omega)]

/-- A last line needs no end. -/
theorem lines_of_unended (clean : lineEnd ∉ line) (short : line.length ≤ limit)
    (some_ : line ≠ []) : lines limit ⟨line, none⟩ = [.text line] := by
  have taken := takeLine_of_unended clean (Nat.le_succ_of_le short)
  rw [lines]
  split
  · rename_i found
    cases taken.symm.trans found
  · rename_i found
    cases taken.symm.trans found
    rw [if_neg (Nat.not_lt.2 short)]
    simp [some_]

end RecordQuery.Content

namespace RecordQuery

/-- A line of two braces holds an object without fields. -/
theorem Line.record?_braces : record? .json [0x7b, 0x7d] = .ok (some (.object [])) := by
  have decoded : Text.ofBytes? [0x7b, 0x7d] = some ['\x7b', '\x7d'] := by decide +kernel
  have trimmed : Text.trimChars ['\x7b', '\x7d'] = ['\x7b', '\x7d'] := by decide +kernel
  have found : Json.read ['\x7b', '\x7d'] = some (.object []) := by
    rw [Json.read, Json.readValue]
    rfl
  rw [record?, decoded]
  dsimp only
  rw [trimmed, Format.read, found]
  rfl

end RecordQuery
