import Mathlib.Data.List.SplitBy
import RecordQuery.Text.Split
import RecordQuery.Text.Character

/-!
# Blanks and separators in texts

Trimming removes the blanks around a text whose ends are not blank, words are read one by one from
the front of a text, and so are the parts between separators.
-/

namespace RecordQuery.Text

/-- All characters of a text are blank. -/
def Blank (text : List Char) : Prop := ∀ c ∈ text, isBlank c = true

/-- No character of a text is blank, and there is one. -/
structure Word (text : List Char) : Prop where
  some : text ≠ []
  filled : ∀ c ∈ text, isBlank c = false

variable {text blanks front behind rest : List Char} {separator : Char}

theorem word_of_all (some : text ≠ []) (filled : text.all (!isBlank ·) = true) : Word text where
  some
  filled := by simpa using filled

theorem Word.append (word : Word text) (other : Word rest) : Word (text ++ rest) where
  some := by simp [word.some]
  filled c inside := (List.mem_append.1 inside).elim (word.filled c) (other.filled c)

/-- A word at the front of a text starts it. -/
theorem Word.head? (word : Word text) (rest : List Char) :
    ∀ c ∈ (text ++ rest).head?, isBlank c = false := by
  intro c own
  rw [List.head?_append_of_ne_nil _ word.some] at own
  exact word.filled c (List.mem_of_mem_head? own)

theorem Blank.head? (blank : Blank blanks) (some : blanks ≠ []) (rest : List Char) :
    ∀ c ∈ (blanks ++ rest).head?, isBlank c = true := by
  intro c own
  rw [List.head?_append_of_ne_nil _ some] at own
  exact blank c (List.mem_of_mem_head? own)

/-- No character of a word is blank. -/
theorem isBlank_eq_false_of_isWordChar {c : Char} (word : isWordChar c = true) :
    isBlank c = false := by
  cases blank : isBlank c with
  | false => rfl
  | true =>
      rw [isWordChar_eq_false_of_isBlank blank] at word
      cases word

/-! ## Trimming -/

/-- A part whose characters have a property ends where the next one does not have it. -/
theorem takeWhile_append_of_head? {p : Char → Bool} (takes : ∀ c ∈ front, p c = true)
    (ends : ∀ c ∈ rest.head?, p c = false) : (front ++ rest).takeWhile p = front := by
  rw [List.takeWhile_append_of_pos takes]
  cases rest with
  | nil => rw [List.takeWhile_nil, List.append_nil]
  | cons c rest => rw [List.takeWhile_cons_of_neg (by simpa using ends c rfl), List.append_nil]

/-- What is dropped ends where the predicate fails. -/
theorem dropWhile_append_of_head? {p : Char → Bool} (drops : ∀ c ∈ front, p c = true)
    (ends : ∀ c ∈ rest.head?, p c = false) : (front ++ rest).dropWhile p = rest := by
  rw [List.dropWhile_append_of_pos drops]
  cases rest with
  | nil => rfl
  | cons c rest => rw [List.dropWhile_cons_of_neg (by simpa using ends c rfl)]

/-- Skipping takes a text at least to the end of a part that is all skipped. -/
theorem dropWhile_suffix_of_suffix {p : Char → Bool} (drops : ∀ c ∈ front, p c = true)
    (part : text <:+ front ++ behind) :
    text.dropWhile p <:+ behind := by
  rcases List.suffix_or_suffix_of_suffix part (List.suffix_append front behind) with
    short | ⟨middle, rfl⟩
  · exact (List.dropWhile_suffix p).trans short
  · rcases part with ⟨before, same⟩
    rw [← List.append_assoc, List.append_cancel_right_eq] at same
    have own : ∀ c ∈ middle, p c = true := fun c inside =>
      drops c (same ▸ List.mem_append_right before inside)
    rw [List.dropWhile_append_of_pos own]
    exact List.dropWhile_suffix p

/-- Blanks around a text are removed, and nothing else. -/
theorem trimChars_of_ends (text : List Char) (before : Blank front) (after : Blank behind)
    (first : ∀ c ∈ text.head?, isBlank c = false) (last : ∀ c ∈ text.getLast?, isBlank c = false) :
    trimChars (front ++ (text ++ behind)) = text := by
  cases empty : text with
  | nil =>
      have blank : Blank (front ++ behind) := fun c inside =>
        (List.mem_append.1 inside).elim (before c) (after c)
      have none : (front ++ behind ++ []).dropWhile isBlank = [] :=
        dropWhile_append_of_head? blank nofun
      rw [List.append_nil] at none
      rw [trimChars, List.nil_append, none]
      rfl
  | cons c more =>
      rw [← empty]
      have start : ∀ c ∈ (text ++ behind).head?, isBlank c = false := by
        rw [empty] at first ⊢
        exact first
      have turned : ∀ c ∈ text.reverse.head?, isBlank c = false := by
        rw [List.head?_reverse]
        exact last
      have back : Blank behind.reverse := fun c inside => after c (List.mem_reverse.1 inside)
      rw [trimChars, dropWhile_append_of_head? before start, List.reverse_append,
        dropWhile_append_of_head? back turned, List.reverse_reverse]

/-! ## Words -/

theorem words_blank (blank : Blank text) : words text = [] := by
  rw [words, List.filter_eq_nil_iff]
  intro run inside
  have part : run ⊆ text := by
    rw [← List.flatten_splitBy (fun a b => isBlank a == isBlank b) text]
    exact fun c own => List.mem_flatten.2 ⟨run, inside, own⟩
  simpa using fun c own => blank c (part own)

theorem words_word (word : Word text) : words text = [text] := by
  have chain : text.IsChain fun a b => (isBlank a == isBlank b) = true :=
    (List.pairwise_of_forall_mem_list fun a own b other => by
      simp [word.filled a own, word.filled b other]).isChain
  rw [words, List.splitBy_of_isChain word.some chain]
  rcases List.exists_mem_of_ne_nil text word.some with ⟨c, inside⟩
  have shown : text.all isBlank = false :=
    List.all_eq_false.2 ⟨c, inside, by simp [word.filled c inside]⟩
  simp [shown]

/-- The words of two texts of which one ends where the other goes on with a blank, or the other way
round. -/
theorem words_append (apart : ∀ a ∈ front.getLast?, ∀ b ∈ behind.head?, isBlank a ≠ isBlank b) :
    words (front ++ behind) = words front ++ words behind := by
  rw [words, List.splitBy_append fun a last b next => by simpa using apart a last b next,
    List.filter_append]
  rfl

/-- Blanks in front of a word are skipped. -/
theorem words_blanks_append (blank : Blank blanks)
    (next : ∀ c ∈ rest.head?, isBlank c = false) : words (blanks ++ rest) = words rest := by
  rw [words_append, words_blank blank, List.nil_append]
  intro a last b first
  rw [blank a (List.mem_of_getLast? last), next b first]
  decide

/-- A word ends at a blank or with the text. -/
theorem words_word_append (word : Word text) (next : ∀ c ∈ rest.head?, isBlank c = true) :
    words (text ++ rest) = text :: words rest := by
  rw [words_append, words_word word, List.singleton_append]
  intro a last b first
  rw [word.filled a (List.mem_of_getLast? last), next b first]
  decide

/-! ## Parts -/

/-- A part ends at the first separator. -/
theorem splitAt_append (clean : separator ∉ text) (rest : List Char) :
    splitAt separator (text ++ separator :: rest) = text :: splitAt separator rest := by
  induction text with
  | nil => simp [splitAt]
  | cons c text ih =>
      rw [List.mem_cons, not_or] at clean
      have other : (c == separator) = false := by simpa using Ne.symm clean.1
      rw [List.cons_append, splitAt, other, ih clean.2]
      rfl

theorem splitAt_of_notMem (clean : separator ∉ text) : splitAt separator text = [text] := by
  induction text with
  | nil => rfl
  | cons c text ih =>
      rw [List.mem_cons, not_or] at clean
      have other : (c == separator) = false := by simpa using Ne.symm clean.1
      rw [splitAt, other, ih clean.2]
      rfl

end RecordQuery.Text
