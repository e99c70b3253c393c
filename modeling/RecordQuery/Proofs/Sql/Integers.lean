import RecordQuery.Proofs.Sql.Placeholders
import RecordQuery.Proofs.Sql.Respacing

/-!
# Whole numbers as operands

A whole number is written as its decimal, with the sign right in front of the digits. The sign and
the digits are two tokens, and the digits alone have to fit into a word. So every whole number of a
word can be written as an operand except the smallest one, whose digits are one too many.
-/

namespace RecordQuery.Sql

/-! ## Decimals -/

/-- The text of tokens with the decimal of a whole number between them. -/
def around (front : List Token) (n : Int64) (back : List Token) : String :=
  String.ofList (spell front ++ ((toString n.toInt).toList ++ ' ' :: spell back))

theorem decimal_of_nonneg {n : Int64} (nonneg : 0 ≤ n.toInt) :
    (toString n.toInt).toList = (Token.integer n).spelling := by
  rcases Int.eq_ofNat_of_zero_le nonneg with ⟨size, same⟩
  rw [Token.spelling, same]
  simp [toString, Int.repr, Nat.repr]

/-- Behind the sign of a negative number there are the digits of its size. -/
theorem decimal_of_neg {n : Int64} (negative : n.toInt < 0) :
    (toString n.toInt).toList = '-' :: Nat.toDigits 10 n.toInt.natAbs := by
  rcases Int.eq_negSucc_of_lt_zero negative with ⟨size, same⟩
  rw [same]
  simp [toString, Int.repr, Nat.repr]

/-! ## Tokens -/

section Around

variable {front back : List Token} {rest : List Char} {n : Int64}

theorem skipTrivia_spell_append (writable : AllWritable front)
    (starts : skipTrivia .blank rest = rest) :
    skipTrivia .blank (spell front ++ rest) = spell front ++ rest := by
  cases front with
  | nil => exact starts
  | cons token others =>
      rw [spell_cons, List.append_assoc, List.cons_append]
      exact skipTrivia_spelling (AllWritable.cons_iff.1 writable).1 _

/-- The tokens that a text starts with are read first. -/
theorem tokenizeFrom_spell_append (writable : AllWritable front)
    (starts : skipTrivia .blank rest = rest) (start : Nat) :
    tokenizeFrom ⟨spell front ++ rest, start⟩ =
      (placed start front ++ ·) <$> tokenizeFrom ⟨rest, start + (spell front).length⟩ := by
  induction front generalizing start with
  | nil =>
      change tokenizeFrom ⟨rest, start⟩ = id <$> tokenizeFrom ⟨rest, start⟩
      rw [id_map]
  | cons token others ih =>
      rw [AllWritable.cons_iff] at writable
      have scanned := scanToken_spelling writable.1 (spell others ++ rest)
      have skipped : skipTrivia .blank ([' '] ++ (spell others ++ rest)) = spell others ++ rest :=
        skipTrivia_spell_append writable.2 starts
      have width : start + (spell (token :: others)).length =
          start + (spell [token]).length + (spell others).length := by
        rw [← List.singleton_append, spell_append, List.length_append, Nat.add_assoc]
      have own : start + (spell [token]).length = start + token.spelling.length + [' '].length := by
        rw [spell_cons, List.length_append, Nat.add_assoc]
        rfl
      rw [width, placed, own, spell_cons, List.append_assoc, List.cons_append,
        tokenizeFrom_append (prints_spelling writable.1).ne_nil scanned, ← List.singleton_append,
        Cursor.skip_eq skipped, ih writable.2]
      cases tokenizeFrom ⟨rest, _⟩ <;> rfl

theorem skipTrivia_digit (digit : ∀ next ∈ rest.head?, next.isDigit = true) :
    skipTrivia .blank rest = rest := by
  cases rest with
  | nil => rfl
  | cons c rest => exact skipTrivia_isWordChar (isWordChar_of_isDigit (digit c rfl)) rest

theorem skipTrivia_minus (digit : ∀ next ∈ rest.head?, next.isDigit = true) :
    skipTrivia .blank ('-' :: rest) = '-' :: rest := by
  refine skipTrivia_hyphen fun next own => ?_
  have number := digit next own
  rintro rfl
  cases number

/-- In front of digits, the sign is a token of its own. -/
theorem tokenizeFrom_minus (digit : ∀ next ∈ rest.head?, next.isDigit = true) (start : Nat) :
    tokenizeFrom ⟨'-' :: rest, start⟩ =
      (⟨.symbol .minus, start⟩ :: ·) <$> tokenizeFrom ⟨rest, start + 1⟩ := by
  have scanned : scanToken (['-'] ++ rest) = .ok (.symbol .minus, rest) := rfl
  have skipped : skipTrivia .blank ([] ++ rest) = rest := skipTrivia_digit digit
  have onward := tokenizeFrom_append (by simp) scanned start
  rw [List.singleton_append] at onward
  rw [onward]
  exact congrArg _ (congrArg tokenizeFrom (Cursor.skip_eq skipped _))

/-- Digits stand at the front of the text of a whole number. -/
theorem isDigit_of_head?_toDigits {n : Nat} {c : Char}
    (first : c ∈ (Nat.toDigits 10 n ++ rest).head?) : c.isDigit = true := by
  rw [List.head?_append_of_ne_nil _ Nat.toDigits_ne_nil] at first
  exact Nat.isDigit_of_mem_toDigits (by decide) (by decide) (List.mem_of_mem_head? first)

theorem natAbs_lt_of_ne (inside : n ≠ Int64.minValue) :
    n.toInt.natAbs < 0x8000000000000000 := by
  have lower := Int64.le_toInt n
  have upper := Int64.toInt_lt n
  have other : n.toInt ≠ Int64.minValue.toInt := fun same => inside (Int64.toInt_inj.1 same)
  rw [Int64.toInt_minValue] at other
  omega

theorem exists_tokenizeFrom_spell (writable : AllWritable back) (start : Nat) :
    ∃ tokens, tokenizeFrom ⟨spell back, start⟩ = .ok tokens ∧
      tokens.map (·.token) = back ++ [.endOfInput] := by
  refine ⟨_, tokenizeFrom_printed (printed_spell writable start), ?_⟩
  rw [List.map_append, map_token_placed]
  rfl

/-- The decimal of a whole number is read as its tokens. -/
theorem tokenizeFrom_decimal (inside : n ≠ Int64.minValue)
    (writable : AllWritable back) (start : Nat) :
    skipTrivia .blank ((toString n.toInt).toList ++ ' ' :: spell back) =
        (toString n.toInt).toList ++ ' ' :: spell back ∧
      ∃ tokens, tokenizeFrom ⟨(toString n.toInt).toList ++ ' ' :: spell back, start⟩ = .ok tokens ∧
        tokens.map (·.token) = (Expr.integer n).write .operand ++ (back ++ [.endOfInput]) := by
  have size := natAbs_lt_of_ne inside
  have written := allWritable_integer size .operand
  rw [Expr.write] at written ⊢
  by_cases negative : n < 0
  · rw [if_pos negative] at written ⊢
    rw [Int64.lt_iff_toInt_lt, Int64.toInt_zero] at negative
    have digits : Nat.toDigits 10 n.toInt.natAbs = (Token.integer (-n)).spelling := by
      rw [Token.spelling, toInt_neg_of_natAbs_lt size]
      congr 1
      omega
    have front : ∀ next ∈ (spell (.integer (-n) :: back)).head?, next.isDigit = true := by
      rw [spell_cons, ← digits]
      exact fun next => isDigit_of_head?_toDigits
    have all : AllWritable (.integer (-n) :: back) :=
      AllWritable.append_iff.2 ⟨(AllWritable.cons_iff.1 written).2, writable⟩
    rw [decimal_of_neg negative, digits, List.cons_append, ← spell_cons]
    rcases exists_tokenizeFrom_spell all (start + 1) with ⟨tokens, read, same⟩
    refine ⟨skipTrivia_minus front, ⟨.symbol .minus, start⟩ :: tokens, ?_, ?_⟩
    · rw [tokenizeFrom_minus front, read]
      rfl
    · rw [List.map_cons, same]
      rfl
  · rw [if_neg negative] at written ⊢
    rw [Int64.lt_iff_toInt_lt, Int64.toInt_zero, Int.not_lt] at negative
    have all : AllWritable (.integer n :: back) :=
      AllWritable.cons_iff.2 ⟨(AllWritable.cons_iff.1 written).1, writable⟩
    rw [decimal_of_nonneg negative, ← spell_cons]
    exact ⟨skipTrivia_spell all, exists_tokenizeFrom_spell all start⟩

/-- Digits that no word has room for are refused. -/
theorem tokenizeFrom_digits {n : Nat} (large : 0x8000000000000000 ≤ n)
    (ends : ∀ next ∈ rest.head?, next.isDigit = false ∧ next ≠ '.') (start : Nat) :
    tokenizeFrom ⟨Nat.toDigits 10 n ++ rest, start⟩ =
      .error (.locatedAt .invalidInteger
        (Cursor.fragment ⟨Nat.toDigits 10 n ++ rest, start⟩ (Nat.toDigits 10 n).length) start) := by
  have digits : ∀ c ∈ Nat.toDigits 10 n, c.isDigit = true := fun c inside =>
    Nat.isDigit_of_mem_toDigits (by decide) (by decide) inside
  have size : digitsValue (Nat.toDigits 10 n) = n := Nat.ofDigitChars_ten_toDigits
  have scanned := scanNumber_whole digits ends
  rw [size, if_neg (Nat.not_lt.2 large)] at scanned
  rcases List.exists_cons_of_ne_nil (Nat.toDigits_ne_nil (n := n) (b := 10)) with ⟨c, more, spelled⟩
  have first : scanToken (Nat.toDigits 10 n ++ rest) = scanNumber (Nat.toDigits 10 n ++ rest) := by
    rw [spelled, List.cons_append, scanToken, if_pos (digits c (spelled ▸ List.mem_cons_self))]
  have front : Nat.toDigits 10 n ++ rest = c :: (more ++ rest) := congrArg (· ++ rest) spelled
  rw [tokenizeFrom_cons front]
  dsimp only
  rw [first, scanned]

/-- The digits of the smallest whole number are refused: they are read without the sign. -/
theorem tokenizeFrom_minValue (back : List Token) (start : Nat) :
    skipTrivia .blank ((toString Int64.minValue.toInt).toList ++ ' ' :: spell back) =
        (toString Int64.minValue.toInt).toList ++ ' ' :: spell back ∧
      tokenizeFrom ⟨(toString Int64.minValue.toInt).toList ++ ' ' :: spell back, start⟩ =
        .error (.locatedAt .invalidInteger "9223372036854775" (start + 1)) := by
  have stop : ∀ next ∈ (' ' :: spell back).head?, next.isDigit = false ∧ next ≠ '.' := by
    rintro next ⟨⟩
    decide
  have front : ∀ next ∈ (Nat.toDigits 10 Int64.minValue.toInt.natAbs ++ ' ' :: spell back).head?,
      next.isDigit = true := fun next => isDigit_of_head?_toDigits
  have spelled : Nat.toDigits 10 Int64.minValue.toInt.natAbs = "9223372036854775808".toList := by
    decide +kernel
  rw [decimal_of_neg (by decide), List.cons_append]
  refine ⟨skipTrivia_minus front, ?_⟩
  have shown : Cursor.fragment ⟨"9223372036854775808".toList ++ ' ' :: spell back, start + 1⟩
      "9223372036854775808".toList.length = "9223372036854775" := by
    rw [Cursor.fragment, List.take_append_of_le_length (by decide +kernel)]
    decide +kernel
  rw [tokenizeFrom_minus front, tokenizeFrom_digits (by decide) stop, Outcome.map_error, spelled,
    shown]

/-- The tokens of a text are those in front of a number and those from there on. -/
theorem tokenize_around_eq (writable : AllWritable front)
    (starts : skipTrivia .blank ((toString n.toInt).toList ++ ' ' :: spell back) =
      (toString n.toInt).toList ++ ' ' :: spell back) (offset : Nat) :
    tokenize (around front n back) offset =
      (placed offset front ++ ·) <$> tokenizeFrom
        ⟨(toString n.toInt).toList ++ ' ' :: spell back, offset + (spell front).length⟩ := by
  have skipped : skipTrivia .blank
      ([] ++ (spell front ++ ((toString n.toInt).toList ++ ' ' :: spell back))) =
        spell front ++ ((toString n.toInt).toList ++ ' ' :: spell back) :=
    skipTrivia_spell_append writable starts
  exact (tokenize_eq skipped offset).trans (tokenizeFrom_spell_append writable starts offset)

/-- Between tokens, the decimal of a whole number is read as its tokens. -/
theorem tokenize_around (before : AllWritable front) (behind : AllWritable back)
    (inside : n ≠ Int64.minValue) (offset : Nat) :
    ∃ tokens, tokenize (around front n back) offset = .ok tokens ∧
      tokens.map (·.token) =
        front ++ (Expr.integer n).write .operand ++ back ++ [.endOfInput] := by
  rcases tokenizeFrom_decimal inside behind (offset + (spell front).length) with
    ⟨starts, tokens, read, same⟩
  refine ⟨placed offset front ++ tokens, ?_, ?_⟩
  · rw [tokenize_around_eq before starts, read]
    rfl
  · rw [List.map_append, map_token_placed, same, List.append_assoc, List.append_assoc]

/-- Between any tokens, the decimal of the smallest whole number is refused. -/
theorem tokenize_around_minValue (before : AllWritable front) (back : List Token) (offset : Nat) :
    tokenize (around front Int64.minValue back) offset =
      .error
        (.locatedAt .invalidInteger "9223372036854775" (offset + (spell front).length + 1)) := by
  rcases tokenizeFrom_minValue back (offset + (spell front).length) with ⟨starts, read⟩
  rw [tokenize_around_eq before starts, read]
  rfl

/-! ## Conditions and SELECTs -/

/-- A condition is read from the text around a whole number of it, unless that is the smallest
one. -/
theorem parseCriteria_around_iff {expr : Expr}
    (split : expr.write .disjunction = front ++ (Expr.integer n).write .operand ++ back)
    (before : AllWritable front) (behind : AllWritable back)
    (writable : n ≠ Int64.minValue → expr.Writable) (row : InRow 0 expr.placeholders)
    (offset : Nat) :
    parseCriteria (around front n back) offset = .ok expr ↔ n ≠ Int64.minValue := by
  constructor
  · rintro found rfl
    rcases Outcome.bind_eq_ok.1 found with ⟨tokens, tokenized, -⟩
    rw [tokenize_around_minValue before] at tokenized
    cases tokenized
  · intro inside
    rcases tokenize_around before behind inside offset with ⟨tokens, tokenized, same⟩
    rw [← split] at same
    exact parseCriteria_of_tokens tokenized same (writable inside) row

/-- A SELECT is read from the text around a whole number of it, unless that is the smallest one. -/
theorem parseSelect_around_iff {select : Select}
    (split : select.write = front ++ (Expr.integer n).write .operand ++ back)
    (before : AllWritable front) (behind : AllWritable back)
    (writable : n ≠ Int64.minValue → select.Writable) (listed : select.HasColumns)
    (row : InRow 0 select.placeholders) :
    (∃ found, parseSelect (around front n back) = .ok found ∧
      found.unplaced = select.unplaced) ↔ n ≠ Int64.minValue := by
  constructor
  · rintro ⟨found, read, -⟩ rfl
    rcases parseSelect_eq_ok read with ⟨tokens, -, tokenized, -⟩
    rw [tokenize_around_minValue before] at tokenized
    cases tokenized
  · intro inside
    rcases tokenize_around before behind inside 0 with ⟨tokens, tokenized, same⟩
    rw [← split] at same
    exact parseSelect_of_tokens tokenized same (writable inside) listed row

end Around

/-! ## Lists with a hole -/

/-- Entries of a list with a comma behind each of them. -/
def commaBehind {α : Type} (write : α → List Token) (entries : List α) : List Token :=
  entries.flatMap fun entry => write entry ++ [.symbol .comma]

/-- Entries of a list with a comma in front of each of them. -/
def commaBefore {α : Type} (write : α → List Token) (entries : List α) : List Token :=
  entries.flatMap fun entry => .symbol .comma :: write entry

theorem intercalate_cons {α : Type} (write : α → List Token) (own : List Token) (after : List α) :
    [.symbol .comma].intercalate (own :: after.map write) = own ++ commaBefore write after := by
  induction after generalizing own with
  | nil => simp [commaBefore]
  | cons next after ih =>
      rw [List.map_cons, List.intercalate_cons_cons, ih, commaBefore, commaBefore,
        List.flatMap_cons, List.append_assoc, List.singleton_append, List.cons_append]

theorem intercalate_around {α : Type} (write : α → List Token) (own : List Token)
    (before after : List α) :
    [.symbol .comma].intercalate (before.map write ++ own :: after.map write) =
      commaBehind write before ++ own ++ commaBefore write after := by
  induction before with
  | nil => exact intercalate_cons write own after
  | cons first before ih =>
      have more : before.map write ++ own :: after.map write ≠ [] := by simp
      rw [List.map_cons, List.cons_append, List.intercalate_cons_of_ne_nil more, ih, commaBehind,
        commaBehind, List.flatMap_cons]
      simp only [List.append_assoc]

theorem eachWritable_iff {items : List Expr} :
    EachWritable items ↔ ∀ item ∈ items, item.Writable := by
  induction items with
  | nil => simp [EachWritable]
  | cons first rest ih => rw [EachWritable, ih, List.forall_mem_cons]

/-! ## Conditions with a hole -/

/-- The parenthesis in front of an expression whose own level is given, where its place asks for a
tighter one. -/
def opening (own place : Level) : List Token :=
  if own.rank < place.rank then [.symbol .leftParen] else []

/-- The parenthesis behind such an expression. -/
def closing (own place : Level) : List Token :=
  if own.rank < place.rank then [.symbol .rightParen] else []

theorem enclosed_eq (own place : Level) (tokens : List Token) :
    enclosed own place tokens = opening own place ++ (tokens ++ closing own place) := by
  unfold enclosed opening closing
  split
  · rfl
  · rw [List.nil_append, List.append_nil]

/-- A whole number is written the same everywhere. -/
theorem write_integer (n : Int64) (place : Level) :
    (Expr.integer n).write place = (Expr.integer n).write .operand := by
  rw [Expr.write, Expr.write]

theorem writable_integer {n : Int64} (inside : n ≠ Int64.minValue) : (Expr.integer n).Writable :=
  natAbs_lt_of_ne inside

/-- A condition with a hole: for an operand of a comparison, for what is looked up in a list or for
an item of the list. The comparison or list stands alone or in a larger condition. -/
inductive Hole where
  | first (op : CompareOp) (right : Expr)
  | second (left : Expr) (op : CompareOp)
  | member (items : List Expr) (negated : Bool)
  | item (operand : Expr) (before after : List Expr) (negated : Bool)
  | orLeft (hole : Hole) (right : Expr)
  | orRight (left : Expr) (hole : Hole)
  | andLeft (hole : Hole) (right : Expr)
  | andRight (left : Expr) (hole : Hole)
  | not (hole : Hole)

namespace Hole

/-- The condition with a whole number in the hole. -/
def fill (n : Int64) : Hole → Expr
  | .first op right => .binary (.compare op) (.integer n) right
  | .second left op => .binary (.compare op) left (.integer n)
  | .member items negated => .inList (.integer n) items negated
  | .item operand before after negated => .inList operand (before ++ .integer n :: after) negated
  | .orLeft hole right => .binary .or (hole.fill n) right
  | .orRight left hole => .binary .or left (hole.fill n)
  | .andLeft hole right => .binary .and (hole.fill n) right
  | .andRight left hole => .binary .and left (hole.fill n)
  | .not hole => .not (hole.fill n)

/-- The words in front of a list. -/
def inFront (negated : Bool) : List Token :=
  (if negated then [.keyword .not_] else []) ++ [.keyword .in_, .symbol .leftParen]

/-- The tokens in front of the hole, when the condition stands at a place. -/
def front (place : Level) : Hole → List Token
  | .first _ _ | .member _ _ => opening .comparison place
  | .second left op => opening .comparison place ++ (left.write .operand ++ [.symbol op.symbol])
  | .item operand before _ negated =>
      opening .comparison place ++
        (operand.write .operand ++
          (inFront negated ++ commaBehind (Expr.write .disjunction) before))
  | .orLeft hole _ => opening .disjunction place ++ hole.front .disjunction
  | .orRight left hole =>
      opening .disjunction place ++
        (left.write .disjunction ++ .keyword .or_ :: hole.front .conjunction)
  | .andLeft hole _ => opening .conjunction place ++ hole.front .conjunction
  | .andRight left hole =>
      opening .conjunction place ++
        (left.write .conjunction ++ .keyword .and_ :: hole.front .negation)
  | .not hole => opening .negation place ++ .keyword .not_ :: hole.front .negation

/-- The tokens behind the hole. -/
def back (place : Level) : Hole → List Token
  | .first op right => .symbol op.symbol :: right.write .operand ++ closing .comparison place
  | .second _ _ => closing .comparison place
  | .member items negated =>
      inFront negated ++ [.symbol .comma].intercalate (writeEach items) ++
        .symbol .rightParen :: closing .comparison place
  | .item _ _ after _ =>
      commaBefore (Expr.write .disjunction) after ++
        .symbol .rightParen :: closing .comparison place
  | .orLeft hole right =>
      hole.back .disjunction ++
        .keyword .or_ :: right.write .conjunction ++ closing .disjunction place
  | .orRight _ hole => hole.back .conjunction ++ closing .disjunction place
  | .andLeft hole right =>
      hole.back .conjunction ++
        .keyword .and_ :: right.write .negation ++ closing .conjunction place
  | .andRight _ hole => hole.back .negation ++ closing .conjunction place
  | .not hole => hole.back .negation ++ closing .negation place

/-- The tokens of a condition are those of the number and those around the hole. -/
theorem write_fill (hole : Hole) (n : Int64) (place : Level) :
    (hole.fill n).write place =
      hole.front place ++ (Expr.integer n).write .operand ++ hole.back place := by
  induction hole generalizing place with
  | first op right | second left op | member items negated =>
      simp [fill, front, back, inFront, Expr.write, enclosed_eq]
  | item operand before after negated =>
      have list : [.symbol .comma].intercalate (writeEach (before ++ .integer n :: after)) =
          commaBehind (Expr.write .disjunction) before ++ (Expr.integer n).write .operand ++
            commaBefore (Expr.write .disjunction) after := by
        rw [writeEach_eq_map, List.map_append, List.map_cons, intercalate_around, write_integer]
      generalize (Expr.integer n).write .operand = own at list ⊢
      rw [fill, Expr.write, list]
      simp [front, back, inFront, enclosed_eq]
  | orLeft hole right ih | andLeft hole right ih | orRight left hole ih | andRight left hole ih
  | not hole ih =>
      generalize (Expr.integer n).write .operand = own at ih ⊢
      rw [fill, Expr.write, ih]
      simp [front, back, enclosed_eq]

theorem writable_fill {n : Int64} (hole : Hole) (rest : (hole.fill 0).Writable)
    (inside : n ≠ Int64.minValue) : (hole.fill n).Writable := by
  have own := writable_integer inside
  induction hole with
  | first op right => exact ⟨own, rest.2⟩
  | second left op => exact ⟨rest.1, own⟩
  | member items negated => exact ⟨own, rest.2⟩
  | item operand before after negated =>
      rcases rest with ⟨writable, -, items⟩
      refine ⟨writable, by simp, ?_⟩
      rw [eachWritable_iff, List.forall_mem_append, List.forall_mem_cons] at items ⊢
      exact ⟨items.1, own, items.2.2⟩
  | orLeft hole right ih | andLeft hole right ih => exact ⟨ih rest.1, rest.2⟩
  | orRight left hole ih | andRight left hole ih => exact ⟨rest.1, ih rest.2⟩
  | not hole ih => exact ih rest

theorem placeholders_fill (hole : Hole) (n : Int64) :
    (hole.fill n).placeholders = (hole.fill 0).placeholders := by
  induction hole with
  | first op right | second left op | member items negated => rfl
  | item operand before after negated =>
      simp [fill, Expr.placeholders, placeholdersOf_append, placeholdersOf]
  | orLeft hole right ih | andLeft hole right ih | orRight left hole ih | andRight left hole ih
  | not hole ih => simp [fill, Expr.placeholders, ih]

/-- What stands around the hole can be written where it can with a small number inside. -/
theorem allWritable (hole : Hole) (rest : (hole.fill 0).Writable) :
    AllWritable (hole.front .disjunction) ∧ AllWritable (hole.back .disjunction) := by
  have all := (hole.fill 0).allWritable_write rest .disjunction
  rw [hole.write_fill, AllWritable.append_iff, AllWritable.append_iff] at all
  exact ⟨all.1.1, all.2⟩

end Hole

/-! ## SELECTs with a hole -/

/-- The tokens of what a SELECT reads from. -/
def Source.write : Source Select → List Token
  | .table name => [.identifier name]
  | .nested inner => .symbol .leftParen :: (inner.write ++ [.symbol .rightParen])

theorem Select.write_eq (select : Select) :
    select.write =
      writeColumns select.columns ++ (select.source.write ++
        writeClauses select.filter select.limit) := by
  rcases select with ⟨columns, source, offset, filter, limit⟩
  cases source <;> simp [Select.write, Source.write]

/-- A SELECT with a hole: in its condition, for an entry of its column list, or in the SELECT that
it reads from. -/
inductive SelectHole where
  | inFilter (hole : Hole) (columns : List Column) (source : Source Select) (offset : Nat)
      (limit : Option Nat)
  | inColumns (before after : List Column) (label : Option String) (source : Source Select)
      (offset : Nat) (filter : Option Expr) (limit : Option Nat)
  | inSource (inner : SelectHole) (columns : List Column) (offset : Nat) (filter : Option Expr)
      (limit : Option Nat)

namespace SelectHole

/-- The SELECT with a whole number in the hole. -/
def fill (n : Int64) : SelectHole → Select
  | .inFilter hole columns source offset limit =>
      ⟨columns, source, offset, some (hole.fill n), limit⟩
  | .inColumns before after label source offset filter limit =>
      ⟨before ++ .expression (.integer n) label :: after, source, offset, filter, limit⟩
  | .inSource inner columns offset filter limit =>
      ⟨columns, .nested (inner.fill n), offset, filter, limit⟩

/-- The tokens in front of the hole. -/
def front : SelectHole → List Token
  | .inFilter hole columns source _ _ =>
      writeColumns columns ++ (source.write ++ .keyword .where_ :: hole.front .disjunction)
  | .inColumns before _ _ _ _ _ _ => .keyword .select :: commaBehind Column.write before
  | .inSource inner columns _ _ _ => writeColumns columns ++ .symbol .leftParen :: inner.front

/-- The tokens behind the hole. -/
def back : SelectHole → List Token
  | .inFilter hole _ _ _ limit => hole.back .disjunction ++ writeLimit limit
  | .inColumns _ after label source _ filter limit =>
      writeLabel label ++ commaBefore Column.write after ++
        .keyword .from_ :: source.write ++ writeClauses filter limit
  | .inSource inner _ _ filter limit =>
      inner.back ++ .symbol .rightParen :: writeClauses filter limit

/-- The tokens of a SELECT are those of the number and those around the hole. -/
theorem write_fill (hole : SelectHole) (n : Int64) :
    (hole.fill n).write = hole.front ++ (Expr.integer n).write .operand ++ hole.back := by
  induction hole with
  | inFilter hole columns source offset limit =>
      simp [Select.write_eq, fill, front, back, writeClauses, writeFilter, hole.write_fill]
  | inColumns before after label source offset filter limit =>
      have list : [.symbol .comma].intercalate
          ((before ++ .expression (.integer n) label :: after).map Column.write) =
            commaBehind Column.write before ++
              ((Expr.integer n).write .operand ++ writeLabel label) ++
                commaBefore Column.write after := by
        rw [List.map_append, List.map_cons, intercalate_around, Column.write]
      rw [Select.write_eq, fill, writeColumns, list]
      simp [front, back]
  | inSource inner columns offset filter limit ih =>
      rw [Select.write_eq, fill, Source.write, ih]
      simp [front, back]

theorem writable_fill {n : Int64} (hole : SelectHole) (rest : (hole.fill 0).Writable)
    (inside : n ≠ Int64.minValue) : (hole.fill n).Writable := by
  induction hole with
  | inFilter hole columns source offset limit =>
      have filled : ∀ expr ∈ some (hole.fill n), expr.Writable := by
        rintro _ ⟨⟩
        cases source <;> exact hole.writable_fill (rest.2.2.1 _ rfl) inside
      cases source <;> exact ⟨rest.1, rest.2.1, filled, rest.2.2.2⟩
  | inColumns before after label source offset filter limit =>
      have listed : (∀ column ∈ before ++ .expression (.integer 0) label :: after,
          column.Writable) → ∀ column ∈ before ++ .expression (.integer n) label :: after,
            column.Writable := by
        intro listed
        rw [List.forall_mem_append, List.forall_mem_cons] at listed ⊢
        exact ⟨listed.1, ⟨writable_integer inside, rfl, listed.2.1.2.2⟩, listed.2.2⟩
      cases source <;> exact ⟨listed rest.1, rest.2⟩
  | inSource inner columns offset filter limit ih => exact ⟨rest.1, ih rest.2.1, rest.2.2⟩

theorem placeholders_fill (hole : SelectHole) (n : Int64) :
    (hole.fill n).placeholders = (hole.fill 0).placeholders := by
  induction hole with
  | inFilter hole columns source offset limit =>
      simp [Select.placeholders_eq, fill, filterPlaceholders, hole.placeholders_fill n]
  | inColumns before after label source offset filter limit =>
      simp [Select.placeholders_eq, fill, columnPlaceholders, Column.placeholders,
        Expr.placeholders]
  | inSource inner columns offset filter limit ih =>
      rw [fill, fill, Select.placeholders, Select.placeholders, ih]

theorem hasColumns_fill (hole : SelectHole) (rest : (hole.fill 0).HasColumns) (n : Int64) :
    (hole.fill n).HasColumns := by
  induction hole with
  | inFilter hole columns source offset limit => cases source <;> exact rest
  | inColumns before after label source offset filter limit =>
      cases source with
      | table name => simp [fill, Select.HasColumns]
      | nested inner => exact ⟨by simp, rest.2⟩
  | inSource inner columns offset filter limit ih => exact ⟨rest.1, ih rest.2⟩

theorem allWritable (hole : SelectHole) (rest : (hole.fill 0).Writable) :
    AllWritable hole.front ∧ AllWritable hole.back := by
  have all := (hole.fill 0).allWritable_write rest
  rw [hole.write_fill, AllWritable.append_iff, AllWritable.append_iff] at all
  exact ⟨all.1.1, all.2⟩

end SelectHole

/-- Every whole number but the smallest one is read back from its decimal: as an operand of a
comparison or of a look-up in a list and as an item of the list, anywhere in a condition, alone or
in a SELECT, and as an entry of a column list. What stands around it has only to be what can stand
around a zero. -/
theorem integer_operand_iff (n : Int64) :
    (∀ hole : Hole, (hole.fill 0).Writable → InRow 0 (hole.fill 0).placeholders → ∀ offset,
      (parseCriteria (around (hole.front .disjunction) n (hole.back .disjunction)) offset =
        .ok (hole.fill n) ↔ n ≠ Int64.minValue)) ∧
    (∀ hole : SelectHole, (hole.fill 0).Writable → (hole.fill 0).HasColumns →
      InRow 0 (hole.fill 0).placeholders →
        ((∃ found, parseSelect (around hole.front n hole.back) = .ok found ∧
          found.unplaced = (hole.fill n).unplaced) ↔ n ≠ Int64.minValue)) := by
  constructor
  · intro hole rest row offset
    rcases hole.allWritable rest with ⟨before, behind⟩
    exact parseCriteria_around_iff (hole.write_fill n .disjunction) before behind
      (hole.writable_fill rest) (hole.placeholders_fill n ▸ row) offset
  · intro hole rest listed row
    rcases hole.allWritable rest with ⟨before, behind⟩
    exact parseSelect_around_iff (hole.write_fill n) before behind (hole.writable_fill rest)
      (hole.hasColumns_fill listed n) (hole.placeholders_fill n ▸ row)

/-- A number in an item of a list, behind its sign. -/
theorem integer_operand_iff_minus_five :
    around [.identifier "F", .keyword .in_, .symbol .leftParen] (-5) [.symbol .rightParen] =
        "\x60F\x60 IN ( -5 ) " ∧
      parseCriteria "\x60F\x60 IN ( -5 ) " 0 =
        .ok (.inList (.column "F") [.integer (-5)] false) := by
  have text : around [.identifier "F", .keyword .in_, .symbol .leftParen] (-5)
      [.symbol .rightParen] = "\x60F\x60 IN ( -5 ) " := by decide +kernel
  have plain : Plain "F" := by decide
  have rest : (Expr.inList (.column "F") [.integer 0] false).Writable := by
    simp [Expr.Writable, EachWritable, plain]
  have read := ((integer_operand_iff (-5)).1 (.item (.column "F") [] [] false) rest rfl 0).2
    (by decide)
  exact ⟨text, text ▸ read⟩

/-- The smallest whole number is refused in a comparison. -/
theorem minValue_refused :
    parseCriteria "F = -9223372036854775808" 0 ≠
      .ok (.binary (.compare .eq) (.column "F") (.integer Int64.minValue)) := by
  have refused : (parseCriteria "F = -9223372036854775808" 0).toOption.isSome = false := by
    decide +kernel
  intro read
  rw [read] at refused
  cases refused

end RecordQuery.Sql
