import Mathlib.Tactic.ByContra
import RecordQuery.Instant

/-!
# Moments as text

The text of a moment can be read exactly where its year in UTC has four digits. Only then does the
year stand without a sign; all other parts of the text are always in range.
-/

namespace RecordQuery

namespace Instant

/-! ## Days of an era -/

/-- A day of an era, which is four hundred years, lies in one of its centuries, in four of their
years, and in one of these. Only the last of four years has a leap day, and the last four years of a
century have none except in the last century. -/
structure DayOfEra (n century four year day : Int) : Prop where
  inEra : 0 ≤ century ∧ century < 4
  inCentury : 0 ≤ four ∧ four < 25
  inFour : 0 ≤ year ∧ year < 4
  inYear : 0 ≤ day ∧ day ≤ 365
  leapDay : day = 365 → year = 3 ∧ (four = 24 → century = 3)
  exact : n = 36524 * century + 1461 * four + 365 * year + day

theorem exists_dayOfEra {n : Int} (least : 0 ≤ n) (most : n < 146097) :
    ∃ century four year day, DayOfEra n century four year day := by
  let century := min 3 (n / 36524)
  let dayOfCentury := n - 36524 * century
  let dayOfFour := dayOfCentury % 1461
  let year := min 3 (dayOfFour / 365)
  have inEra : 0 ≤ century ∧ century < 4 ∧ 0 ≤ dayOfCentury ∧
      (dayOfCentury < 36524 ∨ dayOfCentury = 36524 ∧ century = 3) := by
    omega
  have inFour : 0 ≤ dayOfFour ∧ dayOfFour < 1461 := by omega
  have inYear : 0 ≤ year ∧ year < 4 ∧ 0 ≤ dayOfFour - 365 * year ∧
      (dayOfFour - 365 * year < 365 ∨ dayOfFour - 365 * year = 365 ∧ year = 3) := by
    omega
  refine ⟨century, dayOfCentury / 1461, year, dayOfFour - 365 * year, ?_, ?_, ?_, ?_, ?_, ?_⟩
  all_goals omega

/-- The year of an era that a day lies in. -/
theorem yearOfEra_eq {n century four year day : Int}
    (lies : DayOfEra n century four year day) :
    (n - n / 1460 + n / 36524 - n / 146096) / 365 = 100 * century + 4 * four + year := by
  obtain ⟨inEra, inCentury, inFour, inYear, leapDay, exact⟩ := lies
  by_cases last : n = 146096
  · omega
  · have centuries : n / 36524 = century := by omega
    have eras : n / 146096 = 0 := by omega
    -- A day near the end of its four years counts as one more group of `1460` days.
    have fours : n / 1460 = 25 * century + four ∨
        n / 1460 = 25 * century + four + 1 ∧ 1460 ≤ 24 * century + four + 365 * year + day := by
      omega
    omega

/-- The day of a year of an era. -/
theorem dayOfYear_eq {n century four year day : Int} (lies : DayOfEra n century four year day) :
    n - (365 * (100 * century + 4 * four + year) + (100 * century + 4 * four + year) / 4 -
      (100 * century + 4 * four + year) / 100) = day := by
  obtain ⟨inEra, inCentury, inFour, inYear, leapDay, exact⟩ := lies
  have fours : (100 * century + 4 * four + year) / 4 = 25 * century + four := by omega
  have centuries : (100 * century + 4 * four + year) / 100 = century := by omega
  omega

/-! ## Dates -/

/-- A month counted from March and a day of it. -/
structure DayOfYear (n month day : Int) : Prop where
  inYear : 0 ≤ month ∧ month ≤ 11
  first : 1 ≤ day
  last : day ≤ 31
  short : month = 1 ∨ month = 3 ∨ month = 6 ∨ month = 8 → day ≤ 30
  february : month = 11 → day ≤ 28 ∨ day = 29 ∧ n = 365
  exact : n = (153 * month + 2) / 5 + day - 1

theorem dayOfYear_of_le {n : Int} (least : 0 ≤ n) (most : n ≤ 365) :
    DayOfYear n ((5 * n + 2) / 153) (n - (153 * ((5 * n + 2) / 153) + 2) / 5 + 1) := by
  constructor
  all_goals omega

theorem isLeapYear_iff {year : Nat} :
    isLeapYear year = true ↔ year % 4 = 0 ∧ (year % 100 ≠ 0 ∨ year % 400 = 0) := by
  simp [isLeapYear]

/-- The days since the start of 1970 on which the years 0 to 9999 begin and end. -/
theorem daysOfDate_fourDigits :
    daysOfDate 0 1 1 = -719528 ∧ daysOfDate 10000 1 1 = 2932897 := by
  constructor <;> rfl

/-- The month and the day of a date are in range, and its year has four digits exactly on the days of
those years. -/
structure DateInRange (days year month day : Int) : Prop where
  inYear : 1 ≤ month ∧ month ≤ 12
  first : 1 ≤ day
  last : 0 ≤ year → day ≤ daysInMonth year.toNat month.toNat
  least : 0 ≤ year ↔ daysOfDate 0 1 1 ≤ days
  most : year ≤ 9999 ↔ days < daysOfDate 10000 1 1

/-- A month has as many days as its year, counted from March, leaves for it. -/
theorem le_daysInMonth {year month : Nat} {day : Int} (last : day ≤ 31)
    (short : month = 4 ∨ month = 6 ∨ month = 9 ∨ month = 11 → day ≤ 30)
    (february : month = 2 → day ≤ 28 ∨ day = 29 ∧ isLeapYear year = true) :
    day ≤ daysInMonth year month := by
  rw [daysInMonth.eq_def]
  split
  · rcases february rfl with usual | ⟨leapDay, leap⟩
    · split
      all_goals omega
    · rw [leap, leapDay]
      decide
  · exact short (.inl rfl)
  · exact short (.inr (.inl rfl))
  · exact short (.inr (.inr (.inl rfl)))
  · exact short (.inr (.inr (.inr rfl)))
  · exact last

/-- The date of a day is one of the calendar. -/
theorem exists_dateOfDays (days : Int) :
    ∃ year month day, dateOfDays days = (year, month, day) ∧ DateInRange days year month day := by
  have whole : (days + 719468).fdiv 146097 = (days + 719468) / 146097 :=
    Int.fdiv_eq_ediv_of_nonneg _ (by decide)
  rw [dateOfDays, whole]
  generalize era_eq : (days + 719468) / 146097 = era
  generalize ofEra_eq : days + 719468 - era * 146097 = ofEra
  have least : 0 ≤ ofEra := by omega
  have most : ofEra < 146097 := by omega
  obtain ⟨century, four, year, ofYear, lies⟩ := exists_dayOfEra least most
  rw [yearOfEra_eq lies, dayOfYear_eq lies]
  obtain ⟨inEra, inCentury, inFour, inYear, leapDay, exact⟩ := lies
  obtain ⟨inMonths, first, last, short, february, months⟩ := dayOfYear_of_le inYear.1 inYear.2
  generalize (5 * ofYear + 2) / 153 = month at *
  generalize ofYear - (153 * month + 2) / 5 + 1 = day at *
  have least := daysOfDate_fourDigits.1
  have most := daysOfDate_fourDigits.2
  by_cases march : month < 10
  · rw [if_pos march, if_neg (show ¬ month + 3 ≤ 2 by omega)]
    have beforeMarch : ofEra ≤ 146036 := by omega
    refine ⟨_, _, _, rfl, ?_, first, ?_, ?_, ?_⟩
    · omega
    · intro positive
      apply le_daysInMonth last
      all_goals omega
    · by_cases before : era < 0
      all_goals omega
    · by_cases before : era < 25
      all_goals omega
  · rw [if_neg march, if_pos (show month - 9 ≤ 2 by omega)]
    refine ⟨_, _, _, rfl, ?_, first, ?_, ?_, ?_⟩
    · omega
    · intro positive
      apply le_daysInMonth last
      · omega
      · intro second
        rw [isLeapYear_iff]
        omega
    · omega
    · omega

/-! ## Digits -/

theorem toList_padded {width n : Nat} :
    (padded width n).toList =
      List.replicate (width - (Nat.toDigits 10 n).length) '0' ++ Nat.toDigits 10 n := by
  rw [padded, String.toList_ofList]

theorem isDigit_of_mem_padded {width n : Nat} {c : Char} (member : c ∈ (padded width n).toList) :
    c.isDigit = true := by
  rw [toList_padded, List.mem_append] at member
  cases member with
  | inl zeros =>
      cases List.eq_of_mem_replicate zeros
      rfl
  | inr digits => exact Nat.isDigit_of_mem_toDigits (by decide) (by decide) digits

theorem padded_ne_nil {width n : Nat} : (padded width n).toList ≠ [] := by
  rw [toList_padded]
  simp [Nat.toDigits_ne_nil]

theorem readDigits_padded {width n : Nat} {rest : List Char} (wide : 0 < width)
    (small : n < Nat.pow 10 width) :
    readDigits width ((padded width n).toList ++ rest) = some (n, rest) := by
  have length : (padded width n).toList.length = width := by
    have digits := (Nat.length_toDigits_le_iff (b := 10) (by decide) wide).2 small
    rw [toList_padded, List.length_append, List.length_replicate]
    omega
  have all : (padded width n).toList.all Char.isDigit = true := by
    rw [List.all_eq_true]
    intro c member
    exact isDigit_of_mem_padded member
  have value : Nat.ofDigitChars 10 (padded width n).toList 0 = n := by
    rw [toList_padded, Nat.ofDigitChars_append, Nat.ofDigitChars_replicate_zero, Nat.mul_zero,
      Nat.ofDigitChars_ten_toDigits]
  rw [readDigits, List.take_left' length, List.drop_left' length, length, all, value]
  simp

/-- A sign is no digit. -/
theorem readDigits_sign {count : Nat} {sign : Char} {rest : List Char}
    (apart : sign.isDigit = false) : readDigits (count + 1) (sign :: rest) = none := by
  rw [readDigits, List.take_succ_cons, List.all_cons, apart]
  simp

/-! ## Texts of moments -/

theorem exists_readFraction_padded (width n : Nat) (rest : List Char) :
    ∃ nano, readFraction (("." ++ padded width n).toList ++ '+' :: rest) =
      some (nano, '+' :: rest) := by
  have digits : ∀ c ∈ (padded width n).toList, c.isDigit = true := fun c member =>
    isDigit_of_mem_padded member
  have some : (padded width n).toList.isEmpty = false := List.isEmpty_eq_false_iff.2 padded_ne_nil
  have point : ("." ++ padded width n).toList = '.' :: (padded width n).toList :=
    String.toList_append
  rw [point, List.cons_append, readFraction, List.takeWhile_append_of_pos digits,
    List.dropWhile_append_of_pos digits, List.takeWhile_cons_of_neg (by decide),
    List.dropWhile_cons_of_neg (by decide), List.append_nil, some]
  exact ⟨_, rfl⟩

/-- A fraction of a second can be read in front of the offset. -/
theorem exists_readFraction (nano : Nat) (rest : List Char) :
    ∃ read, readFraction ((fractionText nano).toList ++ '+' :: rest) = some (read, '+' :: rest) := by
  rw [fractionText]
  split
  · exact ⟨0, rfl⟩
  · split
    · apply exists_readFraction_padded
    · split
      all_goals apply exists_readFraction_padded

/-- The moments of the years 0 to 9999 in UTC. -/
def HasFourDigitYear (moment : Instant) : Prop :=
  daysOfDate 0 1 1 * 86400 ≤ moment.second ∧ moment.second < daysOfDate 10000 1 1 * 86400

instance (moment : Instant) : Decidable moment.HasFourDigitYear := inferInstanceAs (Decidable (_ ∧ _))

/-- The text of a moment after its year. -/
def afterYear (month day hour minute second : Nat) (fraction : List Char) : List Char :=
  '-' :: ((padded 2 month).toList ++ '-' :: ((padded 2 day).toList ++ 'T' ::
    ((padded 2 hour).toList ++ ':' :: ((padded 2 minute).toList ++ ':' ::
      ((padded 2 second).toList ++ (fraction ++ "+00:00".toList))))))

/-- The text of a moment spells the date of its day and a time of it. -/
theorem exists_toList_text (moment : Instant) :
    ∃ year month day, DateInRange (moment.second / 86400) year month day ∧
      ∃ hour minute second nano, hour < 24 ∧ minute < 60 ∧ second ≤ 60 ∧
        moment.text.toList = (yearText year).toList ++
          afterYear month.toNat day.toNat hour minute second (fractionText nano).toList := by
  obtain ⟨year, month, day, date, inRange⟩ := exists_dateOfDays (moment.second / 86400)
  have inDay : (moment.second - moment.second / 86400 * 86400).toNat < 86400 := by omega
  have parts : ∃ leap nano, leap ≤ 1 ∧ (if moment.nano < 1000000000 then (0, moment.nano)
      else (1, moment.nano - 1000000000)) = (leap, nano) := by
    split
    · exact ⟨0, _, by decide, rfl⟩
    · exact ⟨1, _, by decide, rfl⟩
  obtain ⟨leap, nano, small, parts⟩ := parts
  rw [text, Int.fdiv_eq_ediv_of_nonneg _ (by decide), date, parts]
  generalize (moment.second - moment.second / 86400 * 86400).toNat = clock at inDay
  refine ⟨year, month, day, inRange, clock / 3600, clock / 60 % 60, clock % 60 + leap, nano, ?_, ?_,
    ?_, ?_⟩
  · omega
  · omega
  · omega
  · simp only [String.toList_append, afterYear, List.append_assoc, String.reduceToList,
      List.cons_append, List.nil_append]

theorem readChar_self {c : Char} {rest : List Char} : readChar c (c :: rest) = some rest := by
  rw [readChar, if_pos BEq.rfl]

theorem isSome_bind_of_eq_some {α β : Type} {first : Option α} {value : α} {rest : α → Option β}
    (found : first = some value) (made : (rest value).isSome = true) :
    (first >>= rest).isSome = true := by
  rw [found]
  exact made

theorem daysInMonth_le (year month : Nat) : daysInMonth year month ≤ 31 := by
  rw [daysInMonth.eq_def]
  split
  · split
    all_goals decide
  all_goals decide

/-- A year of four digits, with a date and a time that are in range after it, can be read. -/
theorem isText_of_toList {text : String} {year month day hour minute second : Nat}
    {fraction : List Char} {nano : Nat} (small : year ≤ 9999) (inYear : 1 ≤ month ∧ month ≤ 12)
    (inMonth : 1 ≤ day ∧ day ≤ daysInMonth year month) (hours : hour < 24) (minutes : minute < 60)
    (seconds : second ≤ 60)
    (read : readFraction (fraction ++ "+00:00".toList) = some (nano, "+00:00".toList))
    (spelled : text.toList =
      (padded 4 year).toList ++ afterYear month day hour minute second fraction) :
    isText text = true := by
  have longest := daysInMonth_le year month
  have zone : readOffset "+00:00".toList = some (0, []) := by decide
  rw [isText, read?, spelled]
  apply isSome_bind_of_eq_some (readDigits_padded (by decide) (show year < 10000 by omega))
  apply isSome_bind_of_eq_some readChar_self
  apply isSome_bind_of_eq_some (readDigits_padded (by decide) (show month < 100 by omega))
  apply isSome_bind_of_eq_some readChar_self
  apply isSome_bind_of_eq_some (readDigits_padded (by decide) (show day < 100 by omega))
  apply isSome_bind_of_eq_some rfl
  apply isSome_bind_of_eq_some rfl
  apply isSome_bind_of_eq_some (readDigits_padded (by decide) (show hour < 100 by omega))
  apply isSome_bind_of_eq_some readChar_self
  apply isSome_bind_of_eq_some (readDigits_padded (by decide) (show minute < 100 by omega))
  apply isSome_bind_of_eq_some readChar_self
  apply isSome_bind_of_eq_some (readDigits_padded (by decide) (show second < 100 by omega))
  apply isSome_bind_of_eq_some read
  apply isSome_bind_of_eq_some zone
  apply isSome_bind_of_eq_some rfl
  have date : (1 ≤ month && month ≤ 12 && 1 ≤ day && day ≤ daysInMonth year month) = true := by
    simp [inYear, inMonth]
  have clock : (hour < 24 && minute < 60 && second ≤ 60) = true := by
    simp [hours, minutes, seconds]
  apply isSome_bind_of_eq_some (if_pos date)
  apply isSome_bind_of_eq_some (if_pos clock)
  rfl

/-- A year with a sign cannot be read. -/
theorem isText_of_sign {text : String} {sign : Char} {rest : List Char}
    (apart : sign.isDigit = false) (spelled : text.toList = sign :: rest) : isText text = false := by
  rw [isText, read?, spelled, readDigits_sign apart]
  rfl

theorem yearText_of_inRange {year : Int} (inRange : 0 ≤ year ∧ year ≤ 9999) :
    yearText year = padded 4 year.toNat := by
  rw [yearText, if_neg (by omega), if_neg (by omega)]
  congr 1
  omega

theorem exists_yearText {year : Int} (apart : ¬ (0 ≤ year ∧ year ≤ 9999)) :
    ∃ sign rest, sign.isDigit = false ∧ (yearText year).toList = sign :: rest := by
  rw [yearText]
  split
  · exact ⟨'-', _, by decide, String.toList_append⟩
  · rw [if_pos (by omega)]
    exact ⟨'+', _, by decide, String.toList_append⟩

/-- The text of a moment is in the form of RFC 3339 exactly if its year has four digits. -/
theorem isText_text_iff {moment : Instant} :
    isText moment.text = true ↔ moment.HasFourDigitYear := by
  obtain ⟨year, month, day, date, hour, minute, second, nano, hours, minutes, seconds, spelled⟩ :=
    exists_toList_text moment
  have fourDigits : moment.HasFourDigitYear ↔ 0 ≤ year ∧ year ≤ 9999 := by
    rw [date.least, date.most, HasFourDigitYear]
    omega
  rw [fourDigits]
  constructor
  · intro read
    by_contra apart
    obtain ⟨sign, rest, noDigit, signed⟩ := exists_yearText apart
    rw [signed] at spelled
    rw [isText_of_sign noDigit spelled] at read
    cases read
  · intro inRange
    obtain ⟨read, fraction⟩ := exists_readFraction nano "00:00".toList
    rw [yearText_of_inRange inRange] at spelled
    have last := date.last inRange.1
    have first := date.first
    have months := date.inYear
    apply isText_of_toList _ _ _ hours minutes seconds fraction spelled
    all_goals omega

end Instant

end RecordQuery
