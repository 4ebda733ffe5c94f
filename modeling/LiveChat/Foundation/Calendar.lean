import LiveChat.Foundation.Text

/-!
# Dates and their ISO 8601 texts

The proleptic Gregorian calendar of `datetime`, from the first of January of year 1.  Cycles of
400, 100, 4 and 1 years are split off one after the other; the last day of a cycle whose last
part is a day longer belongs to that part.  `isoformat` is the text of an aware UTC datetime, and
two datetimes with the same text are the same microsecond.
-/

set_option autoImplicit false

namespace LiveChat.Foundation.Calendar

open Text

/-! ## Consecutive spans -/

/-- The span that a day falls in, and its place there. -/
def locate : List Nat → Nat → Nat × Nat
  | [], day => (0, day)
  | length :: rest, day =>
      if day < length then (0, day)
      else ((locate rest (day - length)).1 + 1, (locate rest (day - length)).2)

/-- The spans before it and the place add up to the day. -/
theorem sum_locate (lengths : List Nat) (day : Nat) :
    (lengths.take (locate lengths day).1).sum + (locate lengths day).2 = day := by
  induction lengths generalizing day with
  | nil => simp [locate]
  | cons length rest ih =>
      unfold locate
      by_cases inside : day < length
      · simp [inside]
      · have later := ih (day - length)
        simp only [if_neg inside, List.take_succ_cons, List.sum_cons]
        omega

/-! ## Dates -/

structure Date where
  year : Nat
  month : Nat
  day : Nat
  deriving DecidableEq, Repr

def isLeap (year : Nat) : Bool := year % 4 == 0 && (year % 100 != 0 || year % 400 == 0)

def monthLengths (year : Nat) : List Nat :=
  [31, if isLeap year then 29 else 28, 31, 30, 31, 30, 31, 31, 30, 31, 30, 31]

def daysBeforeYear (year : Nat) : Nat :=
  (year - 1) * 365 + (year - 1) / 4 - (year - 1) / 100 + (year - 1) / 400

/-- Days since the first of January of year 1. -/
def Date.ordinal (date : Date) : Nat :=
  daysBeforeYear date.year + ((monthLengths date.year).take (date.month - 1)).sum + (date.day - 1)

/-- The year of a day and the days before it in that year. -/
def yearOf (days : Nat) : Nat × Nat :=
  let cycle := days % 146097
  let century := min 3 (cycle / 36524)
  let inCentury := cycle - century * 36524
  let inFour := inCentury % 1461
  let last := min 3 (inFour / 365)
  (days / 146097 * 400 + century * 100 + inCentury / 1461 * 4 + last + 1, inFour - last * 365)

def ofOrdinal (days : Nat) : Date :=
  let (year, inYear) := yearOf days
  let (month, inMonth) := locate (monthLengths year) inYear
  ⟨year, month + 1, inMonth + 1⟩

theorem daysBeforeYear_yearOf (days : Nat) :
    daysBeforeYear (yearOf days).1 + (yearOf days).2 = days := by
  simp only [yearOf, daysBeforeYear, Nat.add_sub_cancel]
  generalize cycleIs : days % 146097 = cycle
  generalize centuryIs : min 3 (cycle / 36524) = century
  generalize inCenturyIs : cycle - century * 36524 = inCentury
  generalize inFourIs : inCentury % 1461 = inFour
  generalize lastIs : min 3 (inFour / 365) = last
  generalize foursIs : inCentury / 1461 = fours
  generalize erasIs : days / 146097 = eras
  have cycleSmall : cycle < 146097 := by omega
  have centurySmall : century ≤ 3 := by omega
  have inCenturySmall : inCentury ≤ 36524 ∧ cycle = century * 36524 + inCentury := by omega
  have foursSmall : fours ≤ 24 ∧ inCentury = fours * 1461 + inFour := by omega
  have lastSmall : last ≤ 3 ∧ last * 365 ≤ inFour := by omega
  have byFour : (eras * 400 + century * 100 + fours * 4 + last) / 4 =
      eras * 100 + century * 25 + fours := by omega
  have byHundred : (eras * 400 + century * 100 + fours * 4 + last) / 100 = eras * 4 + century := by
    omega
  have byFourHundred : (eras * 400 + century * 100 + fours * 4 + last) / 400 = eras := by omega
  rw [byFour, byHundred, byFourHundred]
  omega

/-- A date is read back as its day. -/
theorem ordinal_ofOrdinal (days : Nat) : (ofOrdinal days).ordinal = days := by
  have inYear := sum_locate (monthLengths (yearOf days).1) (yearOf days).2
  have whole := daysBeforeYear_yearOf days
  simp only [ofOrdinal, Date.ordinal, Nat.add_sub_cancel]
  omega

theorem ofOrdinal_injective {days other : Nat} (same : ofOrdinal days = ofOrdinal other) :
    days = other := by
  rw [← ordinal_ofOrdinal days, same, ordinal_ofOrdinal]

/-! ## ISO 8601 -/

/-- The first of January 1970. -/
def EPOCH : Nat := 719162

structure Datetime where
  date : Date
  hour : Nat
  minute : Nat
  second : Nat
  microsecond : Nat
  deriving DecidableEq, Repr

/-- The datetime, in UTC, that is so many microseconds after the epoch. -/
def datetime (microseconds : Nat) : Datetime :=
  let seconds := microseconds / 1000000
  { date := ofOrdinal (EPOCH + seconds / 86400)
    hour := seconds / 3600 % 24
    minute := seconds / 60 % 60
    second := seconds % 60
    microsecond := microseconds % 1000000 }

theorem datetime_injective {microseconds other : Nat}
    (same : datetime microseconds = datetime other) : microseconds = other := by
  simp only [datetime, Datetime.mk.injEq] at same
  obtain ⟨date, hour, minute, second, fraction⟩ := same
  have days := ofOrdinal_injective date
  omega

/-- The microseconds are left out when there are none. -/
def writeFraction (microsecond : Nat) : List Char :=
  if microsecond = 0 then [] else '.' :: padded 6 microsecond

def Datetime.write (moment : Datetime) (zone : List Char) : List Char :=
  padded 4 moment.date.year ++ '-' :: (padded 2 moment.date.month ++
    '-' :: (padded 2 moment.date.day ++ 'T' :: (padded 2 moment.hour ++
      ':' :: (padded 2 moment.minute ++ ':' :: (padded 2 moment.second ++
        (writeFraction moment.microsecond ++ zone))))))

/-- The offset that an aware UTC datetime is written with. -/
def utc : List Char := '+' :: (padded 2 0 ++ ':' :: padded 2 0)

/-- `isoformat()` of an aware UTC datetime. -/
def isoformat (microseconds : Nat) : String := String.ofList ((datetime microseconds).write utc)

/-- `isoformat()` of a datetime that was read back without its zone. -/
def isoformatNaive (microseconds : Nat) : String :=
  String.ofList ((datetime microseconds).write [])

example : isoformat 1709164799000250 = "2024-02-28T23:59:59.000250+00:00" := by decide

/-- The numbers between the separators of a text. -/
def numbers (text : List Char) : List Nat :=
  (text.splitOnP fun char => !char.isDigit).map fun digits => Nat.ofDigitChars 10 digits 0

def Datetime.numbers (moment : Datetime) : List Nat :=
  [moment.date.year, moment.date.month, moment.date.day, moment.hour, moment.minute,
    moment.second] ++ (if moment.microsecond = 0 then [] else [moment.microsecond]) ++ [0, 0]

theorem numbers_padded (width value : Nat) : numbers (padded width value) = [value] := by
  have digits : ∀ char ∈ padded width value, (!char.isDigit) = false := fun char member => by
    simp [isDigit_padded width value char member]
  rw [numbers, List.splitOnP_eq_singleton digits, List.map_cons, ofDigitChars_padded, List.map_nil]

theorem numbers_padded_cons (width value : Nat) {separator : Char}
    (separates : separator.isDigit = false) (rest : List Char) :
    numbers (padded width value ++ separator :: rest) = value :: numbers rest := by
  have digits : ∀ char ∈ padded width value, (!char.isDigit) = false := fun char member => by
    simp [isDigit_padded width value char member]
  rw [numbers, List.splitOnP_append_cons_of_forall_mem digits separator (by simp [separates]),
    List.map_cons, ofDigitChars_padded, numbers]

/-- Every field of the datetime is in its text. -/
theorem numbers_write (moment : Datetime) : numbers (moment.write utc) = moment.numbers := by
  have zone : numbers (padded 2 0 ++ ':' :: padded 2 0) = [0, 0] := by
    rw [numbers_padded_cons 2 0 rfl, numbers_padded]
  rw [Datetime.write, utc, numbers_padded_cons _ _ rfl, numbers_padded_cons _ _ rfl,
    numbers_padded_cons _ _ rfl, numbers_padded_cons _ _ rfl, numbers_padded_cons _ _ rfl]
  by_cases none : moment.microsecond = 0
  · rw [writeFraction, if_pos none, List.nil_append, numbers_padded_cons _ _ rfl, zone,
      Datetime.numbers, if_pos none]
    rfl
  · rw [writeFraction, if_neg none, List.cons_append, numbers_padded_cons _ _ rfl,
      numbers_padded_cons _ _ rfl, zone, Datetime.numbers, if_neg none]
    rfl

theorem Datetime.numbers_injective {moment other : Datetime}
    (same : moment.numbers = other.numbers) : moment = other := by
  obtain ⟨⟨year, month, day⟩, hour, minute, second, microsecond⟩ := moment
  obtain ⟨⟨year', month', day'⟩, hour', minute', second', microsecond'⟩ := other
  by_cases none : microsecond = 0 <;> by_cases none' : microsecond' = 0 <;>
    simp_all [Datetime.numbers]

/-- Two datetimes with the same text are the same. -/
theorem isoformat_injective {microseconds other : Nat}
    (same : isoformat microseconds = isoformat other) : microseconds = other := by
  have read := numbers_write (datetime microseconds)
  rw [String.ofList_injective same, numbers_write] at read
  exact datetime_injective (Datetime.numbers_injective read.symm)

end LiveChat.Foundation.Calendar
