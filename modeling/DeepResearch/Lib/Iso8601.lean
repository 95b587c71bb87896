/-
Datetimes and their ISO 8601 texts, after Python's `datetime`.

# Datetimes

A datetime is its calendar and clock fields and its UTC offset in
microseconds (`none`: a naive datetime); a value with a field out of
range cannot be built. Aware datetimes compare by the instant they name,
naive ones by their fields, and one of each does not compare.

# Texts

`isoformat` writes the extended calendar format, the fraction and the
seconds of the offset only where they are not zero. `fromisoformat` reads
the calendar formats, extended and basic, with any separator, shortened
times and fractions of any length; ISO week dates, which `isoformat`
never writes, are left out. What was written is read back
(`fromisoformat_isoformat`).
-/
import Mathlib.Data.Nat.ModEq
import Mathlib.Tactic.IntervalCases
import Mathlib.Tactic.Ring

namespace Iso8601

-- ============================================================== the calendar

/-- `calendar.isleap`. -/
def isLeap (year : Nat) : Bool :=
  year % 4 == 0 && (year % 100 != 0 || year % 400 == 0)

def daysInMonth (year month : Nat) : Nat :=
  if month == 2 && isLeap year then 29
  else [31, 28, 31, 30, 31, 30, 31, 31, 30, 31, 30, 31].getD (month - 1) 0

/-- The days before January 1st of a year. -/
def daysBeforeYear (year : Nat) : Nat :=
  (year - 1) * 365 + (year - 1) / 4 - (year - 1) / 100 + (year - 1) / 400

/-- The days of a year before the first of a month. -/
def daysBeforeMonth (year month : Nat) : Nat :=
  ((List.range (month - 1)).map fun m => daysInMonth year (m + 1)).sum

/-- `date.toordinal`: January 1st of year 1 is day 1. -/
def toordinal (year month day : Nat) : Nat :=
  daysBeforeYear year + daysBeforeMonth year month + day

/-- `date.fromordinal`: four hundred years at a time, then a hundred,
four and one; the month is estimated and corrected by one. -/
def fromordinal (ordinal : Nat) : Nat × Nat × Nat :=
  let n := ordinal - 1
  let n400 := n / 146097
  let n := n % 146097
  let n100 := n / 36524
  let n := n % 36524
  let n4 := n / 1461
  let n := n % 1461
  let n1 := n / 365
  let n := n % 365
  let year := n400 * 400 + 1 + n100 * 100 + n4 * 4 + n1
  if n1 = 4 ∨ n100 = 4 then (year - 1, 12, 31)
  else
    let month := (n + 50) / 32
    if n < daysBeforeMonth year month then
      (year, month - 1, n - daysBeforeMonth year (month - 1) + 1)
    else (year, month, n - daysBeforeMonth year month + 1)

/-- The microseconds of a day. -/
def dayMicroseconds : Nat := 86400000000

-- ================================================================= datetimes

/-- The arguments of `datetime(...)`. -/
structure Fields where
  year : Nat
  month : Nat
  day : Nat
  hour : Nat
  minute : Nat
  second : Nat
  microsecond : Nat
  /-- In microseconds, `none` for a naive datetime. -/
  utcoffset : Option Int
deriving DecidableEq, Repr

/-- What `datetime(...)` checks. -/
def Fields.Valid (f : Fields) : Prop :=
  (1 ≤ f.year ∧ f.year ≤ 9999) ∧ (1 ≤ f.month ∧ f.month ≤ 12)
    ∧ (1 ≤ f.day ∧ f.day ≤ daysInMonth f.year f.month)
    ∧ f.hour < 24 ∧ f.minute < 60 ∧ f.second < 60
    ∧ f.microsecond < 1000000
    ∧ ∀ offset ∈ f.utcoffset, offset.natAbs < dayMicroseconds

instance Fields.decidableValid (f : Fields) : Decidable f.Valid := by
  unfold Fields.Valid
  infer_instance

structure Datetime extends Fields where
  valid : toFields.Valid
deriving DecidableEq

/-- `datetime(...)`; `none` is its `ValueError`. -/
def Fields.datetime (f : Fields) : Option Datetime :=
  if h : f.Valid then some ⟨f, h⟩ else none

theorem Datetime.datetime_toFields (d : Datetime) :
    d.toFields.datetime = some d :=
  dif_pos d.valid

namespace Datetime

variable (d : Datetime)

/-- The microsecond of the day. -/
def microsecondOfDay : Nat :=
  ((d.hour * 60 + d.minute) * 60 + d.second) * 1000000 + d.microsecond

/-- The microseconds since the start of the calendar, in UTC where the
datetime is aware. -/
def instant : Int :=
  (toordinal d.year d.month d.day * dayMicroseconds + d.microsecondOfDay : Nat)
    - d.utcoffset.getD 0

/-- `d <= other`; `none` is the `TypeError` of a naive and an aware
datetime. -/
def le? (other : Datetime) : Option Bool :=
  if d.utcoffset.isSome = other.utcoffset.isSome then
    some (d.instant ≤ other.instant)
  else none

/-- `d + timedelta`; `none` is the `OverflowError`. -/
def add? (microseconds : Int) : Option Datetime :=
  let total : Int :=
    (toordinal d.year d.month d.day * dayMicroseconds + d.microsecondOfDay : Nat)
      + microseconds
  let ordinal := total / dayMicroseconds
  let rest := (total % dayMicroseconds).toNat
  if 0 < ordinal ∧ ordinal ≤ 3652059 then
    let (year, month, day) := fromordinal ordinal.toNat
    Fields.datetime
      { year, month, day
        hour := rest / 3600000000
        minute := rest / 60000000 % 60
        second := rest / 1000000 % 60
        microsecond := rest % 1000000
        utcoffset := d.utcoffset }
  else none

end Datetime

-- ==================================================================== digits

def digitChar (n : Nat) : Char := Char.ofNat (48 + n)

/-- The last `w` digits of a number: `%02d`, `%04d` and `%06d`. -/
def pad : Nat → Nat → List Char
  | 0, _ => []
  | w + 1, n => digitChar (n / 10 ^ w % 10) :: pad w n

def digit? (c : Char) : Option Nat :=
  if 48 ≤ c.toNat ∧ c.toNat ≤ 57 then some (c.toNat - 48) else none

/-- Reads `w` digits after the ones already read. -/
def parseDigitsFrom (acc : Nat) : Nat → List Char → Option (Nat × List Char)
  | 0, cs => some (acc, cs)
  | _ + 1, [] => none
  | w + 1, c :: cs =>
      match digit? c with
      | some n => parseDigitsFrom (acc * 10 + n) w cs
      | none => none

def parseDigits (w : Nat) (cs : List Char) : Option (Nat × List Char) :=
  parseDigitsFrom 0 w cs

theorem digit?_digitChar {n : Nat} (h : n < 10) :
    digit? (digitChar n) = some n := by
  interval_cases n <;> decide

theorem parseDigitsFrom_pad (acc w n : Nat) (rest : List Char) :
    parseDigitsFrom acc w (pad w n ++ rest)
      = some (acc * 10 ^ w + n % 10 ^ w, rest) := by
  induction w generalizing acc with
  | zero => simp [pad, parseDigitsFrom, Nat.mod_one]
  | succ w ih =>
      rw [pad, List.cons_append, parseDigitsFrom,
        digit?_digitChar (Nat.mod_lt _ (by omega))]
      dsimp only
      rw [ih]
      have hsplit : n % 10 ^ (w + 1) = n % 10 ^ w
          + 10 ^ w * (n / 10 ^ w % 10) := by
        rw [Nat.pow_succ, Nat.mod_mul]
      rw [hsplit]
      congr 2
      ring

/-- A padded number is read back. -/
theorem parseDigits_pad {w n : Nat} (h : n < 10 ^ w) (rest : List Char) :
    parseDigits w (pad w n ++ rest) = some (n, rest) := by
  rw [parseDigits, parseDigitsFrom_pad, Nat.mod_eq_of_lt h]
  simp

theorem pad_ne_nil {w : Nat} (hw : 0 < w) (n : Nat) (rest : List Char) :
    pad w n ++ rest ≠ [] := by
  cases w with
  | zero => omega
  | succ w => simp [pad]

/-- A written digit is no separator. -/
theorem mem_pad {w n : Nat} {c : Char} (h : c ∈ pad w n) :
    ∃ k, k < 10 ∧ c = digitChar k := by
  induction w with
  | zero => cases h
  | succ w ih =>
      rcases List.mem_cons.mp h with rfl | h
      · exact ⟨_, Nat.mod_lt _ (by omega), rfl⟩
      · exact ih h

-- ============================================================== the written

/-- A fraction of a second, left out where it is zero. -/
def formatFraction (microsecond : Nat) : List Char :=
  if microsecond = 0 then [] else '.' :: pad 6 microsecond

/-- `HH:MM:SS[.ffffff]`. -/
def formatTime (hour minute second microsecond : Nat) : List Char :=
  pad 2 hour ++ ':' :: (pad 2 minute ++ ':' :: (pad 2 second
    ++ formatFraction microsecond))

/-- `HH:MM[:SS[.ffffff]]` of an offset's size. -/
def formatOffset (size : Nat) : List Char :=
  pad 2 (size / 3600000000) ++ ':' :: (pad 2 (size / 60000000 % 60)
    ++ if size % 60000000 = 0 then []
      else ':' :: (pad 2 (size / 1000000 % 60)
        ++ formatFraction (size % 1000000)))

/-- The offset with its sign; nothing for a naive datetime. -/
def formatTimezone : Option Int → List Char
  | none => []
  | some offset =>
      (if offset < 0 then '-' else '+') :: formatOffset offset.natAbs

/-- `datetime.isoformat`. -/
def Datetime.isoformat (d : Datetime) : String :=
  String.ofList
    (pad 4 d.year ++ '-' :: (pad 2 d.month ++ '-' :: (pad 2 d.day
      ++ 'T' :: (formatTime d.hour d.minute d.second d.microsecond
        ++ formatTimezone d.utcoffset))))

-- ================================================================= the read

/-- A separator that is there or not, as the first one of its kind. -/
def skip (sep : Char) (separated : Bool) (cs : List Char) :
    Option (List Char) :=
  match separated, cs with
  | false, cs => some cs
  | true, c :: cs => if c = sep then some cs else none
  | true, [] => none

/-- A fraction of any length; digits after the sixth are dropped. -/
def parseFraction : List Char → Option Nat
  | [] => some 0
  | c :: digits =>
      if (c = '.' ∨ c = ',') ∧ digits ≠ []
          ∧ digits.all (fun c => (digit? c).isSome) then
        (parseDigits 6 (digits ++ ['0', '0', '0', '0', '0', '0'])).map
          Prod.fst
      else none

/-- `HH[:MM[:SS[.f]]]` or `HH[MM[SS[.f]]]`. -/
def parseTime (cs : List Char) : Option (Nat × Nat × Nat × Nat) := do
  let (hour, rest) ← parseDigits 2 cs
  if rest = [] then return (hour, 0, 0, 0)
  let separated := rest.head? = some ':'
  let rest ← skip ':' separated rest
  let (minute, rest) ← parseDigits 2 rest
  if rest = [] then return (hour, minute, 0, 0)
  let rest ← skip ':' separated rest
  let (second, rest) ← parseDigits 2 rest
  let microsecond ← parseFraction rest
  return (hour, minute, second, microsecond)

/-- Whether a timezone starts here. -/
def startsTimezone (c : Char) : Bool := c == '+' || c == '-' || c == 'Z'

/-- Nothing, `Z` or a signed time. -/
def parseTimezone : List Char → Option (Option Int)
  | [] => some none
  | sign :: cs =>
      if sign = 'Z' then if cs = [] then some (some 0) else none
      else do
        let (hour, minute, second, microsecond) ← parseTime cs
        let size : Int :=
          (((hour * 60 + minute) * 60 + second) * 1000000 + microsecond : Nat)
        return some (if sign = '-' then -size else size)

/-- `datetime.fromisoformat`; `none` is its `ValueError`. -/
def fromisoformat (text : String) : Option Datetime := do
  let (year, rest) ← parseDigits 4 text.toList
  let separated := rest.head? = some '-'
  let rest ← skip '-' separated rest
  let (month, rest) ← parseDigits 2 rest
  let rest ← skip '-' separated rest
  let (day, rest) ← parseDigits 2 rest
  let timeText := rest.drop 1
  if timeText = [] then
    Fields.datetime ⟨year, month, day, 0, 0, 0, 0, none⟩
  else do
    let (hour, minute, second, microsecond) ←
      parseTime (timeText.takeWhile fun c => !startsTimezone c)
    let utcoffset ←
      parseTimezone (timeText.dropWhile fun c => !startsTimezone c)
    Fields.datetime
      ⟨year, month, day, hour, minute, second, microsecond, utcoffset⟩

-- ============================================================ the round trip

theorem parseFraction_format {microsecond : Nat}
    (h : microsecond < 1000000) :
    parseFraction (formatFraction microsecond) = some microsecond := by
  unfold formatFraction
  by_cases hzero : microsecond = 0
  · rw [if_pos hzero, hzero]
    rfl
  · rw [if_neg hzero, parseFraction, if_pos]
    · rw [parseDigits_pad (by omega)]
      rfl
    · refine ⟨.inl rfl, ?_, ?_⟩
      · simp [pad]
      · rw [List.all_eq_true]
        intro c hc
        obtain ⟨k, hk, rfl⟩ := mem_pad hc
        rw [digit?_digitChar hk]
        rfl

theorem skip_true (sep : Char) (cs : List Char) :
    skip sep true (sep :: cs) = some cs := by
  simp [skip]

/-- A time without seconds or with them is read back. -/
theorem parseTime_format {hour minute second microsecond : Nat}
    (hhour : hour < 100) (hminute : minute < 100) (hsecond : second < 100)
    (hmicrosecond : microsecond < 1000000) :
    parseTime (formatTime hour minute second microsecond)
      = some (hour, minute, second, microsecond) := by
  unfold formatTime parseTime
  simp [parseDigits_pad (w := 2) hhour, parseDigits_pad (w := 2) hminute,
    skip_true, parseDigits_pad (w := 2) hsecond,
    parseFraction_format hmicrosecond]

theorem parseTime_hoursMinutes {hour minute : Nat} (hhour : hour < 100)
    (hminute : minute < 100) :
    parseTime (pad 2 hour ++ ':' :: pad 2 minute)
      = some (hour, minute, 0, 0) := by
  have hread := parseDigits_pad (w := 2) hminute []
  rw [List.append_nil] at hread
  unfold parseTime
  simp [parseDigits_pad (w := 2) hhour, hread, skip_true]

/-- The size of an offset is read back, its minutes alone or with their
seconds. -/
theorem parseTime_formatOffset {size : Nat} (h : size < dayMicroseconds) :
    ∃ hour minute second microsecond,
      parseTime (formatOffset size) = some (hour, minute, second, microsecond)
        ∧ ((hour * 60 + minute) * 60 + second) * 1000000 + microsecond
          = size := by
  have hsize : size < 86400000000 := h
  unfold formatOffset
  by_cases hminutes : size % 60000000 = 0
  · rw [if_pos hminutes, List.append_nil]
    refine ⟨_, _, _, _, parseTime_hoursMinutes (by omega) (by omega), ?_⟩
    omega
  · rw [if_neg hminutes]
    refine ⟨_, _, _, _, parseTime_format (by omega) (by omega) (by omega)
      (by omega), ?_⟩
    omega

theorem parseTimezone_format {utcoffset : Option Int}
    (h : ∀ offset ∈ utcoffset, offset.natAbs < dayMicroseconds) :
    parseTimezone (formatTimezone utcoffset) = some utcoffset := by
  cases utcoffset with
  | none => rfl
  | some offset =>
      obtain ⟨hour, minute, second, microsecond, hread, hsize⟩ :=
        parseTime_formatOffset (h offset rfl)
      unfold formatTimezone parseTimezone
      by_cases hneg : offset < 0
      · simp only [if_pos hneg, hread]
        simp
        omega
      · simp only [if_neg hneg, hread]
        simp
        omega

theorem not_startsTimezone_digitChar {n : Nat} (h : n < 10) :
    startsTimezone (digitChar n) = false := by
  interval_cases n <;> decide

/-- No part of a written time starts a timezone. -/
theorem not_startsTimezone_of_mem {hour minute second microsecond : Nat}
    {c : Char} (h : c ∈ formatTime hour minute second microsecond) :
    startsTimezone c = false := by
  have hpad : ∀ {w n}, c ∈ pad w n → startsTimezone c = false := by
    intro w n hc
    obtain ⟨k, hk, rfl⟩ := mem_pad hc
    exact not_startsTimezone_digitChar hk
  have hfraction : c ∈ formatFraction microsecond
      → startsTimezone c = false := by
    unfold formatFraction
    intro hc
    split at hc
    · cases hc
    · rcases List.mem_cons.mp hc with rfl | hc
      · rfl
      · exact hpad hc
  unfold formatTime at h
  simp only [List.mem_append, List.mem_cons] at h
  rcases h with h | rfl | h | rfl | h | h
  · exact hpad h
  · rfl
  · exact hpad h
  · rfl
  · exact hpad h
  · exact hfraction h

/-- A written timezone starts with its sign, so the time ends there. -/
theorem takeWhile_timezone (utcoffset : Option Int) :
    (formatTimezone utcoffset).takeWhile (fun c => !startsTimezone c) = []
      ∧ (formatTimezone utcoffset).dropWhile (fun c => !startsTimezone c)
        = formatTimezone utcoffset := by
  cases utcoffset with
  | none => exact ⟨rfl, rfl⟩
  | some offset =>
      rw [formatTimezone]
      by_cases hneg : offset < 0
      · rw [if_pos hneg]
        exact ⟨rfl, rfl⟩
      · rw [if_neg hneg]
        exact ⟨rfl, rfl⟩

/-- What `isoformat` writes `fromisoformat` reads back, naive or aware,
with or without a fraction. -/
theorem fromisoformat_isoformat (d : Datetime) :
    fromisoformat d.isoformat = some d := by
  obtain ⟨f, hvalid⟩ := d
  obtain ⟨hyear, hmonth, hday, hhour, hminute, hsecond, hmicro, hoffset⟩ :=
    id hvalid
  have hdays : daysInMonth f.year f.month ≤ 31 := by
    unfold daysInMonth
    split
    · omega
    · obtain ⟨-, hmonth⟩ := hmonth
      interval_cases f.month <;> decide
  have htime := fun c => @not_startsTimezone_of_mem f.hour f.minute f.second
    f.microsecond c
  -- The time is what stands before the sign of the offset.
  have htake : (formatTime f.hour f.minute f.second f.microsecond
      ++ formatTimezone f.utcoffset).takeWhile (fun c => !startsTimezone c)
        = formatTime f.hour f.minute f.second f.microsecond := by
    rw [List.takeWhile_append_of_pos fun c hc => by rw [htime c hc]; rfl,
      (takeWhile_timezone _).1, List.append_nil]
  have hdrop : (formatTime f.hour f.minute f.second f.microsecond
      ++ formatTimezone f.utcoffset).dropWhile (fun c => !startsTimezone c)
        = formatTimezone f.utcoffset := by
    rw [List.dropWhile_append_of_pos fun c hc => by rw [htime c hc]; rfl,
      (takeWhile_timezone _).2]
  have hne : formatTime f.hour f.minute f.second f.microsecond
      ++ formatTimezone f.utcoffset ≠ [] := by
    rw [formatTime, List.append_assoc]
    exact pad_ne_nil (by omega) _ _
  have hparse := @parseTime_format f.hour f.minute f.second f.microsecond
    (by omega) (by omega) (by omega) hmicro
  have hread : fromisoformat (Datetime.isoformat ⟨f, hvalid⟩)
      = f.datetime := by
    unfold fromisoformat Datetime.isoformat
    simp only [String.toList_ofList]
    simp [parseDigits_pad (w := 4) (n := f.year) (by omega), skip_true,
      parseDigits_pad (w := 2) (n := f.month) (by omega),
      parseDigits_pad (w := 2) (n := f.day) (by omega), hne, htake, hdrop,
      hparse, parseTimezone_format hoffset]
  rw [hread]
  exact Datetime.datetime_toFields ⟨f, hvalid⟩

end Iso8601
