import SchemaScript.Text.Digits

/-!
# SchemaScript.Calendar.Instant

Points in time and their RFC 3339 form in universal time, to the microsecond.

* `Instant`: seconds from the start of 1970 and nanoseconds within the second. From a thousand
  million nanoseconds on, the instant lies in the leap second that follows its second.
* `civilDate`: the proleptic Gregorian date of a day number.
* `Instant.rfc3339`: date and time with six digits of the second's fraction, cut off.
-/

namespace SchemaScript

structure Instant where
  seconds : Int
  nanoseconds : Nat
deriving DecidableEq

/-- A date of the proleptic Gregorian calendar. -/
structure CivilDate where
  year : Int
  month : Nat
  day : Nat
deriving DecidableEq

/-- The date `days` days after 1 January 1970. Years are counted from March, so that the leap day
ends the year, in eras of 400 years. -/
def civilDate (days : Int) : CivilDate :=
  let z := days + 719468
  let era := z / 146097
  let dayOfEra := (z % 146097).toNat
  let yearOfEra := (dayOfEra - dayOfEra / 1460 + dayOfEra / 36524 - dayOfEra / 146096) / 365
  let dayOfYear := dayOfEra - (365 * yearOfEra + yearOfEra / 4 - yearOfEra / 100)
  let marchMonth := (5 * dayOfYear + 2) / 153
  let day := dayOfYear - (153 * marchMonth + 2) / 5 + 1
  let month := if marchMonth < 10 then marchMonth + 3 else marchMonth - 9
  ⟨yearOfEra + era * 400 + (if month ≤ 2 then 1 else 0), month, day⟩

/-- Four digits, and a sign in front of years that four digits cannot tell. -/
def yearText (year : Int) : List Char :=
  if 0 ≤ year ∧ year ≤ 9999 then Text.padded 4 year.toNat
  else (if year < 0 then '-' else '+') :: Text.padded 4 year.natAbs

namespace Instant

/-- The RFC 3339 text of an instant, such as `2025-08-18T10:40:37.000000Z`. -/
def rfc3339 (t : Instant) : String :=
  let date := civilDate (t.seconds / 86400)
  let second := (t.seconds % 86400).toNat
  let leap := if 1000000000 ≤ t.nanoseconds then 1 else 0
  String.ofList <|
    yearText date.year ++ '-' :: Text.padded 2 date.month ++ '-' :: Text.padded 2 date.day
      ++ 'T' :: Text.padded 2 (second / 3600) ++ ':' :: Text.padded 2 (second / 60 % 60)
      ++ ':' :: Text.padded 2 (second % 60 + leap)
      ++ '.' :: Text.padded 6 (t.nanoseconds % 1000000000 / 1000) ++ ['Z']

end Instant
end SchemaScript
