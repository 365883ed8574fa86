namespace TransparencyLog.Journal

/-- The year, month and day of the day with a given number, the first day of 1970 being number zero.
Years count from March on, which puts the leap day at their end. -/
def dateOfDay (day : Nat) : Nat × Nat × Nat :=
  let shifted := day + 719468
  let era := shifted / 146097
  let dayOfEra := shifted % 146097
  let yearOfEra :=
    (dayOfEra - dayOfEra / 1460 + dayOfEra / 36524 - dayOfEra / 146096) / 365
  let dayOfYear := dayOfEra - (365 * yearOfEra + yearOfEra / 4 - yearOfEra / 100)
  let monthFromMarch := (5 * dayOfYear + 2) / 153
  let month := if monthFromMarch < 10 then monthFromMarch + 3 else monthFromMarch - 9
  let year := 400 * era + yearOfEra + (if month ≤ 2 then 1 else 0)
  (year, month, dayOfYear - (153 * monthFromMarch + 2) / 5 + 1)

def padNumber (width n : Nat) : String :=
  let digits := Nat.toDigits 10 n
  String.ofList (List.replicate (width - digits.length) '0' ++ digits)

/-- The text of the moment that many seconds after the start of 1970. -/
def timeStamp (seconds : Nat) : String :=
  let (year, month, day) := dateOfDay (seconds / 86400)
  let rest := seconds % 86400
  padNumber 4 year ++ "-" ++ padNumber 2 month ++ "-" ++ padNumber 2 day ++ " " ++
    padNumber 2 (rest / 3600) ++ ":" ++ padNumber 2 (rest / 60 % 60) ++ ":" ++
    padNumber 2 (rest % 60)

example : timeStamp 951782399 = "2000-02-28 23:59:59" := by decide
example : timeStamp 951782400 = "2000-02-29 00:00:00" := by decide
example : timeStamp 1709251199 = "2024-02-29 23:59:59" := by decide

end TransparencyLog.Journal
