import EndpointCountry.Text

/-!
# Dates and times of TOML

Which texts are dates, times of day, or dates with a time of day and perhaps an offset from
universal time.
-/

namespace EndpointCountry.Toml

/-- The number that the first two characters write, and what follows them. -/
def twoDigits? : List Char → Option (Nat × List Char)
  | a :: b :: rest => (Text.readDigits? [a, b]).map (·, rest)
  | _ => none

/-- How many days a month has. -/
def daysInMonth (year month : Nat) : Nat :=
  if month = 2 then
    if year % 4 = 0 ∧ (year % 100 ≠ 0 ∨ year % 400 = 0) then 29 else 28
  else if month = 4 ∨ month = 6 ∨ month = 9 ∨ month = 11 then 30
  else 31

/-- What follows a date: four digits of the year, two of the month and two of the day, of a day
that exists. -/
def afterDate? : List Char → Option (List Char)
  | a :: b :: c :: d :: '-' :: rest => do
    let year ← Text.readDigits? [a, b, c, d]
    let (month, rest) ← twoDigits? rest
    match rest with
    | '-' :: rest =>
      let (day, rest) ← twoDigits? rest
      if 1 ≤ month ∧ month ≤ 12 ∧ 1 ≤ day ∧ day ≤ daysInMonth year month then some rest else none
    | _ => none
  | _ => none

/-- What follows the seconds of a time of day, which may have a fraction and may be left out. A
leap second is counted as the sixtieth. -/
def afterSeconds? : List Char → Option (List Char)
  | ':' :: rest => do
    let (second, rest) ← twoDigits? rest
    if 60 < second then none
    match rest with
    | '.' :: rest =>
      if (rest.takeWhile Text.isDigit).isEmpty then none else some (rest.dropWhile Text.isDigit)
    | rest => some rest
  | rest => some rest

/-- What follows a time of day. -/
def afterTime? (cs : List Char) : Option (List Char) := do
  let (hour, rest) ← twoDigits? cs
  match rest with
  | ':' :: rest =>
    let (minute, rest) ← twoDigits? rest
    if hour ≤ 23 ∧ minute ≤ 59 then afterSeconds? rest else none
  | _ => none

/-- What follows an offset from universal time, which may be left out. -/
def afterOffset? : List Char → Option (List Char)
  | 'Z' :: rest | 'z' :: rest => some rest
  | '+' :: rest | '-' :: rest => do
    let (hour, rest) ← twoDigits? rest
    match rest with
    | ':' :: rest =>
      let (minute, rest) ← twoDigits? rest
      if hour ≤ 23 ∧ minute ≤ 59 then some rest else none
    | _ => none
  | rest => some rest

/-- Whether a text is a date, a time of day, or a date with a time of day. -/
def isMoment (cs : List Char) : Bool :=
  match afterDate? cs with
  | some [] => true
  | some (separator :: rest) =>
    (separator == 'T' || separator == 't' || separator == ' ') &&
      ((afterTime? rest).bind afterOffset?) == some []
  | none => afterTime? cs == some []

end EndpointCountry.Toml
