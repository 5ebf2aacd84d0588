import PageScan.Toml.Text
import PageScan.Toml.Value

/-!
# Numbers, dates and times of TOML

Integers must fit in 64 bits with sign. A number with a fraction or an exponent must not be so large
that the nearest double is infinite (a negative one may be). Dates must be in the calendar, with
leap years by the Gregorian rule, and a leap second may be written in any minute.
-/

namespace PageScan.Toml

open Reader

/-! ### Numbers -/

/-- Digits with single underscores between them. -/
def digits (p : Char → Bool) : Reader (List Char) := do
  return (← separated1 (optional (char '_') *> pure ()) (chars1 p)).flatten

/-- A sign, if there is one; whether it is a minus. -/
def sign : Reader Bool := (char '-' *> pure true) <|> (char '+' *> pure false) <|> pure false

/-- The digits of a decimal integer, without a zero in front of others. -/
def wholeDigits : Reader (List Char) := do
  if (← peek?) = some '0' then
    char '0'
    return ['0']
  else digits Char.isDigit

/-- Whether an integer fits in 64 bits with sign. -/
def fitsInteger (n : Int) : Bool := Int64.minValue.toInt ≤ n && n ≤ Int64.maxValue.toInt

/-- An integer in another base, behind `0` and a letter. -/
def basedInteger (letter : Char) (base : Nat) (p : Char → Bool) : Reader Int := do
  text ['0', letter]
  return numberOf base (← digits p)

/-- A decimal integer. -/
def decimalInteger : Reader Int := do
  let negative ← sign
  let n : Int := numberOf 10 (← wholeDigits)
  return if negative then -n else n

/-- An integer. -/
def integer : Reader Value := do
  let n ← basedInteger 'x' 16 isHexDigit <|> basedInteger 'o' 8 (fun c => '0' ≤ c && c ≤ '7') <|>
    basedInteger 'b' 2 (fun c => c == '0' || c == '1') <|> decimalInteger
  check (fitsInteger n)
  return .integer n

/-- The least number whose nearest double is infinite: halfway between the greatest double and the
next step, the tie going up. It has 309 digits. -/
def infinityBound : Nat := (Nat.pow 2 54 - 1) * Nat.pow 2 970

/-- Whether the double nearest to `mantissa · 10 ^ exponent` is infinite. Only a number with as many
digits before the point as the bound has to be compared with it. -/
def roundsToInfinity (mantissa : Nat) (exponent : Int) : Bool :=
  let places := (Nat.toDigits 10 mantissa).length + exponent
  if mantissa = 0 ∨ places < 309 then false
  else if 309 < places then true
  else if 0 ≤ exponent then infinityBound ≤ mantissa * Nat.pow 10 exponent.toNat
  else infinityBound * Nat.pow 10 (-exponent).toNat ≤ mantissa

/-- The exponent of a number. -/
def exponentPart : Reader Int := do
  let _ ← satisfy fun c => c == 'e' || c == 'E'
  let negative ← sign
  let n : Int := numberOf 10 (← digits Char.isDigit)
  return if negative then -n else n

/-- The digits behind the point of a number. -/
def fractionPart : Reader (List Char) := do
  char '.'
  digits Char.isDigit

/-- A number with a fraction, an exponent or both. -/
def decimal : Reader Value := do
  let negative ← sign
  let whole ← wholeDigits
  let fraction ← optional fractionPart
  let exponent ← optional exponentPart
  check (fraction.isSome || exponent.isSome)
  let mantissa := numberOf 10 (whole ++ fraction.getD [])
  let scale := exponent.getD 0 - (fraction.getD []).length
  check (negative || !roundsToInfinity mantissa scale)
  return .real (.decimal (if negative then -mantissa else mantissa) scale)

/-- A number that is none. -/
def specialReal : Reader Value := do
  let negative ← sign
  (text ['i', 'n', 'f'] *> pure (.real (.infinite negative))) <|>
    (text ['n', 'a', 'n'] *> pure (.real .notANumber))

/-! ### Dates and times -/

/-- A number of so many digits within bounds. -/
def bounded (count least greatest : Nat) : Reader (List Char) := do
  let ds ← exactly count Char.isDigit
  check (least ≤ numberOf 10 ds && numberOf 10 ds ≤ greatest)
  return ds

/-- Whether a year has a leap day. -/
def isLeapYear (year : Nat) : Bool := year % 4 = 0 && (year % 100 != 0 || year % 400 = 0)

/-- The number of days of a month. -/
def daysOfMonth (year month : Nat) : Nat :=
  if month = 2 then (if isLeapYear year then 29 else 28)
  else if month = 4 ∨ month = 6 ∨ month = 9 ∨ month = 11 then 30
  else 31

/-- A date. -/
def date : Reader (List Char) := do
  let year ← exactly 4 Char.isDigit
  char '-'
  let month ← bounded 2 1 12
  char '-'
  let day ← bounded 2 1 (daysOfMonth (numberOf 10 year) (numberOf 10 month))
  return year ++ '-' :: month ++ '-' :: day

/-- A time of the day. -/
def time : Reader (List Char) := do
  let hour ← bounded 2 0 23
  char ':'
  let minute ← bounded 2 0 59
  char ':'
  let second ← bounded 2 0 60
  let fraction ← optional do
    char '.'
    chars1 Char.isDigit
  let behind :=
    match fraction with
    | some ds => '.' :: ds
    | none => []
  return hour ++ ':' :: minute ++ ':' :: second ++ behind

/-- The distance of a time from the standard one. -/
def offset : Reader (List Char) :=
  (do
    let _ ← satisfy fun c => c == 'Z' || c == 'z'
    return ['Z']) <|> do
    let s ← satisfy fun c => c == '+' || c == '-'
    let hour ← bounded 2 0 23
    char ':'
    let minute ← bounded 2 0 59
    return s :: hour ++ ':' :: minute

/-- The time behind a date. -/
def timeOfDate : Reader (List Char) := do
  let _ ← satisfy fun c => c == 'T' || c == 't' || c == ' '
  let t ← time
  let o ← optional offset
  return 'T' :: t ++ o.getD []

/-- A date, a time or both. -/
def dateTime : Reader Value := do
  let text ← (do
    let d ← date
    let t ← optional timeOfDate
    return d ++ t.getD []) <|> time
  return .dateTime (String.ofList text)

/-- A truth value. -/
def boolean : Reader Value :=
  (text ['t', 'r', 'u', 'e'] *> pure (.boolean true)) <|>
    (text ['f', 'a', 'l', 's', 'e'] *> pure (.boolean false))

/-- **A value without parts.** -/
def scalar : Reader Value :=
  (do return .string (String.ofList (← anyString))) <|> boolean <|> dateTime <|> decimal <|>
    specialReal <|> integer

end PageScan.Toml
