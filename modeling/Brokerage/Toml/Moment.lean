import Brokerage.Text.Calendar
import Brokerage.Toml.Basic

/-!
Dates and times of day, alone or together, and then with or without an offset from universal time.
A date exists in the calendar; a minute may have a sixty-first second. A fraction of a second is
kept to the nanosecond.
-/

set_option autoImplicit false

namespace Brokerage.Toml

open Text (Reading daysIn digitsAt? stopBefore)

structure Date where
  year : Nat
  month : Nat
  day : Nat
  deriving DecidableEq

structure TimeOfDay where
  hour : Nat
  minute : Nat
  second : Nat
  nanosecond : Nat := 0
  deriving DecidableEq

inductive Offset where
  | universal
  | minutes (ahead : Int)
  deriving DecidableEq

inductive Moment where
  | date (day : Date)
  | time (time : TimeOfDay)
  | dateTime (day : Date) (time : TimeOfDay) (offset : Option Offset)
  deriving DecidableEq

/-! ### Text -/

/-- The last digits of a number, zeros in front where it is short. -/
def padded (width n : Nat) : List Char :=
  let digits := Nat.toDigits 10 n
  List.replicate (width - digits.length) '0' ++ digits

def Date.chars (d : Date) : List Char :=
  padded 4 d.year ++ '-' :: padded 2 d.month ++ '-' :: padded 2 d.day

/-- A fraction of a second, without the zeros at its end. -/
def fractionChars (nanosecond : Nat) : List Char :=
  if nanosecond = 0 then []
  else '.' :: ((padded 9 nanosecond).reverse.dropWhile (· = '0')).reverse

def TimeOfDay.chars (t : TimeOfDay) : List Char :=
  padded 2 t.hour ++ ':' :: padded 2 t.minute ++ ':' :: padded 2 t.second ++
    fractionChars t.nanosecond

def Offset.chars : Offset → List Char
  | .universal => ['Z']
  | .minutes ahead =>
    (if ahead < 0 then '-' else '+') ::
      padded 2 (ahead.natAbs / 60) ++ ':' :: padded 2 (ahead.natAbs % 60)

def Moment.chars : Moment → List Char
  | .date d => d.chars
  | .time t => t.chars
  | .dateTime d t offset => d.chars ++ 'T' :: t.chars ++ (offset.map Offset.chars).getD []

def Moment.text (m : Moment) : String :=
  String.ofList m.chars

/-! ### Calendar -/

def Date.isInCalendar (d : Date) : Bool :=
  1 ≤ d.month && d.month ≤ 12 && 1 ≤ d.day && d.day ≤ daysIn d.year d.month

/-! ### Reading -/

/-- The year of a date at the front of a text. -/
def yearAt? (s : List Char) : Option Nat :=
  match digitsAt? 4 s, s.drop 4 with
  | some year, '-' :: _ => some year
  | _, _ => none

/-- The hour of a time at the front of a text. -/
def hourAt? (s : List Char) : Option Nat :=
  match digitsAt? 2 s, s.drop 2 with
  | some hour, ':' :: _ => some hour
  | _, _ => none

/-- What follows a year and its dash. -/
def readDate (year : Nat) (s : List Char) : Reading Malformation Date :=
  match digitsAt? 2 s, s.drop 2 with
  | some month, '-' :: rest =>
    match digitsAt? 2 rest with
    | some day =>
      let date : Date := ⟨year, month, day⟩
      if date.isInCalendar then .ok (date, rest.drop 2) else stopBefore .badDate s
    | none => stopBefore .badDate s
  | _, _ => stopBefore .badDate s

/-- Nine digits of a fraction; what they leave out is dropped. -/
def nanosecondsOf (digits : List Char) : Nat :=
  let kept := digits.take 9
  Text.natural kept * Nat.pow 10 (9 - kept.length)

/-- A fraction of a second, if there is one. -/
def takeFraction (s : List Char) : Nat × List Char :=
  match s with
  | '.' :: rest =>
    let digits := rest.takeWhile Char.isDigit
    if digits.isEmpty then (0, s) else (nanosecondsOf digits, rest.dropWhile Char.isDigit)
  | _ => (0, s)

/-- What follows an hour and its colon. -/
def readTime (hour : Nat) (s : List Char) : Reading Malformation TimeOfDay :=
  match digitsAt? 2 s, s.drop 2 with
  | some minute, ':' :: rest =>
    match digitsAt? 2 rest with
    | some second =>
      if hour ≤ 23 && minute ≤ 59 && second ≤ 60 then
        let (nanosecond, after) := takeFraction (rest.drop 2)
        .ok (⟨hour, minute, second, nanosecond⟩, after)
      else stopBefore .badTime s
    | none => stopBefore .badTime s
  | _, _ => stopBefore .badTime s

/-- An offset after its sign. -/
def readOffset (negative : Bool) (s : List Char) : Reading Malformation Offset :=
  match hourAt? s, digitsAt? 2 (s.drop 3) with
  | some hour, some minute =>
    if hour ≤ 23 && minute ≤ 59 then
      let ahead : Int := 60 * hour + minute
      .ok (.minutes (if negative then -ahead else ahead), s.drop 5)
    else stopBefore .badTime s
  | _, _ => stopBefore .badTime s

/-- The offset behind a date and a time, if there is one. -/
def readOffsetIfAny (s : List Char) : Reading Malformation (Option Offset) :=
  match s with
  | [] => .ok (none, [])
  | c :: rest =>
    if c = 'Z' || c = 'z' then .ok (some .universal, rest)
    else if c = '+' then (readOffset false rest).map fun (offset, after) ↦ (some offset, after)
    else if c = '-' then (readOffset true rest).map fun (offset, after) ↦ (some offset, after)
    else .ok (none, c :: rest)

/-- Whether a character may stand between a date and the time on it. -/
def partsDateAndTime (c : Char) : Bool :=
  c = 'T' || c = 't' || c = ' '

/-- What may follow a date: a time on it. -/
def readAfterDate (day : Date) (s : List Char) : Reading Malformation Moment :=
  match s with
  | [] => .ok (.date day, [])
  | c :: rest =>
    if partsDateAndTime c then
      match hourAt? rest with
      | none => .ok (.date day, s)
      | some hour =>
        match readTime hour (rest.drop 3) with
        | .error fault => .error fault
        | .ok (time, after) =>
          (readOffsetIfAny after).map fun (offset, left) ↦ (.dateTime day time offset, left)
    else .ok (.date day, s)

/-- A moment at the front of a text, if one begins there. -/
def readMoment? (s : List Char) : Option (Reading Malformation Moment) :=
  match yearAt? s with
  | some year =>
    some (match readDate year (s.drop 5) with
      | .error fault => .error fault
      | .ok (day, rest) => readAfterDate day rest)
  | none =>
    match hourAt? s with
    | some hour =>
      some ((readTime hour (s.drop 3)).map fun (time, rest) ↦ (.time time, rest))
    | none => none

end Brokerage.Toml
