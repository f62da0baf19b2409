import Docket.Calendar.Instant

/-! Date patterns: runs of letters that stand for parts of an instant, between literal text. -/

namespace Docket.DatePattern

/-- The parts of an instant that a pattern can show. -/
inductive Token where
  | yearFull
  | yearPadded
  | yearShort
  | monthName
  | monthShort
  | monthPadded
  | month
  | weekdayName
  | weekdayShort
  | dayPadded
  | day
  | hourPadded
  | hour
  | minutePadded
  | minute
  | secondPadded
  | second
  | week
  | halfDay
  | halfDayLetter
  | halfDaySmall
deriving DecidableEq, Repr

/-- A pattern consists of literal characters and tokens. -/
inductive Part where
  | literal (char : Char)
  | token (token : Token)
deriving DecidableEq, Repr

/-- The tokens of a letter by the number of letters they take, longest first. -/
def widths (letter : Char) : List (Nat × Token) :=
  match letter with
  | 'y' => [(4, .yearFull), (2, .yearPadded), (1, .yearShort)]
  | 'm' => [(4, .monthName), (3, .monthShort), (2, .monthPadded), (1, .month)]
  | 'd' => [(4, .weekdayName), (3, .weekdayShort), (2, .dayPadded), (1, .day)]
  | 'h' => [(2, .hourPadded), (1, .hour)]
  | 'M' => [(2, .minutePadded), (1, .minute)]
  | 's' => [(2, .secondPadded), (1, .second)]
  | 'w' => [(2, .week)]
  | 't' => [(2, .halfDay), (1, .halfDayLetter)]
  | _ => []

/-- The letters whose runs of five or more mean nothing. -/
def isLimited (letter : Char) : Bool :=
  letter == 'y' || letter == 'm' || letter == 'd'

/-- The token of a marker at the front of a text; a marker is five characters long. -/
def marker? (text : Text) : Option Token :=
  if Text.startsWith text "AM/PM".toList then some .halfDay
  else if Text.startsWith text "am/pm".toList then some .halfDaySmall
  else none

/-- The parts of a run of `count` letters: the longest token first, and letters that no token
takes are literal. -/
def runParts (letter : Char) : Nat → List Part
  | 0 => []
  | count + 1 =>
    match (widths letter).find? fun (width, _) => 0 < width && width ≤ count + 1 with
    | some (width, token) =>
      -- A token takes one letter at least, so less is left.
      .token token :: runParts letter (count - (width - 1))
    | none => List.replicate (count + 1) (.literal letter)
termination_by count => count
decreasing_by omega

/-- The number of letters equal to the first one of a text. -/
def runLength (letter : Char) (text : Text) : Nat :=
  (text.takeWhile (· == letter)).length

/-- The parts of a pattern, unless a run in it means nothing. -/
def parts? (text : Text) : Option (List Part) :=
  match text with
  | [] => some []
  | letter :: rest =>
    match marker? (letter :: rest) with
    -- The first of the five characters is no part of the rest.
    | some token => (parts? (rest.drop 4)).map (.token token :: ·)
    | none =>
      if (widths letter).isEmpty then (parts? rest).map (.literal letter :: ·)
      else
        let more := runLength letter rest
        -- One such run takes the meaning from the whole pattern.
        if isLimited letter && 5 ≤ more + 1 then none
        else (parts? (rest.drop more)).map (runParts letter (more + 1) ++ ·)
termination_by text.length
decreasing_by all_goals simp only [List.length_cons, List.length_drop]; omega

/-- A year with at least four characters, its sign included. -/
def fullYear (year : Int) : Text :=
  if year < 0 then '-' :: Text.padZeros 3 (Text.ofNat year.natAbs)
  else Text.padZeros 4 (Text.ofNat year.natAbs)

/-- The last two digits of a year as a number; years before zero count on. -/
def yearOfCentury (year : Int) : Nat :=
  (year % 100).toNat

/-- What a token shows of an instant. -/
def Token.render (instant : Instant) : Token → Text
  | .yearFull => fullYear instant.year
  | .yearPadded => Instant.twoDigits (yearOfCentury instant.year)
  | .yearShort => Text.ofNat (yearOfCentury instant.year)
  | .monthName => instant.monthName
  | .monthShort => Instant.abbreviate instant.monthName
  | .monthPadded => Instant.twoDigits instant.month
  | .month => Text.ofNat instant.month
  | .weekdayName => instant.weekdayName
  | .weekdayShort => Instant.abbreviate instant.weekdayName
  | .dayPadded => Instant.twoDigits instant.day
  | .day => Text.ofNat instant.day
  | .hourPadded => Instant.twoDigits instant.hour
  | .hour => Text.ofNat instant.hour
  | .minutePadded => Instant.twoDigits instant.minute
  | .minute => Text.ofNat instant.minute
  | .secondPadded => Instant.twoDigits instant.second
  | .second => Text.ofNat instant.second
  | .week => Instant.twoDigits instant.isoWeek
  | .halfDay => (if instant.isMorning then "AM" else "PM").toList
  | .halfDayLetter => (if instant.isMorning then "A" else "P").toList
  | .halfDaySmall => (if instant.isMorning then "am" else "pm").toList

/-- What a part shows of an instant. -/
def Part.render (instant : Instant) : Part → Text
  | .literal char => [char]
  | .token shown => shown.render instant

/-- An instant in a pattern; a pattern without meaning shows the date with points. -/
def format (pattern : Text) (instant : Instant) : Text :=
  match parts? pattern with
  | some parts => parts.flatMap (Part.render instant)
  | none => instant.pointDate

end Docket.DatePattern
