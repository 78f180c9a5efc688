import QueryClient.Text.Numeral

/-!
# Duration text

A duration is a count of months and a count of milliseconds, which do not convert into one
another. `durationText` writes both as one ISO 8601 duration such as `P1Y2MT3.5S`. The text has
one sign for the two counts: the sign of the months, or of the milliseconds if there are none.
-/

namespace QueryClient

open Text (natText padded)

/-- A number with its unit; nothing for zero. -/
def durationPart (n : Nat) (unit : Char) : List Char :=
  if n = 0 then [] else natText n ++ [unit]

/-- The seconds part: three decimals if there are milliseconds, none otherwise. -/
def secondsPart (millis : Nat) : List Char :=
  if millis % 1000 = 0 then durationPart (millis / 1000) 'S'
  else natText (millis / 1000) ++ '.' :: padded 3 (millis % 1000) ++ ['S']

/-- Hours, minutes and seconds behind a `T`; nothing for zero. -/
def clockPart (millis : Nat) : List Char :=
  if millis = 0 then []
  else
    'T' :: (durationPart (millis / 3600000) 'H' ++ durationPart (millis % 3600000 / 60000) 'M' ++
      secondsPart (millis % 60000))

/-- The ISO 8601 text of a duration. -/
def durationText (months millis : Int) : List Char :=
  if months = 0 ∧ millis = 0 then ['P', 'T', '0', 'S']
  else
    let sign := if months < 0 ∨ (months = 0 ∧ millis < 0) then ['-'] else []
    let m := months.natAbs
    let t := millis.natAbs
    sign ++ 'P' :: (durationPart (m / 12) 'Y' ++ durationPart (m % 12) 'M' ++
      durationPart (t / 86400000) 'D' ++ clockPart (t % 86400000))

end QueryClient
