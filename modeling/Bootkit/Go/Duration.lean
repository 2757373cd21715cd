import Mathlib.Data.Int.Basic

/-! Durations in nanoseconds, and the text they are printed as. -/

namespace Go

/-- One millisecond, in the nanoseconds every duration is counted in. -/
def millisecond : Int := 1000000

/-- One second. -/
def second : Int := 1000 * millisecond

/-- The last digits of a number as a decimal fraction, without trailing zeros. -/
def fraction (value : Nat) : Nat → String
  | 0 => ""
  | digits + 1 =>
    -- A trailing zero is dropped, and the first digit that is kept ends the fraction.
    if value % 10 = 0 then fraction (value / 10) digits
    else "." ++ String.ofList ((List.range (digits + 1)).reverse.map fun place =>
      Nat.digitChar (value / 10 ^ place % 10))

/-- The printed form of a duration, in the largest unit that fits below a second. -/
def formatDuration (d : Int) : String :=
  let size := d.natAbs
  let sign := if d < 0 then "-" else ""
  if size = 0 then "0s"
  else if size < 1000 then sign ++ toString size ++ "ns"
  else if size < 1000000 then sign ++ toString (size / 1000) ++ fraction size 3 ++ "µs"
  else if size < 1000000000 then sign ++ toString (size / 1000000) ++ fraction size 6 ++ "ms"
  else
    let seconds := size / 1000000000
    let text := toString (seconds % 60) ++ fraction size 9 ++ "s"
    -- Minutes and hours are written in front once they are not zero.
    if seconds < 60 then sign ++ text
    else if seconds < 3600 then sign ++ toString (seconds / 60) ++ "m" ++ text
    else sign ++ toString (seconds / 3600) ++ "h" ++ toString (seconds / 60 % 60) ++ "m" ++ text

end Go
