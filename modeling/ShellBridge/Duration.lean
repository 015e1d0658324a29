/-!
Lengths of time, in whole milliseconds.
-/

namespace ShellBridge

structure Duration where
  millis : Nat
  deriving DecidableEq, Repr

namespace Duration

def ofSeconds (seconds : Nat) : Duration := ⟨1000 * seconds⟩

/-- The whole seconds of a duration. -/
def seconds (duration : Duration) : Nat :=
  duration.millis / 1000

/-- The last three digits of a number below 1000, without zeros at their end. -/
def fractionDigits (n : Nat) : List Char :=
  let digits := [n / 100, n / 10 % 10, n % 10].map Nat.digitChar
  (digits.reverse.dropWhile (· = '0')).reverse

/-- In seconds with as many places as are needed; a duration below one second is in
milliseconds. -/
def text (duration : Duration) : String :=
  let rest := duration.millis % 1000
  if 0 < duration.seconds then
    let fraction := if rest = 0 then [] else '.' :: fractionDigits rest
    toString duration.seconds ++ .ofList fraction ++ "s"
  else if 0 < rest then toString rest ++ "ms"
  else "0ns"

end Duration

end ShellBridge
