/-!
# Durations

A duration is a number of nanoseconds.  It is written in the largest unit of
which it has at least one, with as many decimals as it needs.
-/

namespace SearchClient

structure Duration where
  nanos : Nat
  deriving DecidableEq

namespace Duration

def nanosPerSecond : Nat := 1000000000

def ofSeconds (n : Nat) : Duration := ⟨n * nanosPerSecond⟩

def ofMillis (n : Nat) : Duration := ⟨n * 1000000⟩

def wholeSeconds (d : Duration) : Nat := d.nanos / nanosPerSecond

def subsecondNanos (d : Duration) : Nat := d.nanos % nanosPerSecond

/-- `n / 10 ^ places` in decimal, without zeros at the end. -/
def renderFraction (n places : Nat) : String :=
  let digits := Nat.toDigits 10 (n % Nat.pow 10 places)
  let padded := List.replicate (places - digits.length) '0' ++ digits
  let shown := (padded.reverse.dropWhile (· = '0')).reverse
  Nat.repr (n / Nat.pow 10 places) ++ (if shown.isEmpty then "" else "." ++ String.ofList shown)

def render (d : Duration) : String :=
  if nanosPerSecond ≤ d.nanos then renderFraction d.nanos 9 ++ "s"
  else if 1000000 ≤ d.nanos then renderFraction d.nanos 6 ++ "ms"
  else if 1000 ≤ d.nanos then renderFraction d.nanos 3 ++ "µs"
  else Nat.repr d.nanos ++ "ns"

end Duration

end SearchClient
