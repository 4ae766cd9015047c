/-!
# Durations as text

A duration is a number of milliseconds. It is written in seconds from one second on, with as many
decimals as it needs, in milliseconds below that, and nothing at all counts as nanoseconds.
-/

namespace PowerGrant.Text

/-- The decimals of a number of thousandths, without zeros at the end. -/
def thousandths (n : Nat) : String :=
  if n = 0 then ""
  else if n % 100 = 0 then s!".{n / 100}"
  else if n % 10 = 0 then s!".{n / 100}{n / 10 % 10}"
  else s!".{n / 100}{n / 10 % 10}{n % 10}"

/-- The text of a duration given in milliseconds. -/
def duration (ms : Nat) : String :=
  if ms = 0 then "0ns"
  else if ms < 1000 then s!"{ms}ms"
  else s!"{ms / 1000}{thousandths (ms % 1000)}s"

example : duration 0 = "0ns" ∧ duration 50 = "50ms" ∧ duration 1500 = "1.5s" ∧
    duration 60001 = "60.001s" ∧ duration 1010 = "1.01s" := by decide +kernel

end PowerGrant.Text
