/-
Spans of time as log lines show them.
-/

namespace CapabilityMesh

namespace Text

/-- A decimal fraction of thousandths, without zeros at its end. -/
def thousandths (n : Nat) : String :=
  let digits := [n / 100 % 10, n / 10 % 10, n % 10]
  String.join ((digits.reverse.dropWhile (· == 0)).reverse.map toString)

def span (milliseconds : Nat) : String :=
  if milliseconds = 0 then "0ns"
  else if milliseconds < 1000 then toString milliseconds ++ "ms"
  else
    let fraction := thousandths (milliseconds % 1000)
    let whole := toString (milliseconds / 1000)
    (if fraction.isEmpty then whole else whole ++ "." ++ fraction) ++ "s"

end Text

end CapabilityMesh
