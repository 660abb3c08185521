/-!
# Decimal numerals

How a natural number is written where numbers stand in a sentence: digits only, no leading zeros.
-/

namespace EntityGraph.Text

def decimal (n : Nat) : String := String.ofList (Nat.toDigits 10 n)

end EntityGraph.Text
