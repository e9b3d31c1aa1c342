/-!
# Hexadecimal text

* **`hex`**: upper-case digits of a number, padded on the left with zeros to a least width;
* `prefixed`: the same behind `0x`, the way addresses, words and keys are written in messages.
-/

namespace Chip8.Text

/-- The upper-case digit of a number below sixteen. -/
def hexDigit (d : Nat) : Char :=
  if d < 10 then Char.ofNat (48 + d) else Char.ofNat (55 + d)

/-- The digits of a number in base sixteen, most significant first; zero has one digit. -/
def hexDigits (n : Nat) : List Char :=
  if n < 16 then [hexDigit n] else hexDigits (n / 16) ++ [hexDigit (n % 16)]
termination_by n

/-- **Upper-case hexadecimal digits**, at least `width` of them. -/
def hex (width n : Nat) : String :=
  let digits := hexDigits n
  String.ofList (List.replicate (width - digits.length) '0' ++ digits)

/-- The digits behind `0x`. -/
def prefixed (width n : Nat) : String := "0x" ++ hex width n

end Chip8.Text
