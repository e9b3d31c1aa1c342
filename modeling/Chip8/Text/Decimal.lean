/-!
# Decimal rates

The rate on a command line is a 32 bit number: an optional `+`, then one or more decimal digits.

* **`readUInt32`**: the number a text denotes, if it is one;
* `decimalValue`: the value of a list of digits.
-/

namespace Chip8.Text

/-- The value of a decimal digit; other characters have none, also digits of other scripts. -/
def digitValue (c : Char) : Option Nat :=
  if 48 ≤ c.toNat ∧ c.toNat ≤ 57 then some (c.toNat - 48) else none

/-- The value of a list of digits read after `acc`. -/
def decimalFrom (acc : Nat) : List Char → Option Nat
  | [] => some acc
  | c :: cs => (digitValue c).bind fun d => decimalFrom (acc * 10 + d) cs

/-- The value of one or more digits. -/
def decimalValue : List Char → Option Nat
  | [] => none
  | cs => decimalFrom 0 cs

/-- A text without one leading plus sign. -/
def dropPlus : List Char → List Char
  | '+' :: cs => cs
  | cs => cs

/-- **The 32 bit number that a text denotes.** A sign other than one plus, a blank, an empty run of
digits and a value beyond 32 bits are refused; leading zeros are not. -/
def readUInt32 (s : String) : Option UInt32 :=
  match decimalValue (dropPlus s.toList) with
  | some n => if n < UInt32.size then some (UInt32.ofNat n) else none
  | none => none

end Chip8.Text
