import QuoteKeeper.Text.Hex
/-
  QuoteKeeper.Chain.Quantity — numbers as the node interface writes them: `0x` and hex digits.

  A quantity is read in order of what can be wrong with it: empty text, no `0x` (or `0X`)
  prefix, nothing after the prefix, a leading zero digit, then digit by digit: a character
  that is not a hex digit is a bad digit, and a value that outgrows its bits is out of
  range, whichever comes first.
-/

namespace QuoteKeeper

/-- Why text is not a quantity. -/
inductive QuantityError where
  | empty
  | missingPrefix
  | emptyNumber
  | leadingZero
  | badDigit
  | range (bits : Nat)
  deriving DecidableEq, Repr

namespace QuantityError

def message : QuantityError → String
  | empty => "empty hex string"
  | missingPrefix => "hex string without 0x prefix"
  | emptyNumber => "hex string \"0x\""
  | leadingZero => "hex number with leading zero digits"
  | badDigit => "invalid hex string"
  | range bits => "hex number > " ++ toString bits ++ " bits"

end QuantityError

namespace Quantity

/-- Hex digits into a number below `2 ^ bits`, stopping at the first fault. -/
def digits (bits : Nat) : Nat → List Char → Except QuantityError Nat
  | n, [] => .ok n
  | n, c :: cs =>
    match Hex.value? c with
    | none => .error .badDigit
    | some d =>
      let n' := n * 16 + d
      if n' ≥ Nat.pow 2 bits then .error (.range bits) else digits bits n' cs

/-- A quantity of at most `bits` bits. -/
def decode (bits : Nat) (text : String) : Except QuantityError Nat :=
  match text.toList with
  | [] => .error .empty
  | '0' :: x :: rest =>
    if x = 'x' ∨ x = 'X' then
      match rest with
      | [] => .error .emptyNumber
      | '0' :: _ :: _ => .error .leadingZero
      | ds => digits bits 0 ds
    else .error .missingPrefix
  | _ => .error .missingPrefix

/-- A 64-bit quantity. -/
def decode64 (text : String) : Except QuantityError Nat := decode 64 text

/-- The text of a quantity: `0x` and its hex digits without leading zeros. -/
def encode (n : Nat) : String := "0x" ++ String.ofList (Nat.toDigits 16 n)

end Quantity

end QuoteKeeper
