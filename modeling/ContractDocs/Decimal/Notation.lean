/-
The text of a double precision number: positional where its leading digit
stands between the fifth place after the point and the sixteenth before it,
scientific with a signed exponent elsewhere. A whole number keeps `.0`.
-/
import ContractDocs.Decimal.Binary64

namespace ContractDocs.Decimal

/-- Exponents of the leading digit that are written positionally. -/
def isPositional (exponent : Int) : Bool :=
  -5 ≤ exponent && exponent ≤ 15

/-- A sign and a magnitude. -/
def signed (negative : Bool) (magnitude : String) : String :=
  if negative then "-" ++ magnitude else magnitude

/-- The digits of `number` with a point in its place. -/
def positional (number : Scaled) : String :=
  let digits := Nat.toDigits 10 number.digits
  if 0 ≤ number.power then
    String.ofList (digits ++ List.replicate number.power.toNat '0') ++ ".0"
  else
    let places := number.power.natAbs
    let padded := List.replicate (places + 1 - digits.length) '0' ++ digits
    let whole := padded.length - places
    String.ofList (padded.take whole) ++ "." ++ String.ofList (padded.drop whole)

/-- One digit before the point, and the exponent of that digit. -/
def scientific (number : Scaled) : String :=
  let digits := Nat.toDigits 10 number.digits
  let exponent := number.power + digits.length - 1
  let fraction := digits.drop 1
  String.ofList (digits.take 1)
    ++ (if fraction.isEmpty then "" else "." ++ String.ofList fraction)
    ++ "e" ++ (if exponent < 0 then "-" else "+") ++ toString exponent.natAbs

/-- The text of a double: its shortest decimal in the notation its size calls for. -/
def Binary64.text (negative : Bool) (value : Binary64) : String :=
  let number := value.shortest
  let exponent := number.power + digitCount number.digits - 1
  signed negative (if isPositional exponent then positional number else scientific number)

end ContractDocs.Decimal
