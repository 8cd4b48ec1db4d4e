/-
`money.ts`: amounts between decimal text, as the database's numeric
columns come, and scaled integers, as the contracts have them.

A JS string is a list of characters; the digits these functions produce
and cut are one code unit each.

The writer refuses a negative amount and always writes seven digits
after the point. The reader takes a sign, fills the digits up with zeros
and cuts them at seven, so what comes after the seventh is dropped, not
rounded; a part that is empty reads as zero. What `BigInt` makes of a
part that is no number is `bigIntOf`, which throws.
-/
import Ballast.Common.Js
import Ballast.Common.Numerals
import Ballast.Common.Risk

namespace Ballast.DomainTypes

open Soroban Js Numerals

/-- A JS string. -/
abbrev Text := List Char

/-- `text || "0"`. -/
def orZero (text : Text) : Text := if text = [] then ['0'] else text

/-- `scaledToDecimalString`. -/
def scaledToDecimalString (raw : Int) : Call Text := do
  ensure (¬ raw < 0) "money: amount must not be negative"
  let whole := raw.tdiv priceScale
  let frac := pad 7 (bigintText (raw.tmod priceScale))
  return bigintText whole ++ '.' :: frac

/-- `decimalStringToScaled`. What follows a second point is ignored. -/
def decimalStringToScaled (decimal : Text) : Call Int := do
  let negative := decide (decimal.head? = some '-')
  let unsigned := if negative then decimal.drop 1 else decimal
  let parts := unsigned.splitOn '.'
  let wholePart := parts.headD []
  let fracPart := (parts.drop 1).headD []
  let fracPadded := (fracPart ++ "0000000".toList).take 7
  let whole ← bigIntOf (String.ofList (orZero wholePart))
  let frac ← bigIntOf (String.ofList (orZero fracPadded))
  let combined := whole * priceScale + frac
  return if negative then -combined else combined

end Ballast.DomainTypes
