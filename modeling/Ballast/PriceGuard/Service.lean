/-
The price guard's service: its own converters of money (`scaled.ts`) and
the message it has signed (`navSignature.ts`).

Prices stand in the database as decimal text, and a reading is attested
over a message that the contract rebuilds from its own arguments before
it verifies the signature. So the two sides have to agree on the message
byte by byte. The converters are a second copy of those of the shared
package: they differ from them in that the writer takes negative numbers
too, where the shared one refuses them.
-/
import Ballast.DomainTypes.Money

namespace Ballast.PriceGuard.Service

open Soroban Js Numerals
open DomainTypes (Text orZero)

/-- `PRICE_SCALE`, which this file has its own of. -/
def priceScale : Int := 10000000

/-- `scaledToDecimalString`, of any sign. -/
def scaledToDecimalString (raw : Int) : Text :=
  let negative := decide (raw < 0)
  let abs := if negative then -raw else raw
  let whole := abs.tdiv priceScale
  let frac := pad 7 (bigintText (abs.tmod priceScale))
  (if negative then ['-'] else []) ++ bigintText whole ++ '.' :: frac

/-- `decimalStringToScaled`. -/
def decimalStringToScaled (decimal : Text) : Call Int := do
  let negative := decide (decimal.head? = some '-')
  let unsigned := if negative then decimal.drop 1 else decimal
  let parts := unsigned.splitOn '.'
  let wholePart := parts.headD []
  let fracPart := (parts.drop 1).headD []
  let fracPadded := (fracPart ++ "0000000".toList).take 7
  let whole ← bigIntOf (String.ofList (orZero wholePart))
  let frac ← bigIntOf (String.ofList (orZero fracPadded))
  let combined := whole * priceScale + frac
  return if negative then -combined else combined

/-- `canonicalNavMessage`, the code's characters being Unicode scalar
values. A number that is a safe integer prints as its digits. -/
def canonicalNavMessage (assetCode : String) (ts : Nat) (value : Int) :
    Bytes :=
  (assetCode ++ ":" ++ Js.text (.number ts) ++ ":"
    ++ Js.text (.bigint value)).toUTF8.data.toList

end Ballast.PriceGuard.Service
