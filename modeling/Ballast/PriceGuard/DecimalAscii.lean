/-
`decimal_ascii` with its buffers: the digits of a number written from the
end of a stack array, on an index that must not pass its beginning.

`Basic` has the bytes these functions return; here is how they come
about, with the subtraction that would overflow.

The buffer is as long as the longest number of its type, twenty digits
for a `u64` and thirty-nine and a sign for an `i128`, so the index never
passes the beginning; but that is a fact about the numbers and not about
the loop, and the loop here fails where the subtraction would. The
digits come out last first and are read from the index on, which is why
nothing has to be turned round.
-/
import Ballast.PriceGuard.Basic

namespace Ballast.PriceGuard.DecimalAscii

open Soroban

/-- `[u8; size]` and the index of the first byte written. -/
structure Buffer (size : Nat) where
  buf : Vector UInt8 size
  i : Nat
  inside : i ≤ size

/-- `let mut buf = [0u8; size]; let mut i = buf.len();`. -/
def Buffer.empty (size : Nat) : Buffer size :=
  ⟨Vector.replicate size 0, size, Nat.le_refl size⟩

/-- `i -= 1; buf[i] = b;`. -/
def Buffer.push {size : Nat} (s : Buffer size) (b : UInt8) :
    Call (Buffer size) :=
  if h : 0 < s.i then
    have hlt : s.i - 1 < size := by have := s.inside; omega
    .ok ⟨s.buf.set (s.i - 1) b hlt, s.i - 1, Nat.le_of_lt hlt⟩
  else .error "attempt to subtract with overflow"

/-- `&buf[i..]`. -/
def Buffer.slice {size : Nat} (s : Buffer size) : Bytes :=
  s.buf.toList.drop s.i

/-- `while n > 0 { i -= 1; buf[i] = b'0' + (n % 10) as u8; n /= 10; }`. -/
def pushDigits {size : Nat} (n : Nat) (s : Buffer size) :
    Call (Buffer size) :=
  if 0 < n then do
    let s ← s.push (UInt8.ofNat (48 + n % 10))
    pushDigits (n / 10) s
  else .ok s
  termination_by n

/-- The digits of a magnitude, `0` among them. -/
def pushMagnitude {size : Nat} (n : Nat) (s : Buffer size) :
    Call (Buffer size) := do
  let s ← if n = 0 then s.push 48 else .ok s
  pushDigits n s

/-- `u64_to_bytes`. -/
def u64ToBytes (n : Nat) : Call Bytes := do
  let s ← pushMagnitude n (Buffer.empty 20)
  return s.slice

/-- `i128_to_bytes`. -/
def i128ToBytes (n : Int) : Call Bytes := do
  let negative := decide (n < 0)
  let s ← pushMagnitude n.natAbs (Buffer.empty 40)
  let s ← if negative then s.push 45 else .ok s
  return s.slice

/-- `build_nav_message`. -/
def buildNavMessage (assetCode : Bytes) (ts : Nat) (value : Int) :
    Call Bytes := do
  let colon : Bytes := [58]
  let message := assetCode ++ colon
  let ts ← u64ToBytes ts
  let message := message ++ ts ++ colon
  let value ← i128ToBytes value
  return message ++ value

end Ballast.PriceGuard.DecimalAscii
