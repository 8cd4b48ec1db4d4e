/-
Where a webhook may be sent: `isPrivateAddress` and
`assertSafeWebhookUrl`.

The checks read addresses as text. `isIP` is Node's: dotted decimal
without leading zeros, or groups of hexadecimal digits with at most one
`::`, the last two perhaps in dotted decimal, and perhaps a zone. What a
text denotes is what `parseIPv4` and `parseIPv6` make of it, four octets
or eight groups of sixteen bits.

The URL parser and the resolver are parameters.

A URL passes when its protocol is allowed, it brings no credentials, its
host is on no list of local names, and every address the host stands for
is public: the host itself if it is a literal, else what the resolver
answers, of which there must be at least one.
-/
import Ballast.Common.Js
import Ballast.Soroban.Host
import Mathlib.Data.List.Basic

namespace Ballast.Webhooks

open Soroban Js

abbrev Text := List Char

-- =================================================================== IPv4

structure IPv4 where
  a : Nat
  b : Nat
  c : Nat
  d : Nat
  deriving DecidableEq, Repr

/-- `Number(text)` of decimal digits. -/
def number (t : Text) : Nat := Nat.ofDigitChars 10 t 0

def digits (t : Text) : Bool := t ≠ [] ∧ t.all Char.isDigit

/-- An octet: up to 255, and no leading zero. -/
def octet (t : Text) : Option Nat :=
  if digits t ∧ (t.head? = some '0' → t.length = 1) ∧ number t ≤ 255 then
    some (number t)
  else none

def parseIPv4 (t : Text) : Option IPv4 :=
  match t.splitOn '.' with
  | [a, b, c, d] => do
      let a ← octet a
      let b ← octet b
      let c ← octet c
      let d ← octet d
      return ⟨a, b, c, d⟩
  | _ => none

/-- The ranges of `ipv4Private`. -/
def reserved (a b c : Nat) : Bool :=
  a = 0 ∨ a = 10 ∨ a = 127 ∨ (a = 100 ∧ 64 ≤ b ∧ b ≤ 127)
    ∨ (a = 169 ∧ b = 254) ∨ (a = 172 ∧ 16 ≤ b ∧ b ≤ 31)
    ∨ (a = 192 ∧ b = 168) ∨ (a = 192 ∧ b = 0 ∧ c = 0)
    ∨ (a = 198 ∧ (b = 18 ∨ b = 19)) ∨ 224 ≤ a

/-- `ipv4Private`. Both callers have seen four numbers in the text. -/
def ipv4Private (ip : Text) : Bool :=
  match (ip.splitOn '.').map number with
  | a :: b :: c :: _ => reserved a b c
  | _ => false

-- =================================================================== IPv6

/-- One to four hexadecimal digits. -/
def hexGroup (t : Text) : Option Nat :=
  if t.length ≤ 4 then numeral 16 t else none

/-- The groups at the end of an address, the last two perhaps in dotted
decimal. -/
def tailGroups : List Text → Option (List Nat)
  | [] => some []
  | [t] =>
      if '.' ∈ t then
        (parseIPv4 t).map fun ip => [256 * ip.a + ip.b, 256 * ip.c + ip.d]
      else (hexGroup t).map fun n => [n]
  | t :: ts => do
      let n ← hexGroup t
      let ns ← tailGroups ts
      return n :: ns

/-- `left :: right`: zeros for at least one group. -/
def compressed (left right : List Text) : Option (List Nat) := do
  let l ← left.mapM hexGroup
  let r ← tailGroups (if right = [[]] then [] else right)
  if l.length + r.length ≤ 7 then
    return l ++ List.replicate (8 - (l.length + r.length)) 0 ++ r
  else none

/-- Up to the first empty piece, and after it. -/
def splitEmpty : List Text → Option (List Text × List Text)
  | [] => none
  | [] :: ps => some ([], ps)
  | p :: ps => (splitEmpty ps).map fun (l, r) => (p :: l, r)

/-- The pieces between the colons. -/
def parsePieces (ps : List Text) : Option (List Nat) :=
  match ps with
  | [] :: [] :: p :: rest => compressed [] (p :: rest)
  | _ =>
      match splitEmpty ps with
      -- a single colon at either end
      | some ([], _) => none
      | some (_, []) => none
      | some (left, right) => compressed left right
      | none => do
          let groups ← tailGroups ps
          if groups.length = 8 then return groups else none

/-- A zone's characters. -/
def zoneChar (c : Char) : Bool := c.isAlphanum ∨ c = '-' ∨ c = '.' ∨ c = ':'

/-- `net.isIPv6`, and the eight groups. -/
def parseIPv6 (t : Text) : Option (List Nat) :=
  match t.dropWhile (· ≠ '%') with
  | [] => parsePieces (t.splitOn ':')
  | _ :: zone =>
      if zone ≠ [] ∧ zone.all zoneChar then
        parsePieces ((t.takeWhile (· ≠ '%')).splitOn ':')
      else none

/-- `net.isIP`. -/
def isIP (t : Text) : Nat :=
  if (parseIPv4 t).isSome then 4
  else if (parseIPv6 t).isSome then 6
  else 0

-- ============================================================== the check

def toLowerCase (t : Text) : Text := t.map Char.toLower

/-- `\d+\.\d+\.\d+\.\d+`. -/
def fourNumbers (t : Text) : Bool :=
  let ps := t.splitOn '.'
  ps.length = 4 ∧ ps.all digits

/-- The group of `/^::ffff:(\d+\.\d+\.\d+\.\d+)$/`. -/
def mappedTail (lower : Text) : Option Text :=
  if "::ffff:".toList.isPrefixOf lower ∧ fourNumbers (lower.drop 7) then
    some (lower.drop 7)
  else none

/-- `/^f[cd]/`, `/^fe[89ab]/` and `startsWith("ff")`. -/
def prefixed : Text → Bool
  | 'f' :: c :: rest =>
      c = 'c' ∨ c = 'd' ∨ c = 'f'
        ∨ (c = 'e' ∧ rest.head?.any (· ∈ ['8', '9', 'a', 'b']))
  | _ => false

def isPrivateAddress (ip : Text) : Bool :=
  match isIP ip with
  | 4 => ipv4Private ip
  | 6 =>
      let lower := toLowerCase ip
      match mappedTail lower with
      | some mapped => ipv4Private mapped
      | none => lower = "::".toList ∨ lower = "::1".toList ∨ prefixed lower
  | _ => true

-- ================================================================ the URL

structure Url where
  protocol : Text
  username : Text
  password : Text
  hostname : Text
  deriving DecidableEq, Repr

/-- What Node computes. -/
structure Platform where
  /-- `new URL(raw)`, which may throw -/
  parseUrl : Text → Option Url
  /-- the addresses of a host; a failed lookup has none -/
  resolve : Text → List Text

/-- `BLOCKED_SUFFIXES`. -/
def blockedSuffixes : List Text :=
  [".localhost", ".local", ".internal", ".lan", ".home.arpa"].map
    String.toList

/-- `replace(/^\[|\]$/g, "")`. -/
def stripBrackets (t : Text) : Text :=
  let t := if t.head? = some '[' then t.tail else t
  if t.getLast? = some ']' then t.dropLast else t

def assertSafeWebhookUrl (p : Platform) (allowHttp : Bool) (raw : Text) :
    Call Url := do
  let url ← expect (p.parseUrl raw) "not a valid URL"
  ensure (url.protocol = "https:".toList
      ∨ (allowHttp = true ∧ url.protocol = "http:".toList))
    "webhook URL must use https"
  ensure (url.username = [] ∧ url.password = [])
    "webhook URL must not contain credentials"
  let host := toLowerCase (stripBrackets url.hostname)
  ensure (host ≠ "localhost".toList
      ∧ ∀ suffix ∈ blockedSuffixes, ¬ suffix.isSuffixOf host)
    "webhook URL points at a local hostname"
  let addresses := if isIP host ≠ 0 then [host] else p.resolve host
  ensure (addresses ≠ []) "webhook host does not resolve"
  ensure (addresses.any isPrivateAddress = false)
    "webhook URL resolves to a private or reserved address"
  return url

end Ballast.Webhooks
