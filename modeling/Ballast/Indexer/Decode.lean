/-
What the indexer makes of a contract event.

`Ballast.Indexer.Basic` takes the decoding of a row as a parameter. Here
is the one that runs: the host's values (`ScVal`), the SDK's
`scValToNative` for them, and `toJsonSafe`, which writes every bigint as
text because jsonb has none.

The SDK is third party code. `StellarSdk` is its interface, and
`StellarSdk.Documented` is what the services rely on: symbols, integers,
addresses and vectors come out as strings, bigints, account strings and
arrays, and two addresses never share a string.

Of the rows that come out, what the readers use is little: a name, and a
tuple whose first two fields are the asset and the units (`Records`).
Each of the vault's events is published in that form, so a reader that
looks at nothing else reads every one of them.
-/
import Ballast.Common.Js
import Ballast.Indexer.Basic
import Ballast.PledgeVault.Basic

namespace Ballast.Indexer

open Soroban Js

-- =============================================================== the host

/-- The values the vault's events are made of. -/
inductive ScVal where
  | symbol (s : String)
  | u64 (n : Nat)
  | i128 (n : Int)
  | address (a : Address)
  | bytes (b : Bytes)
  | vec (xs : List ScVal)

/-- An event as the host records it: topics and body. -/
structure Emitted where
  topic : List ScVal
  value : ScVal

/-- What `env.events().publish` is given: the name and the line, then the
asset, the units, and what else there is. -/
def publishedAs : PledgeVault.Event → Emitted
  | .pledged line asset units =>
      ⟨[.symbol "pledged", .u64 line], .vec [.address asset, .i128 units]⟩
  | .released line asset units =>
      ⟨[.symbol "released", .u64 line], .vec [.address asset, .i128 units]⟩
  | .lienRecorded line asset units lienRef =>
      ⟨[.symbol "lien_recorded", .u64 line],
        .vec [.address asset, .i128 units, .bytes lienRef]⟩
  | .liquidated line asset units recipient =>
      ⟨[.symbol "liquidated", .u64 line],
        .vec [.address asset, .i128 units, .address recipient]⟩

-- ================================================================ the SDK

structure StellarSdk where
  scValToNative : ScVal → Except String Value
  /-- an address as its account or contract string -/
  strkey : Address → String
  /-- the raw form of an event that does not decode -/
  raw : RpcEvent ScVal → String

structure StellarSdk.Documented (sdk : StellarSdk) : Prop where
  symbol : ∀ s, sdk.scValToNative (.symbol s) = .ok (.string s)
  u64 : ∀ n : Nat, sdk.scValToNative (.u64 n) = .ok (.bigint n)
  i128 : ∀ n, sdk.scValToNative (.i128 n) = .ok (.bigint n)
  address : ∀ a, sdk.scValToNative (.address a) = .ok (.string (sdk.strkey a))
  bytes : ∀ b, ∃ v, sdk.scValToNative (.bytes b) = .ok v
  vec : ∀ xs vs, xs.mapM sdk.scValToNative = .ok vs →
    sdk.scValToNative (.vec xs) = .ok (.array vs)
  strkey_injective : Function.Injective sdk.strkey

-- =============================================================== the rows

mutual

/-- `toJsonSafe`: bigints become text, at any depth. -/
def toJsonSafe : Value → Value
  | .bigint n => .string (String.ofList (bigintText n))
  | .array xs => .array (toJsonSafeAll xs)
  | .object fields => .object (toJsonSafeFields fields)
  | .null => .null
  | .bool b => .bool b
  | .number n => .number n
  | .string s => .string s

def toJsonSafeAll : List Value → List Value
  | [] => []
  | x :: xs => toJsonSafe x :: toJsonSafeAll xs

def toJsonSafeFields : List (String × Value) → List (String × Value)
  | [] => []
  | (k, x) :: fields => (k, toJsonSafe x) :: toJsonSafeFields fields

end

/-- The decoding of a row. -/
def stellarDecoder (sdk : StellarSdk) : Decoder ScVal Value Value where
  scValToNative := sdk.scValToNative
  text := text
  toJsonSafe topics value :=
    toJsonSafe (.object [("topics", .array topics), ("value", value)])
  raw := sdk.raw
  undecodable error raw :=
    .object [("error", .string error), ("raw", .string raw)]

-- ========================================================== vault events

/-- The name a vault event goes by. -/
def topicOf : PledgeVault.Event → String
  | .pledged .. => "pledged"
  | .released .. => "released"
  | .lienRecorded .. => "lien_recorded"
  | .liquidated .. => "liquidated"

def assetOf : PledgeVault.Event → Address
  | .pledged _ asset _ => asset
  | .released _ asset _ => asset
  | .lienRecorded _ asset _ _ => asset
  | .liquidated _ asset _ _ => asset

def unitsOf : PledgeVault.Event → Int
  | .pledged _ _ units => units
  | .released _ _ units => units
  | .lienRecorded _ _ units _ => units
  | .liquidated _ _ units _ => units

/-- A row about a vault event: its name, and a tuple that begins with the
asset's string and the units as decimal text. -/
structure Records (sdk : StellarSdk) (event : PledgeVault.Event)
    (row : ChainEvent Value) : Prop where
  topic : row.topic = topicOf event
  data : ∃ rest, row.data.get "value" = some (.array
    (.string (sdk.strkey (assetOf event))
      :: .string (String.ofList (bigintText (unitsOf event))) :: rest))

/-- What the indexer stores of an event with a name, a line and a body
that decodes. -/
theorem rowOf_named {sdk : StellarSdk} (hsdk : sdk.Documented)
    {e : RpcEvent ScVal} {name : String} {line : Nat} {xs : List ScVal}
    {vs : List Value} (htopic : e.topic = [.symbol name, .u64 line])
    (hvalue : e.value = .vec xs) (hvs : xs.mapM sdk.scValToNative = .ok vs) :
    rowOf (stellarDecoder sdk) e
      = ⟨e.id, e.ledger, e.txHash, e.contractId, name,
        toJsonSafe (.object
          [("topics", .array [.bigint line]), ("value", .array vs)])⟩ := by
  have htopics : (e.topic.drop 1).mapM sdk.scValToNative
      = .ok [.bigint line] := by
    rw [htopic, List.drop_one, List.tail_cons, List.mapM_cons, List.mapM_nil,
      hsdk.u64]
    rfl
  have hbody : sdk.scValToNative e.value = .ok (.array vs) := by
    rw [hvalue, hsdk.vec xs vs hvs]
  have hname : decodeTopicName (stellarDecoder sdk) e.topic = name := by
    rw [htopic]
    simp only [decodeTopicName, stellarDecoder, hsdk.symbol, text]
  unfold rowOf
  rw [hname]
  simp only [stellarDecoder, htopics, hbody]
  rfl

/-- A body that begins with the asset and the units is stored as one. -/
theorem Records.of_row {sdk : StellarSdk} {event : PledgeVault.Event}
    {row : ChainEvent Value} {line : Nat} {rest : List Value}
    (htopic : row.topic = topicOf event)
    (hdata : row.data = toJsonSafe (.object
      [("topics", .array [.bigint line]),
        ("value", .array (.string (sdk.strkey (assetOf event))
          :: .bigint (unitsOf event) :: rest))])) :
    Records sdk event row := by
  refine ⟨htopic, toJsonSafeAll rest, ?_⟩
  rw [hdata]
  rfl

/-- Such a row is what the indexer stores of the event. -/
theorem rowOf_records {sdk : StellarSdk} (hsdk : sdk.Documented)
    {event : PledgeVault.Event} {e : RpcEvent ScVal}
    (htopic : e.topic = (publishedAs event).topic)
    (hvalue : e.value = (publishedAs event).value) :
    Records sdk event (rowOf (stellarDecoder sdk) e) := by
  cases event with
  | pledged line asset units =>
      rw [rowOf_named hsdk htopic hvalue (by
        simp only [List.mapM_cons, List.mapM_nil, hsdk.address, hsdk.i128]
        rfl)]
      exact Records.of_row rfl rfl
  | released line asset units =>
      rw [rowOf_named hsdk htopic hvalue (by
        simp only [List.mapM_cons, List.mapM_nil, hsdk.address, hsdk.i128]
        rfl)]
      exact Records.of_row rfl rfl
  | lienRecorded line asset units lienRef =>
      obtain ⟨v, hv⟩ := hsdk.bytes lienRef
      rw [rowOf_named hsdk htopic hvalue (by
        simp only [List.mapM_cons, List.mapM_nil, hsdk.address, hsdk.i128,
          hv]
        rfl)]
      exact Records.of_row rfl rfl
  | liquidated line asset units recipient =>
      rw [rowOf_named hsdk htopic hvalue (by
        simp only [List.mapM_cons, List.mapM_nil, hsdk.address, hsdk.i128]
        rfl)]
      exact Records.of_row rfl rfl

end Ballast.Indexer
