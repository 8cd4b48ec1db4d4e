/-
A statement sent to the database, as its sender sees it.

A statement that is sent may commit or be rolled back, and its sender
may hear of it or not. Three of the four cases matter: a rollback is an
error either way. A program that goes on from one statement to the next
has to be right when an acknowledgement is lost, so `lost` is a case of
its own wherever one is sent.
-/
namespace Ballast

/-- What becomes of a statement that writes. -/
inductive Delivery where
  | acknowledged
  /-- committed, but the caller sees an error -/
  | lost
  | rolledBack
  deriving DecidableEq, Repr

end Ballast
