/-
Which webhook events a margin transition produces.

A transition is a pair of margin states, the one last announced and the
one read now, and the list comes in the order in which the events are
inserted. Every transition says that the state has changed. A margin
call, its cure and a liquidation are said on top of that: entering
`marginCall` from anywhere is a call, leaving it upwards is a cure, and
leaving it downwards is a liquidation and no cure.
-/
import Ballast.Common.Risk

namespace Ballast.Webhooks

inductive WebhookEvent where
  | priceStatusChanged
  | marginStateChanged
  | marginCallIssued
  | marginCured
  | liquidationStarted
  | liquidationCompleted
  | exitFilled
  | repoLeg1Settled
  | repoUnwindDue
  | repoDefaulted
  deriving DecidableEq, Repr

/-- Which events one transition produces. -/
def eventsForMarginTransition (fromState toState : MarginState) :
    List WebhookEvent :=
  let events : List WebhookEvent := [.marginStateChanged]
  let events := if toState = .marginCall
    then events ++ [.marginCallIssued] else events
  let events := if fromState = .marginCall
      ∧ (toState = .healthy ∨ toState = .warning)
    then events ++ [.marginCured] else events
  if toState = .liquidation
    then events ++ [.liquidationStarted] else events

end Ballast.Webhooks
