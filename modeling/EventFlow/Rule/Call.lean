import EventFlow.Service

/-!
# Calling rules

A call of a rule ends in a reply.  A rule that answers at once takes no time; a
rule outside of the library may do anything within its limit.
-/

namespace EventFlow

namespace TriggerRule

/-- Takes variables out of an event. -/
def extract (rule : TriggerRule) (context : RuleContext) (params payload : Bag)
    (limit : Duration) : Routine (Reply Bag) :=
  match rule.extraction with
  | .immediate f => .done (f context params payload)
  | .external handle => Service.invoke handle context params (.extract payload) limit

/-- Polls with the state of the last poll. -/
def poll (rule : TriggerRule) (context : RuleContext) (params state : Bag)
    (limit : Duration) : Routine (Reply PollResult) :=
  match rule.polling with
  | .immediate f => .done (f context params state)
  | .external handle => Service.invoke handle context params (.poll state) limit

end TriggerRule

/-- Acts on variables. -/
def ActionRule.run (rule : ActionRule) (context : RuleContext) (params vars : Bag)
    (limit : Duration) : Routine (Reply Bag) :=
  match rule.effect with
  | .immediate f => .done (f context params vars)
  | .external handle => Service.invoke handle context params (.run vars) limit

end EventFlow
