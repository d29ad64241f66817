/-
This file defines plans of outages: which calls of a component fail, and how
often.

A plan is a list of outages, each for one kind of call. An outage may let some
of its calls through before it strikes, so that a plan can single out any call
of a run. A call that meets an outage fails with its error, the first outage of
the plan that strikes deciding, and does not reach the component.
-/

namespace AccessFeed

/-- An outage: the calls it is for, their error, how many of them it still lets through, and how
often it then strikes. Without a target it is for whatever the call is made on, and without a number
it strikes for ever. -/
structure Outage (Method Error : Type) where
  method : Method
  target : Option String
  error : Error
  reprieve : Nat
  remaining : Option Nat
deriving Repr

namespace Outage

variable {Method Error : Type} [DecidableEq Method]

/-- Whether an outage is for a call and not used up. -/
def concerns (outage : Outage Method Error) (method : Method) (target : Option String) : Bool :=
  outage.method == method &&
    (outage.target.isNone || outage.target == target) && outage.remaining != some 0

/-- The outage after it has struck once. -/
def spend (outage : Outage Method Error) : Outage Method Error :=
  { outage with remaining := outage.remaining.map (· - 1) }

/-- The outage after it has let a call through. -/
def relent (outage : Outage Method Error) : Outage Method Error :=
  { outage with reprieve := outage.reprieve - 1 }

/-- What a plan does to a call: the error the call meets, if there is one, and the plan left. -/
def meet (method : Method) (target : Option String) :
    List (Outage Method Error) → Option Error × List (Outage Method Error)
  | [] => (none, [])
  | outage :: rest =>
    if outage.concerns method target then
      if outage.reprieve = 0 then (some outage.error, outage.spend :: rest)
      else
        let (error, left) := meet method target rest
        (error, outage.relent :: left)
    else
      let (error, left) := meet method target rest
      (error, outage :: left)

/-- Without outages no call fails. -/
@[simp] theorem meet_nil (method : Method) (target : Option String) :
    meet method target ([] : List (Outage Method Error)) = (none, []) := rfl

end Outage

end AccessFeed
