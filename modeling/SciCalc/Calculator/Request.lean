import SciCalc.Calculator
import SciCalc.History.Request

/-!
# Requests to calculators

What a calculator can be asked: a calculation, or something about the histories in its store. A run answers requests
one after the other.
-/

namespace SciCalc

/-- The session that a request to a store is about. -/
def Store.Request.name? : Request → Option String
  | get name | add name _ | latest name | clear name | drop name | contains name => some name
  | size => none

namespace Calculator

inductive Request where
  | calculate (entered unit : Scalar) (session : Option String)
  | store (request : Store.Request)

/-- The session that a request is issued for. -/
def Request.session? : Request → Option String
  | calculate _ _ session => session
  | store request => request.name?

inductive Reply where
  | outcome (outcome : Outcome)
  | store (reply : Store.Reply)

/-- The answer to a request, and the calculator behind it. -/
def answer (calculator : Calculator) : Request → Except Failure Reply × Calculator
  | .calculate entered unit session =>
    let (outcome, next) := calculator.calculate entered unit session
    (outcome.map .outcome, next)
  | .store request =>
    let (reply, store) := calculator.store.answer request
    (reply.map .store, { calculator with store := store })

/-- The requests with the answers to them, and the calculator behind the last one. -/
def run (calculator : Calculator) : List Request → List (Request × Except Failure Reply) × Calculator
  | [] => ([], calculator)
  | request :: rest =>
    let (reply, next) := calculator.answer request
    let (exchanges, last) := next.run rest
    ((request, reply) :: exchanges, last)

end Calculator

end SciCalc
