import SciCalc.History.Store

/-!
# Requests to stores

What a store can be asked. A request about the history of a session makes that session the most recent one; the
others look at the store or take a session out of it.
-/

namespace SciCalc.Store

inductive Request where
  | get (name : String)
  | add (name : String) (entry : Entry)
  | latest (name : String)
  | clear (name : String)
  | drop (name : String)
  | contains (name : String)
  | size

inductive Reply where
  | history (history : History)
  /-- The entry that was added, or the latest one if there is any. -/
  | entry (found : Option Entry)
  | done
  | truth (value : Bool)
  | count (number : Nat)

/-- The answer to a request, and the store behind it. -/
def answer (store : Store) : Request → Except Failure Reply × Store
  | .get name => ((store.get name).1.map .history, (store.get name).2)
  | .add name entry => ((store.add name entry).1.map fun _ => .entry (some entry), (store.add name entry).2)
  | .latest name => ((store.get name).1.map fun history => .entry history.latest?, (store.get name).2)
  | .clear name => ((store.clear name).1.map fun _ => .done, (store.clear name).2)
  -- whether there was a session to take out
  | .drop name => (.ok (.truth (store.sessions.lookup name).isSome), store.drop name)
  | .contains name => (.ok (.truth (store.contains name)), store)
  | .size => (.ok (.count store.size), store)

end SciCalc.Store
