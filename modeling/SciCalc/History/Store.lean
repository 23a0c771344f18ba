import SciCalc.History.Basic

/-!
# Stores of histories

A store holds the histories of the sessions used last. A session that is asked for becomes the most recent
one and is created if need be; beyond the bound the least recent sessions are evicted. A step answers together
with the store behind it, because a failing step may change the store as well.
-/

namespace SciCalc

structure Store where
  maxEntries : Int
  maxSessions : Int
  /-- The sessions and their histories, most recent first. -/
  sessions : List (String × History)

namespace Store

/-- An empty store; bounds of zero stand for the standard ones. -/
def create (maxEntries maxSessions : Int) : Store where
  maxEntries := Settings.orStandard maxEntries Settings.standard.maxEntries
  maxSessions := Settings.orStandard maxSessions Settings.standard.maxSessions
  sessions := []

/-- The names of the sessions, least recent first. -/
def names (store : Store) : List String := (store.sessions.map Prod.fst).reverse

def contains (store : Store) (name : String) : Bool := store.sessions.any (·.1 == name)

def size (store : Store) : Nat := store.sessions.length

/-- The other sessions, in their order. -/
def others (store : Store) (name : String) : List (String × History) :=
  store.sessions.filter (·.1 != name)

/-- The history of a session, which becomes the most recent one. -/
def get (store : Store) (name : String) : Except Failure History × Store :=
  match store.sessions.lookup name with
  | some history => (.ok history, { store with sessions := (name, history) :: store.others name })
  | none =>
    match History.create store.maxEntries with
    | .error failure => (.error failure, store)
    | .ok history =>
      -- no number of evictions meets a bound below zero
      if store.maxSessions < 0 then (.error .emptyStore, { store with sessions := [] })
      else (.ok history,
        { store with sessions := ((name, history) :: store.sessions).take store.maxSessions.toNat })

/-- Changes the history of a session, which becomes the most recent one. -/
def update (store : Store) (name : String) (change : History → History) : Except Failure History × Store :=
  match store.get name with
  | (.error failure, store) => (.error failure, store)
  | (.ok history, store) =>
    let changed := change history
    (.ok changed, { store with sessions := store.sessions.map fun (other, kept) =>
      (other, if other = name then changed else kept) })

def add (store : Store) (name : String) (entry : Entry) : Except Failure History × Store :=
  store.update name (·.add entry)

def clear (store : Store) (name : String) : Except Failure History × Store := store.update name History.clear

def drop (store : Store) (name : String) : Store := { store with sessions := store.others name }

end Store

end SciCalc
