import RecordSync.Source.Session

/-!
# Fetches that overlap

Any number of fetches can be under way at a time, and their answers come back in any order. A fetch always asks the
provider. A fetch that makes do with another one waits for the fetch that was started last, if that one has no answer
yet. Whoever waits for a fetch gets its outcome. Fetches, and the calls that wait for them, are numbered from zero.
-/

set_option autoImplicit false

namespace RecordSync

structure Flight where
  number : Nat
  calls : List Nat

structure Delivery where
  call : Nat
  number : Nat
  outcome : Completion

inductive FetchEvent where
  | fetch
  | fetchInit
  | answer (place : Nat) (outcome : Outcome Collection)
  | change (source : Source)

def Source.receive (s : Source) (outcome : RecordSync.Outcome Collection) : Completion × Source :=
  match outcome with
  | .error e => (.error (.provider e), s)
  | .ok collection =>
    match s.load collection with
    | .error e => (.error e, s)
    | .ok (ids, source) => (.ok ids, source)

structure Fetching where
  source : Source
  calls : Nat
  requests : List FetchParams
  last : Option Nat
  underWay : List Flight
  deliveries : List Delivery

namespace Fetching

def start (source : Source) : Fetching :=
  { source, calls := 0, requests := [], last := none, underWay := [], deliveries := [] }

def fetch (f : Fetching) : Fetching :=
  { f with
    calls := f.calls + 1
    requests := f.requests ++ [f.source.fetchParams]
    last := some f.requests.length
    underWay := f.underWay ++ [⟨f.requests.length, [f.calls]⟩] }

def isLast (f : Fetching) (flight : Flight) : Bool := f.last == some flight.number

def join (f : Fetching) : Fetching :=
  { f with
    calls := f.calls + 1
    underWay := f.underWay.map fun flight =>
      if f.isLast flight then { flight with calls := flight.calls ++ [f.calls] } else flight }

def fetchInit (f : Fetching) : Fetching := if f.underWay.any f.isLast then f.join else f.fetch

def answer (f : Fetching) (place : Nat) (outcome : Outcome Collection) : Fetching :=
  match f.underWay[place]? with
  | none => f
  | some flight =>
    let (outcome, source) := f.source.receive outcome
    { f with
      source
      underWay := f.underWay.eraseIdx place
      deliveries := f.deliveries ++ flight.calls.map fun call => ⟨call, flight.number, outcome⟩ }

def step (f : Fetching) : FetchEvent → Fetching
  | .fetch => f.fetch
  | .fetchInit => f.fetchInit
  | .answer place outcome => f.answer place outcome
  | .change source => { f with source }

def after (f : Fetching) (events : List FetchEvent) : Fetching := events.foldl step f

end Fetching

end RecordSync
