import RecordSync.Provider.Chain
import RecordSync.Source.Query
import RecordSync.Source.Sync

/-!
# Sources at work

A session is a source together with its provider. Fetches and syncs are operations that call the provider. Each runs to its
end at once, unless the session has been told to stop inside one of the calls to come: then one operation is suspended
in its call, others can run in the meantime, and the session resumes when it is released. Syncs never overlap: one that
starts while another is suspended waits for it, in the order of starting.
-/

set_option autoImplicit false

namespace RecordSync

inductive Owner where
  /-- Nobody: the operation was scheduled. Its failure is kept for the next settling. -/
  | background
  | caller
  | joiner
  deriving DecidableEq, Repr

/-- The outcome of an operation: the models that were fetched, and none for a sync. -/
abbrev Completion := Except SourceError (List ModelId)

inductive Suspended where
  | sync (owner : Owner) (call : SyncCall) (rest : List SyncTask)
  /-- A fetch can be joined as long as no other one has been started. -/
  | fetch (owner : Owner) (params : FetchParams) (isLatest : Bool) (joiners : List Owner)

structure Session where
  source : Source
  provider : Provider
  ids : IdSupply
  /-- The number of the call to stop in, counted from one; zero if there is none. -/
  stopAt : Nat
  suspended : Option Suspended
  waiting : List Owner
  failed : Option SourceError
  outcomes : List (Owner × Completion)

namespace Session

def start (source : Source) (provider : Provider) (ids : IdSupply) : Session :=
  { source, provider, ids, stopAt := 0, suspended := none, waiting := [], failed := none, outcomes := [] }

def isFetching (s : Session) : Bool :=
  match s.suspended with
  | some (.fetch ..) => true
  | _ => false

def isSyncing (s : Session) : Bool :=
  match s.suspended with
  | some (.sync ..) => true
  | _ => false

def complete (s : Session) (owner : Owner) (outcome : Completion) : Session :=
  match owner, outcome with
  | .background, .error e => { s with failed := s.failed.or (some e) }
  | .background, .ok _ => s
  | owner, outcome => { s with outcomes := s.outcomes ++ [(owner, outcome)] }

def pickUp (s : Session) (owner : Owner) : Option Completion × Session :=
  (s.outcomes.lookup owner, { s with outcomes := s.outcomes.filter fun entry => entry.1 != owner })

/-- Calls the provider, unless the call is the one to stop in. -/
def call (s : Session) (request : Request) : Option (Outcome request.Answer) × Session :=
  match s.provider.begin s.ids request with
  | (some outcome, provider, ids) => (some outcome, { s with provider, ids })
  | (none, provider, ids) =>
    if provider.hasRecorder && s.stopAt == 1 then (none, { s with provider, ids, stopAt := 0 })
    else
      let (outcome, provider, ids) := provider.finish ids request
      (some outcome, { s with provider, ids, stopAt := s.stopAt - 1 })

def finishCall (s : Session) (request : Request) : Outcome request.Answer × Session :=
  let (outcome, provider, ids) := s.provider.finish s.ids request
  (outcome, { s with provider, ids })

def runSync (s : Session) (owner : Owner) (tasks : List SyncTask) : Session :=
  match _h : s.source.syncNext tasks with
  | .finished source => { s with source }.complete owner (.ok [])
  | .failed e source => { s with source }.complete owner (.error e)
  | .call call rest source =>
    match { s with source }.call call.request with
    | (none, s) => { s with suspended := some (.sync owner call rest) }
    | (some (.error e), s) => s.complete owner (.error (.provider e))
    | (some (.ok answer), s) => { s with source := s.source.accept call answer }.runSync owner rest
  termination_by tasks.length
  decreasing_by exact Source.syncNext_rest_lt ‹_›

def startSync (s : Session) (owner : Owner) : Session :=
  if s.isSyncing then { s with waiting := s.waiting ++ [owner] } else s.runSync owner s.source.syncTasks

def startWaiting (s : Session) : Session :=
  s.waiting.foldl startSync { s with waiting := [] }

def startScheduled (s : Session) : Session :=
  (List.replicate s.source.scheduled Owner.background).foldl startSync
    { s with source := { s.source with scheduled := 0 } }

def receive (s : Session) (owners : List Owner) (outcome : Outcome Collection) : Session :=
  let (completion, source) : Completion × Source := match outcome with
    | .error e => (.error (.provider e), s.source)
    | .ok collection =>
      match s.source.load collection with
      | .error e => (.error e, s.source)
      | .ok (ids, source) => (.ok ids, source)
  owners.foldl (fun s owner => s.complete owner completion) { s with source }

def supersede : Suspended → Suspended
  | .fetch owner params _ joiners => .fetch owner params false joiners
  | other => other

def startFetch (s : Session) (owner : Owner) : Session :=
  let s := { s with suspended := s.suspended.map supersede }
  let params := s.source.fetchParams
  match s.call (.fetch (some params)) with
  | (none, s) => { s with suspended := some (.fetch owner params true []) }
  | (some outcome, s) => s.receive [owner] outcome

/-- Joins the latest fetch if it has no answer yet, and otherwise starts one. -/
def startFetchInit (s : Session) (owner : Owner) : Session :=
  match s.suspended with
  | some (.fetch first params true joiners) =>
    { s with suspended := some (.fetch first params true (joiners ++ [owner])) }
  | _ => s.startFetch owner

inductive Operation where
  | sync
  | fetch
  | fetchInit
  deriving DecidableEq, Repr

def startOperation (s : Session) (operation : Operation) (owner : Owner) : Session :=
  match operation with
  | .sync => s.startSync owner
  | .fetch => s.startFetch owner
  | .fetchInit => s.startFetchInit owner

def run (s : Session) (operation : Operation) : Option Completion × Session :=
  (s.startOperation operation .caller).pickUp .caller

def settle (s : Session) : Option SourceError × Session :=
  let s := s.startScheduled
  (s.failed, { s with failed := none })

def hold (s : Session) (operation : Operation) (stopAt : Nat) : Session :=
  let s := { s with stopAt }.startScheduled.startOperation operation .caller
  { s with stopAt := 0 }

def join (s : Session) (operation : Operation) : Session := s.startScheduled.startOperation operation .joiner

def release (s : Session) : Session :=
  match s.suspended with
  | none => s
  | some (.sync owner call rest) =>
    let (outcome, s) := { s with suspended := none }.finishCall call.request
    let s := match outcome with
      | .error e => s.complete owner (.error (.provider e))
      | .ok answer => { s with source := s.source.accept call answer }.runSync owner rest
    s.startWaiting
  | some (.fetch owner params _ joiners) =>
    let (outcome, s) := { s with suspended := none }.finishCall (.fetch (some params))
    (s.receive (owner :: joiners) outcome).startWaiting

end Session

end RecordSync
