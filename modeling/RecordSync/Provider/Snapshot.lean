import RecordSync.Provider.Rows

/-!
# Snapshots of a server

A layer in front of a server that keeps a snapshot of all its rows. The first fetch takes the snapshot; from then on
the layer answers what is only read. Changes always go to the server. The two policies differ in what happens to the
snapshot after a change.
-/

set_option autoImplicit false

namespace RecordSync

inductive SnapshotPolicy where
  /-- A change drops the snapshot, so that the next fetch takes a new one. -/
  | cache
  /-- The first snapshot stays, whatever happens on the server. -/
  | offline
  deriving DecidableEq, Repr

structure Snapshot where
  policy : SnapshotPolicy
  primary : String
  rows : Option Rows

/-- The request by which a server is asked: a fetch asks for everything. -/
def Request.toServer : Request → Request
  | .fetch _ => .fetch none
  | request => request

namespace Snapshot

def answer? (s : Snapshot) : (request : Request) → Option (Outcome request.Answer)
  | .fetch params => s.rows.map fun rows => rows.select (params.getD {})
  | .get key => s.rows.map fun rows => .ok (rows.find? key)
  | .create _ => none
  | .update _ _ => none
  | .remove _ => none

/-- The rows that are kept once the server has sent its own. A snapshot for offline use that has been taken
meanwhile stays. -/
def keep (s : Snapshot) (fresh : Rows) : Rows :=
  match s.policy with
  | .cache => fresh
  | .offline => s.rows.getD fresh

def afterChange (s : Snapshot) : Snapshot :=
  match s.policy with
  | .cache => { s with rows := none }
  | .offline => s

def absorbChange {α : Type} (s : Snapshot) (outcome : Outcome α) : Snapshot :=
  match outcome with
  | .ok _ => s.afterChange
  | .error _ => s

def absorb (s : Snapshot) (ids : IdSupply) :
    (request : Request) → Outcome request.toServer.Answer → Outcome request.Answer × Snapshot × IdSupply
  | .fetch params, outcome =>
    match outcome with
    | .error e => (.error e, s, ids)
    | .ok collection =>
      let (fresh, ids) := Rows.ofEntities s.primary collection.data ids
      let rows := s.keep fresh
      (rows.select (params.getD {}), { s with rows := some rows }, ids)
  | .get _, outcome => (outcome, s, ids)
  | .create _, outcome => (outcome, s.absorbChange outcome, ids)
  | .update _ _, outcome => (outcome, s.absorbChange outcome, ids)
  | .remove _, outcome => (outcome, s.absorbChange outcome, ids)

def clear (s : Snapshot) : Snapshot := s.afterChange

end Snapshot

end RecordSync
