import RecordSync.Provider.Rest
import RecordSync.Provider.Snapshot

/-!
# Providers

A provider is a chain of layers that ends in rows in memory or in a web service. Besides snapshots there are recorders,
which log the requests that reach them and can make one fail.

A request can also be carried out in two halves, around the moment at which it has reached the innermost recorder:
`begin` goes down to it, and `finish` carries the request out from there and comes back with the answer. In between,
other requests may pass.
-/

set_option autoImplicit false

namespace RecordSync

structure Recorder where
  log : List Request
  failures : List (RequestKind × String)

namespace Recorder

def empty : Recorder := ⟨[], []⟩

def record (r : Recorder) (request : Request) : Recorder := { r with log := r.log ++ [request] }

/-- Makes the next request of a kind fail that has no failure waiting yet. -/
def failNext (r : Recorder) (kind : RequestKind) (reason : String) : Recorder :=
  { r with failures := r.failures ++ [(kind, reason)] }

def takeFailure (r : Recorder) (request : Request) : Option String × Recorder :=
  let waits (failure : RequestKind × String) : Bool := failure.1 == request.kind
  ((r.failures.find? waits).map (·.2), { r with failures := r.failures.eraseP waits })

end Recorder

inductive Provider where
  | rows (rows : Rows)
  | rest (service : Rest)
  | snapshot (snapshot : Snapshot) (server : Provider)
  | recorder (recorder : Recorder) (inner : Provider)

namespace Provider

def call : Provider → IdSupply → (request : Request) → Outcome request.Answer × Provider × IdSupply
  | .rows r, ids, request =>
    let (outcome, r, ids) := r.call ids request
    (outcome, .rows r, ids)
  | .rest r, ids, request =>
    let (outcome, r) := r.call request
    (outcome, .rest r, ids)
  | .snapshot s server, ids, request =>
    match s.answer? request with
    | some outcome => (outcome, .snapshot s server, ids)
    | none =>
      let (outcome, server, ids) := server.call ids request.toServer
      let (outcome, s, ids) := s.absorb ids request outcome
      (outcome, .snapshot s server, ids)
  | .recorder r inner, ids, request =>
    match (r.record request).takeFailure request with
    | (some reason, r) => (.error (.transport reason), .recorder r inner, ids)
    | (none, r) =>
      let (outcome, inner, ids) := inner.call ids request
      (outcome, .recorder r inner, ids)

def hasRecorder : Provider → Bool
  | .rows _ => false
  | .rest _ => false
  | .snapshot _ server => server.hasRecorder
  | .recorder _ _ => true

/-- The first half of a request: down to the innermost recorder. There is an answer already if the request does not
get there. -/
def begin : Provider → IdSupply → (request : Request) →
    Option (Outcome request.Answer) × Provider × IdSupply
  | .rows r, ids, _ => (none, .rows r, ids)
  | .rest r, ids, _ => (none, .rest r, ids)
  | .snapshot s server, ids, request =>
    match s.answer? request with
    | some outcome => (some outcome, .snapshot s server, ids)
    | none =>
      match server.begin ids request.toServer with
      | (none, server, ids) => (none, .snapshot s server, ids)
      | (some outcome, server, ids) =>
        let (outcome, s, ids) := s.absorb ids request outcome
        (some outcome, .snapshot s server, ids)
  | .recorder r inner, ids, request =>
    let r := r.record request
    if inner.hasRecorder then
      match r.takeFailure request with
      | (some reason, r) => (some (.error (.transport reason)), .recorder r inner, ids)
      | (none, r) =>
        let (outcome, inner, ids) := inner.begin ids request
        (outcome, .recorder r inner, ids)
    else (none, .recorder r inner, ids)

def finish : Provider → IdSupply → (request : Request) → Outcome request.Answer × Provider × IdSupply
  | .rows r, ids, request => Provider.call (.rows r) ids request
  | .rest r, ids, request => Provider.call (.rest r) ids request
  | .snapshot s server, ids, request =>
    let (outcome, server, ids) := server.finish ids request.toServer
    let (outcome, s, ids) := s.absorb ids request outcome
    (outcome, .snapshot s server, ids)
  | .recorder r inner, ids, request =>
    if inner.hasRecorder then
      let (outcome, inner, ids) := inner.finish ids request
      (outcome, .recorder r inner, ids)
    else
      match r.takeFailure request with
      | (some reason, r) => (.error (.transport reason), .recorder r inner, ids)
      | (none, r) =>
        let (outcome, inner, ids) := inner.call ids request
        (outcome, .recorder r inner, ids)

theorem hasRecorder_begin (p : Provider) (ids : IdSupply) (request : Request) :
    (p.begin ids request).2.1.hasRecorder = p.hasRecorder := by
  induction p generalizing ids request with
  | rows r => rfl
  | rest r => rfl
  | snapshot s server ih =>
    have same := ih ids request.toServer
    simp only [begin]
    split
    · rfl
    · generalize server.begin ids request.toServer = begun at same ⊢
      obtain ⟨outcome, server, ids⟩ := begun
      cases outcome <;> exact same
  | recorder r inner ih =>
    simp only [begin]
    split
    · split <;> rfl
    · rfl

theorem call_eq_halves (p : Provider) (ids : IdSupply) (request : Request) :
    p.call ids request = match p.begin ids request with
      | (some outcome, p, ids) => (outcome, p, ids)
      | (none, p, ids) => p.finish ids request := by
  induction p generalizing ids request with
  | rows r => rfl
  | rest r => rfl
  | snapshot s server ih =>
    simp only [call, begin]
    split
    · rfl
    · rw [ih]
      generalize server.begin ids request.toServer = begun
      obtain ⟨outcome, server, ids⟩ := begun
      cases outcome <;> rfl
  | recorder r inner ih =>
    simp only [call, begin]
    by_cases deeper : inner.hasRecorder = true
    · have kept := hasRecorder_begin inner ids request
      rw [if_pos deeper, ih]
      generalize (r.record request).takeFailure request = taken
      obtain ⟨failure, r⟩ := taken
      cases failure with
      | some reason => rfl
      | none =>
        generalize inner.begin ids request = begun at kept ⊢
        obtain ⟨outcome, inner, ids⟩ := begun
        cases outcome with
        | some outcome => rfl
        | none => simp only [finish, kept, deeper, if_true]
    · rw [if_neg deeper]
      simp only [finish, deeper]
      rfl

def mapRecorder (f : Recorder → Recorder) : Provider → Provider
  | .rows r => .rows r
  | .rest r => .rest r
  | .snapshot s server => .snapshot s (server.mapRecorder f)
  | .recorder r inner =>
    if inner.hasRecorder then .recorder r (inner.mapRecorder f) else .recorder (f r) inner

def recorders : Provider → List Recorder
  | .rows _ => []
  | .rest _ => []
  | .snapshot _ server => server.recorders
  | .recorder r inner => inner.recorders ++ [r]

def snapshots : Provider → List Snapshot
  | .rows _ => []
  | .rest _ => []
  | .snapshot s server => server.snapshots ++ [s]
  | .recorder _ inner => inner.snapshots

def clear : Provider → Provider
  | .rows r => .rows r
  | .rest r => .rest r
  | .snapshot s server => .snapshot s.clear server.clear
  | .recorder r inner => .recorder r inner.clear

def base : Provider → Provider
  | .snapshot _ server => server.base
  | .recorder _ inner => inner.base
  | p => p

def withBase : Provider → Provider → Provider
  | .snapshot s server, base => .snapshot s (server.withBase base)
  | .recorder r inner, base => .recorder r (inner.withBase base)
  | _, base => base

def rows? (p : Provider) : Option Rows :=
  match p.base with
  | .rows r => some r
  | _ => none

def service? (p : Provider) : Option Rest :=
  match p.base with
  | .rest r => some r
  | _ => none

def messages (p : Provider) : List HttpRequest := (p.service?.map (·.transport.sent)).getD []

end Provider

end RecordSync
