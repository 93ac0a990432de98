import RecordSync.Provider.Command

/-!
# Requests that overlap

Any number of requests can be under way through a snapshot at a time. One that the layer cannot answer is sent to the
server, which carries it out later, and the answer comes back later still. In between, other requests pass, and others
may change the server. Every event takes place at a moment of its own.
-/

set_option autoImplicit false

namespace RecordSync

structure Passage where
  request : Request
  asked : Nat
  carried : Option (Nat × Outcome request.toServer.Answer)

structure Reply where
  served : Served
  asked : Nat
  /-- When the server did what the answer tells of: it carried out the request, or read the snapshot that the answer
  was taken from. -/
  carried : Nat
  answered : Nat

inductive TrafficEvent where
  | ask (request : Request)
  | carry (place : Nat)
  | answer (place : Nat)
  | clear
  | change (server : Provider)

def Request.brings : (request : Request) → Outcome request.toServer.Answer → Bool
  | .fetch _, .ok _ => true
  | _, _ => false

def Snapshot.keepsOwn (s : Snapshot) : Bool := s.policy == .offline && s.rows.isSome

structure Traffic where
  layer : Snapshot
  server : Provider
  ids : IdSupply
  now : Nat
  taken : Nat
  sent : List Request
  underWay : List Passage
  journal : List (Nat × Served)
  replies : List Reply

namespace Traffic

def start (layer : Snapshot) (server : Provider) (ids : IdSupply) : Traffic :=
  { layer, server, ids, now := 0, taken := 0, sent := [], underWay := [], journal := [], replies := [] }

def ask (t : Traffic) (request : Request) : Traffic :=
  match t.layer.answer? request with
  | some outcome => { t with replies := t.replies ++ [⟨⟨request, outcome⟩, t.now, t.taken, t.now⟩] }
  | none => { t with sent := t.sent ++ [request], underWay := t.underWay ++ [⟨request, t.now, none⟩] }

def carry (t : Traffic) (place : Nat) : Traffic :=
  match t.underWay[place]? with
  | some ⟨request, asked, none⟩ =>
    let (outcome, server, ids) := t.server.call t.ids request.toServer
    { t with
      server, ids
      underWay := t.underWay.set place ⟨request, asked, some (t.now, outcome)⟩
      journal := t.journal ++ [(t.now, ⟨request.toServer, outcome⟩)] }
  | _ => t

/-- When the server did what a request is told of whose own answer is back. -/
def origin (t : Traffic) (request : Request) (carried : Nat) (outcome : Outcome request.toServer.Answer) : Nat :=
  if request.brings outcome && t.layer.keepsOwn then t.taken else carried

def answer (t : Traffic) (place : Nat) : Traffic :=
  match t.underWay[place]? with
  | some ⟨request, asked, some (carried, outcome)⟩ =>
    let origin := t.origin request carried outcome
    let (reply, layer, ids) := t.layer.absorb t.ids request outcome
    { t with
      layer, ids
      taken := if request.brings outcome then origin else t.taken
      underWay := t.underWay.eraseIdx place
      replies := t.replies ++ [⟨⟨request, reply⟩, asked, origin, t.now⟩] }
  | _ => t

def step (t : Traffic) (event : TrafficEvent) : Traffic :=
  let t := match event with
    | .ask request => t.ask request
    | .carry place => t.carry place
    | .answer place => t.answer place
    | .clear => { t with layer := t.layer.clear }
    | .change server => { t with server }
  { t with now := t.now + 1 }

def after (t : Traffic) (events : List TrafficEvent) : Traffic := events.foldl step t

end Traffic

end RecordSync
