import RecordSync.Provider.Chain

/-!
# Commands to providers

What is done to a provider as values, so that a history of a provider is a list.
-/

set_option autoImplicit false

namespace RecordSync

inductive ProviderCommand where
  | request (request : Request)
  | clear

structure Served where
  request : Request
  outcome : Outcome request.Answer

namespace ProviderCommand

def isRequest : ProviderCommand → Bool
  | .request _ => true
  | .clear => false

end ProviderCommand

namespace Provider

def perform (p : Provider) (ids : IdSupply) : ProviderCommand → Option Served × Provider × IdSupply
  | .request request =>
    let (outcome, p, ids) := p.call ids request
    (some ⟨request, outcome⟩, p, ids)
  | .clear => (none, p.clear, ids)

def performAll (p : Provider) (ids : IdSupply) : List ProviderCommand → List Served × Provider × IdSupply
  | [] => ([], p, ids)
  | command :: commands =>
    let (served, p, ids) := p.perform ids command
    let (later, p, ids) := p.performAll ids commands
    (served.toList ++ later, p, ids)

theorem performAll_request {p q : Provider} {ids ids' : IdSupply} {request : Request}
    {outcome : Outcome request.Answer} (called : p.call ids request = (outcome, q, ids'))
    (commands : List ProviderCommand) :
    p.performAll ids (.request request :: commands) =
      let (later, r, ids'') := q.performAll ids' commands
      (⟨request, outcome⟩ :: later, r, ids'') := by
  rw [performAll, perform, called]
  rfl

theorem performAll_append (p : Provider) (ids : IdSupply) (commands later : List ProviderCommand) :
    p.performAll ids (commands ++ later) =
      let (served, q, ids') := p.performAll ids commands
      let (answers, r, ids'') := q.performAll ids' later
      (served ++ answers, r, ids'') := by
  induction commands generalizing p ids with
  | nil => rfl
  | cons command commands ih =>
    rw [List.cons_append, performAll, performAll]
    dsimp only
    rw [ih]
    dsimp only
    rw [List.append_assoc]

end Provider

end RecordSync
