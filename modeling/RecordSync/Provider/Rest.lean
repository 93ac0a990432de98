import RecordSync.Provider.Basic
import RecordSync.Settings.Basic

/-!
# Web services

A provider that speaks plain REST: a collection lies at a URL, and each of its entities below it. The messages
are built and read here; what carries them is a transport, a function of what has been sent so far.
-/

set_option autoImplicit false

namespace RecordSync

inductive HttpMethod where
  | get
  | post
  | patch
  | delete
  deriving DecidableEq, Repr

def HttpMethod.name : HttpMethod → String
  | .get => "GET"
  | .post => "POST"
  | .patch => "PATCH"
  | .delete => "DELETE"

structure HttpRequest where
  method : HttpMethod
  url : String
  query : List (String × String) := []
  body : Option Json := none

structure HttpResponse where
  status : Nat
  body : Json

def HttpResponse.isSuccess (r : HttpResponse) : Bool := 200 ≤ r.status && r.status < 300

/-- What carries messages. An answer may depend on all messages sent up to its own. -/
structure Transport where
  sent : List HttpRequest
  respond : List HttpRequest → Outcome HttpResponse

def Transport.send (t : Transport) (request : HttpRequest) : Outcome HttpResponse × Transport :=
  let sent := t.sent ++ [request]
  (t.respond sent, { t with sent })

structure Rest where
  url : String
  settings : RestSettings
  pathParams : KeyMap String
  transport : Transport

namespace Rest

/-- The text up to an opening brace, the name in the braces, and the text behind them; `none` when no pair of
braces is left. -/
def splitPlaceholder? (cs : List Char) : Option (List Char × List Char × List Char) :=
  let before := cs.takeWhile (· != '\x7b')
  let rest := cs.dropWhile (· != '\x7b')
  let name := (rest.drop 1).takeWhile (· != '\x7d')
  match (rest.drop 1).dropWhile (· != '\x7d') with
  | [] => none
  | _ :: behind => some (before, name, behind)

theorem splitPlaceholder?_length {cs before name behind : List Char}
    (h : splitPlaceholder? cs = some (before, name, behind)) : behind.length < cs.length := by
  unfold splitPlaceholder? at h
  have afterDrop := (List.dropWhile_suffix (l := cs) (· != '\x7b')).length_le
  have afterName := (List.dropWhile_suffix
    (l := (cs.dropWhile (· != '\x7b')).drop 1) (· != '\x7d')).length_le
  simp only at h
  split at h
  · contradiction
  · next _ rest eq =>
    simp only [Option.some.injEq, Prod.mk.injEq] at h
    obtain ⟨-, -, rfl⟩ := h
    rw [eq, List.length_cons, List.length_drop] at afterName
    omega

def fillChars (params : KeyMap String) (cs : List Char) : Outcome (List Char) :=
  match _h : splitPlaceholder? cs with
  | none => .ok cs
  | some (before, name, behind) =>
    match KeyMap.get? params (String.ofList name) with
    | none => .error (.missingPathParam (String.ofList name))
    | some value => do return before ++ value.toList ++ (← fillChars params behind)
  termination_by cs.length
  decreasing_by exact splitPlaceholder?_length ‹_›

def collectionUrl (r : Rest) : Outcome String := do
  return String.ofList (← fillChars r.pathParams r.url.toList)

def entityUrl (r : Rest) (key : PrimaryKey) : Outcome String := do
  return (← r.collectionUrl) ++ "/" ++ key.display

def flatFilter (filter : Option FilterGroup) : Object :=
  KeyMap.ofList (((filter.map FilterGroup.filters).getD []).filterMap fun
    | .item i => some (Path.toDotted i.field, i.value)
    | .group _ _ => none)

def layOut (settings : RestSettings) (params : FetchParams) : Object :=
  let filter : Object := match settings.paramsStyle with
    | .plain => (params.filter.map fun g => [("filter", g.toJson)]).getD []
    | .jsonApi => [("filter", .obj (flatFilter params.filter))]
    | .rootFilter => flatFilter params.filter
  let others : List (String × Option Json) :=
    [("sort", params.sort.map fun ds => .arr (ds.map SortDescriptor.toJson)),
      ("page", params.page.map .ofNat), ("cursor", params.cursor.map Cursor.toJson),
      (settings.pageSizeParam, params.pageSize.map .ofNat)]
  KeyMap.union filter (others.filterMap fun (name, value) => value.map (name, ·))

/-- Parameters as texts: texts as they are, anything else as JSON. Nulls are left out. -/
def queryPairs (params : Object) : List (String × String) :=
  params.filterMap fun (name, value) =>
    match value with
    | .null => none
    | .str s => some (name, s)
    | other => some (name, other.text)

def send (r : Rest) (request : HttpRequest) : Outcome HttpResponse × Rest :=
  let (answer, transport) := r.transport.send request
  let outcome := match answer with
    | .error e => .error e
    | .ok response =>
      if response.isSuccess then .ok response else .error (.http response.status response.body)
  (outcome, { r with transport })

def unwrap (envelope : Option String) (body : Json) : Outcome Json :=
  match envelope with
  | none => .ok body
  | some name =>
    match body with
    | .obj fields =>
      match KeyMap.get? fields name with
      | some content => .ok content
      | none => .error (.missingEnvelope name)
    | other => .error (.unwrapped name other)

def readEntity (r : Rest) (body : Json) : Outcome Entity := do
  Entity.ofJson (← unwrap r.settings.entityEnvelope body)

def readCollection (r : Rest) (body : Json) : Outcome Collection := do
  Collection.ofJson (← unwrap r.settings.collectionEnvelope body)

def readFound (r : Rest) : Outcome HttpResponse → Outcome (Option Entity)
  | .ok response => if response.body.isNull then .ok none else (r.readEntity response.body).map some
  | .error (.http status body) => if status = 404 then .ok none else .error (.http status body)
  | .error e => .error e

def exchange {α : Type} (r : Rest) (request : Outcome HttpRequest)
    (read : Outcome HttpResponse → Outcome α) : Outcome α × Rest :=
  match request with
  | .error e => (.error e, r)
  | .ok request =>
    let (answer, r) := r.send request
    (read answer, r)

def call (r : Rest) : (request : Request) → Outcome request.Answer × Rest
  | .fetch params =>
    let query := (params.map fun p => queryPairs (layOut r.settings p)).getD []
    r.exchange (r.collectionUrl.map fun url => { method := .get, url, query })
      fun answer => do r.readCollection (← answer).body
  | .get key => r.exchange ((r.entityUrl key).map fun url => { method := .get, url }) r.readFound
  | .create entity =>
    r.exchange (r.collectionUrl.map fun url => { method := .post, url, body := some (.obj entity) })
      fun answer => do r.readEntity (← answer).body
  | .update key changes =>
    r.exchange ((r.entityUrl key).map fun url => { method := .patch, url, body := some (.obj changes) })
      fun answer => do r.readEntity (← answer).body
  | .remove key =>
    r.exchange ((r.entityUrl key).map fun url => { method := .delete, url })
      fun answer => do let _ ← answer; return ()

end Rest

end RecordSync
