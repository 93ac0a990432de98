import Mathlib.Data.List.TakeWhile
import RecordSync.Provider.Rest

/-!
# URLs with places to fill

A URL is read from left to right, once. Up to its last pair of braces it is literal text and names by turns; what
follows is literal text, in which one brace may be opened that is never closed. So every text is read in exactly one way,
and a value that holds braces itself is not looked into.
-/

set_option autoImplicit false

namespace RecordSync

/-- A URL in its parts: texts without an opening brace and names without a closing one. -/
inductive Template where
  | literal (text : String) (unopened : '\x7b' ∉ text.toList)
  | unclosed (text tail : String) (unopened : '\x7b' ∉ text.toList) (unended : '\x7d' ∉ tail.toList)
  | place (text name : String) (unopened : '\x7b' ∉ text.toList) (unended : '\x7d' ∉ name.toList) (rest : Template)

namespace Template

def text : Template → String
  | literal text _ => text
  | unclosed text tail _ _ => text ++ "\x7b" ++ tail
  | place text name _ _ rest => text ++ "\x7b" ++ name ++ "\x7d" ++ rest.text

def first? : Template → Option (List Char × List Char × List Char)
  | literal _ _ => none
  | unclosed _ _ _ _ => none
  | place text name _ _ rest => some (text.toList, name.toList, rest.text.toList)

def names : Template → List String
  | literal _ _ => []
  | unclosed _ _ _ _ => []
  | place _ name _ _ rest => name :: rest.names

def lacking? (params : KeyMap String) (t : Template) : Option String :=
  t.names.find? fun name => (KeyMap.get? params name).isNone

def fill (params : KeyMap String) : Template → String
  | literal text _ => text
  | unclosed text tail _ _ => text ++ "\x7b" ++ tail
  | place text name _ _ rest => text ++ (KeyMap.get? params name).getD "" ++ rest.fill params

end Template

def Request.suffix : Request → String
  | .fetch _ => ""
  | .create _ => ""
  | .get key => "/" ++ key.display
  | .update key _ => "/" ++ key.display
  | .remove key => "/" ++ key.display

section Scan

variable {c : Char} {front : List Char}

theorem takeWhile_ne_append (absent : c ∉ front) (back : List Char) :
    (front ++ c :: back).takeWhile (· != c) = front := by
  have passed : ∀ d ∈ front, (d != c) = true := fun d hd => bne_iff_ne.2 (ne_of_mem_of_not_mem hd absent)
  rw [List.takeWhile_append_of_pos passed]
  simp

theorem dropWhile_ne_append (absent : c ∉ front) (back : List Char) :
    (front ++ c :: back).dropWhile (· != c) = c :: back := by
  have passed : ∀ d ∈ front, (d != c) = true := fun d hd => bne_iff_ne.2 (ne_of_mem_of_not_mem hd absent)
  rw [List.dropWhile_append_of_pos passed]
  simp

theorem dropWhile_ne_eq_nil (absent : c ∉ front) : front.dropWhile (· != c) = [] :=
  List.dropWhile_eq_nil_iff.2 fun _ hd => bne_iff_ne.2 (ne_of_mem_of_not_mem hd absent)

end Scan

namespace Rest

theorem splitPlaceholder?_literal {cs : List Char} (unopened : '\x7b' ∉ cs) : splitPlaceholder? cs = none := by
  simp [splitPlaceholder?, dropWhile_ne_eq_nil unopened]

theorem splitPlaceholder?_unclosed {before tail : List Char} (unopened : '\x7b' ∉ before) (unended : '\x7d' ∉ tail) :
    splitPlaceholder? (before ++ '\x7b' :: tail) = none := by
  simp [splitPlaceholder?, dropWhile_ne_append unopened, dropWhile_ne_eq_nil unended]

theorem splitPlaceholder?_place {before name : List Char} (unopened : '\x7b' ∉ before) (unended : '\x7d' ∉ name)
    (behind : List Char) :
    splitPlaceholder? (before ++ '\x7b' :: (name ++ '\x7d' :: behind)) = some (before, name, behind) := by
  simp [splitPlaceholder?, takeWhile_ne_append unopened, dropWhile_ne_append unopened, takeWhile_ne_append unended,
    dropWhile_ne_append unended]

theorem fillChars_none {cs : List Char} (params : KeyMap String) (whole : splitPlaceholder? cs = none) :
    fillChars params cs = .ok cs := by
  rw [fillChars]
  split
  · rfl
  · next split => cases whole.symm.trans split

theorem fillChars_some {cs before name behind : List Char} (params : KeyMap String)
    (split : splitPlaceholder? cs = some (before, name, behind)) :
    fillChars params cs = match KeyMap.get? params (.ofList name) with
      | none => .error (.missingPathParam (.ofList name))
      | some value => do return before ++ value.toList ++ (← fillChars params behind) := by
  rw [fillChars]
  split
  · next whole => cases whole.symm.trans split
  · next again =>
    cases split.symm.trans again
    rfl

end Rest

namespace Template

open Rest

theorem toList_unclosed (text tail : String) (unopened : '\x7b' ∉ text.toList) (unended : '\x7d' ∉ tail.toList) :
    (unclosed text tail unopened unended).text.toList = text.toList ++ '\x7b' :: tail.toList := by
  simp [Template.text]

theorem toList_place (text name : String) (unopened : '\x7b' ∉ text.toList) (unended : '\x7d' ∉ name.toList)
    (rest : Template) : (place text name unopened unended rest).text.toList =
      text.toList ++ '\x7b' :: (name.toList ++ '\x7d' :: rest.text.toList) := by
  simp [Template.text]

theorem splitPlaceholder?_text (t : Template) : splitPlaceholder? t.text.toList = t.first? := by
  cases t with
  | literal text unopened => exact splitPlaceholder?_literal unopened
  | unclosed text tail unopened unended =>
    rw [toList_unclosed]
    exact splitPlaceholder?_unclosed unopened unended
  | place text name unopened unended rest =>
    rw [toList_place]
    exact splitPlaceholder?_place unopened unended _

theorem exists_text_toList (cs : List Char) : ∃ t : Template, t.text.toList = cs := by
  by_cases opened : '\x7b' ∈ cs
  · obtain ⟨before, inside, rfl, unopened⟩ := List.eq_append_cons_of_mem opened
    by_cases closed : '\x7d' ∈ inside
    · obtain ⟨name, behind, rfl, unended⟩ := List.eq_append_cons_of_mem closed
      obtain ⟨rest, read⟩ := exists_text_toList behind
      refine ⟨place (.ofList before) (.ofList name) (by simpa) (by simpa) rest, ?_⟩
      simp [toList_place, read]
    · exact ⟨unclosed (.ofList before) (.ofList inside) (by simpa) (by simpa), by simp [toList_unclosed]⟩
  · exact ⟨literal (.ofList cs) (by simpa), by simp [text]⟩
  termination_by cs.length

theorem eq_of_text_eq {t u : Template} (same : t.text = u.text) : t = u := by
  have firsts : t.first? = u.first? := by
    rw [← splitPlaceholder?_text, ← splitPlaceholder?_text, same]
  have chars := congrArg String.toList same
  induction t generalizing u with
  | literal text unopened =>
    cases u with
    | literal => cases same; rfl
    | unclosed =>
      rw [toList_unclosed] at chars
      exact absurd (chars ▸ List.mem_append_right _ (.head _)) unopened
    | place => cases firsts
  | unclosed text tail unopened unended =>
    cases u with
    | literal other unopened' =>
      rw [toList_unclosed] at chars
      exact absurd (chars ▸ List.mem_append_right _ (.head _)) unopened'
    | unclosed other tail' unopened' unended' =>
      rw [toList_unclosed, toList_unclosed] at chars
      have texts := congrArg (List.takeWhile (· != '\x7b')) chars
      rw [takeWhile_ne_append unopened, takeWhile_ne_append unopened'] at texts
      obtain rfl := String.toList_injective texts
      have tails := (List.cons.inj (List.append_cancel_left chars)).2
      obtain rfl := String.toList_injective tails
      rfl
    | place => cases firsts
  | place text name unopened unended rest ih =>
    cases u with
    | literal => cases firsts
    | unclosed => cases firsts
    | place other name' unopened' unended' rest' =>
      simp only [first?, Option.some.injEq, Prod.mk.injEq] at firsts
      obtain ⟨texts, names, rests⟩ := firsts
      obtain rfl := String.toList_injective texts
      obtain rfl := String.toList_injective names
      have same := String.toList_injective rests
      have inner : rest.first? = rest'.first? := by
        rw [← splitPlaceholder?_text, ← splitPlaceholder?_text, same]
      obtain rfl := ih same inner rests
      rfl

/-- Filling the places finds the first name without a value, or puts in each value once. -/
theorem fillChars_text (params : KeyMap String) (t : Template) :
    fillChars params t.text.toList = match t.lacking? params with
      | some name => .error (.missingPathParam name)
      | none => .ok (t.fill params).toList := by
  have split := splitPlaceholder?_text t
  induction t with
  | literal => exact fillChars_none params split
  | unclosed => exact fillChars_none params split
  | place text name unopened unended rest ih =>
    rw [fillChars_some params split, String.ofList_toList]
    cases found : KeyMap.get? params name with
    | none => simp [lacking?, names, found]
    | some value =>
      have later : (place text name unopened unended rest).lacking? params = rest.lacking? params := by
        simp [lacking?, names, found]
      rw [later]
      dsimp only
      rw [ih (splitPlaceholder?_text rest)]
      cases rest.lacking? params with
      | some name => rfl
      | none => simp [fill, found, bind, Except.bind, pure, Except.pure]

end Template

namespace Rest

variable {r : Rest} {t : Template} {name : String}

theorem collectionUrl_of_lacking (written : t.text = r.url) (lacking : t.lacking? r.pathParams = some name) :
    r.collectionUrl = .error (.missingPathParam name) := by
  rw [collectionUrl, ← written, t.fillChars_text, lacking]
  rfl

theorem collectionUrl_of_filled (written : t.text = r.url) (filled : t.lacking? r.pathParams = none) :
    r.collectionUrl = .ok (t.fill r.pathParams) := by
  rw [collectionUrl, ← written, t.fillChars_text, filled]
  exact congrArg Except.ok String.ofList_toList

theorem entityUrl_eq (r : Rest) (key : PrimaryKey) :
    r.entityUrl key = r.collectionUrl.map fun url => url ++ ("/" ++ key.display) := by
  rw [entityUrl]
  cases r.collectionUrl with
  | error e => rfl
  | ok url => exact congrArg Except.ok String.append_assoc

/-- Every request is an exchange for one message, to the URL of the collection or of an entity. -/
theorem call_exchanges (r : Rest) (request : Request) : ∃ (message : String → HttpRequest)
    (read : Outcome HttpResponse → Outcome request.Answer),
      r.call request = r.exchange (r.collectionUrl.map message) read ∧
        ∀ url, (message url).url = url ++ request.suffix := by
  have along {α : Type} (message : String → HttpRequest) (key : PrimaryKey) (read : Outcome HttpResponse → Outcome α) :
      r.exchange ((r.entityUrl key).map message) read =
        r.exchange (r.collectionUrl.map fun url => message (url ++ ("/" ++ key.display))) read := by
    rw [entityUrl_eq]
    cases r.collectionUrl <;> rfl
  cases request with
  | fetch params =>
    rw [call]
    exact ⟨_, _, rfl, fun url => String.append_empty.symm⟩
  | create entity =>
    rw [call]
    exact ⟨_, _, rfl, fun url => String.append_empty.symm⟩
  | get key =>
    rw [call, along]
    exact ⟨_, _, rfl, fun url => rfl⟩
  | update key changes =>
    rw [call, along]
    exact ⟨_, _, rfl, fun url => rfl⟩
  | remove key =>
    rw [call, along]
    exact ⟨_, _, rfl, fun url => rfl⟩

/-- A URL is read as one template and no other. If one of its places has no value, every request fails for the first
such place and nothing is sent. Otherwise every request sends one message, to the URL with the values in its places as
they are, and the key behind it if the request is about one entity. -/
theorem call_fills_template (r : Rest) : (∃! t : Template, t.text = r.url) ∧
    ∀ t : Template, t.text = r.url → ∀ request : Request,
      (∀ name, t.lacking? r.pathParams = some name → r.call request = (.error (.missingPathParam name), r)) ∧
      (t.lacking? r.pathParams = none → ∃ message : HttpRequest,
        message.url = t.fill r.pathParams ++ request.suffix ∧
          (r.call request).2 = { r with transport := { r.transport with sent := r.transport.sent ++ [message] } }) := by
  constructor
  · obtain ⟨t, read⟩ := Template.exists_text_toList r.url.toList
    have written : t.text = r.url := String.toList_injective read
    exact ⟨t, written, fun u also => Template.eq_of_text_eq (also.trans written.symm)⟩
  · intro t written request
    obtain ⟨message, read, exchanged, url⟩ := r.call_exchanges request
    constructor
    · intro name lacking
      rw [exchanged, collectionUrl_of_lacking written lacking]
      rfl
    · intro filled
      rw [exchanged, collectionUrl_of_filled written filled]
      exact ⟨message (t.fill r.pathParams), url _, rfl⟩

def bracesUrl : Template :=
  .place "/" "user" (by decide) (by decide)
    (.place "/\x7d" "a\x7bb" (by decide) (by decide) (.unclosed "/" "x" (by decide) (by decide)))

def answersAlike : Transport where
  sent := []
  respond := fun _ => .ok ⟨200, .obj []⟩

/-- With both values in it the URL is complete, though the values hold names in braces; with the first alone the second
name is missed. -/
theorem call_fills_template_of_braces :
    let filled : Rest := ⟨"/\x7buser\x7d/\x7d\x7ba\x7bb\x7d/\x7bx", {},
      [("a\x7bb", "\x7buser\x7d"), ("user", "\x7ba\x7bb\x7d")], answersAlike⟩
    let lacking : Rest := { filled with pathParams := [("user", "\x7ba\x7bb\x7d")] }
    (∃ message : HttpRequest, message.url = "/\x7ba\x7bb\x7d/\x7d\x7buser\x7d/\x7bx/7" ∧
      (filled.call (.get (.number 7))).2 = { filled with transport := { answersAlike with sent := [message] } }) ∧
    ∀ request, lacking.call request = (.error (.missingPathParam "a\x7bb"), lacking) := by
  intro filled lacking
  have written : bracesUrl.text = filled.url := by decide
  have none : bracesUrl.lacking? filled.pathParams = none := by decide
  have some : bracesUrl.lacking? lacking.pathParams = some "a\x7bb" := by decide
  obtain ⟨message, url, sent⟩ := (filled.call_fills_template.2 bracesUrl written (.get (.number 7))).2 none
  constructor
  · exact ⟨message, url, sent⟩
  · intro request
    exact (lacking.call_fills_template.2 bracesUrl written request).1 _ some

end Rest

end RecordSync
