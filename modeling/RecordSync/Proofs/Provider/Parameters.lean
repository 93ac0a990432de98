import Mathlib.Data.List.Induction
import RecordSync.Proofs.KeyMap
import RecordSync.Provider.Rest

/-!
# Parameters of a fetch

A service takes the parts of a fetch as parameters, which share one space of names. The sort, the page and the cursor
have fixed names and the page size a configured one; the filter is one parameter or, item by item, as many as it has
fields. The filter is laid out first, so that where names meet it is the filter that gives way.
-/

set_option autoImplicit false

namespace RecordSync

theorem KeyMap.get?_ofList_reverse {α : Type} (entries : KeyMap α) (key : String) :
    get? (ofList entries) key = get? entries.reverse key := by
  induction entries using List.reverseRecOn with
  | nil => rfl
  | append_singleton entries last ih =>
    obtain ⟨name, value⟩ := last
    have grown : ofList (entries ++ [(name, value)]) = insert (ofList entries) name value := by
      rw [ofList, List.foldl_append]
      rfl
    rw [grown, get?_insert, List.reverse_append, List.reverse_singleton, List.singleton_append, get?_cons, ih]

theorem KeyMap.get?_map {α β : Type} (name : β → String) (value : β → α) (items : List β) (key : String) :
    get? (items.map fun item => (name item, value item)) key = (items.find? (name · == key)).map value := by
  induction items with
  | nil => rfl
  | cons item rest ih =>
    rw [List.map_cons, get?_cons, ih, List.find?_cons]
    by_cases same : name item = key
    · simp [same]
    · simp [same, beq_false_of_ne same]

namespace FilterGroup

def topItems (g : FilterGroup) : List FilterItem :=
  g.filters.filterMap fun
    | .item i => some i
    | .group _ _ => none

def lastValue? (g : FilterGroup) (field : String) : Option Json :=
  (g.topItems.reverse.find? fun i => Path.toDotted i.field == field).map (·.value)

end FilterGroup

theorem Rest.get?_flatFilter (filter : Option FilterGroup) (field : String) :
    KeyMap.get? (flatFilter filter) field = filter.bind (·.lastValue? field) := by
  cases filter with
  | none => rfl
  | some g =>
    have flat : flatFilter (some g) = KeyMap.ofList (g.topItems.map fun i => (Path.toDotted i.field, i.value)) := by
      rw [FilterGroup.topItems, List.map_filterMap]
      refine congrArg (fun f => KeyMap.ofList (g.filters.filterMap f)) (funext fun node => ?_)
      cases node <;> rfl
    rw [flat, KeyMap.get?_ofList_reverse, ← List.map_reverse, KeyMap.get?_map]
    rfl

inductive FetchPart where
  | sort
  | page
  | cursor
  deriving DecidableEq, Repr

namespace FetchPart

def name : FetchPart → String
  | sort => "sort"
  | page => "page"
  | cursor => "cursor"

def value? (params : FetchParams) : FetchPart → Option Json
  | sort => params.sort.map fun ds => .arr (ds.map SortDescriptor.toJson)
  | page => params.page.map .ofNat
  | cursor => params.cursor.map Cursor.toJson

def all : List FetchPart := [sort, page, cursor]

theorem mem_all (part : FetchPart) : part ∈ all := by cases part <;> decide

theorem name_ne {a b : FetchPart} (ne : a ≠ b) : a.name ≠ b.name := by
  cases a <;> cases b <;> simp [name] at ne ⊢

theorem name_ne_filter (part : FetchPart) : part.name ≠ "filter" := by cases part <;> decide

def entries (params : FetchParams) : List (String × Json) :=
  all.filterMap fun part => (part.value? params).map (part.name, ·)

theorem nodup_entries (params : FetchParams) : ((entries params).map (·.1)).Nodup := by
  have distinct : all.Nodup := by decide
  refine List.pairwise_map.2 (List.pairwise_filterMap.2 (distinct.imp fun ne first hfirst second hsecond => ?_))
  obtain ⟨_, -, rfl⟩ := Option.map_eq_some_iff.1 hfirst
  obtain ⟨_, -, rfl⟩ := Option.map_eq_some_iff.1 hsecond
  exact name_ne ne

theorem get?_entries {params : FetchParams} {part : FetchPart} {value : Json} (given : part.value? params = some value) :
    KeyMap.get? (entries params) part.name = some value := by
  have entry : (part.name, value) ∈ entries params := List.mem_filterMap.2 ⟨part, part.mem_all, by rw [given]; rfl⟩
  exact KeyMap.get?_of_mem (nodup_entries params) entry

theorem get?_entries_eq_none {params : FetchParams} {name : String}
    (free : ∀ part : FetchPart, (part.value? params).isSome → part.name ≠ name) :
    KeyMap.get? (entries params) name = none := by
  refine KeyMap.get?_eq_none fun entry listed => ?_
  obtain ⟨part, -, made⟩ := List.mem_filterMap.1 listed
  obtain ⟨value, given, rfl⟩ := Option.map_eq_some_iff.1 made
  exact free part (Option.isSome_of_eq_some given)

end FetchPart

namespace Rest

variable {settings : RestSettings} {params : FetchParams} {name : String}

def filterEntries (settings : RestSettings) (filter : Option FilterGroup) : Object :=
  match settings.paramsStyle with
  | .plain => (filter.map fun g => [("filter", g.toJson)]).getD []
  | .jsonApi => [("filter", .obj (flatFilter filter))]
  | .rootFilter => flatFilter filter

def unsized (settings : RestSettings) (params : FetchParams) : Object :=
  KeyMap.union (filterEntries settings params.filter) (FetchPart.entries params)

theorem layOut_eq (settings : RestSettings) (params : FetchParams) :
    layOut settings params = match params.pageSize with
      | some size => KeyMap.insert (unsized settings params) settings.pageSizeParam (.ofNat size)
      | none => unsized settings params := by
  obtain ⟨filter, sort, page, _ | size, cursor⟩ := params
  · cases sort <;> cases page <;> cases cursor <;> rfl
  · cases sort <;> cases page <;> cases cursor <;> rfl

def NotSize (settings : RestSettings) (params : FetchParams) (name : String) : Prop :=
  params.pageSize.isSome → name ≠ settings.pageSizeParam

theorem NotSize.get?_layOut (apart : NotSize settings params name) :
    KeyMap.get? (layOut settings params) name =
      (KeyMap.get? (FetchPart.entries params) name).or (KeyMap.get? (filterEntries settings params.filter) name) := by
  have shown : KeyMap.get? (layOut settings params) name = KeyMap.get? (unsized settings params) name := by
    rw [layOut_eq]
    cases given : params.pageSize with
    | none => rfl
    | some size => exact KeyMap.get?_insert_of_ne _ (apart (Option.isSome_of_eq_some given)) _
  rw [shown, unsized, KeyMap.union, KeyMap.get?_foldl_insert _ _ (FetchPart.nodup_entries params)]

theorem NotSize.get?_layOut_free (apart : NotSize settings params name)
    (free : ∀ part : FetchPart, (part.value? params).isSome → part.name ≠ name) :
    KeyMap.get? (layOut settings params) name = KeyMap.get? (filterEntries settings params.filter) name := by
  rw [apart.get?_layOut, FetchPart.get?_entries_eq_none free, Option.none_or]

/-- A fetch finds the page size under its configured name, and under its own name each other part whose name is not that
one, whatever fields the filter has. A filter that is laid out as a whole is such a part. A filter that is laid out among
the other parameters shows the value of the last item for each field, unless another part has the name of the field. -/
theorem layOut_retrievable (settings : RestSettings) (params : FetchParams) :
    (∀ size, params.pageSize = some size →
      KeyMap.get? (layOut settings params) settings.pageSizeParam = some (.ofNat size)) ∧
    (∀ (part : FetchPart) (value : Json), part.value? params = some value → NotSize settings params part.name →
      KeyMap.get? (layOut settings params) part.name = some value) ∧
    match settings.paramsStyle with
    | .plain => ∀ g, params.filter = some g → NotSize settings params "filter" →
        KeyMap.get? (layOut settings params) "filter" = some g.toJson
    | .jsonApi => NotSize settings params "filter" → ∃ fields,
        KeyMap.get? (layOut settings params) "filter" = some (.obj fields) ∧
          ∀ field, KeyMap.get? fields field = params.filter.bind (·.lastValue? field)
    | .rootFilter => ∀ field, NotSize settings params field →
        (∀ part : FetchPart, (part.value? params).isSome → part.name ≠ field) →
          KeyMap.get? (layOut settings params) field = params.filter.bind (·.lastValue? field) := by
  refine ⟨fun size given => ?_, fun part value given apart => ?_, ?_⟩
  · rw [layOut_eq, given]
    exact KeyMap.get?_insert_self _ _ _
  · rw [apart.get?_layOut, FetchPart.get?_entries given, Option.some_or]
  · cases style : settings.paramsStyle with
    | plain =>
      intro g given apart
      rw [apart.get?_layOut_free fun part _ => part.name_ne_filter, filterEntries, style, given]
      rfl
    | jsonApi =>
      intro apart
      refine ⟨flatFilter params.filter, ?_, get?_flatFilter params.filter⟩
      rw [apart.get?_layOut_free fun part _ => part.name_ne_filter, filterEntries, style]
      rfl
    | rootFilter =>
      intro field apart free
      rw [apart.get?_layOut_free free, filterEntries, style]
      exact get?_flatFilter params.filter field

def meetingPage : FetchParams where
  filter := some ⟨.and, [.item (.equality ["a"] (.ofNat 1)), .item (.equality ["page"] (.ofNat 7)),
    .item (.equality ["a"] (.ofNat 2))]⟩
  page := some 3
  pageSize := some 10

/-- Among the other parameters the second item on the field is found, and the page and its size are. -/
theorem layOut_retrievable_meetingPage :
    let shown := layOut { paramsStyle := .rootFilter, pageSizeParam := "per_page" } meetingPage
    KeyMap.get? shown "a" = some (.ofNat 2) ∧ KeyMap.get? shown "page" = some (.ofNat 3) ∧
      KeyMap.get? shown "per_page" = some (.ofNat 10) := by
  let settings : RestSettings := { paramsStyle := .rootFilter, pageSizeParam := "per_page" }
  obtain ⟨sized, parts, fields⟩ := layOut_retrievable settings meetingPage
  refine ⟨?_, ?_, ?_⟩
  · have free : ∀ part : FetchPart, (part.value? meetingPage).isSome → part.name ≠ "a" := by
      intro part _
      cases part <;> decide
    exact fields "a" (fun _ => by decide) free
  · exact parts .page _ rfl fun _ => by decide
  · exact sized 10 rfl

/-- With settings that pass their check, a field of the filter gives way to the page, and the page gives way to a page
size that goes by its name. -/
theorem parts_overwritten :
    (∃ s : Settings, s.check = .ok s ∧ s.rest.paramsStyle = .rootFilter ∧
      meetingPage.filter.bind (·.lastValue? "page") = some (.ofNat 7) ∧
      KeyMap.get? (layOut s.rest meetingPage) "page" ≠ some (.ofNat 7)) ∧
    ∃ s : Settings, s.check = .ok s ∧ meetingPage.page = some 3 ∧
      KeyMap.get? (layOut s.rest meetingPage) "page" ≠ some (.ofNat 3) := by
  constructor
  · refine ⟨{ rest := { paramsStyle := .rootFilter } }, rfl, rfl, rfl, ?_⟩
    have shown : KeyMap.get? (layOut { paramsStyle := .rootFilter } meetingPage) "page" = some (.ofNat 3) := rfl
    rw [shown]
    simp [Json.ofNat]
  · refine ⟨{ rest := { pageSizeParam := "page" } }, rfl, rfl, ?_⟩
    have shown : KeyMap.get? (layOut { pageSizeParam := "page" } meetingPage) "page" = some (.ofNat 10) := rfl
    rw [shown]
    simp [Json.ofNat]

end Rest

end RecordSync
