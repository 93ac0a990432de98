import RecordSync.Proofs.Query.Aggregates

/-!
# Greatest and least values

Numbers and timestamps stand on one scale: numbers by their value as doubles, timestamps by their instant in milliseconds.
The greatest value of a field is the first one that no other one exceeds, and the least value the first one that no other
one is below, whatever values that stand nowhere lie before, between and after them.
-/

set_option autoImplicit false

namespace RecordSync

namespace Json

def position? : Json → Option Double
  | .num n => some n.toDouble
  | .str s => (parseInstant? s).map .ofInt
  | _ => none

def isPositioned (j : Json) : Bool := j.position?.isSome

def isBelow (a b : Json) : Bool := a.position?.any fun x => b.position?.any x.less

variable {a b c : Json} {x y : Double}

theorem ne_nan_of_position? (h : a.position? = some x) : x ≠ .nan := by
  cases a with
  | num n =>
    cases h
    cases n with
    | int n => exact Double.ofInt_ne_nan n
    | double x => exact Double.noConfusion
  | str s =>
    obtain ⟨millis, -, rfl⟩ := Option.map_eq_some_iff.1 h
    exact Double.ofInt_ne_nan millis
  | _ => cases h

theorem isBelow_eq (ha : a.position? = some x) (hb : b.position? = some y) : a.isBelow b = x.less y := by
  rw [isBelow, ha, hb]
  rfl

theorem isBelow_asymm (h : a.isBelow b = true) : b.isBelow a = false := by
  obtain ⟨x, ha, h⟩ := (Option.any_eq_true _ _).1 h
  obtain ⟨y, hb, h⟩ := (Option.any_eq_true _ _).1 h
  rw [Double.less, beq_iff_eq] at h
  rw [isBelow_eq hb ha, Double.less_eq_false, h]
  simp

/-- A value between two others that is not above the one and not below the other keeps them apart. -/
theorem isBelow_cotrans (ha : a.isPositioned = true) (hb : b.isPositioned = true) (hc : c.isPositioned = true)
    (ab : a.isBelow b = false) (bc : b.isBelow c = false) : a.isBelow c = false := by
  obtain ⟨x, ha⟩ := Option.isSome_iff_exists.1 ha
  obtain ⟨y, hb⟩ := Option.isSome_iff_exists.1 hb
  obtain ⟨z, hc⟩ := Option.isSome_iff_exists.1 hc
  rw [isBelow_eq ha hb, Double.less_eq_false] at ab
  rw [isBelow_eq hb hc, Double.less_eq_false] at bc
  rw [isBelow_eq ha hc, Double.less_eq_false]
  exact Double.compare?_trans (ne_nan_of_position? hb) bc ab

end Json

def foremost? {α : Type} (beaten : α → α → Bool) (values : List α) : Option α :=
  values.find? fun v => values.all fun w => !beaten v w

/-- Being beaten puts the ranked values in an order in which some may be tied. -/
structure Ranks {α : Type} (beaten : α → α → Bool) (ranked : α → Bool) : Prop where
  asymm : ∀ a b, beaten a b = true → beaten b a = false
  cotrans : ∀ a b c, ranked a = true → ranked b = true → ranked c = true →
    beaten a b = false → beaten b c = false → beaten a c = false

section Foremost

variable {α : Type} {beaten : α → α → Bool} {ranked : α → Bool} {seen : List α} {v w : α}

theorem Ranks.irrefl (ranks : Ranks beaten ranked) (v : α) : beaten v v = false := by
  by_contra beats
  rw [Bool.not_eq_false] at beats
  simp [ranks.asymm v v beats] at beats

theorem mem_of_foremost? (found : foremost? beaten seen = some v) : v ∈ seen := List.mem_of_find?_eq_some found

theorem not_beaten_of_foremost? (found : foremost? beaten seen = some v) : ∀ u ∈ seen, beaten v u = false := by
  have best := List.find?_some found
  simpa using best

theorem foremost?_single (ranks : Ranks beaten ranked) (v : α) : foremost? beaten [v] = some v := by
  simp [foremost?, ranks.irrefl v]

theorem foremost?_concat_of_not_beaten (found : foremost? beaten seen = some v) (stays : beaten v w = false) :
    foremost? beaten (seen ++ [w]) = some v := by
  obtain ⟨best, before, after, split, earlier⟩ := List.find?_eq_some_iff_append.1 found
  have still : seen.find? (fun u => (seen ++ [w]).all fun t => !beaten u t) = some v := by
    rw [List.find?_eq_some_iff_append]
    refine ⟨?_, before, after, split, fun u hu => ?_⟩
    · rw [List.all_append, best]
      simp [stays]
    · rw [List.all_append]
      simp [earlier u hu]
  rw [foremost?, List.find?_append, still, Option.some_or]

/-- A value that beats the foremost one beats all, since none of them is further than that one. -/
theorem foremost?_concat_of_beaten (ranks : Ranks beaten ranked) (known : ∀ u ∈ seen, ranked u = true)
    (new : ranked w = true) (found : foremost? beaten seen = some v) (beats : beaten v w = true) :
    foremost? beaten (seen ++ [w]) = some w := by
  have below : ∀ u ∈ seen, beaten u w = true := by
    intro u hu
    by_contra above
    rw [Bool.not_eq_true] at above
    have passed := ranks.cotrans v u w (known v (mem_of_foremost? found)) (known u hu) new
      (not_beaten_of_foremost? found u hu) above
    simp [passed] at beats
  have overtaken : seen.find? (fun u => (seen ++ [w]).all fun t => !beaten u t) = none := by
    rw [List.find?_eq_none]
    intro u hu
    simp [below u hu]
  have unbeaten : ∀ u ∈ seen, beaten w u = false := fun u hu => ranks.asymm u w (below u hu)
  rw [foremost?, List.find?_append, overtaken, Option.none_or]
  simpa [ranks.irrefl w] using unbeaten

end Foremost

def positionedAt (p : Path) (rows : List Lookup) : List Json :=
  rows.filterMap fun row => (row p).filter Json.isPositioned

def greatest? (values : List Json) : Option Json := foremost? Json.isBelow values

def least? (values : List Json) : Option Json := foremost? (fun v w => w.isBelow v) values

namespace Accumulator

theorem isComparable_eq (value : Option Json) : isComparable value = value.any Json.isPositioned := by
  unfold isComparable
  congr 1
  funext j
  cases j with
  | str s => simp [Json.isNumber, Json.isDate, Json.isPositioned, Json.position?]
  | _ => rfl

theorem number?_of_position? {j : Json} {x : Double} (h : j.position? = some x) :
    (Scalar.of (some j) false).number? = some x ∧ ∀ s, Scalar.of (some j) false ≠ .text s := by
  cases j with
  | num n =>
    cases h
    exact ⟨rfl, fun _ => Scalar.noConfusion⟩
  | str s =>
    obtain ⟨millis, read, rfl⟩ := Option.map_eq_some_iff.1 h
    have date : Scalar.of (some (.str s)) false = .date millis := by
      rw [Scalar.of, Scalar.ofText, read]
    rw [date]
    exact ⟨rfl, fun _ => Scalar.noConfusion⟩
  | _ => cases h

theorem less_eq_isBelow {v w : Json} (hv : v.isPositioned = true) (hw : w.isPositioned = true) :
    less (some v) (some w) = v.isBelow w := by
  obtain ⟨x, hv⟩ := Option.isSome_iff_exists.1 hv
  obtain ⟨y, hw⟩ := Option.isSome_iff_exists.1 hw
  obtain ⟨number, notText⟩ := number?_of_position? hv
  rw [less, Scalar.compare?_of_not_texts fun s _ texts => notText s texts.1, number, (number?_of_position? hw).1,
    Json.isBelow_eq hv hw]
  rfl

/-- The value that is kept after some positioned values have been seen: the foremost of them, or none that has a position
as long as there are none. -/
inductive Leads (beaten : Json → Json → Bool) : List Json → Option Json → Prop where
  | waiting {value : Option Json} (other : isComparable value = false) : Leads beaten [] value
  | foremost {seen : List Json} {v : Json} (found : foremost? beaten seen = some v) : Leads beaten seen (some v)

structure Contest (further : Option Json → Option Json → Bool) (beaten : Json → Json → Bool) : Prop where
  irrefl : ∀ v, further v v = false
  agrees : ∀ v w, v.isPositioned = true → w.isPositioned = true → further (some v) (some w) = beaten v w
  ranks : Ranks beaten Json.isPositioned

theorem contest_max : Contest (fun current v => less current v) Json.isBelow where
  irrefl := less_self
  agrees := fun _ _ => less_eq_isBelow
  ranks := ⟨fun _ _ => Json.isBelow_asymm, fun _ _ _ => Json.isBelow_cotrans⟩

theorem contest_min : Contest (fun current v => less v current) fun v w => w.isBelow v where
  irrefl := less_self
  agrees := fun _ _ hv hw => less_eq_isBelow hw hv
  ranks := ⟨fun _ _ => Json.isBelow_asymm, fun _ _ _ ha hb hc ab bc => Json.isBelow_cotrans hc hb ha bc ab⟩

section Extreme

variable {further : Option Json → Option Json → Bool} {acc : Accumulator} {value : Option Json}

theorem value_keepExtreme_of_waiting (irrefl : ∀ v, further v v = false) (other : isComparable acc.value = false) :
    (acc.keepExtreme further value).value = value := by
  simp [keepExtreme, other, irrefl]

theorem keepExtreme_of_other (kept : isComparable acc.value = true) (other : isComparable value = false) :
    acc.keepExtreme further value = acc := by
  simp [keepExtreme, kept, other]

theorem value_keepExtreme (kept : isComparable acc.value = true) (comparable : isComparable value = true) :
    (acc.keepExtreme further value).value = if further acc.value value then value else acc.value := by
  simp only [keepExtreme, kept, comparable, if_true, Bool.true_and]
  split <;> rfl

variable {beaten : Json → Json → Bool}

/-- One value: one with a position is set against the foremost one so far, anything else is passed over. -/
theorem Leads.keepExtreme (contest : Contest further beaten) {seen : List Json}
    (known : ∀ u ∈ seen, u.isPositioned = true) (h : Leads beaten seen acc.value) (value : Option Json) :
    Leads beaten (seen ++ (value.filter Json.isPositioned).toList) (acc.keepExtreme further value).value := by
  have leading {v : Json} (found : foremost? beaten seen = some v) : isComparable (some v) = true := by
    rw [isComparable_eq, Option.any_some, known v (mem_of_foremost? found)]
  have comparable := isComparable_eq value
  generalize kept : acc.value = current at h
  cases positioned : value.filter Json.isPositioned with
  | none =>
    have other : isComparable value = false := by
      rw [comparable, Option.any_eq_false]
      exact fun j found => by simpa using Option.filter_eq_none_iff.1 positioned j found
    rw [Option.toList_none, List.append_nil]
    cases h with
    | waiting waits =>
      rw [value_keepExtreme_of_waiting contest.irrefl (kept ▸ waits)]
      exact .waiting other
    | foremost found =>
      rw [keepExtreme_of_other (kept ▸ leading found) other, kept]
      exact .foremost found
  | some w =>
    obtain ⟨rfl, ranked⟩ := Option.filter_eq_some_iff.1 positioned
    rw [Option.any_some, ranked] at comparable
    rw [Option.toList_some]
    cases h with
    | waiting waits =>
      rw [value_keepExtreme_of_waiting contest.irrefl (kept ▸ waits)]
      exact .foremost (foremost?_single contest.ranks w)
    | @foremost _ v found =>
      rw [value_keepExtreme (kept ▸ leading found) comparable, kept,
        contest.agrees v w (known v (mem_of_foremost? found)) ranked]
      split
      · next beats => exact .foremost (foremost?_concat_of_beaten contest.ranks known ranked found beats)
      · next stays => exact .foremost (foremost?_concat_of_not_beaten found (by simpa using stays))

theorem Leads.foldl (contest : Contest further beaten) {seen : List Json}
    (known : ∀ u ∈ seen, u.isPositioned = true) (h : Leads beaten seen acc.value) (p : Path) (rows : List Lookup) :
    Leads beaten (seen ++ positionedAt p rows)
      (rows.foldl (fun acc row => acc.keepExtreme further (row p)) acc).value := by
  induction rows generalizing seen acc with
  | nil => rwa [positionedAt, List.filterMap_nil, List.append_nil]
  | cons row rest ih =>
    have found : positionedAt p (row :: rest) =
        ((row p).filter Json.isPositioned).toList ++ positionedAt p rest := by
      unfold positionedAt
      cases positioned : (row p).filter Json.isPositioned <;> simp [positioned]
    have still : ∀ u ∈ seen ++ ((row p).filter Json.isPositioned).toList, u.isPositioned = true := by
      intro u hu
      rcases List.mem_append.1 hu with earlier | new
      · exact known u earlier
      · exact (Option.filter_eq_some_iff.1 (Option.mem_toList.1 new)).2
    rw [List.foldl_cons, found, ← List.append_assoc]
    exact ih still (h.keepExtreme contest known (row p))

theorem Leads.exists_foremost {seen : List Json} (nonempty : seen ≠ []) {value : Option Json}
    (h : Leads beaten seen value) : ∃ v, foremost? beaten seen = some v ∧ value = some v := by
  cases h with
  | waiting => exact absurd rfl nonempty
  | foremost found => exact ⟨_, found, rfl⟩

theorem value_fold_of_contest (contest : Contest further beaten) (method : AggregateMethod)
    (steps : ∀ isLast acc value, step method isLast acc value = acc.keepExtreme further value) {p : Path}
    {rows : List Lookup} (comparable : positionedAt p rows ≠ []) :
    ∃ v, foremost? beaten (positionedAt p rows) = some v ∧ (fold method [p] start rows).value = some v := by
  rw [fold_of_step steps]
  exact (Leads.foldl contest (by simp) (.waiting rfl) p rows).exists_foremost comparable

end Extreme

end Accumulator

/-- The greatest value that is reported for a field is the first one in row order that no other number or timestamp
exceeds, and the least value the first one that no other is below, wherever other values stand between them. -/
theorem aggregate_extremes {α : Type} [Record α] {rows : List α} {p : Path}
    (comparable : positionedAt p (rows.map Record.lookup) ≠ []) :
    let values := positionedAt p (rows.map Record.lookup)
    (∃ greatest, greatest? values = some greatest ∧
        ∀ ds, ⟨p, .max⟩ ∈ ds → AggregateDescriptor.Undisturbed ⟨p, .max⟩ ds →
          (aggregate rows ds).get? (Path.toDotted p) .max = some greatest) ∧
      ∃ least, least? values = some least ∧
        ∀ ds, ⟨p, .min⟩ ∈ ds → AggregateDescriptor.Undisturbed ⟨p, .min⟩ ds →
          (aggregate rows ds).get? (Path.toDotted p) .min = some least := by
  have nonempty : rows ≠ [] := by
    rintro rfl
    exact comparable rfl
  obtain ⟨greatest, first, kept⟩ :=
    Accumulator.value_fold_of_contest Accumulator.contest_max .max (fun _ _ _ => rfl) comparable
  obtain ⟨least, first', kept'⟩ :=
    Accumulator.value_fold_of_contest Accumulator.contest_min .min (fun _ _ _ => rfl) comparable
  refine ⟨⟨greatest, first, fun ds listed undisturbed => ?_⟩, least, first', fun ds listed undisturbed => ?_⟩
  · exact (get?_aggregate_of_undisturbed nonempty listed undisturbed).trans kept
  · exact (get?_aggregate_of_undisturbed nonempty listed undisturbed).trans kept'

def moments : List Json :=
  [.obj [], reading (.str "9"), reading (.num (.int 7)), reading .null, reading (.num (.double ⟨false, 7 <<< 1074⟩)),
    reading (.str "1970-01-01T00:00:00.012Z"), reading (.bool true), reading (.num (.int 12)), reading (.arr [])]

def bothExtremes : List AggregateDescriptor := [⟨["v"], .max⟩, ⟨["v"], .min⟩]

theorem aggregate_extremes_moments : positionedAt ["v"] (moments.map Record.lookup) ≠ [] ∧
    ((aggregate moments bothExtremes).get? "v" .max).map Json.text = some "\"1970-01-01T00:00:00.012Z\"" ∧
    ((aggregate moments bothExtremes).get? "v" .min).map Json.text = some "7" := by
  have comparable : positionedAt ["v"] (moments.map Record.lookup) ≠ [] := by decide +kernel
  obtain ⟨⟨greatest, first, max⟩, least, first', min⟩ := aggregate_extremes comparable
  have max : (aggregate moments bothExtremes).get? "v" .max = some greatest := max _ (.head _) (.inl (by decide))
  have min : (aggregate moments bothExtremes).get? "v" .min = some least :=
    min _ (.tail _ (.head _)) (.inl (by decide))
  rw [max, min, ← first, ← first']
  exact ⟨comparable, by decide +kernel, by decide +kernel⟩

end RecordSync
