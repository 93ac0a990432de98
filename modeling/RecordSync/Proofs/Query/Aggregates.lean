import RecordSync.Proofs.Numeric.Quotient
import RecordSync.Proofs.Query.GroupAggregates
import RecordSync.Proofs.Query.ScalarOrder

/-!
# Aggregates of a row list

What is reported for a field and a method is computed by the descriptors that go by the text of this field and by this
method, and by nothing else. Each of them takes every row once, so two of them count twice; only an extreme can be asked
for repeatedly. A sum of integers is exact as long as it stays within 64 bits on the way, and an average divides it by
the number of values that were summed up, whatever other values lie between them.
-/

set_option autoImplicit false

namespace RecordSync

namespace AggregateDescriptor

def key (d : AggregateDescriptor) : String := Path.toDotted d.field

/-- Nothing else in a list adds to the value of a descriptor: no other one goes by its text and method, or those that do
read the same field for an extreme. -/
def Undisturbed (d : AggregateDescriptor) (ds : List AggregateDescriptor) : Prop :=
  ds.countP (·.asks d.key d.method) = 1 ∨
    (d.method = .max ∨ d.method = .min) ∧ ∀ e ∈ ds, e.asks d.key d.method = true → e.field = d.field

theorem asks_self (d : AggregateDescriptor) : d.asks d.key d.method = true := by
  simp [asks, key]

end AggregateDescriptor

namespace Accumulator

theorem less_self (v : Option Json) : less v v = false := by
  unfold less
  have swapped := Scalar.compare?_swap (Scalar.of v false) (Scalar.of v false)
  cases compared : (Scalar.of v false).compare? (Scalar.of v false) with
  | none => rfl
  | some o =>
    rw [compared] at swapped
    cases o <;> first | rfl | cases swapped

theorem keepExtreme_keepExtreme (further : Option Json → Option Json → Bool) (irrefl : ∀ v, further v v = false)
    (acc : Accumulator) (v : Option Json) :
    (acc.keepExtreme further v).keepExtreme further v = acc.keepExtreme further v := by
  unfold keepExtreme
  by_cases comparable : isComparable v = true
  · by_cases kept : isComparable acc.value = true
    · by_cases replaced : further acc.value v = true
      · simp [comparable, kept, replaced, irrefl]
      · simp [kept, replaced]
    · simp [comparable, kept, irrefl]
  · by_cases kept : isComparable acc.value = true <;> simp [comparable, kept]

variable {method : AggregateMethod}

theorem step_step (extreme : method = .max ∨ method = .min) (isLast : Bool) (acc : Accumulator) (v : Option Json) :
    step method isLast (step method isLast acc v) v = step method isLast acc v := by
  rcases extreme with rfl | rfl
  · exact keepExtreme_keepExtreme less less_self acc v
  · exact keepExtreme_keepExtreme (fun current v => less v current) less_self acc v

theorem foldl_step_same (extreme : method = .max ∨ method = .min) (isLast : Bool) (row : Lookup) {p : Path}
    {paths : List Path} (same : ∀ path ∈ paths, path = p) (acc : Accumulator) :
    paths.foldl (fun acc path => step method isLast acc (row path)) (step method isLast acc (row p)) =
      step method isLast acc (row p) := by
  induction paths with
  | nil => rfl
  | cons path rest ih =>
    rw [List.forall_mem_cons] at same
    rw [List.foldl_cons, same.1, step_step extreme]
    exact ih same.2

theorem fold_of_extreme (extreme : method = .max ∨ method = .min) {p : Path} {paths : List Path}
    (nonempty : paths ≠ []) (same : ∀ path ∈ paths, path = p) (acc : Accumulator) (rows : List Lookup) :
    fold method paths acc rows = fold method [p] acc rows := by
  induction rows generalizing acc with
  | nil => rfl
  | cons row rest ih =>
    rw [fold, fold, ih]
    congr 1
    cases paths with
    | nil => exact absurd rfl nonempty
    | cons path others =>
      rw [List.forall_mem_cons] at same
      rw [List.foldl_cons, same.1, List.foldl_cons, List.foldl_nil]
      exact foldl_step_same extreme _ row same.2 acc

end Accumulator

section Rows

open Accumulator

variable {α : Type} [Record α]

/-- The descriptors that go by one text and method do not see the other ones. -/
theorem aggregateValue_filter (rows : List Lookup) (ds : List AggregateDescriptor) (field : String)
    (method : AggregateMethod) : aggregateValue rows (ds.filter (·.asks field method)) field method =
      aggregateValue rows ds field method := by
  simp only [aggregateValue_eq, List.filter_filter, Bool.and_self]

theorem aggregateValue_singleton (rows : List Lookup) (d : AggregateDescriptor) :
    aggregateValue rows [d] d.key d.method = (fold d.method [d.field] .start rows).value := by
  rw [aggregateValue_eq, List.filter_cons_of_pos d.asks_self]
  rfl

theorem get?_aggregate_of_listed {rows : List α} (nonempty : rows ≠ []) {ds : List AggregateDescriptor}
    {d : AggregateDescriptor} (listed : d ∈ ds) :
    (aggregate rows ds).get? d.key d.method = aggregateValue (rows.map Record.lookup) ds d.key d.method := by
  rw [get?_aggregate nonempty, if_pos]
  exact List.mem_map_of_mem listed

theorem aggregateValue_of_undisturbed (rows : List Lookup) {ds : List AggregateDescriptor} {d : AggregateDescriptor}
    (listed : d ∈ ds) (undisturbed : d.Undisturbed ds) :
    aggregateValue rows ds d.key d.method = aggregateValue rows [d] d.key d.method := by
  have member : d ∈ ds.filter (·.asks d.key d.method) := List.mem_filter.2 ⟨listed, d.asks_self⟩
  rcases undisturbed with once | ⟨extreme, same⟩
  · rw [List.countP_eq_length_filter, List.length_eq_one_iff] at once
    obtain ⟨e, asked⟩ := once
    rw [asked, List.mem_singleton] at member
    rw [← aggregateValue_filter, asked, member]
  · have nonempty : (ds.filter (·.asks d.key d.method)).map (·.field) ≠ [] :=
      fun none => List.ne_nil_of_mem member (List.map_eq_nil_iff.1 none)
    have field : ∀ path ∈ (ds.filter (·.asks d.key d.method)).map (·.field), path = d.field := by
      intro path asked
      obtain ⟨e, chosen, rfl⟩ := List.mem_map.1 asked
      obtain ⟨among, asks⟩ := List.mem_filter.1 chosen
      exact same e among asks
    rw [aggregateValue_eq, aggregateValue_singleton, fold_of_extreme extreme nonempty field]

/-- What is reported for a descriptor that nothing else adds to is what its method makes of its field. -/
theorem get?_aggregate_of_undisturbed {rows : List α} (nonempty : rows ≠ []) {ds : List AggregateDescriptor}
    {d : AggregateDescriptor} (listed : d ∈ ds) (undisturbed : d.Undisturbed ds) :
    (aggregate rows ds).get? d.key d.method = (fold d.method [d.field] .start (rows.map Record.lookup)).value := by
  rw [get?_aggregate_of_listed nonempty listed, aggregateValue_of_undisturbed _ listed undisturbed,
    aggregateValue_singleton]

/-- What is reported for a descriptor depends on those that share its accumulator only, and is what it would be alone if
none of them disturbs it. A count is disturbed by every one of them. -/
theorem get?_aggregate_shared {rows : List α} {ds : List AggregateDescriptor} {d : AggregateDescriptor}
    (listed : d ∈ ds) :
    (aggregate rows ds).get? d.key d.method =
        (aggregate rows (ds.filter (·.asks d.key d.method))).get? d.key d.method ∧
      (d.Undisturbed ds → (aggregate rows ds).get? d.key d.method = (aggregate rows [d]).get? d.key d.method) ∧
      (d.method = .count → rows ≠ [] → (aggregate rows ds).get? d.key .count =
        some (.ofNat (rows.length * ds.countP (·.asks d.key .count)))) := by
  by_cases empty : rows = []
  · subst empty
    exact ⟨rfl, fun _ => rfl, fun _ nonempty => absurd rfl nonempty⟩
  · have member : d ∈ ds.filter (·.asks d.key d.method) := List.mem_filter.2 ⟨listed, d.asks_self⟩
    rw [get?_aggregate_of_listed empty listed, get?_aggregate_of_listed empty member,
      get?_aggregate_of_listed empty (List.mem_singleton_self d), aggregateValue_filter]
    refine ⟨rfl, aggregateValue_of_undisturbed _ listed, fun counts _ => ?_⟩
    have asked : 0 < ds.countP (·.asks d.key .count) := List.countP_pos_iff.2 ⟨d, listed, counts ▸ d.asks_self⟩
    rw [← counts, get?_aggregate_of_listed empty listed, counts, aggregateValue_count (by simpa using empty) asked,
      List.length_map]

end Rows

def twoReadings : List Json := [reading (.ofInt 2), reading (.ofInt 4)]

def askedTwice : List AggregateDescriptor :=
  [⟨["v"], .max⟩, ⟨["v"], .sum⟩, ⟨["v"], .max⟩, ⟨["a.b"], .count⟩, ⟨["a", "b"], .count⟩]

theorem get?_aggregate_shared_sample :
    (aggregate twoReadings askedTwice).get? "v" .max = (aggregate twoReadings [⟨["v"], .max⟩]).get? "v" .max ∧
      (aggregate twoReadings askedTwice).get? "v" .sum = (aggregate twoReadings [⟨["v"], .sum⟩]).get? "v" .sum ∧
      (aggregate twoReadings askedTwice).get? "a.b" .count = some (.ofNat (2 * 2)) := by
  have greatest : ⟨["v"], .max⟩ ∈ askedTwice := .head _
  have sum : ⟨["v"], .sum⟩ ∈ askedTwice := .tail _ (.head _)
  have count : ⟨["a.b"], .count⟩ ∈ askedTwice := .tail _ (.tail _ (.tail _ (.head _)))
  exact ⟨(get?_aggregate_shared greatest).2.1 (.inr ⟨.inl rfl, by decide⟩),
    (get?_aggregate_shared sum).2.1 (.inl (by decide)),
    (get?_aggregate_shared count).2.2 rfl (List.cons_ne_nil _ _)⟩

def meanReading : AggregateDescriptor := ⟨["v"], .average⟩

/-- An average that is asked for twice is taken from twice the values, and divided twice. -/
theorem aggregate_mean_twice :
    ((aggregate twoReadings [meanReading]).get? meanReading.key meanReading.method).map Json.text = some "3.0" ∧
      ((aggregate twoReadings [meanReading, meanReading]).get? meanReading.key meanReading.method).map Json.text =
        some "1.6666666666666665" := by
  decide +kernel

def integersAt (p : Path) (rows : List Lookup) : List Int := rows.filterMap fun row => (row p).bind Json.signed64?

def numbersAt (p : Path) (rows : List Lookup) : Nat := rows.countP fun row => Accumulator.isNumber (row p)

structure Summable (p : Path) (rows : List Lookup) : Prop where
  integers : ∀ row ∈ rows, Accumulator.isNumber (row p) = true → ((row p).bind Json.signed64?).isSome = true
  numeric : 0 < numbersAt p rows
  fits : ∀ part, part <+: integersAt p rows → fitsSigned64 part.sum = true

theorem Summable.ne_nil {p : Path} {rows : List Lookup} (h : Summable p rows) : rows ≠ [] := by
  rintro rfl
  exact absurd h.numeric (Nat.lt_irrefl 0)

namespace Accumulator

inductive Sums : List Int → Option Json → Prop where
  | waiting {value : Option Json} (other : isNumber value = false) : Sums [] value
  | total {seen : List Int} {sum : Int} (nonempty : seen ≠ []) (adds : seen.sum = sum) : Sums seen (some (.ofInt sum))

def gather (acc : Accumulator) (value : Option Json) : Accumulator :=
  let acc := acc.addValue value
  if isNumber value then { acc with count := acc.count + 1 } else acc

def finish (acc : Accumulator) : Accumulator :=
  if 0 < acc.count && isNumber acc.value then
    { acc with value := some (.ofDouble ((asDouble acc.value).div (.ofInt acc.count))) }
  else acc

theorem step_average (isLast : Bool) (acc : Accumulator) (value : Option Json) :
    step .average isLast acc value = if isLast then (acc.gather value).finish else acc.gather value := by
  cases isLast <;> rfl

/-- One path is folded value by value if the last row is treated like the others. -/
theorem fold_of_step {method : AggregateMethod} {next : Accumulator → Option Json → Accumulator}
    (steps : ∀ isLast acc value, step method isLast acc value = next acc value) (p : Path) (acc : Accumulator)
    (rows : List Lookup) : fold method [p] acc rows = rows.foldl (fun acc row => next acc (row p)) acc := by
  induction rows generalizing acc with
  | nil => rfl
  | cons row rest ih => rw [fold, ih, List.foldl_cons, List.foldl_nil, List.foldl_cons, steps]

theorem fold_average (p : Path) {rows : List Lookup} (nonempty : rows ≠ []) (acc : Accumulator) :
    fold .average [p] acc rows = (rows.foldl (fun acc row => acc.gather (row p)) acc).finish := by
  induction rows generalizing acc with
  | nil => exact absurd rfl nonempty
  | cons row rest ih =>
    rw [fold, List.foldl_cons, List.foldl_nil, step_average, List.foldl_cons]
    cases rest with
    | nil => rfl
    | cons next more => exact ih (List.cons_ne_nil _ _) _

theorem value_gather (acc : Accumulator) (value : Option Json) :
    (acc.gather value).value = (acc.addValue value).value := by
  unfold gather
  split <;> rfl

theorem count_addValue (acc : Accumulator) (value : Option Json) : (acc.addValue value).count = acc.count := by
  unfold addValue
  split
  · split
    · rfl
    · split <;> rfl
  · split <;> rfl
  · rfl

theorem count_foldl_gather (p : Path) (acc : Accumulator) (rows : List Lookup) :
    (rows.foldl (fun acc row => acc.gather (row p)) acc).count = acc.count + numbersAt p rows := by
  unfold numbersAt
  induction rows generalizing acc with
  | nil => rfl
  | cons row rest ih =>
    have step : (acc.gather (row p)).count = acc.count + if isNumber (row p) then 1 else 0 := by
      unfold gather
      split <;> simp only [count_addValue, Nat.add_zero]
    rw [List.foldl_cons, ih, step, List.countP_cons, Nat.add_assoc, Nat.add_comm (List.countP _ rest)]

theorem isNumber_ofInt (n : Int) : isNumber (some (.ofInt n)) = true := rfl

theorem addValue_of_waiting {acc : Accumulator} (other : isNumber acc.value = false) (value : Option Json) :
    (acc.addValue value).value = value := by
  obtain ⟨current, count⟩ := acc
  cases current with
  | none => rfl
  | some j =>
    have waiting : j.isNumber = false := other
    cases value <;> simp [addValue, waiting]

theorem addValue_of_other {acc : Accumulator} (number : isNumber acc.value = true) {value : Option Json}
    (other : isNumber value = false) : acc.addValue value = acc := by
  obtain ⟨current, count⟩ := acc
  cases current with
  | none => cases number
  | some j =>
    have summing : j.isNumber = true := number
    cases value with
    | none => simp [addValue, summing]
    | some v =>
      have skipped : v.isNumber = false := other
      simp [addValue, summing, skipped]

theorem signed64?_ofInt {n : Int} (fits : fitsSigned64 n = true) : (Json.ofInt n).signed64? = some n :=
  if_pos fits

theorem eq_ofInt_of_signed64? {j : Json} {n : Int} (h : j.signed64? = some n) :
    j = .ofInt n ∧ fitsSigned64 n = true := by
  cases j with
  | num number =>
    cases number with
    | int m =>
      rw [Json.signed64?, Number.toSigned64?, Option.ite_none_right_eq_some] at h
      obtain ⟨fits, same⟩ := h
      cases same
      exact ⟨rfl, fits⟩
    | double x => cases h
  | _ => cases h

theorem addNumbers_ofInt {m n : Int} (fits : fitsSigned64 m = true) (fits' : fitsSigned64 n = true)
    (sum : fitsSigned64 (m + n) = true) : addNumbers (.ofInt m) (.ofInt n) = .ofInt (m + n) := by
  simp [addNumbers, signed64?_ofInt fits, signed64?_ofInt fits', sum]

theorem addValue_of_integers {acc : Accumulator} {m n : Int} (current : acc.value = some (.ofInt m))
    (fits : fitsSigned64 m = true) (fits' : fitsSigned64 n = true) (sum : fitsSigned64 (m + n) = true) :
    (acc.addValue (some (.ofInt n))).value = some (.ofInt (m + n)) := by
  obtain ⟨value, count⟩ := acc
  subst current
  exact congrArg some (addNumbers_ofInt fits fits' sum)

theorem signed64?_of_other {value : Option Json} (other : isNumber value = false) :
    value.bind Json.signed64? = none := by
  cases value with
  | none => rfl
  | some j => cases j <;> first | rfl | cases other

/-- One value: an integer is added to the sum, anything else leaves it. -/
theorem Sums.addValue {seen : List Int} {acc : Accumulator} (h : Sums seen acc.value)
    (fits : fitsSigned64 seen.sum = true) {value : Option Json}
    (integer : isNumber value = true → (value.bind Json.signed64?).isSome = true)
    (sum : ∀ n ∈ value.bind Json.signed64?, fitsSigned64 (seen.sum + n) = true) :
    Sums (seen ++ (value.bind Json.signed64?).toList) (acc.addValue value).value := by
  generalize kept : acc.value = current at h
  cases number : isNumber value with
  | false =>
    rw [signed64?_of_other number, Option.toList_none, List.append_nil]
    -- it is only kept as long as there is nothing to add to
    cases h with
    | waiting other =>
      rw [addValue_of_waiting (kept ▸ other)]
      exact .waiting number
    | total nonempty adds =>
      rw [addValue_of_other (kept ▸ isNumber_ofInt _) number, kept]
      exact .total nonempty adds
  | true =>
    obtain ⟨n, found⟩ := Option.isSome_iff_exists.1 (integer number)
    obtain ⟨j, rfl, integral⟩ := Option.bind_eq_some_iff.1 found
    obtain ⟨rfl, fits'⟩ := eq_ofInt_of_signed64? integral
    have added := sum n found
    rw [found, Option.toList_some]
    cases h with
    | waiting other =>
      rw [addValue_of_waiting (kept ▸ other)]
      exact .total (List.cons_ne_nil _ _) (List.sum_singleton)
    | total nonempty adds =>
      rw [adds] at fits added
      rw [addValue_of_integers kept fits fits' added]
      exact .total (List.append_ne_nil_of_left_ne_nil nonempty _) (by rw [List.sum_append, adds, List.sum_singleton])

/-- All rows, for any way of going on that keeps the values of `addValue`. The sums on the way are those of the integers
seen before and a part of those that follow. -/
theorem Sums.foldl {next : Accumulator → Option Json → Accumulator}
    (adds : ∀ acc value, (next acc value).value = (acc.addValue value).value) {p : Path} {rows : List Lookup}
    {seen : List Int} {acc : Accumulator} (h : Sums seen acc.value)
    (integers : ∀ row ∈ rows, isNumber (row p) = true → ((row p).bind Json.signed64?).isSome = true)
    (fits : ∀ part, part <+: integersAt p rows → fitsSigned64 (seen ++ part).sum = true) :
    Sums (seen ++ integersAt p rows) (rows.foldl (fun acc row => next acc (row p)) acc).value := by
  induction rows generalizing seen acc with
  | nil => rwa [integersAt, List.filterMap_nil, List.append_nil]
  | cons row rest ih =>
    have found : integersAt p (row :: rest) = ((row p).bind Json.signed64?).toList ++ integersAt p rest := by
      unfold integersAt
      cases integer : (row p).bind Json.signed64? <;> simp [integer]
    rw [List.forall_mem_cons] at integers
    rw [found] at fits ⊢
    have step : Sums (seen ++ ((row p).bind Json.signed64?).toList) (next acc (row p)).value := by
      rw [adds]
      refine h.addValue (by simpa using fits [] (List.nil_prefix)) integers.1 fun n integer => ?_
      have added := fits [n] (by simp [Option.mem_def.1 integer])
      simpa using added
    rw [← List.append_assoc]
    refine ih step integers.2 fun part among => ?_
    rw [List.append_assoc]
    exact fits _ ((List.prefix_append_right_inj _).2 among)

theorem Sums.all {next : Accumulator → Option Json → Accumulator}
    (adds : ∀ acc value, (next acc value).value = (acc.addValue value).value) {p : Path} {rows : List Lookup}
    (h : Summable p rows) : (rows.foldl (fun acc row => next acc (row p)) start).value =
      some (.ofInt (integersAt p rows).sum) := by
  have kept : Sums ([] ++ integersAt p rows) (rows.foldl (fun acc row => next acc (row p)) start).value :=
    Sums.foldl adds (.waiting rfl) h.integers h.fits
  generalize (rows.foldl (fun acc row => next acc (row p)) start).value = value at kept
  rw [List.nil_append] at kept
  obtain ⟨row, listed, number⟩ := List.countP_pos_iff.1 h.numeric
  obtain ⟨n, found⟩ := Option.isSome_iff_exists.1 (h.integers row listed number)
  have among : n ∈ integersAt p rows := List.mem_filterMap.2 ⟨row, listed, found⟩
  generalize integersAt p rows = seen at kept among
  cases kept with
  | waiting => cases among
  | total _ adds => rw [adds]

theorem value_fold_sum {p : Path} {rows : List Lookup} (h : Summable p rows) :
    (fold .sum [p] start rows).value = some (.ofInt (integersAt p rows).sum) := by
  rw [fold_of_step fun _ _ _ => rfl]
  exact Sums.all (fun _ _ => rfl) h

theorem value_finish {acc : Accumulator} {sum : Int} (value : acc.value = some (.ofInt sum)) (pos : 0 < acc.count) :
    acc.finish.value = some (.ofDouble ((Double.ofInt sum).div (.ofInt acc.count))) := by
  unfold finish
  rw [if_pos (by simp [pos, value, isNumber_ofInt]), value]
  rfl

theorem value_fold_average {p : Path} {rows : List Lookup} (h : Summable p rows) :
    (fold .average [p] start rows).value =
      some (.ofDouble ((Double.ofInt (integersAt p rows).sum).div (.ofInt (numbersAt p rows)))) := by
  have count := count_foldl_gather p start rows
  rw [show start.count = 0 from rfl, Nat.zero_add] at count
  rw [fold_average p h.ne_nil, value_finish (Sums.all value_gather h) (count ▸ h.numeric), count]

end Accumulator

theorem natAbs_le_of_fits {n : Int} (h : fitsSigned64 n = true) : n.natAbs ≤ 2 ^ 63 := by
  rw [fitsSigned64, Bool.and_eq_true, decide_eq_true_iff, decide_eq_true_iff] at h
  omega

/-- The sum and the average of integers, wherever other values stand between them. -/
theorem aggregate_integers {α : Type} [Record α] {rows : List α} {p : Path}
    (h : Summable p (rows.map Record.lookup)) :
    let sum := (integersAt p (rows.map Record.lookup)).sum
    let count := numbersAt p (rows.map Record.lookup)
    (∀ ds, ⟨p, .sum⟩ ∈ ds → AggregateDescriptor.Undisturbed ⟨p, .sum⟩ ds →
        (aggregate rows ds).get? (Path.toDotted p) .sum = some (.ofInt sum)) ∧
      ∃ average, (Double.ofInt sum).div (.ofInt count) = .finite average ∧
        ∀ ds, ⟨p, .average⟩ ∈ ds → AggregateDescriptor.Undisturbed ⟨p, .average⟩ ds →
          (aggregate rows ds).get? (Path.toDotted p) .average = some (.num (.double average)) := by
  intro sum count
  have nonempty : rows ≠ [] := fun none => h.ne_nil (List.map_eq_nil_iff.2 none)
  have value (d : AggregateDescriptor) (ds : List AggregateDescriptor) (listed : d ∈ ds)
      (undisturbed : d.Undisturbed ds) : (aggregate rows ds).get? d.key d.method =
        (Accumulator.fold d.method [d.field] .start (rows.map Record.lookup)).value := by
    rw [get?_aggregate_of_listed nonempty listed, aggregateValue_of_undisturbed _ listed undisturbed,
      aggregateValue_singleton]
  obtain ⟨average, quotient⟩ := Double.exists_finite_div (natAbs_le_of_fits (h.fits _ (List.prefix_refl _)))
    (Int.natCast_pos.2 h.numeric)
  refine ⟨fun ds listed undisturbed => ?_, average, quotient, fun ds listed undisturbed => ?_⟩
  · exact (value ⟨p, .sum⟩ ds listed undisturbed).trans (Accumulator.value_fold_sum h)
  · refine (value ⟨p, .average⟩ ds listed undisturbed).trans ?_
    rw [Accumulator.value_fold_average h, quotient]
    rfl

def gaps : List Json :=
  [.obj [], reading (.str "9"), reading (.ofInt 7), reading .null, reading (.bool true), reading (.arr [.ofInt 1]),
    reading (.ofInt (-2)), reading (.obj [("n", .ofInt 5)]), .obj []]

theorem aggregate_integers_gaps : Summable ["v"] (gaps.map Record.lookup) ∧
    (aggregate gaps [⟨["v"], .sum⟩, ⟨["v"], .average⟩]).get? "v" .sum = some (.ofInt 5) ∧
    ∃ average, (Double.ofInt 5).div (.ofInt 2) = .finite average ∧
      (aggregate gaps [⟨["v"], .sum⟩, ⟨["v"], .average⟩]).get? "v" .average = some (.num (.double average)) := by
  have summable : Summable ["v"] (gaps.map Record.lookup) := by
    have integers : integersAt ["v"] (gaps.map Record.lookup) = [7, -2] := by decide
    refine ⟨by decide, by decide, fun part among => ?_⟩
    rw [integers, List.prefix_cons_iff] at among
    obtain rfl | ⟨rest, rfl, among⟩ := among
    · rfl
    · rw [List.prefix_cons_iff] at among
      obtain rfl | ⟨more, rfl, among⟩ := among
      · rfl
      · rw [List.prefix_nil.1 among]
        rfl
  obtain ⟨sum, average, quotient, mean⟩ := aggregate_integers summable
  exact ⟨summable, sum _ (.head _) (.inl (by decide)), average, quotient,
    mean _ (.tail _ (.head _)) (.inl (by decide))⟩

end RecordSync
