import TeacherDirectory.Program

/-!
# What a recorder shows

A counter adds to its own series and to no other, so what a recorder shows of a series after a trace
is what it showed before and how often the trace counts it. The series of one name can be added up,
all of them or those with some label; what is added up then grows with every counter of such a series.
-/

namespace TeacherDirectory

set_option autoImplicit false

def counters (steps : List Step) : List Counter := steps.filterMap Step.counter?

@[simp] theorem counters_nil : counters [] = [] := rfl

@[simp] theorem counters_append (earlier later : List Step) :
    counters (earlier ++ later) = counters earlier ++ counters later :=
  List.filterMap_append

theorem counters_cons (step : Step) (rest : List Step) :
    counters (step :: rest) = step.counter?.toList ++ counters rest := by
  cases found : step.counter? <;> simp [counters, found]

def countings (series : Series) (steps : List Step) : Nat :=
  (steps.filterMap Step.counter?).countP fun counter => counter.series = series

@[simp] theorem countings_nil (series : Series) : countings series [] = 0 := rfl

@[simp] theorem countings_append (series : Series) (earlier later : List Step) :
    countings series (earlier ++ later) = countings series earlier + countings series later := by
  simp [countings]

theorem countings_counter (series : Series) (counter : Counter) :
    countings series [⟨.count counter, ()⟩] = if counter.series = series then 1 else 0 := by
  by_cases same : counter.series = series <;> simp [countings, Step.counter?, same]

/-- The series has this name and these labels, and may have others. -/
def Series.bears (series : Series) (name : String) (labels : List (String × String)) : Bool :=
  series.name == name && labels.all series.labels.contains

namespace Counter

def succeeds : Counter → Bool
  | finished _ succeeded => succeeded
  | failedAttempt _ => false

def fails : Counter → Bool
  | finished .. => false
  | failedAttempt _ => true

theorem bears_success {counter : Counter} :
    counter.series.bears "ldap_operations_total" [("status", "success")] = counter.succeeds := by
  cases counter with
  | finished operation succeeded => cases succeeded <;> simp [series, Series.bears, succeeds]
  | failedAttempt operation => simp [series, Series.bears, succeeds]

theorem bears_failed_attempt {counter : Counter} :
    counter.series.bears "ldap_operation_failed_attempts_total" [] = counter.fails := by
  cases counter <;> simp [series, Series.bears, fails]

theorem finished_series {operation other : String} {succeeded success : Bool} :
    (finished operation succeeded).series = (finished other success).series ↔
      operation = other ∧ succeeded = success := by
  cases succeeded <;> cases success <;> simp [series]

theorem failed_not_finished {operation other : String} {succeeded : Bool} :
    (failedAttempt operation).series ≠ (finished other succeeded).series := by
  simp [series]

theorem finished_not_failed {operation other : String} {succeeded : Bool} :
    (finished operation succeeded).series ≠ (failedAttempt other).series :=
  failed_not_finished.symm

theorem failed_series {operation other : String} :
    (failedAttempt operation).series = (failedAttempt other).series ↔ operation = other := by
  simp [series]

/-- Every counter has a series of its own. -/
theorem series_injective {counter other : Counter} (same : counter.series = other.series) :
    counter = other := by
  cases counter with
  | finished operation succeeded =>
      cases other with
      | finished operation' succeeded' =>
          obtain ⟨rfl, rfl⟩ := finished_series.mp same
          rfl
      | failedAttempt operation' => exact absurd same finished_not_failed
  | failedAttempt operation =>
      cases other with
      | finished operation' succeeded' => exact absurd same failed_not_finished
      | failedAttempt operation' => exact congrArg failedAttempt (failed_series.mp same)

end Counter

namespace Recorder

variable {Value : Type} {key other : Series} {first : Value} {more : Value → Value}

theorem lookup_entry (name : Series) (value : Value) (rest : List (Series × Value)) :
    ((name, value) :: rest).lookup other = if other = name then some value else rest.lookup other := by
  by_cases same : other = name
  · simp [same]
  · simp [List.lookup_cons, beq_false_of_ne same, same]

theorem lookup_update (values : List (Series × Value)) :
    (update key first more values).lookup other =
      if other = key then some ((values.lookup key).elim first more) else values.lookup other := by
  induction values with
  | nil => exact lookup_entry key first []
  | cons entry rest induction =>
      rcases entry with ⟨name, value⟩
      by_cases here : name = key
      · subst here
        simp only [update, lookup_entry, if_true]
        split <;> rfl
      · simp only [update, if_neg here, lookup_entry, induction, if_neg (Ne.symm here)]
        by_cases same : other = name
        · simp [same, here]
        · simp [same]

theorem total_count (recorder : Recorder) (counter : Counter) (series : Series) :
    (recorder.count counter).total series =
      recorder.total series + if counter.series = series then 1 else 0 := by
  unfold total count add
  rw [lookup_update]
  by_cases same : series = counter.series
  · subst same
    cases recorder.counts.lookup counter.series <;> simp
  · simp [same, Ne.symm same]

theorem total_observe (recorder : Recorder) (steps : List Step) (series : Series) :
    (recorder.observe steps).total series = recorder.total series + countings series steps := by
  unfold observe countings
  induction steps.filterMap Step.counter? generalizing recorder with
  | nil => rfl
  | cons counter rest induction =>
      rw [List.foldl_cons, induction, total_count, List.countP_cons]
      simp only [decide_eq_true_eq]
      omega

def sumOf (name : String) (labels : List (String × String)) : List (Series × Nat) → Nat
  | [] => 0
  | (series, value) :: rest =>
      (if series.bears name labels then value else 0) + sumOf name labels rest

/-- What was counted under a name with some labels, whatever the others are. -/
def sum (recorder : Recorder) (name : String) (labels : List (String × String)) : Nat :=
  sumOf name labels recorder.counts

variable {name : String} {labels : List (String × String)}

theorem sum_update (values : List (Series × Nat)) :
    sumOf name labels (update key 1 (· + 1) values) =
      sumOf name labels values + if key.bears name labels then 1 else 0 := by
  induction values with
  | nil => exact Nat.add_comm _ 0
  | cons entry rest induction =>
      rcases entry with ⟨other, value⟩
      by_cases here : other = key
      · subst here
        simp only [update, if_true, sumOf]
        split <;> omega
      · simp only [update, if_neg here, sumOf, induction]
        omega

theorem sum_observe (recorder : Recorder) (steps : List Step) :
    (recorder.observe steps).sum name labels = recorder.sum name labels +
      (counters steps).countP fun counter => counter.series.bears name labels := by
  unfold observe counters
  induction steps.filterMap Step.counter? generalizing recorder with
  | nil => rfl
  | cons counter rest induction =>
      have counted : (recorder.count counter).sum name labels = recorder.sum name labels +
          if counter.series.bears name labels then 1 else 0 := sum_update recorder.counts
      rw [List.foldl_cons, induction, counted, List.countP_cons]
      omega

theorem sum_empty : empty.sum name labels = 0 := rfl

/-- A recorder shows of a counter how often a trace counted it. -/
theorem total_counted (steps : List Step) (counter : Counter) :
    (empty.observe steps).total counter.series = (counters steps).count counter := by
  rw [total_observe]
  change 0 + countings counter.series steps = _
  rw [Nat.zero_add, countings, List.count, counters]
  refine List.countP_congr fun other _ => ?_
  rw [decide_eq_true_eq, beq_iff_eq]
  exact ⟨Counter.series_injective, congrArg Counter.series⟩

theorem observe_uncounted (recorder : Recorder) {steps : List Step} (none : counters steps = []) :
    recorder.observe steps = recorder := by
  unfold observe
  rw [show steps.filterMap Step.counter? = [] from none]
  rfl

end Recorder

end TeacherDirectory
