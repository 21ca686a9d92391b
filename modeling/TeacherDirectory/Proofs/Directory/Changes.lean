import TeacherDirectory.Directory.Change

/-!
# Changes as they are sent

The values of a change are sent as a set. None of them is sent twice and none is lost, so what is sent
stands for the set of the values that the change was made of.
-/

namespace TeacherDirectory

set_option autoImplicit false

section Repetitions

variable {first second value : String} {rest : List String}

theorem erase_reps_collected (first : String) (rest collected : List String) :
    List.eraseRepsBy.loop (· == ·) first rest collected =
      collected.reverse ++ (first :: rest).eraseReps := by
  unfold List.eraseReps List.eraseRepsBy
  dsimp only
  induction rest generalizing first collected with
  | nil => simp [List.eraseRepsBy.loop]
  | cons second rest induction =>
      unfold List.eraseRepsBy.loop
      split
      · exact induction first collected
      · rw [induction second (first :: collected), induction second [first]]
        simp

theorem erase_reps_cons_cons :
    (first :: second :: rest).eraseReps =
      if first = second then (first :: rest).eraseReps
      else first :: (second :: rest).eraseReps := by
  change List.eraseRepsBy.loop (· == ·) first (second :: rest) [] = _
  unfold List.eraseRepsBy.loop
  cases equal : first == second with
  | true => exact (if_pos (eq_of_beq equal)).symm
  | false =>
      rw [if_neg (ne_of_beq_false equal)]
      exact erase_reps_collected second rest [first]

theorem mem_erase_reps {values : List String} : value ∈ values.eraseReps ↔ value ∈ values := by
  match values with
  | [] => rfl
  | first :: rest =>
      induction rest generalizing first with
      | nil => rfl
      | cons second rest induction =>
          rw [erase_reps_cons_cons]
          split
          case isTrue same =>
            subst same
            simp [induction]
          case isFalse => simp [induction]

/-- In an ascending list equal values stand side by side. -/
theorem erase_reps_nodup {values : List String} (ascending : values.Pairwise (· ≤ ·)) :
    values.eraseReps.Nodup := by
  match values with
  | [] => exact List.nodup_nil
  | first :: rest =>
      induction rest generalizing first with
      | nil => exact List.pairwise_singleton _ first
      | cons second rest induction =>
          obtain ⟨least, further⟩ := List.pairwise_cons.mp ascending
          rw [erase_reps_cons_cons]
          split
          case isTrue same =>
            subst same
            exact induction first further
          case isFalse different =>
            refine List.nodup_cons.mpr ⟨fun again => ?_, induction second further⟩
            rcases List.mem_cons.mp (mem_erase_reps.mp again) with same | later
            · exact different same
            · have above := (List.pairwise_cons.mp further).1 first later
              exact different (String.le_antisymm (least second List.mem_cons_self) above)

end Repetitions

section Sets

variable {value : String} {values : List String}

theorem mem_value_set : value ∈ valueSet values ↔ value ∈ values :=
  mem_erase_reps.trans List.mem_mergeSort

theorem value_set_nodup (values : List String) : (valueSet values).Nodup := by
  refine erase_reps_nodup ((List.pairwise_mergeSort ?_ ?_ values).imp of_decide_eq_true)
  · intro left middle right lower upper
    exact decide_eq_true (String.le_trans (of_decide_eq_true lower) (of_decide_eq_true upper))
  · intro left right
    simpa using String.le_total left right

end Sets

end TeacherDirectory
