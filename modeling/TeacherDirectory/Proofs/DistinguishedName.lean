import TeacherDirectory.DistinguishedName

/-!
# Names that are cut again

What the service writes as a component is a component: a name made of it and a parent is cut there
again, whatever characters its value holds.
-/

namespace TeacherDirectory.DistinguishedName

set_option autoImplicit false

/-- Characters that a name keeps together: no cut falls into them, wherever they stand. -/
def Uncut (letters : List Char) : Prop :=
  ∀ rest, cutFrom false (letters ++ rest) =
    (cutFrom false rest).map fun (leaf, parent) => (letters ++ leaf, parent)

theorem Uncut.append {first second : List Char} (firstUncut : Uncut first)
    (secondUncut : Uncut second) : Uncut (first ++ second) := by
  intro rest
  rw [List.append_assoc, firstUncut, secondUncut, Option.map_map]
  apply congrArg (fun change => Option.map change (cutFrom false rest))
  apply funext
  intro cut
  simp only [Function.comp, List.append_assoc]

theorem uncut_letter {letter : Char} (noComma : letter ≠ ',') (noBackslash : letter ≠ '\\') :
    Uncut [letter] := by
  intro rest
  rw [List.singleton_append, cutFrom, if_neg (by decide), if_neg noComma]
  simp [noBackslash]

theorem uncut_pair (letter : Char) : Uncut ['\\', letter] := by
  intro rest
  change cutFrom false ('\\' :: letter :: rest) = _
  rw [cutFrom, if_neg (by decide), if_neg (by decide), cutFrom]
  simp only [decide_true, if_true, Option.map_map]
  rfl

theorem not_special {letter : Char} (plain : isSpecial letter = false) :
    letter ≠ ',' ∧ letter ≠ '\\' ∧ letter ≠ '=' := by
  simp only [isSpecial, Bool.or_eq_false_iff, decide_eq_false_iff_not] at plain
  exact ⟨plain.1.1.1.1.1.1.1, plain.1.1.1.1.2, plain.2⟩

theorem escape_character_cases (isFirst isLast : Bool) (letter : Char) :
    escapeCharacter isFirst isLast letter = ['\\', letter] ∧
        (isSpecial letter = true ∨ letter = '#' ∨ letter = ' ') ∨
      escapeCharacter isFirst isLast letter = ['\\', '0', '0'] ∧ letter = '\x00' ∨
      escapeCharacter isFirst isLast letter = [letter] ∧ isSpecial letter = false := by
  unfold escapeCharacter
  split
  case isTrue special => exact .inl ⟨rfl, .inl special⟩
  case isFalse plain =>
    split
    case isTrue sign =>
      have same : letter = '#' := by simpa using (Bool.and_eq_true_iff.mp sign).1
      subst same
      exact .inl ⟨rfl, .inr (.inl rfl)⟩
    split
    case isTrue blank =>
      have same : letter = ' ' := by simpa using (Bool.and_eq_true_iff.mp blank).1
      subst same
      exact .inl ⟨rfl, .inr (.inr rfl)⟩
    split
    case isTrue null => exact .inr (.inl ⟨rfl, null⟩)
    case isFalse => exact .inr (.inr ⟨rfl, by simpa using plain⟩)

theorem uncut_escape_from (isFirst : Bool) (letters : List Char) :
    Uncut (escapeFrom isFirst letters) := by
  induction letters generalizing isFirst with
  | nil =>
      intro rest
      simp [escapeFrom]
  | cons letter rest induction =>
      refine Uncut.append ?_ (induction false)
      obtain ⟨written, -⟩ | ⟨written, -⟩ | ⟨written, plain⟩ :=
        escape_character_cases isFirst rest.isEmpty letter
      · rw [written]
        exact uncut_pair letter
      · rw [written]
        exact (uncut_pair '0').append (uncut_letter (by decide) (by decide))
      · rw [written]
        exact uncut_letter (not_special plain).1 (not_special plain).2.1

/-- A type of attribute in front of a value: it holds no character with a meaning in names. -/
def IsType (type : String) : Prop := ∀ letter ∈ type.toList, isSpecial letter = false

instance (type : String) : Decidable (IsType type) :=
  List.decidableBAll (fun letter => isSpecial letter = false) type.toList

theorem is_type_uid : IsType "uid" := by decide +kernel

theorem is_type_ou : IsType "ou" := by decide +kernel

theorem is_type_cn : IsType "cn" := by decide +kernel

theorem uncut_component {type : String} (isType : IsType type) (value : String) :
    Uncut (component type value).toList := by
  have plain (letters : List Char) (each : ∀ letter ∈ letters, isSpecial letter = false) :
      Uncut letters := by
    induction letters with
    | nil =>
        intro rest
        simp
    | cons letter rest induction =>
        have first := not_special (each letter List.mem_cons_self)
        exact (uncut_letter first.1 first.2.1).append
          (induction fun other member => each other (List.mem_cons_of_mem letter member))
  have sign : Uncut ['='] := uncut_letter (by decide) (by decide)
  have written : (component type value).toList =
      type.toList ++ (['='] ++ escapeFrom true value.toList) := by
    simp [component, escapeValue]
  rw [written]
  exact (plain _ isType).append (sign.append (uncut_escape_from true value.toList))

theorem split_below {type : String} (isType : IsType type) (value parent : String) :
    split? (below (component type value) parent) = some (component type value, parent) := by
  have written : (below (component type value) parent).toList =
      (component type value).toList ++ ',' :: parent.toList := by
    simp [below]
  unfold split?
  rw [written, uncut_component isType, cutFrom, if_neg (by decide), if_pos rfl]
  simp

theorem cut_from_shorter {escaped : Bool} {letters leaf parent : List Char}
    (cut : cutFrom escaped letters = some (leaf, parent)) : parent.length < letters.length := by
  induction letters generalizing escaped leaf with
  | nil => cases cut
  | cons letter rest induction =>
      unfold cutFrom at cut
      split at cut
      · obtain ⟨⟨shorter, _⟩, later, same⟩ := Option.map_eq_some_iff.mp cut
        cases same
        exact Nat.lt_succ_of_lt (induction later)
      · split at cut
        · cases cut
          exact Nat.lt_succ_self _
        · obtain ⟨⟨shorter, _⟩, later, same⟩ := Option.map_eq_some_iff.mp cut
          cases same
          exact Nat.lt_succ_of_lt (induction later)

theorem split_shorter {name leaf parent : String}
    (cut : split? name = some (leaf, parent)) : parent.length < name.length := by
  obtain ⟨⟨first, rest⟩, found, same⟩ := Option.map_eq_some_iff.mp cut
  cases same
  rw [String.length_ofList, ← String.length_toList]
  exact cut_from_shorter found

theorem rename_user_below (username other parent : String) :
    renameUser (below (userComponent username) parent) other =
      below (userComponent other) parent := by
  unfold renameUser userComponent
  rw [split_below is_type_uid]

end TeacherDirectory.DistinguishedName
