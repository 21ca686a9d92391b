import TeacherDirectory.Proofs.Json.Records

/-!
# Reading members

A reader that knows nothing of the keys takes an object apart into its members, each with its key and
the text of its value. So a text is an object of one list of members only, and what one wants to know
of it can be looked up there.
-/

namespace TeacherDirectory.Json

set_option autoImplicit false

def readMember (budget : Nat) (text : List Char) :
    Except Fault ((String × List Char) × Char × List Char) := do
  let (key, afterKey) ← readQuoted text
  match skipBlanks afterKey with
  | [] => throw .ended
  | colon :: afterColon =>
      if colon ≠ ':' then throw .malformed
      let value := skipBlanks afterColon
      let afterValue ← skipValue budget value
      match skipBlanks afterValue with
      | [] => throw .ended
      | next :: rest =>
          return ((String.ofList key, value.take (value.length - afterValue.length)), next, rest)

/-- Reads the members of an object, from the first key on. The budget bounds their number. -/
def readMembersFrom : Nat → List Char → Except Fault (List (String × List Char) × List Char)
  | 0, _ => .error .ended
  | budget + 1, text => do
      let (told, next, rest) ← readMember budget text
      if next = '\x7d' then return ([told], rest)
      else if next = ',' then
        match skipBlanks rest with
        | [] => throw .ended
        | mark :: rest =>
            if mark = '"' then
              let (members, rest) ← readMembersFrom budget rest
              return (told :: members, rest)
            else throw .malformed
      else throw .malformed

def membersOf (document : String) : Except Fault (List (String × List Char)) :=
  match skipBlanks document.toList with
  | [] => .error .ended
  | first :: text =>
      if first ≠ '\x7b' then .error .malformed
      else match skipBlanks text with
        | [] => .error .ended
        | first :: rest => do
            let (members, rest) ←
              if first = '\x7d' then pure ([], rest)
              else if first = '"' then readMembersFrom (text.length + 1) rest
              else throw .malformed
            if (skipBlanks rest).isEmpty then return members else throw .malformed

variable {letter : Char} {rest : List Char} {budget : Nat} {told : String × List Char}
  {members others : List (String × List Char)} {document : String}

theorem read_member {member : Member} (holds : member.Holds told)
    (enough : member.value.text.length ≤ budget) (stop : isStop letter = true)
    (notBlank : isBlank letter = false) :
    readMember budget (member.name.text ++
        '"' :: (member.name.after ++ ':' :: (member.value.letters ++ letter :: rest))) =
      .ok (told, letter, rest) := by
  obtain ⟨key, text⟩ := told
  obtain ⟨spells, rfl, isValue⟩ := holds
  dsimp only at spells isValue
  have stops : Stops (member.value.after ++ letter :: rest) :=
    stops_after member.value.blankAfter stop
  have skipped := isValue.skippable budget _ enough stops
  have shown : skipBlanks (member.value.letters ++ letter :: rest) =
      member.value.text ++ (member.value.after ++ letter :: rest) := by
    obtain ⟨first, others, starts, noStop⟩ := isValue.first
    rw [Padded.letters, List.append_assoc, List.append_assoc, skip_blanks member.value.blankBefore,
      starts, List.cons_append, skip_no_blank (no_stop_no_blank noStop)]
  rw [readMember, read_spelled spells]
  simp only [bind, Except.bind, String.ofList_toList]
  rw [skip_blanks member.name.blankAfter, skip_no_blank rfl]
  simp only [ne_eq, not_true_eq_false, if_false, shown, skipped, pure, Except.pure]
  rw [skip_blanks member.value.blankAfter, skip_no_blank notBlank]
  simp

theorem read_members_from {written : List Member} {first : List Char}
    (holds : List.Forall₂ Member.Holds members written)
    (enough : (commas (written.map Member.letters)).length ≤ budget)
    (begins : skipBlanks (commas (written.map Member.letters) ++ '\x7d' :: rest) = '"' :: first) :
    readMembersFrom budget first = .ok (members, rest) := by
  induction holds generalizing budget first with
  | nil => cases begins
  | @cons told member members written here further induction =>
      obtain rfl := begins_name begins
      have within := member.value_within
      cases further with
      | nil =>
          rw [List.map_cons, List.map_nil, commas_single] at enough
          obtain ⟨budget, rfl⟩ : ∃ less, budget = less + 1 := Nat.exists_eq_add_one.mpr (by omega)
          rw [readMembersFrom, List.map_nil, behind, read_member here (by omega) rfl rfl]
          rfl
      | @cons _ next _ written _ _ =>
          simp only [List.map_cons, commas_more, List.length_append, List.length_cons] at enough
          obtain ⟨budget, rfl⟩ : ∃ less, budget = less + 1 := Nat.exists_eq_add_one.mpr (by omega)
          obtain ⟨others, starts⟩ :=
            members_first (List.cons_ne_nil next written) ('\x7d' :: rest)
          have fits : (commas ((next :: written).map Member.letters)).length ≤ budget := by
            rw [List.map_cons]
            omega
          have later := induction fits starts
          rw [List.map_cons] at starts ⊢
          rw [readMembersFrom, behind, read_member here (by omega) rfl rfl]
          simp only [bind, Except.bind, Char.reduceEq, if_false, if_true, starts, later]
          rfl

theorem members_of (isObject : IsObject members document.toList) :
    membersOf document = .ok members := by
  rw [membersOf]
  generalize document.toList = letters at isObject
  cases isObject with
  | @object written before body after blankBefore blankAfter listed holds =>
      rw [skip_blanks blankBefore, skip_no_blank rfl]
      simp only [ne_eq, not_true_eq_false, if_false]
      generalize same : written.map Member.letters = letters at listed
      cases listed with
      | none areBlanks =>
          obtain rfl := List.map_eq_nil_iff.mp same
          obtain rfl := List.forall₂_nil_right_iff.mp holds
          rw [skip_blanks areBlanks, skip_no_blank rfl]
          simp [bind, Except.bind, pure, Except.pure, no_blanks_left blankAfter]
      | items nonempty =>
          subst same
          obtain ⟨others, begins⟩ :=
            members_first (nonempty ∘ List.map_eq_nil_iff.mpr) ('\x7d' :: after)
          have enough : (commas (written.map Member.letters)).length ≤
              (commas (written.map Member.letters) ++ '\x7d' :: after).length + 1 := by
            rw [List.length_append]
            omega
          rw [begins]
          simp only [Char.reduceEq, if_false, if_true]
          rw [read_members_from holds enough begins]
          simp [bind, Except.bind, pure, Except.pure, no_blanks_left blankAfter]

/-- The members of an object are told by its text. -/
theorem IsObject.unique (isObject : IsObject members document.toList)
    (again : IsObject others document.toList) : others = members :=
  Except.ok.inj ((members_of again).symm.trans (members_of isObject))

end TeacherDirectory.Json
