import Mathlib.Algebra.Ring.Parity
import Mathlib.Data.List.DropRight
import TeacherDirectory.Proofs.DistinguishedName

/-!
# Commas that cut a name

A comma is escaped if the backslashes directly in front of it are odd in number. A name is cut at its
first comma that is not escaped, and nowhere if there is none, whatever else it holds: nothing is
asked of its components. The place of that comma is between two characters also where it is counted in
bytes. Cutting the parent again and again comes to an end, and the components that come off are the
name when commas are put between them.
-/

namespace TeacherDirectory.DistinguishedName

set_option autoImplicit false

section Runs

def closingBackslashes (letters : List Char) : Nat := (letters.rtakeWhile (· = '\\')).length

/-- What comes next is escaped: every backslash escapes the character behind it, unless it is escaped
itself. -/
abbrev Escapes (front : List Char) : Prop := Odd (closingBackslashes front)

def EscapedBehind (seen letters : List Char) : Prop :=
  ∀ front back, letters = front ++ ',' :: back → Escapes (seen ++ front)

variable {seen letters leaf parent rest : List Char} {letter : Char}

theorem escapes_concat (seen : List Char) (letter : Char) :
    Escapes (seen ++ [letter]) ↔ letter = '\\' ∧ ¬Escapes seen := by
  unfold Escapes closingBackslashes
  rw [List.rtakeWhile_concat]
  by_cases backslash : letter = '\\'
  · rw [if_pos (decide_eq_true backslash), List.length_append, List.length_singleton, Nat.odd_add_one]
    simp [backslash]
  · simp [backslash]

theorem escaped_behind_nil : EscapedBehind seen [] := by
  intro front back same
  cases front <;> cases same

theorem escaped_behind_cons :
    EscapedBehind seen (letter :: rest) ↔
      (letter = ',' → Escapes seen) ∧ EscapedBehind (seen ++ [letter]) rest := by
  constructor
  · intro escaped
    constructor
    · rintro rfl
      simpa using escaped [] rest rfl
    · rintro front back rfl
      simpa using escaped (letter :: front) back rfl
  · rintro ⟨first, further⟩ front back same
    cases front with
    | nil =>
        obtain ⟨rfl, -⟩ := List.cons.inj same
        simpa using first rfl
    | cons head front =>
        obtain ⟨rfl, rfl⟩ := List.cons.inj same
        simpa using further front back rfl

theorem cut_from_cons (seen : List Char) (letter : Char) (rest : List Char) :
    cutFrom (decide (Escapes seen)) (letter :: rest) =
      if letter = ',' ∧ ¬Escapes seen then some ([], rest)
      else (cutFrom (decide (Escapes (seen ++ [letter]))) rest).map fun (leaf, parent) =>
        (letter :: leaf, parent) := by
  by_cases escaped : Escapes seen
  · simp [cutFrom, escapes_concat, escaped]
  · simp [cutFrom, escapes_concat, escaped]

/-- Letters are cut at their first comma that is not escaped. The induction is on the letters that are
left, with those passed so far in front. -/
theorem cut_from_iff :
    cutFrom (decide (Escapes seen)) letters = some (leaf, parent) ↔
      letters = leaf ++ ',' :: parent ∧ EscapedBehind seen leaf ∧ ¬Escapes (seen ++ leaf) := by
  induction letters generalizing seen leaf with
  | nil => simp [cutFrom]
  | cons letter rest induction =>
      rw [cut_from_cons]
      by_cases free : letter = ',' ∧ ¬Escapes seen
      · rw [if_pos free, Option.some_inj, Prod.mk.injEq]
        constructor
        · rintro ⟨rfl, rfl⟩
          exact ⟨congrArg (· :: rest) free.1, escaped_behind_nil, by simpa using free.2⟩
        · rintro ⟨same, escaped, -⟩
          cases leaf with
          | nil => exact ⟨rfl, (List.cons.inj same).2⟩
          | cons head leaf =>
              obtain ⟨rfl, -⟩ := List.cons.inj same
              exact absurd ((escaped_behind_cons.mp escaped).1 free.1) free.2
      · rw [if_neg free, Option.map_eq_some_iff]
        constructor
        · rintro ⟨⟨shorter, behind⟩, cut, same⟩
          obtain ⟨rfl, rfl⟩ := Prod.mk.inj same
          obtain ⟨rfl, escaped, ends⟩ := induction.mp cut
          have first : letter = ',' → Escapes seen := not_and_not_right.mp free
          exact ⟨rfl, escaped_behind_cons.mpr ⟨first, escaped⟩, by simpa using ends⟩
        · rintro ⟨same, escaped, ends⟩
          cases leaf with
          | nil =>
              obtain ⟨comma, -⟩ := List.cons.inj same
              exact absurd ⟨comma, by simpa using ends⟩ free
          | cons head leaf =>
              obtain ⟨rfl, rfl⟩ := List.cons.inj same
              refine ⟨(leaf, parent), induction.mpr ⟨rfl, ?_, by simpa using ends⟩, rfl⟩
              exact (escaped_behind_cons.mp escaped).2

theorem cut_from_none_iff :
    cutFrom (decide (Escapes seen)) letters = none ↔ EscapedBehind seen letters := by
  induction letters generalizing seen with
  | nil => simp [cutFrom, escaped_behind_nil]
  | cons letter rest induction =>
      rw [cut_from_cons, escaped_behind_cons]
      by_cases free : letter = ',' ∧ ¬Escapes seen
      · simp [free.1, free.2]
      · rw [if_neg free, Option.map_eq_none_iff, induction]
        exact (and_iff_right (not_and_not_right.mp free)).symm

end Runs

section Names

def CommasEscaped (name : String) : Prop :=
  ∀ front back, name = front ++ "," ++ back → Odd (closingBackslashes front.toList)

variable {name leaf parent : String}

theorem commas_escaped_iff : CommasEscaped name ↔ EscapedBehind [] name.toList := by
  constructor
  · intro escaped front back same
    have cut : name = String.ofList front ++ "," ++ String.ofList back := by
      rw [← String.toList_inj]
      simpa using same
    simpa using escaped _ _ cut
  · rintro escaped front back rfl
    simpa using escaped front.toList back.toList (by simp)

theorem toList_below (leaf parent : String) :
    (below leaf parent).toList = leaf.toList ++ ',' :: parent.toList := by
  simp [below]

theorem split_iff :
    split? name = some (leaf, parent) ↔
      name = below leaf parent ∧ CommasEscaped leaf ∧ Even (closingBackslashes leaf.toList) := by
  have start : cutFrom false name.toList = some (leaf.toList, parent.toList) ↔ _ :=
    @cut_from_iff [] name.toList leaf.toList parent.toList
  rw [commas_escaped_iff, ← Nat.not_odd_iff_even, ← String.toList_inj, toList_below]
  refine Iff.trans ?_ start
  unfold split?
  rw [Option.map_eq_some_iff]
  constructor
  · rintro ⟨⟨first, rest⟩, cut, same⟩
    obtain ⟨rfl, rfl⟩ := Prod.mk.inj same
    simpa using cut
  · intro cut
    exact ⟨_, cut, by simp⟩

theorem split_none_iff : split? name = none ↔ CommasEscaped name := by
  unfold split?
  rw [Option.map_eq_none_iff, commas_escaped_iff]
  exact @cut_from_none_iff [] name.toList

end Names

section Bytes

/-- The part of a text in front of an offset in bytes. There is none if the offset is not between two
characters of the text. -/
def textBefore? (text : String) (offset : Nat) : Option String :=
  if between : (String.Pos.Raw.mk offset).IsValid text then
    some (text.sliceTo ⟨⟨offset⟩, between⟩).copy
  else none

def textFrom? (text : String) (offset : Nat) : Option String :=
  if between : (String.Pos.Raw.mk offset).IsValid text then
    some (text.sliceFrom ⟨⟨offset⟩, between⟩).copy
  else none

/-- The number of bytes in front of the first comma that no backslash escapes, counted from an offset
on. -/
def commaOffset? (escaped : Bool) (offset : Nat) : List Char → Option Nat
  | [] => none
  | letter :: rest =>
      if escaped then commaOffset? false (offset + letter.utf8Size) rest
      else if letter = ',' then some offset
      else commaOffset? (letter = '\\') (offset + letter.utf8Size) rest

/-- The cut as it is made on the bytes of a name: in front of a comma and one byte behind that place.
The inner result is missing if one of the places falls into a character. -/
def cutBytes? (name : String) : Option (Option (String × String)) :=
  (commaOffset? false 0 name.toList).map fun offset => do
    return (← textBefore? name offset, ← textFrom? name (offset + 1))

theorem text_before_append (front back : String) :
    textBefore? (front ++ back) front.utf8ByteSize = some front := by
  have between : (String.Pos.Raw.mk front.utf8ByteSize).IsValid (front ++ back) :=
    String.Pos.Raw.isValid_iff_exists_append.mpr ⟨front, back, rfl, rfl⟩
  have splits : (⟨⟨front.utf8ByteSize⟩, between⟩ : (front ++ back).Pos).Splits front back :=
    ⟨rfl, rfl⟩
  rw [textBefore?, dif_pos between, splits.copy_sliceTo_eq]

theorem text_from_append (front back : String) :
    textFrom? (front ++ back) front.utf8ByteSize = some back := by
  have between : (String.Pos.Raw.mk front.utf8ByteSize).IsValid (front ++ back) :=
    String.Pos.Raw.isValid_iff_exists_append.mpr ⟨front, back, rfl, rfl⟩
  have splits : (⟨⟨front.utf8ByteSize⟩, between⟩ : (front ++ back).Pos).Splits front back :=
    ⟨rfl, rfl⟩
  rw [textFrom?, dif_pos between, splits.copy_sliceFrom_eq]

theorem comma_offset (escaped : Bool) (offset : Nat) (letters : List Char) :
    commaOffset? escaped offset letters =
      (cutFrom escaped letters).map fun (leaf, _) => offset + (String.ofList leaf).utf8ByteSize := by
  induction letters generalizing escaped offset with
  | nil => rfl
  | cons letter rest induction =>
      have longer (leaf : List Char) : offset + letter.utf8Size + (String.ofList leaf).utf8ByteSize =
          offset + (String.ofList (letter :: leaf)).utf8ByteSize := by
        have cut : String.ofList (letter :: leaf) =
            String.singleton letter ++ String.ofList leaf := by
          rw [← String.toList_inj]
          simp
        rw [cut, String.utf8ByteSize_append, String.utf8ByteSize_singleton, Nat.add_assoc]
      unfold commaOffset? cutFrom
      split
      · simp [induction, Option.map_map, Function.comp_def, longer]
      · split
        · simp
        · simp [induction, Option.map_map, Function.comp_def, longer]

theorem cut_bytes (name : String) : cutBytes? name = (split? name).map some := by
  unfold cutBytes?
  rw [comma_offset]
  cases cut : split? name with
  | none =>
      have uncut : cutFrom false name.toList = none := Option.map_eq_none_iff.mp cut
      rw [uncut]
      rfl
  | some parts =>
      obtain ⟨leaf, parent⟩ := parts
      obtain ⟨⟨first, rest⟩, found, same⟩ := Option.map_eq_some_iff.mp cut
      obtain ⟨rfl, -⟩ := Prod.mk.inj same
      obtain ⟨joined, -, -⟩ := split_iff.mp cut
      have beforeComma : textBefore? name (String.ofList first).utf8ByteSize =
          some (String.ofList first) := by
        rw [joined, below, String.append_assoc]
        exact text_before_append _ _
      have behindComma : textFrom? name ((String.ofList first).utf8ByteSize + 1) = some parent := by
        have place : (String.ofList first).utf8ByteSize + 1 =
            (String.ofList first ++ ",").utf8ByteSize := by
          rw [String.utf8ByteSize_append]
          rfl
        rw [place, joined, below]
        exact text_from_append _ _
      rw [found]
      simp [beforeComma, behindComma]

end Bytes

section Components

/-- Cutting a name, then its parent and so on takes off these components, the last of which has no
parent. -/
inductive SplitsInto : String → List String → Prop
  | last {name : String} (uncut : split? name = none) : SplitsInto name [name]
  | leaf {name leaf parent : String} {components : List String}
      (cut : split? name = some (leaf, parent)) (further : SplitsInto parent components) :
      SplitsInto name (leaf :: components)

variable {name : String} {components others : List String}

theorem SplitsInto.nonempty (splits : SplitsInto name components) : components ≠ [] := by
  cases splits <;> exact List.cons_ne_nil _ _

theorem SplitsInto.unique (splits : SplitsInto name components)
    (otherSplits : SplitsInto name others) : others = components := by
  induction splits generalizing others with
  | last uncut =>
      cases otherSplits with
      | last => rfl
      | leaf cut => cases uncut.symm.trans cut
  | leaf cut further unique =>
      cases otherSplits with
      | last uncut => cases uncut.symm.trans cut
      | leaf otherCut otherFurther =>
          obtain ⟨rfl, rfl⟩ := Prod.mk.inj (Option.some.inj (cut.symm.trans otherCut))
          rw [unique otherFurther]

theorem SplitsInto.joined (splits : SplitsInto name components) :
    ",".intercalate components = name := by
  induction splits with
  | last => exact String.intercalate_singleton
  | leaf cut further joined =>
      rw [String.intercalate_cons_of_ne_nil further.nonempty, joined]
      exact (split_iff.mp cut).1.symm

/-- Cutting comes to an end, because every parent is shorter than its name. -/
theorem splits_into_components (name : String) : ∃ components, SplitsInto name components := by
  induction size : name.length using Nat.strong_induction_on generalizing name with
  | _ size induction =>
      subst size
      cases cut : split? name with
      | none => exact ⟨[name], .last cut⟩
      | some parts =>
          obtain ⟨components, further⟩ := induction _ (split_shorter cut) parts.2 rfl
          exact ⟨parts.1 :: components, .leaf cut further⟩

end Components

/-- A name is cut at its first comma that is not escaped and nowhere else: the leaf in front of it has
escaped commas only and no open backslash at its end. Every text can be cut, at places between its
characters, into finitely many components, and they make up the text again. -/
theorem name_cut_at_first_free_comma (name : String) :
    (∀ leaf parent, split? name = some (leaf, parent) ↔
        name = leaf ++ "," ++ parent ∧ CommasEscaped leaf ∧
          Even (closingBackslashes leaf.toList)) ∧
      (split? name = none ↔ CommasEscaped name) ∧
      cutBytes? name = (split? name).map some ∧
      ∃ components, (∀ others, SplitsInto name others ↔ others = components) ∧
        ",".intercalate components = name := by
  refine ⟨fun leaf parent => split_iff, split_none_iff, cut_bytes name, ?_⟩
  obtain ⟨components, splits⟩ := splits_into_components name
  refine ⟨components, fun others => ⟨splits.unique, ?_⟩, splits.joined⟩
  rintro rfl
  exact splits

example : split? "uid=ä\\\\\\,b\\\\,ou=x" = some ("uid=ä\\\\\\,b\\\\", "ou=x") := by decide +kernel

end TeacherDirectory.DistinguishedName
