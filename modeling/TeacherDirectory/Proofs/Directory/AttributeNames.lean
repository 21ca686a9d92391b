import Mathlib.Data.List.Forall2
import TeacherDirectory.Directory.Entry

/-!
# Spellings of an attribute's name

Attribute names are compared by their keys, in which the letters A to Z are written a to z. Two
names have one key if they agree place by place but for the case of these letters. Every other
character counts as it is written, so names stay apart that differ in the case of a letter beyond
ASCII.
-/

namespace TeacherDirectory.Entry

set_option autoImplicit false

/-- Characters that stand for one letter: they are the same, or one of A to Z and its lower case. -/
inductive OneLetter : Char → Char → Prop
  | same (letter : Char) : OneLetter letter letter
  | lowered {upper lower : Char} (capital : 65 ≤ upper.toNat ∧ upper.toNat ≤ 90)
      (apart : lower.toNat = upper.toNat + 32) : OneLetter upper lower
  | raised {upper lower : Char} (capital : 65 ≤ upper.toNat ∧ upper.toNat ≤ 90)
      (apart : lower.toNat = upper.toNat + 32) : OneLetter lower upper

def OneName (name other : String) : Prop := List.Forall₂ OneLetter name.toList other.toList

theorem code_of_lower (letter : Char) :
    letter.toLower.toNat =
      if 65 ≤ letter.toNat ∧ letter.toNat ≤ 90 then letter.toNat + 32 else letter.toNat := by
  unfold Char.toLower
  by_cases capital : 65 ≤ letter.toNat ∧ letter.toNat ≤ 90
  · have coded : letter.val ≥ 'A'.val ∧ letter.val ≤ 'Z'.val := capital
    have sum : (letter.val + 32).toNat = letter.toNat + 32 := by
      rw [UInt32.toNat_add]
      exact Nat.mod_eq_of_lt (by change letter.toNat + 32 < 4294967296; omega)
    rw [dif_pos coded, if_pos capital]
    exact sum
  · have coded : ¬(letter.val ≥ 'A'.val ∧ letter.val ≤ 'Z'.val) := capital
    rw [dif_neg coded, if_neg capital]

theorem to_lower_eq_iff (letter other : Char) :
    letter.toLower = other.toLower ↔ OneLetter letter other := by
  rw [← Char.toNat_inj, code_of_lower, code_of_lower]
  constructor
  · intro same
    by_cases capital : 65 ≤ letter.toNat ∧ letter.toNat ≤ 90
    · by_cases capital' : 65 ≤ other.toNat ∧ other.toNat ≤ 90
      · rw [if_pos capital, if_pos capital'] at same
        rw [Char.toNat_inj.mp (show letter.toNat = other.toNat by omega)]
        exact .same other
      · rw [if_pos capital, if_neg capital'] at same
        exact .lowered capital same.symm
    · by_cases capital' : 65 ≤ other.toNat ∧ other.toNat ≤ 90
      · rw [if_neg capital, if_pos capital'] at same
        exact .raised capital' same
      · rw [if_neg capital, if_neg capital'] at same
        rw [Char.toNat_inj.mp same]
        exact .same other
  · intro one
    cases one with
    | same => rfl
    | lowered capital apart => rw [if_pos capital, if_neg (by omega), apart]
    | raised capital apart => rw [if_pos capital, if_neg (by omega), apart]

theorem one_name_iff (name other : String) :
    OneName name other ↔ name.toList.map Char.toLower = other.toList.map Char.toLower := by
  have placewise : OneName name other ↔
      List.Forall₂ (fun letter other => Char.toLower letter = Char.toLower other)
        name.toList other.toList := by
    simp only [OneName, to_lower_eq_iff]
  rw [placewise, ← List.forall₂_eq_eq_eq, List.forall₂_map_left_iff, List.forall₂_map_right_iff]

theorem key_eq_iff (name other : String) : key name = key other ↔ OneName name other := by
  rw [one_name_iff, ← String.toList_inj, key, key, String.toList_map, String.toList_map]

instance (name other : String) : Decidable (OneName name other) :=
  decidable_of_iff _ (one_name_iff name other).symm

theorem OneName.symm {name other : String} (one : OneName name other) : OneName other name :=
  (key_eq_iff other name).mp ((key_eq_iff name other).mpr one).symm

theorem OneName.trans {name second third : String} (one : OneName name second)
    (same : OneName second third) : OneName name third :=
  (key_eq_iff name third).mp
    (((key_eq_iff name second).mpr one).trans ((key_eq_iff second third).mpr same))

theorem OneLetter.beyond_ascii {letter other : Char} (one : OneLetter letter other)
    (beyond : 128 ≤ letter.toNat ∨ 128 ≤ other.toNat) : letter = other := by
  cases one with
  | same => rfl
  | lowered capital apart => omega
  | raised capital apart => omega

/-- Names that differ in a character beyond ASCII stay apart, whatever their case. -/
theorem OneName.beyond_ascii {name other : String} (one : OneName name other) {place : Nat}
    {letter read : Char} (written : name.toList[place]? = some letter)
    (spelled : other.toList[place]? = some read)
    (beyond : 128 ≤ letter.toNat ∨ 128 ≤ read.toNat) : letter = read := by
  rcases List.getElem?_eq_some_iff.mp written with ⟨within, rfl⟩
  rcases List.getElem?_eq_some_iff.mp spelled with ⟨inside, rfl⟩
  exact OneLetter.beyond_ascii (List.Forall₂.get one within inside) beyond

end TeacherDirectory.Entry
