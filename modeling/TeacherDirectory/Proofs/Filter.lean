import Mathlib.Data.List.TakeWhile
import TeacherDirectory.Filter
import TeacherDirectory.Proofs.Text.Utf8

/-!
# Filters are read back

The text of a filter is read as the filter it was written from, with every asserted value as the
bytes of its text. Whatever stands in a value, it delimits nothing.
-/

namespace TeacherDirectory.Filter

set_option autoImplicit false

open Text

def IsPlain (byte : UInt8) : Prop := byte.toNat ≠ 0x5c ∧ isValueByte byte = true

theorem read_value_cons {byte : UInt8} (plain : IsPlain byte) (rest : Bytes) :
    readValue? (byte :: rest) =
      (readValue? rest).map fun (value, after) => (byte :: value, after) := by
  rw [readValue?.eq_def (byte :: rest)]
  dsimp only
  rw [if_neg plain.1, if_pos plain.2]
  cases readValue? rest <;> rfl

theorem read_value_plain {bytes rest : Bytes} (plain : ∀ byte ∈ bytes, IsPlain byte) :
    readValue? (bytes ++ rest) =
      (readValue? rest).map fun (value, after) => (bytes ++ value, after) := by
  induction bytes with
  | nil => cases read : readValue? rest <;> simp [read]
  | cons byte bytes induction =>
      rw [List.cons_append, read_value_cons (plain byte List.mem_cons_self),
        induction fun other member => plain other (List.mem_cons_of_mem byte member),
        Option.map_map]
      rfl

theorem read_value_pair {high low decoded : UInt8}
    (digits : hexByte? (Char.ofNat high.toNat) (Char.ofNat low.toNat) = some decoded)
    (rest : Bytes) :
    readValue? (0x5c :: high :: low :: rest) =
      (readValue? rest).map fun (value, after) => (decoded :: value, after) := by
  rw [readValue?.eq_def (0x5c :: high :: low :: rest)]
  dsimp only
  rw [if_pos (by decide)]
  simp only [digits]
  cases readValue? rest <;> rfl

theorem large_byte_plain {byte : UInt8} (large : 0x80 ≤ byte.toNat) : IsPlain byte := by
  refine ⟨by omega, ?_⟩
  simp only [isValueByte, Bool.not_eq_true', Bool.or_eq_false_iff, beq_eq_false_iff_ne]
  omega

theorem plain_character_bytes {character : Char} (noAsterisk : character ≠ '*')
    (noOpening : character ≠ '(') (noClosing : character ≠ ')') (noBackslash : character ≠ '\\')
    (noNull : character ≠ '\x00') :
    ∀ byte ∈ String.utf8EncodeChar character, IsPlain byte := by
  have differs {other : Char} (different : character ≠ other) : character.toNat ≠ other.toNat :=
    fun same => different (Char.toNat_inj.mp same)
  intro byte member
  obtain ⟨small, single⟩ | ⟨-, large⟩ := encode_char_bytes character
  · rw [single, List.mem_singleton] at member
    subst member
    refine ⟨?_, ?_⟩
    · rw [of_nat_byte (by omega)]
      exact differs noBackslash
    · simp only [isValueByte, of_nat_byte (show character.toNat < 256 by omega),
        Bool.not_eq_true', Bool.or_eq_false_iff, beq_eq_false_iff_ne]
      exact ⟨⟨⟨⟨differs noNull, differs noOpening⟩, differs noClosing⟩, differs noAsterisk⟩,
        differs noBackslash⟩
  · exact large_byte_plain (large byte member)

theorem read_value_character (character : Char) (rest : Bytes) :
    readValue? ((escapeCharacter character).flatMap String.utf8EncodeChar ++ rest) =
      (readValue? rest).map fun (value, after) =>
        (String.utf8EncodeChar character ++ value, after) := by
  unfold escapeCharacter
  by_cases asterisk : character = '*'
  · subst asterisk
    exact read_value_pair (by decide) rest
  by_cases opening : character = '('
  · subst opening
    exact read_value_pair (by decide) rest
  by_cases closing : character = ')'
  · subst closing
    exact read_value_pair (by decide) rest
  by_cases backslash : character = '\\'
  · subst backslash
    exact read_value_pair (by decide) rest
  by_cases null : character = '\x00'
  · subst null
    exact read_value_pair (by decide) rest
  rw [if_neg asterisk, if_neg opening, if_neg closing, if_neg backslash, if_neg null,
    List.flatMap_singleton]
  exact read_value_plain (plain_character_bytes asterisk opening closing backslash null)

theorem read_value_escape (value : String) (rest : Bytes) :
    readValue? (encode (escapeValue value) ++ 0x29 :: rest) =
      some (encode value, 0x29 :: rest) := by
  have closed : readValue? (0x29 :: rest) = some ([], 0x29 :: rest) := by
    rw [readValue?.eq_def]
    dsimp only
    rw [if_neg (by decide), if_neg (by decide)]
  obtain ⟨letters, rfl⟩ : ∃ letters, value = String.ofList letters :=
    ⟨value.toList, String.ofList_toList.symm⟩
  unfold escapeValue
  rw [String.toList_ofList, encode_of_list, encode_of_list]
  induction letters with
  | nil => exact closed
  | cons letter letters induction =>
      rw [List.flatMap_cons, List.flatMap_append, List.append_assoc, read_value_character,
        induction]
      rfl

/-- No escaped value begins with an asterisk, which would ask for any value at all. -/
theorem escape_no_asterisk {value : String} {rest after : Bytes} {byte : UInt8}
    (front : encode (escapeValue value) ++ 0x29 :: rest = byte :: after) : byte.toNat ≠ 0x2a := by
  intro asterisk
  have read := read_value_escape value rest
  rw [front, readValue?.eq_def] at read
  dsimp only at read
  have noValue : isValueByte byte = false := by simp [isValueByte, asterisk]
  rw [if_neg (by omega), if_neg (by simp [noValue])] at read
  obtain ⟨-, rfl, -⟩ : _ ∧ byte = 0x29 ∧ _ := by simpa using read
  exact absurd asterisk (by decide)

def IsName (name : String) : Prop := readName? (encode name) = some (name, [])

instance (name : String) : Decidable (IsName name) :=
  inferInstanceAs (Decidable (readName? (encode name) = some (name, [])))

theorem read_name_append {name : String} (isName : IsName name) {separator : UInt8}
    (ends : isNameByte separator = false) (rest : Bytes) :
    readName? (encode name ++ separator :: rest) = some (name, separator :: rest) := by
  unfold IsName at isName
  cases bytes : encode name with
  | nil =>
      rw [bytes] at isName
      cases isName
  | cons first others =>
      rw [bytes] at isName
      unfold readName? at isName ⊢
      rw [List.cons_append]
      dsimp only at isName ⊢
      split at isName
      case isFalse => cases isName
      case isTrue starts =>
        obtain ⟨named, noneLeft⟩ := Prod.mk.inj (Option.some.inj isName)
        have all : ∀ byte ∈ others, isNameByte byte = true := List.dropWhile_eq_nil_iff.mp noneLeft
        rw [if_pos starts, List.takeWhile_append_of_pos all, List.dropWhile_append_of_pos all,
          List.takeWhile_cons_of_neg (by simp [ends]), List.dropWhile_cons_of_neg (by simp [ends]),
          List.append_nil]
        rw [List.takeWhile_eq_self_iff.mpr all] at named
        rw [named]

theorem read_item_equal {name : String} (isName : IsName name) (value : String) (rest : Bytes) :
    readItem? (encode name ++ 0x3d :: (encode (escapeValue value) ++ 0x29 :: rest)) =
      some (equal name (encode value), 0x29 :: rest) := by
  unfold readItem?
  rw [read_name_append isName (by decide)]
  have read := read_value_escape value rest
  cases front : encode (escapeValue value) ++ 0x29 :: rest with
  | nil => simp at front
  | cons byte after =>
      have noAsterisk := escape_no_asterisk front
      rw [front] at read
      simp [noAsterisk, read]

theorem read_item_present {name : String} (isName : IsName name) (rest : Bytes) :
    readItem? (encode name ++ 0x3d :: 0x2a :: rest) = some (present name, rest) := by
  unfold readItem?
  rw [read_name_append isName (by decide)]
  rfl

mutual

def encoded : Filter String → Filter Bytes
  | equal name value => equal name (encode value)
  | present name => present name
  | all conditions => all (encodedAll conditions)
  | any conditions => any (encodedAll conditions)
  | not condition => not (encoded condition)

def encodedAll : List (Filter String) → List (Filter Bytes)
  | [] => []
  | condition :: rest => encoded condition :: encodedAll rest

end

mutual

def WellNamed : Filter String → Prop
  | equal name _ => IsName name
  | present name => IsName name
  | all conditions => AllWellNamed conditions
  | any conditions => AllWellNamed conditions
  | not condition => WellNamed condition

def AllWellNamed : List (Filter String) → Prop
  | [] => True
  | condition :: rest => WellNamed condition ∧ AllWellNamed rest

end

theorem is_name_cons {name : String} (isName : IsName name) :
    ∃ first others, encode name = first :: others ∧ isNameStart first = true := by
  unfold IsName at isName
  cases written : encode name with
  | nil =>
      rw [written] at isName
      cases isName
  | cons first others =>
      refine ⟨first, others, rfl, ?_⟩
      rw [written] at isName
      by_contra noStart
      simp [readName?, noStart] at isName

theorem read_inside_item {name : String} (isName : IsName name) (budget : Nat) (rest : Bytes) :
    readInside? (budget + 1) (encode name ++ rest) = readItem? (encode name ++ rest) := by
  obtain ⟨first, others, written, starts⟩ := is_name_cons isName
  have letter : 0x41 ≤ first.toNat ∧ first.toNat ≤ 0x5a ∨ 0x61 ≤ first.toNat ∧ first.toNat ≤ 0x7a := by
    simpa [isNameStart] using starts
  rw [written, List.cons_append, readInside?.eq_def]
  dsimp only
  rw [if_neg (by omega), if_neg (by omega), if_neg (by omega)]

theorem bytes_equal (name value : String) :
    encode (equal name value).render =
      0x28 :: (encode name ++ 0x3d :: (encode (escapeValue value) ++ [0x29])) := by
  have opening : encode "(" = [0x28] := by decide +kernel
  have sign : encode "=" = [0x3d] := by decide +kernel
  have closing : encode ")" = [0x29] := by decide +kernel
  simp [render, encode_string_append, opening, sign, closing]

theorem bytes_present (name : String) :
    encode (present name).render = 0x28 :: (encode name ++ [0x3d, 0x2a, 0x29]) := by
  have opening : encode "(" = [0x28] := by decide +kernel
  have closing : encode "=*)" = [0x3d, 0x2a, 0x29] := by decide +kernel
  simp [render, encode_string_append, opening, closing]

theorem bytes_all (conditions : List (Filter String)) :
    encode (all conditions).render = 0x28 :: 0x26 :: (encode (renderAll conditions) ++ [0x29]) := by
  have opening : encode "(&" = [0x28, 0x26] := by decide +kernel
  have closing : encode ")" = [0x29] := by decide +kernel
  simp [render, encode_string_append, opening, closing]

theorem bytes_any (conditions : List (Filter String)) :
    encode (any conditions).render = 0x28 :: 0x7c :: (encode (renderAll conditions) ++ [0x29]) := by
  have opening : encode "(|" = [0x28, 0x7c] := by decide +kernel
  have closing : encode ")" = [0x29] := by decide +kernel
  simp [render, encode_string_append, opening, closing]

theorem bytes_not (condition : Filter String) :
    encode (not condition).render = 0x28 :: 0x21 :: (encode condition.render ++ [0x29]) := by
  have opening : encode "(!" = [0x28, 0x21] := by decide +kernel
  have closing : encode ")" = [0x29] := by decide +kernel
  simp [render, encode_string_append, opening, closing]

mutual

/-- A filter is read back from behind its opening parenthesis, whatever follows it. The budget lasts
because it is spent on parentheses, and these are bytes of the filter. -/
theorem read_inside_render (filter : Filter String) (named : filter.WellNamed) (budget : Nat)
    (enough : (encode filter.render).length ≤ budget) :
    ∃ inside, encode filter.render = 0x28 :: inside ∧ ∀ rest,
      closed? (readInside? budget (inside ++ rest)) = some (filter.encoded, rest) := by
  obtain ⟨spent, rfl⟩ : ∃ spent, budget = spent + 1 := by
    cases budget with
    | zero =>
        cases filter <;>
          simp [bytes_equal, bytes_present, bytes_all, bytes_any, bytes_not] at enough
    | succ spent => exact ⟨spent, rfl⟩
  match filter with
  | equal name value =>
      refine ⟨_, bytes_equal name value, fun rest => ?_⟩
      rw [List.append_assoc, read_inside_item named]
      simp only [List.cons_append, List.append_assoc, List.nil_append]
      rw [read_item_equal named]
      rfl
  | present name =>
      refine ⟨_, bytes_present name, fun rest => ?_⟩
      rw [List.append_assoc, read_inside_item named]
      simp only [List.cons_append, List.nil_append]
      rw [read_item_present named]
      rfl
  | all conditions =>
      rw [bytes_all] at enough
      simp only [List.length_cons, List.length_append, List.length_nil] at enough
      refine ⟨_, bytes_all conditions, fun rest => ?_⟩
      simp only [List.cons_append, List.append_assoc, List.nil_append]
      rw [readInside?.eq_def]
      dsimp only
      rw [if_pos (by decide), read_many_render conditions named spent (by omega)]
      rfl
  | any conditions =>
      rw [bytes_any] at enough
      simp only [List.length_cons, List.length_append, List.length_nil] at enough
      refine ⟨_, bytes_any conditions, fun rest => ?_⟩
      simp only [List.cons_append, List.append_assoc, List.nil_append]
      rw [readInside?.eq_def]
      dsimp only
      rw [if_neg (by decide), if_pos (by decide), read_many_render conditions named spent (by omega)]
      rfl
  | not condition =>
      rw [bytes_not] at enough
      simp only [List.length_cons, List.length_append, List.length_nil] at enough
      obtain ⟨inside, written, read⟩ := read_inside_render condition named spent (by omega)
      refine ⟨_, bytes_not condition, fun rest => ?_⟩
      simp only [written, List.cons_append, List.append_assoc, List.nil_append]
      rw [readInside?.eq_def]
      dsimp only
      rw [if_neg (by decide), if_neg (by decide), if_pos (by decide), if_pos (by decide), read]
      rfl

theorem read_many_render (conditions : List (Filter String)) (named : AllWellNamed conditions)
    (budget : Nat) (enough : (encode (renderAll conditions)).length + 1 ≤ budget) (rest : Bytes) :
    readMany budget (encode (renderAll conditions) ++ 0x29 :: rest) =
      some (encodedAll conditions, 0x29 :: rest) := by
  obtain ⟨spent, rfl⟩ : ∃ spent, budget = spent + 1 := ⟨budget - 1, by omega⟩
  match conditions with
  | [] =>
      have nothing : encode (renderAll []) = [] := by decide +kernel
      rw [nothing, List.nil_append, readMany.eq_def]
      rfl
  | condition :: others =>
      have written : encode (renderAll (condition :: others)) =
          encode condition.render ++ encode (renderAll others) := by
        rw [renderAll, encode_string_append]
      rw [written, List.length_append] at enough
      have nonempty : 0 < (encode condition.render).length := by
        cases condition <;> simp [bytes_equal, bytes_present, bytes_all, bytes_any, bytes_not]
      obtain ⟨inside, front, read⟩ := read_inside_render condition named.1 spent (by omega)
      rw [written, front]
      simp only [List.cons_append, List.append_assoc]
      rw [readMany.eq_def]
      dsimp only
      rw [if_pos (by decide), read]
      simp only [Option.bind_eq_bind, Option.bind_some,
        read_many_render others named.2 spent (by omega)]
      rfl

end

/-- A filter whose names are names is read back from its text. -/
theorem read_render {filter : Filter String} (named : filter.WellNamed) :
    read? filter.render = some filter.encoded := by
  obtain ⟨inside, written, read⟩ := read_inside_render filter named _ (Nat.le_refl _)
  unfold read?
  have closed := read []
  rw [List.append_nil, written] at closed
  rw [written]
  simp only [if_pos (show (0x28 : UInt8).toNat = 0x28 by decide), closed]

end TeacherDirectory.Filter
