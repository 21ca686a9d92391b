import Mathlib.Data.List.TakeWhile
import TeacherDirectory.Proofs.Filter.Grammar
import TeacherDirectory.Proofs.Text.Utf8

/-!
# Filters have one reading

The grammar derives some texts in more than one way. The text of a filter that is made here is
derived in one way only, whatever values it asserts: parentheses, signs and asterisks stand only where
the filter puts them, because no escaped value holds any. So the letter behind a parenthesis tells the
kind of a filter, the sign behind a name tells the comparison, and a value ends at the next
parenthesis. By induction on the filter, no text at the front of the filter's is another filter.
-/

namespace TeacherDirectory.Filter

set_option autoImplicit false

open Text

theorem cut_unique {inside : Char → Bool} {first second rest other : List Char} {stop halt : Char}
    (firstInside : ∀ letter ∈ first, inside letter = true)
    (secondInside : ∀ letter ∈ second, inside letter = true) (stops : ¬inside stop = true)
    (halts : ¬inside halt = true) (same : first ++ stop :: rest = second ++ halt :: other) :
    first = second ∧ stop = halt ∧ rest = other := by
  have taken := congrArg (List.takeWhile inside) same
  rw [List.takeWhile_append_of_pos firstInside, List.takeWhile_append_of_pos secondInside,
    List.takeWhile_cons_of_neg stops, List.takeWhile_cons_of_neg halts, List.append_nil,
    List.append_nil] at taken
  subst taken
  exact ⟨rfl, List.cons.inj (List.append_cancel_left same)⟩

theorem cut_front {inside : Char → Bool} {first rest other : List Char} {stop halt : Char}
    (firstInside : ∀ letter ∈ first, inside letter = true) (stops : ¬inside stop = true)
    (halts : ¬inside halt = true) (same : first ++ stop :: rest = halt :: other) :
    first = [] ∧ stop = halt ∧ rest = other :=
  @cut_unique inside first [] rest other stop halt firstInside (by simp) stops halts same

def isNameLetter (letter : Char) : Bool := isKeyLetter letter || letter = '.' || letter = ';'

variable {letters text asserted rest other behind : List Char} {value : Bytes} {letter : Char}
  {name : String} {read : Condition} {reads : List Condition} {filter : Filter String}
  {filters : List (Filter String)}

theorem key_letter_named (ofKey : isKeyLetter letter = true) : isNameLetter letter = true := by
  simp [isNameLetter, ofKey]

theorem key_named (key : isKey letters = true) : ∀ letter ∈ letters, isNameLetter letter = true := by
  cases letters with
  | nil => cases key
  | cons first rest =>
      obtain ⟨starts, goesOn⟩ := Bool.and_eq_true_iff.mp key
      intro letter member
      rcases List.mem_cons.mp member with rfl | later
      · exact key_letter_named (by simp [isKeyLetter, Char.isAlphanum, starts])
      · exact key_letter_named (List.all_eq_true.mp goesOn letter later)

theorem number_named (number : isNumber letters = true) :
    letters ≠ [] ∧ ∀ letter ∈ letters, isNameLetter letter = true := by
  have digit_named {digit : Char} (isDigit : digit.isDigit = true) : isNameLetter digit = true :=
    key_letter_named (by simp [isKeyLetter, Char.isAlphanum, isDigit])
  unfold isNumber at number
  split at number
  next => cases number
  next digit => simpa using digit_named number
  next first rest _ =>
    obtain ⟨starts, goesOn⟩ := Bool.and_eq_true_iff.mp number
    refine ⟨List.cons_ne_nil _ _, fun letter member => ?_⟩
    rcases List.mem_cons.mp member with rfl | later
    · exact digit_named (Bool.and_eq_true_iff.mp starts).1
    · exact digit_named (List.all_eq_true.mp goesOn letter later)

theorem IsIdentifier.named (identifies : IsIdentifier letters) :
    letters ≠ [] ∧ ∀ letter ∈ letters, isNameLetter letter = true := by
  cases identifies with
  | key key =>
      refine ⟨?_, key_named key⟩
      rintro rfl
      cases key
  | @numeric first second others numbers =>
      have each := fun number member => number_named (numbers number member)
      refine ⟨by simp [(each first List.mem_cons_self).1], fun letter member => ?_⟩
      rcases List.mem_append.mp member with inFirst | later
      · exact (each first List.mem_cons_self).2 letter inFirst
      · obtain ⟨number, listed, inNumber⟩ := List.mem_flatMap.mp later
        rcases List.mem_cons.mp inNumber with rfl | inside
        · decide
        · exact (each number (List.mem_cons_of_mem first listed)).2 letter inside

theorem IsAttribute.named (described : IsAttribute letters) :
    letters ≠ [] ∧ ∀ letter ∈ letters, isNameLetter letter = true := by
  cases described with
  | @described type options identifies _ keys =>
      refine ⟨by simp [identifies.named.1], fun letter member => ?_⟩
      rcases List.mem_append.mp member with inType | later
      · exact identifies.named.2 letter inType
      · obtain ⟨option, listed, inOption⟩ := List.mem_flatMap.mp later
        rcases List.mem_cons.mp inOption with rfl | inside
        · decide
        · exact key_letter_named (List.all_eq_true.mp (keys option listed) letter inside)

def isInside (letter : Char) : Bool := letter ≠ ')' && letter ≠ '*'

theorem inside_of (holds : Char → Prop) (here : holds letter) (notThere : ¬holds ')')
    (norThere : ¬holds '*') : isInside letter = true := by
  have noParenthesis : letter ≠ ')' := fun same => notThere (same ▸ here)
  have noAsterisk : letter ≠ '*' := fun same => norThere (same ▸ here)
  simp [isInside, noParenthesis, noAsterisk]

theorem normal_inside (plain : isNormal letter = true) : isInside letter = true :=
  inside_of (fun letter => isNormal letter = true) plain (by decide) (by decide)

theorem digit_inside {digit : Char} {number : Nat} (reads : hexValue? digit = some number) :
    isInside digit = true :=
  inside_of (fun digit => hexValue? digit = some number) reads (fun none => by cases none)
    (fun none => by cases none)

theorem IsValue.inside (isValue : IsValue text value) : ∀ letter ∈ text, isInside letter = true := by
  induction isValue with
  | nothing => simp
  | @normal letter text value plain further inside =>
      intro other member
      rcases List.mem_cons.mp member with rfl | later
      · exact normal_inside plain
      · exact inside other later
  | @escaped high low byte text value digits further inside =>
      obtain ⟨number, highRead, digits⟩ := Option.bind_eq_some_iff.mp digits
      obtain ⟨_, lowRead, -⟩ := Option.bind_eq_some_iff.mp digits
      intro other member
      rcases List.mem_cons.mp member with rfl | member
      · decide
      rcases List.mem_cons.mp member with rfl | member
      · exact digit_inside highRead
      rcases List.mem_cons.mp member with rfl | member
      · exact digit_inside lowRead
      · exact inside other member

theorem IsValue.unique {different : Bytes} (isValue : IsValue text value)
    (isOther : IsValue text different) : value = different := by
  induction isValue generalizing different with
  | nothing =>
      cases isOther
      rfl
  | normal plain further unique =>
      cases isOther with
      | normal _ otherFurther => rw [unique otherFurther]
      | escaped => cases plain
  | escaped digits further unique =>
      cases isOther with
      | normal plain => cases plain
      | escaped otherDigits otherFurther =>
          rw [Option.some.inj (digits.symm.trans otherDigits), unique otherFurther]

theorem is_value_character (letter : Char) (further : IsValue text value) :
    IsValue (escapeCharacter letter ++ text) (String.utf8EncodeChar letter ++ value) := by
  unfold escapeCharacter
  by_cases asterisk : letter = '*'
  · subst asterisk
    exact .escaped (by decide) further
  by_cases opening : letter = '('
  · subst opening
    exact .escaped (by decide) further
  by_cases closing : letter = ')'
  · subst closing
    exact .escaped (by decide) further
  by_cases backslash : letter = '\\'
  · subst backslash
    exact .escaped (by decide) further
  by_cases null : letter = '\x00'
  · subst null
    exact .escaped (by decide) further
  rw [if_neg asterisk, if_neg opening, if_neg closing, if_neg backslash, if_neg null]
  exact .normal (by simp [isNormal, asterisk, opening, closing, backslash, null]) further

theorem is_value_escape (value : String) : IsValue (escapeValue value).toList (encode value) := by
  obtain ⟨letters, rfl⟩ : ∃ letters, value = String.ofList letters :=
    ⟨value.toList, String.ofList_toList.symm⟩
  unfold escapeValue
  rw [String.toList_ofList, String.toList_ofList, encode_of_list]
  induction letters with
  | nil => exact .nothing
  | cons letter letters induction => exact is_value_character letter induction

theorem Comparison.sign_front (comparison : Comparison) :
    ∃ stop after, comparison.sign = stop :: after ∧ isNameLetter stop = false ∧
      (stop = '=' → comparison = .equal ∧ after = []) := by
  cases comparison with
  | equal => exact ⟨_, _, rfl, by decide, fun _ => ⟨rfl, rfl⟩⟩
  | approximate => exact ⟨_, _, rfl, by decide, fun impossible => absurd impossible (by decide)⟩
  | atLeast => exact ⟨_, _, rfl, by decide, fun impossible => absurd impossible (by decide)⟩
  | atMost => exact ⟨_, _, rfl, by decide, fun impossible => absurd impossible (by decide)⟩

theorem IsSubject.named {subject : Option String} (isSubject : IsSubject letters subject) :
    ∀ letter ∈ letters, isNameLetter letter = true := by
  cases isSubject with
  | absent => simp
  | given described => exact described.named.2

theorem colon_front {mark chosen : List Char} {ofName : Bool} {rule : Option String}
    (isMark : IsNameMark mark ofName) (isRule : IsRule chosen rule) (after : List Char) :
    ∃ further, mark ++ (chosen ++ ':' :: after) = ':' :: further := by
  cases isMark with
  | absent =>
      cases isRule with
      | absent => exact ⟨after, rfl⟩
      | given => exact ⟨_, rfl⟩
  | given => exact ⟨_, rfl⟩

/-- What a text behind the name of an attribute and a sign of equality asserts. -/
inductive Asserts (name : String) : List Char → Condition → Prop
  | equal {text : List Char} {value : Bytes} (isValue : IsValue text value) :
      Asserts name text (.compare name .equal value)
  | present : Asserts name ['*'] (.present name)
  | substrings {front between behind : List Char} {start finish : Option Bytes}
      {middle : List Bytes} (starts : IsEnd front start) (goesOn : IsMiddle between middle)
      (finishes : IsEnd behind finish) (notLone : front ++ (between ++ behind) ≠ ['*']) :
      Asserts name (front ++ (between ++ behind)) (.substrings name start middle finish)

/-- A name with a sign of equality behind it is the name that an item is about, because the sign is no
letter of a name and no other comparison begins with it. -/
theorem IsItem.asserts (isItem : IsItem text read) (described : IsAttribute name.toList)
    (same : text ++ rest = name.toList ++ '=' :: behind) :
    ∃ asserted, text = name.toList ++ '=' :: asserted ∧ asserted ++ rest = behind ∧
      Asserts name asserted read := by
  have about {subject after : List Char} {stop : Char}
      (named : ∀ letter ∈ subject, isNameLetter letter = true) (stops : isNameLetter stop = false)
      (same : subject ++ stop :: after = name.toList ++ '=' :: behind) :
      subject = name.toList ∧ stop = '=' ∧ after = behind :=
    cut_unique named described.named.2 (Bool.eq_false_iff.mp stops) (by decide) same
  cases isItem with
  | @simple other comparison written value isName isValue =>
      obtain ⟨stop, after, sign, stops, onlyEqual⟩ := comparison.sign_front
      rw [sign, List.append_assoc, List.append_assoc, List.cons_append] at same
      obtain ⟨names, equality, further⟩ := about isName.named.2 stops same
      obtain ⟨rfl, rfl⟩ := onlyEqual equality
      cases String.toList_injective names
      exact ⟨written, rfl, further, .equal isValue⟩
  | present isName =>
      rw [List.append_assoc] at same
      obtain ⟨names, -, further⟩ := about isName.named.2 (by decide) same
      cases String.toList_injective names
      exact ⟨['*'], rfl, further, .present⟩
  | substrings isName starts goesOn finishes notLone =>
      rw [List.append_assoc] at same
      obtain ⟨names, -, further⟩ := about isName.named.2 (by decide) same
      cases String.toList_injective names
      exact ⟨_, rfl, further, .substrings starts goesOn finishes notLone⟩
  | extensible isSubject isMark isRule matched isValue =>
      obtain ⟨after, colon⟩ := colon_front isMark isRule _
      rw [colon, List.append_assoc] at same
      obtain ⟨-, impossible, -⟩ := about isSubject.named (by decide) same
      cases impossible

theorem IsItem.front (isItem : IsItem text read) :
    ∃ letter more, text = letter :: more ∧ (isNameLetter letter = true ∨ letter = ':') := by
  have of_name {letters after : List Char} (described : IsAttribute letters) :
      ∃ letter more, letters ++ after = letter :: more ∧
        (isNameLetter letter = true ∨ letter = ':') := by
    obtain ⟨nonempty, named⟩ := described.named
    obtain ⟨letter, more, rfl⟩ := List.exists_cons_of_ne_nil nonempty
    exact ⟨letter, more ++ after, rfl, .inl (named letter List.mem_cons_self)⟩
  cases isItem with
  | simple described => exact of_name described
  | present described => exact of_name described
  | substrings described => exact of_name described
  | extensible isSubject isMark isRule =>
      cases isSubject with
      | absent =>
          obtain ⟨after, colon⟩ := colon_front isMark isRule _
          exact ⟨':', after, colon, .inr rfl⟩
      | given described => exact of_name described

theorem IsEnd.inside {last : Option Bytes} (isEnd : IsEnd text last) :
    ∀ letter ∈ text, isInside letter = true := by
  cases isEnd with
  | absent => simp
  | given isValue => exact isValue.inside

theorem IsMiddle.front {values : List Bytes} (isMiddle : IsMiddle text values) :
    ∃ more, text = '*' :: more := by
  cases isMiddle with
  | asterisk => exact ⟨_, rfl⟩
  | value => exact ⟨_, rfl⟩

/-- An asserted value ends at the parenthesis, since it holds neither that nor an asterisk. -/
theorem Asserts.equal_unique (asserts : Asserts name text read) (isValue : IsValue asserted value)
    (same : text ++ ')' :: rest = asserted ++ ')' :: other) :
    text = asserted ∧ read = .compare name .equal value ∧ rest = other := by
  cases asserts with
  | equal isOther =>
      obtain ⟨rfl, -, further⟩ :=
        cut_unique isOther.inside isValue.inside (by decide) (by decide) same
      rw [isOther.unique isValue]
      exact ⟨rfl, rfl, further⟩
  | present =>
      obtain ⟨-, impossible, -⟩ := cut_front isValue.inside (by decide) (by decide) same.symm
      cases impossible
  | substrings starts goesOn finishes notLone =>
      obtain ⟨more, rfl⟩ := goesOn.front
      rw [List.append_assoc, List.cons_append, List.cons_append] at same
      obtain ⟨-, impossible, -⟩ :=
        cut_unique starts.inside isValue.inside (by decide) (by decide) same
      cases impossible

theorem Asserts.present_unique (asserts : Asserts name text read)
    (same : text ++ ')' :: rest = '*' :: ')' :: other) :
    text = ['*'] ∧ read = .present name ∧ rest = other := by
  cases asserts with
  | equal isValue =>
      obtain ⟨-, impossible, -⟩ := cut_front isValue.inside (by decide) (by decide) same
      cases impossible
  | present => exact ⟨rfl, rfl, (List.cons.inj (List.cons.inj same).2).2⟩
  | substrings starts goesOn finishes notLone =>
      cases goesOn with
      | asterisk =>
          rw [List.append_assoc, List.append_assoc, List.singleton_append] at same
          obtain ⟨rfl, -, further⟩ := cut_front starts.inside (by decide) (by decide) same
          obtain ⟨rfl, -⟩ := cut_front finishes.inside (by decide) (by decide) further
          exact absurd rfl notLone
      | value isValue more =>
          obtain ⟨more, rfl⟩ := more.front
          rw [List.append_assoc, List.append_assoc, List.cons_append] at same
          obtain ⟨-, -, further⟩ := cut_front starts.inside (by decide) (by decide) same
          rw [List.append_assoc, List.cons_append] at further
          obtain ⟨-, impossible, -⟩ := cut_front isValue.inside (by decide) (by decide) further
          cases impossible

theorem IsFilter.by_letter (isFilter : IsFilter text read)
    (same : text ++ rest = '(' :: letter :: other) :
    (∃ inside reads, letter = '&' ∧ text = '(' :: '&' :: (inside ++ [')']) ∧ read = .all reads ∧
        IsFilterList inside reads ∧ inside ++ ')' :: rest = other) ∨
      (∃ inside reads, letter = '|' ∧ text = '(' :: '|' :: (inside ++ [')']) ∧ read = .any reads ∧
        IsFilterList inside reads ∧ inside ++ ')' :: rest = other) ∨
      (∃ inside denied, letter = '!' ∧ text = '(' :: '!' :: (inside ++ [')']) ∧
        read = .not denied ∧ IsFilter inside denied ∧ inside ++ ')' :: rest = other) ∨
      ∃ inside, (isNameLetter letter = true ∨ letter = ':') ∧ text = '(' :: (inside ++ [')']) ∧
        IsItem inside read ∧ inside ++ ')' :: rest = letter :: other := by
  cases isFilter with
  | @all inside reads listed =>
      obtain ⟨-, further⟩ := List.cons.inj same
      obtain ⟨rfl, further⟩ := List.cons.inj further
      exact .inl ⟨inside, reads, rfl, rfl, rfl, listed, by simpa using further⟩
  | @any inside reads listed =>
      obtain ⟨-, further⟩ := List.cons.inj same
      obtain ⟨rfl, further⟩ := List.cons.inj further
      exact .inr (.inl ⟨inside, reads, rfl, rfl, rfl, listed, by simpa using further⟩)
  | @not inside denied isFilter =>
      obtain ⟨-, further⟩ := List.cons.inj same
      obtain ⟨rfl, further⟩ := List.cons.inj further
      exact .inr (.inr (.inl ⟨inside, denied, rfl, rfl, rfl, isFilter, by simpa using further⟩))
  | @item inside _ isItem =>
      obtain ⟨-, further⟩ := List.cons.inj same
      obtain ⟨front, more, rfl, starts⟩ := isItem.front
      obtain ⟨rfl, -⟩ := List.cons.inj further
      exact .inr (.inr (.inr ⟨front :: more, starts, rfl, isItem, by simpa using further⟩))

theorem IsFilter.opens (isFilter : IsFilter text read) : ∃ inside, text = '(' :: inside := by
  cases isFilter <;> exact ⟨_, rfl⟩

theorem IsFilterList.opens (listed : IsFilterList text reads) : ∃ inside, text = '(' :: inside := by
  cases listed with
  | one isFilter => exact isFilter.opens
  | more isFilter _ =>
      obtain ⟨inside, rfl⟩ := isFilter.opens
      exact ⟨_, rfl⟩

theorem letters_equal (name value : String) :
    (equal name value).render.toList =
      '(' :: (name.toList ++ '=' :: ((escapeValue value).toList ++ [')'])) := by
  simp [render]

theorem letters_present (name : String) :
    (present name).render.toList = '(' :: (name.toList ++ '=' :: ['*', ')']) := by
  simp [render]

theorem letters_all (filters : List (Filter String)) :
    (all filters).render.toList = '(' :: '&' :: ((renderAll filters).toList ++ [')']) := by
  simp [render]

theorem letters_any (filters : List (Filter String)) :
    (any filters).render.toList = '(' :: '|' :: ((renderAll filters).toList ++ [')']) := by
  simp [render]

theorem letters_not (filter : Filter String) :
    (not filter).render.toList = '(' :: '!' :: (filter.render.toList ++ [')']) := by
  simp [render]

theorem letters_cons (filter : Filter String) (filters : List (Filter String)) :
    (renderAll (filter :: filters)).toList = filter.render.toList ++ (renderAll filters).toList := by
  simp [renderAll]

theorem render_opens (filter : Filter String) : ∃ inside, filter.render.toList = '(' :: inside := by
  cases filter with
  | equal name value => exact ⟨_, letters_equal name value⟩
  | present name => exact ⟨_, letters_present name⟩
  | all filters => exact ⟨_, letters_all filters⟩
  | any filters => exact ⟨_, letters_any filters⟩
  | not filter => exact ⟨_, letters_not filter⟩

theorem IsFilter.item_named (isFilter : IsFilter text read) (described : IsAttribute name.toList)
    (same : text ++ rest = '(' :: (name.toList ++ '=' :: behind)) :
    ∃ asserted, text = '(' :: (name.toList ++ '=' :: (asserted ++ [')'])) ∧
      asserted ++ ')' :: rest = behind ∧ Asserts name asserted read := by
  obtain ⟨nonempty, named⟩ := described.named
  obtain ⟨letter, more, letters⟩ := List.exists_cons_of_ne_nil nonempty
  have isLetter : isNameLetter letter = true := named letter (by simp [letters])
  have front := same
  rw [letters, List.cons_append] at front
  obtain ⟨_, _, rfl, -⟩ | ⟨_, _, rfl, -⟩ | ⟨_, _, rfl, -⟩ | ⟨inside, -, rfl, isItem, further⟩ :=
    isFilter.by_letter front
  · cases isLetter
  · cases isLetter
  · cases isLetter
  · rw [← List.cons_append, ← letters] at further
    obtain ⟨asserted, rfl, further, asserts⟩ := isItem.asserts described further
    refine ⟨asserted, ?_, further, asserts⟩
    rw [List.append_assoc, List.cons_append]

mutual

theorem derived (filter : Filter String) (expressible : filter.Expressible) :
    IsFilter filter.render.toList filter.condition := by
  match filter with
  | equal name value =>
      have isItem : IsItem (name.toList ++ '=' :: (escapeValue value).toList)
          (.compare name .equal (encode value)) :=
        @IsItem.simple name .equal _ _ expressible (is_value_escape value)
      have isFilter := IsFilter.item isItem
      rw [List.append_assoc] at isFilter
      rw [letters_equal]
      exact isFilter
  | present name =>
      have isFilter := IsFilter.item (.present expressible)
      rw [List.append_assoc] at isFilter
      rw [letters_present]
      exact isFilter
  | all filters =>
      rw [letters_all]
      exact .all (all_derived filters expressible.1 expressible.2)
  | any filters =>
      rw [letters_any]
      exact .any (all_derived filters expressible.1 expressible.2)
  | not filter =>
      rw [letters_not]
      exact .not (derived filter expressible)

theorem all_derived (filters : List (Filter String)) (filled : filters ≠ [])
    (expressible : AllExpressible filters) :
    IsFilterList (renderAll filters).toList (conditions filters) := by
  match filters with
  | [] => exact absurd rfl filled
  | [filter] =>
      have alone : (renderAll [filter]).toList = filter.render.toList := by simp [renderAll]
      rw [alone]
      exact .one (derived filter expressible.1)
  | filter :: next :: others =>
      rw [letters_cons]
      exact .more (derived filter expressible.1)
        (all_derived (next :: others) (List.cons_ne_nil _ _) expressible.2)

end

mutual

/-- A text that begins as the filter's is the filter's, and states what the filter states. -/
theorem unambiguous (filter : Filter String) (expressible : filter.Expressible)
    {text rest other : List Char} {read : Condition} (isFilter : IsFilter text read)
    (same : text ++ rest = filter.render.toList ++ other) :
    text = filter.render.toList ∧ read = filter.condition := by
  match filter with
  | equal name value =>
      rw [letters_equal] at same ⊢
      simp only [List.cons_append, List.append_assoc, List.nil_append] at same
      obtain ⟨asserted, rfl, further, asserts⟩ := isFilter.item_named expressible same
      obtain ⟨rfl, rfl, -⟩ := asserts.equal_unique (is_value_escape value) further
      exact ⟨rfl, rfl⟩
  | present name =>
      rw [letters_present] at same ⊢
      simp only [List.cons_append, List.append_assoc, List.nil_append] at same
      obtain ⟨asserted, rfl, further, asserts⟩ := isFilter.item_named expressible same
      obtain ⟨rfl, rfl, -⟩ := asserts.present_unique further
      exact ⟨rfl, rfl⟩
  | all filters =>
      rw [letters_all] at same ⊢
      simp only [List.cons_append, List.append_assoc, List.nil_append] at same
      obtain ⟨inside, reads, -, rfl, rfl, listed, further⟩ | ⟨_, _, impossible, -⟩ |
        ⟨_, _, impossible, -⟩ | ⟨_, impossible, -⟩ := isFilter.by_letter same
      · obtain ⟨rfl, rfl⟩ := all_unambiguous filters expressible.1 expressible.2 listed further
        exact ⟨rfl, rfl⟩
      · exact absurd impossible (by decide)
      · exact absurd impossible (by decide)
      · exact absurd impossible (by decide)
  | any filters =>
      rw [letters_any] at same ⊢
      simp only [List.cons_append, List.append_assoc, List.nil_append] at same
      obtain ⟨_, _, impossible, -⟩ | ⟨inside, reads, -, rfl, rfl, listed, further⟩ |
        ⟨_, _, impossible, -⟩ | ⟨_, impossible, -⟩ := isFilter.by_letter same
      · exact absurd impossible (by decide)
      · obtain ⟨rfl, rfl⟩ := all_unambiguous filters expressible.1 expressible.2 listed further
        exact ⟨rfl, rfl⟩
      · exact absurd impossible (by decide)
      · exact absurd impossible (by decide)
  | not filter =>
      rw [letters_not] at same ⊢
      simp only [List.cons_append, List.append_assoc, List.nil_append] at same
      obtain ⟨_, _, impossible, -⟩ | ⟨_, _, impossible, -⟩ |
        ⟨inside, denied, -, rfl, rfl, isDenied, further⟩ | ⟨_, impossible, -⟩ :=
        isFilter.by_letter same
      · exact absurd impossible (by decide)
      · exact absurd impossible (by decide)
      · obtain ⟨rfl, rfl⟩ := unambiguous filter expressible isDenied further
        exact ⟨rfl, rfl⟩
      · exact absurd impossible (by decide)

theorem all_unambiguous (filters : List (Filter String)) (filled : filters ≠ [])
    (expressible : AllExpressible filters) {text rest other : List Char} {reads : List Condition}
    (listed : IsFilterList text reads)
    (same : text ++ ')' :: rest = (renderAll filters).toList ++ ')' :: other) :
    text = (renderAll filters).toList ∧ reads = conditions filters := by
  match filters with
  | [] => exact absurd rfl filled
  | filter :: others =>
      rw [letters_cons] at same ⊢
      rw [List.append_assoc] at same
      cases listed with
      | one isFilter =>
          obtain ⟨rfl, rfl⟩ := unambiguous filter expressible.1 isFilter same
          cases others with
          | nil => exact ⟨by simp [renderAll], rfl⟩
          | cons next others =>
              obtain ⟨inside, opens⟩ := render_opens next
              have further := List.append_cancel_left same
              rw [letters_cons, opens] at further
              cases further
      | more isFilter listed =>
          rw [List.append_assoc] at same
          obtain ⟨rfl, rfl⟩ := unambiguous filter expressible.1 isFilter same
          have further := List.append_cancel_left same
          cases others with
          | nil =>
              obtain ⟨inside, rfl⟩ := listed.opens
              cases further
          | cons next others =>
              obtain ⟨rfl, rfl⟩ := all_unambiguous (next :: others) (List.cons_ne_nil _ _)
                expressible.2 listed further
              exact ⟨rfl, rfl⟩

end

/-- A text is derived as this condition and no other one, and no shorter text at its front is derived
at all. -/
def StandsFor (text : String) (condition : Condition) : Prop :=
  ∀ count read, IsFilter (text.toList.take count) read ↔
    text.toList.length ≤ count ∧ read = condition

theorem render_stands_for (expressible : filter.Expressible) :
    StandsFor filter.render filter.condition := by
  intro count read
  constructor
  · intro isFilter
    have parts : filter.render.toList.take count ++ filter.render.toList.drop count =
        filter.render.toList ++ [] := by
      rw [List.take_append_drop, List.append_nil]
    obtain ⟨whole, same⟩ := unambiguous filter expressible isFilter parts
    have size := congrArg List.length whole
    rw [List.length_take] at size
    exact ⟨by omega, same⟩
  · rintro ⟨long, rfl⟩
    rw [List.take_of_length_le long]
    exact derived filter expressible

theorem escape_value_injective {value other : String} (same : escapeValue value = escapeValue other) :
    value = other :=
  encode_injective ((is_value_escape value).unique (same ▸ is_value_escape other))

theorem is_attribute_of_key (key : isKey name.toList = true) : IsAttribute name.toList := by
  have described : IsAttribute (name.toList ++ [].flatMap (';' :: ·)) :=
    .described (.key key) (by simp) (by simp)
  rwa [List.flatMap_nil, List.append_nil] at described

end TeacherDirectory.Filter
