import Mathlib.Data.List.DropRight
import TeacherDirectory.Json.Value
import TeacherDirectory.Proofs.Json.Strings

/-!
# Passing over JSON values

Every value of the grammar is passed over to its end, whatever it is made of and however deep it is,
provided that what follows it is what may follow a value inside an array or an object. A number is the
only value that could go on otherwise.
-/

namespace TeacherDirectory.Json

set_option autoImplicit false

variable {letter : Char} {blanks digits sign integer fraction exponent text rest : List Char}
  {budget : Nat}

section Blanks

theorem skip_blanks (areBlanks : AreBlanks blanks) (rest : List Char) :
    skipBlanks (blanks ++ rest) = skipBlanks rest :=
  List.dropWhile_append_of_pos areBlanks

theorem skip_no_blank (notBlank : isBlank letter = false) (rest : List Char) :
    skipBlanks (letter :: rest) = letter :: rest := by
  rw [skipBlanks, List.dropWhile_cons_of_neg (by rw [notBlank]; exact Bool.false_ne_true)]

theorem skip_blanks_again (text : List Char) : skipBlanks (skipBlanks text) = skipBlanks text :=
  List.dropWhile_idempotent isBlank text

theorem skip_value_blanks (budget : Nat) (text : List Char) :
    skipValue budget (skipBlanks text) = skipValue budget text := by
  cases budget with
  | zero => simp only [skipValue]
  | succ budget => simp only [skipValue, skip_blanks_again]

theorem skip_items_blanks (budget : Nat) (text : List Char) :
    skipItems budget (skipBlanks text) = skipItems budget text := by
  cases budget with
  | zero => simp only [skipItems]
  | succ budget => simp only [skipItems, skip_value_blanks]

theorem skip_members_blanks (budget : Nat) (text : List Char) :
    skipMembers budget (skipBlanks text) = skipMembers budget text := by
  cases budget with
  | zero => simp only [skipMembers]
  | succ budget => simp only [skipMembers, skip_blanks_again]

/-- The characters that may follow a value inside an array or an object. -/
def isStop (letter : Char) : Bool :=
  isBlank letter || (letter = ',' || (letter = ']' || letter = '\x7d'))

def Stops (rest : List Char) : Prop := ∀ letter ∈ rest.head?, isStop letter = true

theorem stop_cases (stop : isStop letter = true) :
    letter ∈ [' ', '\n', '\t', '\r', ',', ']', '\x7d'] := by
  simpa [isStop, isBlank, or_assoc] using stop

theorem stop_marks (stop : isStop letter = true) :
    letter.isDigit = false ∧ letter ≠ '.' ∧ letter ≠ 'e' ∧ letter ≠ 'E' := by
  have among := stop_cases stop
  simp only [List.mem_cons, List.not_mem_nil, or_false] at among
  rcases among with rfl | rfl | rfl | rfl | rfl | rfl | rfl <;> decide

theorem stops_after (areBlanks : AreBlanks blanks) (stop : isStop letter = true) :
    Stops (blanks ++ letter :: rest) := by
  cases blanks with
  | nil => simpa [Stops] using stop
  | cons blank blanks =>
      have isBlank : isBlank blank = true := areBlanks blank List.mem_cons_self
      simp [Stops, isStop, isBlank]

end Blanks

section Numbers

def NoDigit (rest : List Char) : Prop := ∀ letter ∈ rest.head?, letter.isDigit = false

theorem Stops.noDigit (stops : Stops rest) : NoDigit rest := fun letter first =>
  (stop_marks (stops letter first)).1

theorem skip_digits (areDigits : AreDigits digits) (noDigit : NoDigit rest) :
    skipDigits (digits ++ rest) = rest := by
  rw [skipDigits, List.dropWhile_append_of_pos areDigits]
  cases rest with
  | nil => rfl
  | cons letter rest =>
      have notDigit : letter.isDigit = false := noDigit letter rfl
      exact List.dropWhile_cons_of_neg (by rw [notDigit]; exact Bool.false_ne_true)

theorem digits_lead (nonempty : digits ≠ []) (areDigits : AreDigits digits) :
    ∃ digit others, digits = digit :: others ∧ digit.isDigit = true := by
  cases digits with
  | nil => exact (nonempty rfl).elim
  | cons digit digits => exact ⟨digit, digits, rfl, areDigits digit List.mem_cons_self⟩

theorem skip_exponent (signs : sign = [] ∨ sign = ['+'] ∨ sign = ['-']) (nonempty : digits ≠ [])
    (areDigits : AreDigits digits) (stops : Stops rest) :
    skipExponent (sign ++ (digits ++ rest)) = .ok rest := by
  have skipped := skip_digits areDigits stops.noDigit
  obtain ⟨digit, others, rfl, isDigit⟩ := digits_lead nonempty areDigits
  rw [List.cons_append] at skipped
  have noSign : digit ≠ '+' ∧ digit ≠ '-' := by
    constructor <;> (rintro rfl; cases isDigit)
  rcases signs with rfl | rfl | rfl <;> simp [skipExponent, noSign, isDigit, skipped]

/-- The exponent of a number ends it; without one it ends before what follows. -/
theorem exponent_cases (isExponent : IsExponent exponent) (stops : Stops rest) :
    NoDigit (exponent ++ rest) ∧
      (exponent = [] ∨ ∃ mark body, exponent = mark :: body ∧ (mark = 'e' ∨ mark = 'E') ∧
        skipExponent (body ++ rest) = .ok rest) := by
  cases isExponent with
  | absent => exact ⟨stops.noDigit, .inl rfl⟩
  | @given mark sign digits marks signs nonempty areDigits =>
      refine ⟨fun letter first => ?_, .inr ⟨mark, sign ++ digits, rfl, marks, ?_⟩⟩
      · obtain rfl : mark = letter := Option.some.inj first
        rcases marks with rfl | rfl <;> rfl
      · rw [List.append_assoc]
        exact skip_exponent signs nonempty areDigits stops

theorem skip_fraction (isFraction : IsFraction fraction) (isExponent : IsExponent exponent)
    (stops : Stops rest) : skipFraction (fraction ++ (exponent ++ rest)) = .ok rest := by
  obtain ⟨noDigit, ends⟩ := exponent_cases isExponent stops
  cases isFraction with
  | absent =>
      rcases ends with rfl | ⟨mark, body, rfl, rfl | rfl, skipped⟩
      · cases rest with
        | nil => rfl
        | cons letter rest =>
            obtain ⟨-, noPoint, noSmall, noCapital⟩ := stop_marks (stops letter rfl)
            simp [skipFraction, noPoint, noSmall, noCapital]
      · exact skipped
      · exact skipped
  | @given digits nonempty areDigits =>
      have passed := skip_digits areDigits noDigit
      obtain ⟨digit, others, rfl, isDigit⟩ := digits_lead nonempty areDigits
      rw [List.cons_append] at passed
      rcases ends with rfl | ⟨mark, body, rfl, rfl | rfl, skipped⟩
      · cases rest with
        | nil => simp_all [skipFraction]
        | cons letter rest =>
            obtain ⟨-, noPoint, noSmall, noCapital⟩ := stop_marks (stops letter rfl)
            simp_all [skipFraction]
      · simp_all [skipFraction]
      · simp_all [skipFraction]

theorem skip_number (isInteger : IsInteger integer) (isFraction : IsFraction fraction)
    (isExponent : IsExponent exponent) (stops : Stops rest) :
    skipNumber (integer ++ (fraction ++ (exponent ++ rest))) = .ok rest := by
  have skipped := skip_fraction isFraction isExponent stops
  have noDigit : NoDigit (fraction ++ (exponent ++ rest)) := by
    cases isFraction with
    | absent => exact (exponent_cases isExponent stops).1
    | given => exact fun letter first => Option.some.inj first ▸ rfl
  cases isInteger with
  | zero =>
      have noFurther : (fraction ++ (exponent ++ rest)).head?.any Char.isDigit = false := by
        cases first : (fraction ++ (exponent ++ rest)).head? with
        | none => rfl
        | some letter => exact noDigit letter first
      rw [List.singleton_append, skipNumber, noFurther, if_neg Bool.false_ne_true, skipped]
  | @positive digit digits leads nonzero further =>
      have areDigits : AreDigits (digit :: digits) := List.forall_mem_cons.mpr ⟨leads, further⟩
      have passed := skip_digits areDigits noDigit
      simp_all [skipNumber]

end Numbers

section Values

def Skippable (text : List Char) : Prop :=
  ∀ budget rest, text.length ≤ budget → Stops rest → skipValue budget (text ++ rest) = .ok rest

theorem IsInteger.leads (isInteger : IsInteger integer) :
    ∃ digit others, integer = digit :: others ∧ digit.isDigit = true := by
  cases isInteger with
  | zero => exact ⟨'0', [], rfl, rfl⟩
  | positive leads _ _ => exact ⟨_, _, rfl, leads⟩

theorem IsNumber.first (isNumber : IsNumber text) :
    ∃ letter rest, text = letter :: rest ∧ (letter = '-' ∨ letter.isDigit = true) := by
  cases isNumber with
  | number signs isInteger _ _ =>
      obtain ⟨digit, others, rfl, isDigit⟩ := isInteger.leads
      rcases signs with rfl | rfl
      · exact ⟨digit, _, rfl, .inr isDigit⟩
      · exact ⟨'-', _, rfl, .inl rfl⟩

theorem digit_no_stop (isDigit : letter.isDigit = true) : isStop letter = false := by
  cases stop : isStop letter with
  | false => rfl
  | true =>
      rw [(stop_marks stop).1] at isDigit
      cases isDigit

theorem no_stop_no_blank (noStop : isStop letter = false) : isBlank letter = false :=
  (Bool.or_eq_false_iff.mp noStop).1

theorem IsValue.first (isValue : IsValue text) :
    ∃ letter rest, text = letter :: rest ∧ isStop letter = false := by
  cases isValue with
  | number isNumber =>
      obtain ⟨letter, rest, rfl, rfl | isDigit⟩ := isNumber.first
      · exact ⟨'-', rest, rfl, rfl⟩
      · exact ⟨letter, rest, rfl, digit_no_stop isDigit⟩
  | _ => exact ⟨_, _, rfl, rfl⟩

theorem skip_number_value (isNumber : IsNumber text) (stops : Stops rest) :
    skipValue (budget + 1) (text ++ rest) = .ok rest := by
  cases isNumber with
  | @number sign integer fraction exponent signs isInteger isFraction isExponent =>
      have skipped := skip_number isInteger isFraction isExponent stops
      rcases signs with rfl | rfl
      · obtain ⟨digit, others, rfl, isDigit⟩ := isInteger.leads
        have apart : digit ≠ 'n' ∧ digit ≠ 't' ∧ digit ≠ 'f' ∧ digit ≠ '"' ∧ digit ≠ '-' := by
          refine ⟨?_, ?_, ?_, ?_, ?_⟩ <;> (rintro rfl; cases isDigit)
        obtain ⟨noNull, noTrue, noFalse, noString, noSign⟩ := apart
        simp only [List.nil_append, List.cons_append, List.append_assoc] at skipped ⊢
        rw [skipValue, skip_no_blank (no_stop_no_blank (digit_no_stop isDigit))]
        simp only [noNull, noTrue, noFalse, noString, noSign, isDigit, if_false, if_true]
        exact skipped
      · simp only [List.cons_append, List.append_assoc]
        rw [skipValue, skip_no_blank rfl]
        exact skipped

theorem skip_padded {item : Padded} (skippable : Skippable item.text)
    (enough : item.text.length ≤ budget) (stop : isStop letter = true) :
    skipValue budget (item.letters ++ letter :: rest) = .ok (item.after ++ letter :: rest) := by
  rw [← skip_value_blanks, Padded.letters, List.append_assoc, List.append_assoc,
    skip_blanks item.blankBefore, skip_value_blanks]
  exact skippable budget _ enough (stops_after item.blankAfter stop)

theorem skip_items {items : List Padded} (nonempty : items ≠ [])
    (skippable : ∀ item ∈ items, Skippable item.text)
    (enough : (commas (items.map Padded.letters)).length < budget) :
    skipItems budget (commas (items.map Padded.letters) ++ ']' :: rest) = .ok rest := by
  induction items generalizing budget with
  | nil => exact (nonempty rfl).elim
  | cons item items induction =>
      obtain ⟨budget, rfl⟩ : ∃ less, budget = less + 1 := Nat.exists_eq_add_one.mpr (by omega)
      rcases List.forall_mem_cons.mp skippable with ⟨first, others⟩
      have itself : item.text.length ≤ item.letters.length := by simp [Padded.letters]; omega
      rw [skipItems]
      cases items with
      | nil =>
          simp only [List.map_cons, List.map_nil, commas_single] at enough ⊢
          refine bind_ok_iff.mpr ⟨_, skip_padded first (by omega) rfl, ?_⟩
          rw [skip_blanks item.blankAfter, skip_no_blank rfl]
          rfl
      | cons next items =>
          simp only [List.map_cons, commas_more, List.length_append, List.length_cons] at enough
          simp only [List.map_cons, commas_more, List.append_assoc, List.cons_append]
          refine bind_ok_iff.mpr ⟨_, skip_padded first (by omega) rfl, ?_⟩
          rw [skip_blanks item.blankAfter, skip_no_blank rfl]
          exact induction (List.cons_ne_nil next items) others (by
            simp only [List.map_cons]; omega)

theorem skip_to_name (member : Member) (rest : List Char) :
    skipBlanks (member.letters ++ rest) = '"' :: (member.name.text ++
      '"' :: (member.name.after ++ ':' :: (member.value.letters ++ rest))) := by
  rw [member.letters_append, skip_blanks member.name.blankBefore, skip_no_blank rfl]

theorem skip_member {member : Member} (isQuoted : IsQuoted member.name.text)
    (skippable : Skippable member.value.text) (enough : member.value.text.length ≤ budget)
    (stop : isStop letter = true) (notBlank : isBlank letter = false) :
    skipMembers (budget + 1) (member.letters ++ letter :: rest) =
      if letter = ',' then skipMembers budget rest
      else if letter = '\x7d' then .ok rest
      else .error .malformed := by
  rw [skipMembers, skip_to_name]
  simp only [ne_eq, not_true_eq_false, if_false]
  rw [skip_quoted isQuoted]
  simp only [bind, Except.bind]
  rw [skip_blanks member.name.blankAfter, skip_no_blank rfl]
  simp only [not_true_eq_false, if_false]
  rw [skip_padded skippable enough stop]
  dsimp only
  rw [skip_blanks member.value.blankAfter, skip_no_blank notBlank]
  rfl

theorem skip_members {members : List Member} (nonempty : members ≠ [])
    (names : ∀ member ∈ members, IsQuoted member.name.text)
    (skippable : ∀ member ∈ members, Skippable member.value.text)
    (enough : (commas (members.map Member.letters)).length < budget) :
    skipMembers budget (commas (members.map Member.letters) ++ '\x7d' :: rest) = .ok rest := by
  induction members generalizing budget with
  | nil => exact (nonempty rfl).elim
  | cons member members induction =>
      obtain ⟨budget, rfl⟩ : ∃ less, budget = less + 1 := Nat.exists_eq_add_one.mpr (by omega)
      rcases List.forall_mem_cons.mp names with ⟨name, otherNames⟩
      rcases List.forall_mem_cons.mp skippable with ⟨first, others⟩
      have itself : member.value.text.length ≤ member.letters.length := by
        simp [Member.letters, Padded.letters, quoted]
        omega
      cases members with
      | nil =>
          simp only [List.map_cons, List.map_nil, commas_single] at enough ⊢
          rw [skip_member name first (by omega) rfl rfl]
          rfl
      | cons next members =>
          simp only [List.map_cons, commas_more, List.length_append, List.length_cons] at enough
          simp only [List.map_cons, commas_more, List.append_assoc, List.cons_append]
          rw [skip_member name first (by omega) rfl rfl]
          exact induction (List.cons_ne_nil next members) otherNames others (by
            simp only [List.map_cons]; omega)

theorem commas_first (first : List Char) (others : List (List Char)) (rest : List Char) :
    ∃ behind, commas (first :: others) ++ rest = first ++ behind := by
  cases others with
  | nil => exact ⟨rest, by rw [commas_single]⟩
  | cons next others => exact ⟨_, by rw [commas_more, List.append_assoc]⟩

theorem items_first {items : List Padded} (nonempty : items ≠ [])
    (values : ∀ item ∈ items, IsValue item.text) (rest : List Char) :
    ∃ letter others, skipBlanks (commas (items.map Padded.letters) ++ rest) = letter :: others ∧
      isStop letter = false := by
  obtain ⟨item, items, rfl⟩ := List.exists_cons_of_ne_nil nonempty
  obtain ⟨letter, others, starts, noStop⟩ := (values item List.mem_cons_self).first
  obtain ⟨behind, splits⟩ := commas_first item.letters (items.map Padded.letters) rest
  refine ⟨letter, others ++ (item.after ++ behind), ?_, noStop⟩
  rw [List.map_cons, splits, Padded.letters, List.append_assoc, skip_blanks item.blankBefore,
    starts, List.append_assoc, List.cons_append, skip_no_blank (no_stop_no_blank noStop)]

theorem members_first {members : List Member} (nonempty : members ≠ []) (rest : List Char) :
    ∃ others, skipBlanks (commas (members.map Member.letters) ++ rest) = '"' :: others := by
  obtain ⟨member, members, rfl⟩ := List.exists_cons_of_ne_nil nonempty
  obtain ⟨behind, splits⟩ := commas_first member.letters (members.map Member.letters) rest
  rw [List.map_cons, splits, skip_to_name]
  exact ⟨_, rfl⟩

theorem skip_array {items : List Padded} {body : List Char}
    (listed : IsListing (items.map Padded.letters) body) (values : ∀ item ∈ items, IsValue item.text)
    (skippable : ∀ item ∈ items, Skippable item.text) (enough : body.length < budget) :
    skipValue (budget + 1) ('[' :: (body ++ ']' :: rest)) = .ok rest := by
  rw [skipValue, skip_no_blank rfl]
  simp only [Char.reduceEq, Char.reduceIsDigit, Bool.false_eq_true, if_false, if_true]
  generalize same : items.map Padded.letters = written at listed
  cases listed with
  | none areBlanks =>
      rw [skip_blanks areBlanks, skip_no_blank rfl]
      rfl
  | items nonempty =>
      subst same
      have nonempty : items ≠ [] := nonempty ∘ List.map_eq_nil_iff.mpr
      have passed : skipItems budget (commas (items.map Padded.letters) ++ ']' :: rest) = .ok rest :=
        skip_items nonempty skippable enough
      obtain ⟨letter, others, begins, noStop⟩ := items_first nonempty values (']' :: rest)
      have further : letter ≠ ']' := by
        rintro rfl
        cases noStop
      rw [← skip_items_blanks, begins] at passed
      rw [begins]
      exact (if_neg further).trans passed

theorem skip_object {members : List Member} {body : List Char}
    (listed : IsListing (members.map Member.letters) body)
    (names : ∀ member ∈ members, IsQuoted member.name.text)
    (skippable : ∀ member ∈ members, Skippable member.value.text) (enough : body.length < budget) :
    skipValue (budget + 1) ('\x7b' :: (body ++ '\x7d' :: rest)) = .ok rest := by
  rw [skipValue, skip_no_blank rfl]
  simp only [Char.reduceEq, Char.reduceIsDigit, Bool.false_eq_true, if_false, if_true]
  generalize same : members.map Member.letters = written at listed
  cases listed with
  | none areBlanks =>
      rw [skip_blanks areBlanks, skip_no_blank rfl]
      rfl
  | items nonempty =>
      subst same
      have nonempty : members ≠ [] := nonempty ∘ List.map_eq_nil_iff.mpr
      have passed : skipMembers budget (commas (members.map Member.letters) ++ '\x7d' :: rest) =
          .ok rest := skip_members nonempty names skippable enough
      obtain ⟨others, begins⟩ := members_first nonempty ('\x7d' :: rest)
      rw [← skip_members_blanks, begins] at passed
      rw [begins]
      exact passed

theorem IsValue.skippable_of (isValue : IsValue text)
    (passed : ∀ budget rest, text.length ≤ budget + 1 → Stops rest →
      skipValue (budget + 1) (text ++ rest) = .ok rest) : Skippable text := by
  intro budget rest enough stops
  cases budget with
  | zero =>
      obtain ⟨letter, others, rfl, -⟩ := isValue.first
      exact (Nat.not_succ_le_zero _ enough).elim
  | succ budget => exact passed budget rest enough stops

/-- Every value is passed over, and nothing of what follows it. The budget counts the values inside,
of which there are fewer than characters. -/
theorem IsValue.skippable (isValue : IsValue text) : Skippable text := by
  induction isValue with
  | null =>
      refine IsValue.null.skippable_of fun _ _ _ _ => ?_
      rw [skipValue, List.cons_append, skip_no_blank rfl]
      rfl
  | yes =>
      refine IsValue.yes.skippable_of fun _ _ _ _ => ?_
      rw [skipValue, List.cons_append, skip_no_blank rfl]
      rfl
  | no =>
      refine IsValue.no.skippable_of fun _ _ _ _ => ?_
      rw [skipValue, List.cons_append, skip_no_blank rfl]
      rfl
  | number isNumber =>
      exact (IsValue.number isNumber).skippable_of fun _ _ _ stops => skip_number_value isNumber stops
  | @string text isQuoted =>
      refine (IsValue.string isQuoted).skippable_of fun budget rest _ _ => ?_
      rw [skipValue, quoted, List.cons_append, skip_no_blank rfl, List.append_assoc]
      exact skip_quoted isQuoted
  | @array items body listed values skippable =>
      refine (IsValue.array listed values).skippable_of fun budget rest enough _ => ?_
      rw [List.cons_append, List.append_assoc]
      exact skip_array listed values skippable (Nat.lt_of_succ_le (by simpa using enough))
  | @object members body listed names values skippable =>
      refine (IsValue.object listed names values).skippable_of fun budget rest enough _ => ?_
      rw [List.cons_append, List.append_assoc]
      exact skip_object listed names skippable (Nat.lt_of_succ_le (by simpa using enough))

end Values

end TeacherDirectory.Json
