import TeacherDirectory.Json.Record
import TeacherDirectory.Proofs.Json.Values

/-!
# Reading records

What is read as a record depends on the values of its items or members alone: blanks do not count, and
neither does the way in which a text is spelled. A member that is not known is passed over, whatever its
value is. Each reader is held to the grammar from both sides, so what it refuses is known as well.
-/

namespace TeacherDirectory.Json

set_option autoImplicit false

variable {letter : Char} {text rest left : List Char} {budget : Nat} {field : Field}
  {fields : List Field} {found : Found} {value : Option String} {result : Found × List Char}

inductive Reads (field : Field) : List Char → Option String → Prop
  | text {value : String} {letters : List Char} (spells : Spells value.toList letters) :
      Reads field (quoted letters) (some value)
  | null (optional : field.required = false) : Reads field ['n', 'u', 'l', 'l'] none

section Fields

theorem quoted_inj {letters others : List Char} (same : quoted letters = quoted others) :
    letters = others :=
  List.append_cancel_right (List.cons.inj same).2

theorem reads_quoted {letters : List Char} : Reads field (quoted letters) value ↔
    ∃ characters : String, value = some characters ∧ Spells characters.toList letters := by
  constructor
  · intro reads
    generalize same : quoted letters = text at reads
    cases reads with
    | text spells => exact ⟨_, rfl, quoted_inj same ▸ spells⟩
    | null => cases (List.cons.inj same).1
  · rintro ⟨characters, rfl, spells⟩
    exact .text spells

theorem reads_null : Reads field ['n', 'u', 'l', 'l'] value ↔
    value = none ∧ field.required = false := by
  constructor
  · intro reads
    generalize same : ['n', 'u', 'l', 'l'] = text at reads
    cases reads with
    | text => cases (List.cons.inj same).1
    | null optional => exact ⟨rfl, optional⟩
  · rintro ⟨rfl, optional⟩
    exact .null optional

theorem Reads.unique {other : Option String} (reads : Reads field text value)
    (others : Reads field text other) : value = other := by
  cases reads with
  | text spells =>
      obtain ⟨characters, rfl, again⟩ := reads_quoted.mp others
      rw [String.toList_inj.mp (spells.unique again)]
  | null => exact (reads_null.mp others).1.symm

theorem IsValue.kinds (isValue : IsValue text) :
    (∃ letters, IsQuoted letters ∧ text = quoted letters) ∨ text = ['n', 'u', 'l', 'l'] ∨
      ∃ letter rest,
        text = letter :: rest ∧ isBlank letter = false ∧ letter ≠ '"' ∧ letter ≠ 'n' := by
  cases isValue with
  | string isQuoted => exact .inl ⟨_, isQuoted, rfl⟩
  | null => exact .inr (.inl rfl)
  | number isNumber =>
      obtain ⟨letter, rest, rfl, numeral⟩ := isNumber.first
      refine .inr (.inr ⟨letter, rest, rfl, ?_⟩)
      rcases numeral with rfl | isDigit
      · decide
      · refine ⟨no_stop_no_blank (digit_no_stop isDigit), ?_, ?_⟩ <;> (rintro rfl; cases isDigit)
  | _ => exact .inr (.inr ⟨_, _, rfl, rfl, by decide, by decide⟩)

theorem read_string {value : String} {letters : List Char} (isQuoted : IsQuoted letters) :
    readText (quoted letters ++ rest) = .ok (value, left) ↔
      Spells value.toList letters ∧ left = rest := by
  rw [readText, quoted, List.cons_append, skip_no_blank rfl, List.append_assoc]
  constructor
  · intro read
    obtain ⟨⟨characters, behind⟩, read, same⟩ := map_ok_iff.mp read
    obtain ⟨spells, rfl⟩ := (read_quoted_exact isQuoted).mp read
    cases same
    exact ⟨by rwa [String.toList_ofList], rfl⟩
  · rintro ⟨spells, rfl⟩
    exact map_ok_iff.mpr ⟨_, read_spelled spells left, by simp⟩

theorem read_field_text (notBlank : isBlank letter = false) (notNull : letter ≠ 'n') :
    readField field (letter :: rest) =
      (readText (letter :: rest)).map fun (value, left) => (some value, left) := by
  rw [readField, readOptional, skip_no_blank notBlank]
  simp only [if_neg notNull, ite_self]

/-- The text of a value is read as what it is for the field, up to its end. -/
theorem read_field_iff (isValue : IsValue text) :
    readField field (text ++ rest) = .ok (value, left) ↔ Reads field text value ∧ left = rest := by
  rcases isValue.kinds with ⟨letters, isQuoted, rfl⟩ | rfl | ⟨letter, others, rfl, notBlank, notMark,
    notNull⟩
  · have asText : readField field (quoted letters ++ rest) =
        (readText (quoted letters ++ rest)).map fun (value, left) => (some value, left) :=
      read_field_text rfl (by decide)
    rw [asText, reads_quoted]
    constructor
    · intro read
      obtain ⟨⟨characters, behind⟩, read, same⟩ := map_ok_iff.mp read
      obtain ⟨spells, rfl⟩ := (read_string isQuoted).mp read
      cases same
      exact ⟨⟨characters, rfl, spells⟩, rfl⟩
    · rintro ⟨⟨characters, rfl, spells⟩, rfl⟩
      exact map_ok_iff.mpr ⟨_, (read_string isQuoted).mpr ⟨spells, rfl⟩, rfl⟩
  · rw [reads_null]
    cases required : field.required with
    | true =>
        simp [readField, required, readText, skipBlanks, isBlank, Except.map]
    | false =>
        simp [readField, required, readOptional, skipBlanks, isBlank, Except.map, skipWord, eq_comm]
  · have unread : ¬Reads field (letter :: others) value := by
      intro reads
      generalize same : letter :: others = text at reads
      cases reads with
      | text => exact notMark (List.cons.inj same).1
      | null => exact notNull (List.cons.inj same).1
    rw [List.cons_append, read_field_text notBlank notNull, readText, skip_no_blank notBlank]
    simp [notMark, unread, Except.map]

theorem read_field_blanks (field : Field) (text : List Char) :
    readField field (skipBlanks text) = readField field text := by
  simp only [readField, readText, readOptional, skip_blanks_again]

theorem read_field_padded {item : Padded} (isValue : IsValue item.text) :
    readField field (item.letters ++ rest) = .ok (value, left) ↔
      Reads field item.text value ∧ left = item.after ++ rest := by
  rw [← read_field_blanks, Padded.letters, List.append_assoc, List.append_assoc,
    skip_blanks item.blankBefore, read_field_blanks]
  exact read_field_iff isValue

end Fields

inductive Lists : List Field → List (List Char) → List (Option String) → Prop
  | none : Lists [] [] []
  | more {field : Field} {fields : List Field} {text : List Char} {texts : List (List Char)}
      {value : Option String} {values : List (Option String)} (reads : Reads field text value)
      (further : Lists fields texts values) :
      Lists (field :: fields) (text :: texts) (value :: values)

section Items

variable {items : List Padded} {values : List (Option String)}

theorem refused_iff {fault : Fault} {texts : List (List Char)} {same : Prop}
    (never : ¬Lists fields texts values) :
    (.error fault = (.ok (values, left) : Except Fault (List (Option String) × List Char))) ↔
      Lists fields texts values ∧ same :=
  iff_of_false (fun read => by cases read) fun both => never both.1

theorem lists_cons {texts : List (List Char)} :
    Lists (field :: fields) (text :: texts) values ↔
      ∃ value further, values = value :: further ∧ Reads field text value ∧
        Lists fields texts further := by
  constructor
  · intro lists
    cases lists with
    | more reads further => exact ⟨_, _, rfl, reads, further⟩
  · rintro ⟨value, further, rfl, reads, others⟩
    exact .more reads others

theorem read_item_iff {item : Padded} {texts : List (List Char)} {tail ends : List Char}
    (isValue : IsValue item.text)
    (others : ∀ {further : List (Option String)},
      readItems false fields (item.after ++ tail) = .ok (further, left) ↔
        Lists fields texts further ∧ left = ends) :
    (do
        let (value, rest) ← readField field (skipBlanks (item.letters ++ tail))
        let (values, rest) ← readItems false fields rest
        return (value :: values, rest)) = (.ok (values, left) : Except Fault _) ↔
      Lists (field :: fields) (item.text :: texts) values ∧ left = ends := by
  rw [read_field_blanks, bind_ok_iff, lists_cons]
  constructor
  · rintro ⟨⟨value, after⟩, read, later⟩
    obtain ⟨reads, rfl⟩ := (read_field_padded isValue).mp read
    obtain ⟨⟨further, left⟩, readFurther, same⟩ := bind_ok_iff.mp later
    cases same
    obtain ⟨lists, ended⟩ := others.mp readFurther
    exact ⟨⟨value, further, rfl, reads, lists⟩, ended⟩
  · rintro ⟨⟨value, further, rfl, reads, lists⟩, ended⟩
    have read : readField field (item.letters ++ tail) = .ok (value, item.after ++ tail) :=
      (read_field_padded isValue).mpr ⟨reads, rfl⟩
    exact ⟨_, read, bind_ok_iff.mpr ⟨_, others.mpr ⟨lists, ended⟩, rfl⟩⟩

theorem read_further_iff {blanks : List Char} (areBlanks : AreBlanks blanks)
    (isValues : ∀ item ∈ items, IsValue item.text) :
    readItems false fields (blanks ++ behind ']' (items.map Padded.letters) rest) =
        .ok (values, left) ↔
      Lists fields (items.map Padded.text) values ∧ left = rest := by
  induction fields generalizing blanks items values with
  | nil =>
      rw [readItems, skip_blanks areBlanks]
      cases items with
      | nil =>
          rw [List.map_nil, behind, skip_no_blank rfl]
          constructor
          · intro read
            cases read
            exact ⟨.none, rfl⟩
          · rintro ⟨⟨⟩, rfl⟩
            rfl
      | cons item items =>
          rw [List.map_cons, behind, skip_no_blank rfl]
          exact refused_iff fun lists => by cases lists
  | cons field fields induction =>
      rw [readItems, skip_blanks areBlanks]
      cases items with
      | nil =>
          rw [List.map_nil, behind, skip_no_blank rfl]
          exact refused_iff fun lists => by cases lists
      | cons item items =>
          rcases List.forall_mem_cons.mp isValues with ⟨first, others⟩
          obtain ⟨letter, letters, begins, noStop⟩ :=
            items_first (List.cons_ne_nil item items) isValues (']' :: rest)
          have further : letter ≠ ']' := by
            rintro rfl
            cases noStop
          rw [List.map_cons] at begins ⊢
          rw [behind, skip_no_blank rfl]
          simp only [Char.reduceEq, Bool.false_eq_true, if_false, if_true]
          rw [begins]
          simp only [if_neg further]
          rw [← begins, commas_behind]
          exact read_item_iff first (induction item.blankAfter others)

/-- The items of an array are read as the values of the fields, one for each. -/
theorem read_items_iff {body : List Char} (listed : IsListing (items.map Padded.letters) body)
    (isValues : ∀ item ∈ items, IsValue item.text) :
    readItems true fields (body ++ ']' :: rest) = .ok (values, left) ↔
      Lists fields (items.map Padded.text) values ∧ left = rest := by
  generalize same : items.map Padded.letters = written at listed
  cases listed with
  | none areBlanks =>
      obtain rfl := List.map_eq_nil_iff.mp same
      cases fields with
      | nil =>
          rw [readItems, ← readItems]
          exact read_further_iff areBlanks isValues
      | cons field fields =>
          rw [readItems, skip_blanks areBlanks, skip_no_blank rfl]
          exact refused_iff fun lists => by cases lists
  | items nonempty =>
      subst same
      cases items with
      | nil => exact (nonempty rfl).elim
      | cons item items =>
          rcases List.forall_mem_cons.mp isValues with ⟨first, others⟩
          obtain ⟨letter, letters, begins, noStop⟩ :=
            items_first (List.cons_ne_nil item items) isValues (']' :: rest)
          have further : letter ≠ ']' := by
            rintro rfl
            cases noStop
          cases fields with
          | nil =>
              rw [readItems, begins]
              simp only [if_neg further]
              exact refused_iff fun lists => by cases lists
          | cons field fields =>
              rw [readItems, begins]
              simp only [if_neg further, if_true]
              rw [← begins, List.map_cons, commas_behind]
              exact read_item_iff first (read_further_iff item.blankAfter others)

end Items

inductive Adds (fields : List Field) (found : Found) : String × List Char → Found → Prop
  | passed {key : String} {text : List Char}
      (unknown : (fields.find? fun field => field.key = key) = none) :
      Adds fields found (key, text) found
  | taken {key : String} {text : List Char} {field : Field} {value : Option String}
      (known : (fields.find? fun field => field.key = key) = some field)
      (fresh : found.lookup key = none) (reads : Reads field text value) :
      Adds fields found (key, text) ((key, value) :: found)

section Members

def readOn (fields : List Field) (budget : Nat) (found : Found) (letter : Char)
    (rest : List Char) : Except Fault (Found × List Char) :=
  if letter = '\x7d' then .ok (found, rest)
  else if letter = ',' then
    match skipBlanks rest with
    | [] => .error .ended
    | mark :: rest =>
        if mark = '"' then readMembers fields budget found rest else .error .malformed
  else .error .malformed

theorem read_member_iff {member : Member} {told : String × List Char} {result : Found × List Char}
    (holds : member.Holds told) (enough : member.value.text.length ≤ budget)
    (stop : isStop letter = true) (notBlank : isBlank letter = false) :
    readMembers fields (budget + 1) found (member.name.text ++
        '"' :: (member.name.after ++ ':' :: (member.value.letters ++ letter :: rest))) = .ok result ↔
      ∃ between, Adds fields found told between ∧
        readOn fields budget between letter rest = .ok result := by
  obtain ⟨key, text⟩ := told
  obtain ⟨spells, rfl, isValue⟩ := holds
  have skipped : skipValue budget (member.value.letters ++ letter :: rest) =
      .ok (member.value.after ++ letter :: rest) := skip_padded isValue.skippable enough stop
  rw [readMembers, read_spelled spells]
  simp only [bind, Except.bind, String.ofList_toList]
  rw [skip_blanks member.name.blankAfter, skip_no_blank rfl]
  cases known : fields.find? fun field => field.key = key with
  | none =>
      simp only [Option.isSome_none, Bool.false_and, Bool.false_eq_true, if_false, ne_eq,
        not_true_eq_false, skipped, pure, Except.pure]
      rw [skip_blanks member.value.blankAfter, skip_no_blank notBlank]
      constructor
      · intro read
        exact ⟨found, .passed known, read⟩
      · rintro ⟨_, _ | ⟨taken, _, _⟩, read⟩
        · exact read
        · rw [known] at taken
          cases taken
  | some field =>
      cases earlier : found.lookup key with
      | some value =>
          simp only [Option.isSome_some, Bool.and_self, if_true]
          constructor
          · exact nofun
          · rintro ⟨_, unknown | ⟨_, fresh, _⟩, -⟩
            · rw [known] at unknown
              cases unknown
            · rw [earlier] at fresh
              cases fresh
      | none =>
          simp only [Option.isSome_some, Option.isSome_none, Bool.and_false, Bool.false_eq_true,
            if_false, ne_eq, not_true_eq_false, pure, Except.pure]
          constructor
          · intro read
            cases taken : readField field (member.value.letters ++ letter :: rest) with
            | error fault =>
                rw [taken] at read
                cases read
            | ok pair =>
                obtain ⟨value, left⟩ := pair
                obtain ⟨reads, rfl⟩ := (read_field_padded isValue).mp taken
                rw [taken] at read
                dsimp only at read
                rw [skip_blanks member.value.blankAfter, skip_no_blank notBlank] at read
                exact ⟨_, .taken known earlier reads, read⟩
          · rintro ⟨_, unknown | ⟨same, _, reads⟩, read⟩
            · rw [known] at unknown
              cases unknown
            · obtain rfl := Option.some.inj (known.symm.trans same)
              rw [(read_field_padded isValue).mpr ⟨reads, rfl⟩]
              dsimp only
              rw [skip_blanks member.value.blankAfter, skip_no_blank notBlank]
              exact read

def Gathers (fields : List Field) : Found → List (String × List Char) → Found → Prop
  | found, [], result => result = found
  | found, told :: members, result =>
      ∃ between, Adds fields found told between ∧ Gathers fields between members result

theorem Member.value_within (member : Member) :
    member.value.text.length < member.letters.length := by
  simp only [letters, Padded.letters, quoted, List.length_append, List.length_cons]
  omega

theorem begins_name {member : Member} {written : List Member} {others : List Char}
    (begins : skipBlanks (commas ((member :: written).map Member.letters) ++ '\x7d' :: rest) =
      '"' :: others) :
    others = member.name.text ++ '"' :: (member.name.after ++ ':' :: (member.value.letters ++
      behind '\x7d' (written.map Member.letters) rest)) := by
  rw [List.map_cons, commas_behind, skip_to_name] at begins
  exact (List.cons.inj begins).2.symm

/-- The members of an object are read from the first key on, and its brace ends them. -/
theorem read_members_iff {members : List (String × List Char)} {written : List Member}
    {others : List Char} {result : Found × List Char}
    (holds : List.Forall₂ Member.Holds members written)
    (enough : (commas (written.map Member.letters)).length ≤ budget)
    (begins : skipBlanks (commas (written.map Member.letters) ++ '\x7d' :: rest) = '"' :: others) :
    readMembers fields budget found others = .ok result ↔
      Gathers fields found members result.1 ∧ result.2 = rest := by
  induction holds generalizing budget found others with
  | nil => cases begins
  | @cons told member members written here further induction =>
      obtain rfl := begins_name begins
      have within := member.value_within
      cases further with
      | nil =>
          rw [List.map_cons, List.map_nil, commas_single] at enough
          obtain ⟨budget, rfl⟩ : ∃ less, budget = less + 1 := Nat.exists_eq_add_one.mpr (by omega)
          rw [List.map_nil, behind, read_member_iff here (by omega) rfl rfl]
          constructor
          · rintro ⟨between, adds, same⟩
            cases same
            exact ⟨⟨between, adds, rfl⟩, rfl⟩
          · rintro ⟨⟨between, adds, same⟩, ended⟩
            exact ⟨between, adds, congrArg _ (Prod.ext same.symm ended.symm)⟩
      | @cons _ next _ written _ _ =>
          simp only [List.map_cons, commas_more, List.length_append, List.length_cons] at enough
          obtain ⟨budget, rfl⟩ : ∃ less, budget = less + 1 := Nat.exists_eq_add_one.mpr (by omega)
          obtain ⟨others, starts⟩ :=
            members_first (List.cons_ne_nil next written) ('\x7d' :: rest)
          have fits : (commas ((next :: written).map Member.letters)).length ≤ budget := by
            rw [List.map_cons]
            omega
          have follows (between : Found) :
              readOn fields budget between ','
                  (commas ((next :: written).map Member.letters) ++ '\x7d' :: rest) =
                readMembers fields budget between others := by
            rw [readOn, starts]
            rfl
          rw [List.map_cons] at follows ⊢
          rw [behind, read_member_iff here (by omega) rfl rfl]
          constructor
          · rintro ⟨between, adds, read⟩
            rw [follows] at read
            obtain ⟨gathers, ended⟩ := (induction fits starts).mp read
            exact ⟨⟨between, adds, gathers⟩, ended⟩
          · rintro ⟨⟨between, adds, gathers⟩, ended⟩
            refine ⟨between, adds, ?_⟩
            rw [follows]
            exact (induction fits starts).mpr ⟨gathers, ended⟩

theorem conclude_iff {read : Except Fault (Found × List Char)} {values : List (Option String)} :
    (do let (found, rest) ← read; return (← Found.values found fields, rest)) =
        (.ok (values, left) : Except Fault _) ↔
      ∃ found, read = .ok (found, left) ∧ Found.values found fields = .ok values := by
  rw [bind_ok_iff]
  constructor
  · rintro ⟨⟨found, rest⟩, same, ends⟩
    obtain ⟨taken, valued, ended⟩ := bind_ok_iff.mp ends
    cases ended
    exact ⟨found, same, valued⟩
  · rintro ⟨found, same, valued⟩
    exact ⟨(found, left), same, bind_ok_iff.mpr ⟨values, valued, rfl⟩⟩

theorem read_object_iff {members : List (String × List Char)} {written : List Member}
    {body : List Char} {values : List (Option String)}
    (listed : IsListing (written.map Member.letters) body)
    (holds : List.Forall₂ Member.Holds members written) :
    readObject fields (body ++ '\x7d' :: rest) = .ok (values, left) ↔
      (∃ found, Gathers fields [] members found ∧ Found.values found fields = .ok values) ∧
        left = rest := by
  rw [readObject]
  generalize same : written.map Member.letters = letters at listed
  cases listed with
  | none areBlanks =>
      obtain rfl := List.map_eq_nil_iff.mp same
      obtain rfl := List.forall₂_nil_right_iff.mp holds
      rw [skip_blanks areBlanks, skip_no_blank rfl]
      simp only [if_true]
      refine conclude_iff.trans ?_
      constructor
      · rintro ⟨found, read, valued⟩
        cases read
        exact ⟨⟨[], rfl, valued⟩, rfl⟩
      · rintro ⟨⟨found, rfl, valued⟩, rfl⟩
        exact ⟨[], rfl, valued⟩
  | items nonempty =>
      subst same
      obtain ⟨others, begins⟩ :=
        members_first (nonempty ∘ List.map_eq_nil_iff.mpr) ('\x7d' :: rest)
      have enough : (commas (written.map Member.letters)).length ≤
          (commas (written.map Member.letters) ++ '\x7d' :: rest).length + 1 := by
        rw [List.length_append]
        omega
      rw [begins]
      simp only [Char.reduceEq, if_false, if_true]
      refine conclude_iff.trans ?_
      constructor
      · rintro ⟨found, read, valued⟩
        obtain ⟨gathers, ended⟩ := (read_members_iff holds enough begins).mp read
        exact ⟨⟨found, gathers, valued⟩, ended⟩
      · rintro ⟨⟨found, gathers, valued⟩, ended⟩
        exact ⟨found, (read_members_iff holds enough begins).mpr ⟨gathers, ended⟩, valued⟩

end Members

section Whole

variable {members : List (String × List Char)} {values : List (Option String)} {record : String}

theorem no_blanks_left (areBlanks : AreBlanks text) : skipBlanks text = [] :=
  List.dropWhile_eq_nil_iff.mpr areBlanks

theorem end_iff {read : Except Fault (List (Option String) × List Char)} :
    (do
        let (values, rest) ← read
        if (skipBlanks rest).isEmpty then return values else throw .malformed) =
        (.ok values : Except Fault _) ↔
      ∃ rest, read = .ok (values, rest) ∧ skipBlanks rest = [] := by
  rw [bind_ok_iff]
  constructor
  · rintro ⟨⟨found, rest⟩, same, ends⟩
    dsimp only at ends
    split at ends
    · cases ends
      exact ⟨rest, same, List.isEmpty_iff.mp ‹_›⟩
    · cases ends
  · rintro ⟨rest, same, ended⟩
    refine ⟨(values, rest), same, ?_⟩
    dsimp only
    rw [ended]
    rfl

/-- Whatever way an object is written in, a record is read from it as from its members. -/
theorem read_record_object (isObject : IsObject members record.toList) :
    readRecord fields record = .ok values ↔
      ∃ found, Gathers fields [] members found ∧ Found.values found fields = .ok values := by
  rw [readRecord]
  generalize record.toList = letters at isObject
  cases isObject with
  | object blankBefore blankAfter listed holds =>
      rw [skip_blanks blankBefore, skip_no_blank rfl]
      simp only [Char.reduceEq, if_false, if_true]
      refine end_iff.trans ?_
      constructor
      · rintro ⟨rest, read, -⟩
        exact ((read_object_iff listed holds).mp read).1
      · intro gathered
        exact ⟨_, (read_object_iff listed holds).mpr ⟨gathered, rfl⟩, no_blanks_left blankAfter⟩

theorem read_record_array {items : List (List Char)} (isArray : IsArray items record.toList) :
    readRecord fields record = .ok values ↔ Lists fields items values := by
  rw [readRecord]
  generalize record.toList = letters at isArray
  cases isArray with
  | array blankBefore blankAfter listed isValues =>
      rw [skip_blanks blankBefore, skip_no_blank rfl]
      simp only [if_true]
      refine end_iff.trans ?_
      constructor
      · rintro ⟨rest, read, -⟩
        exact ((read_items_iff listed isValues).mp read).1
      · intro lists
        exact ⟨_, (read_items_iff listed isValues).mpr ⟨lists, rfl⟩, no_blanks_left blankAfter⟩

end Whole

end TeacherDirectory.Json
