import TeacherDirectory.Json.Quote
import TeacherDirectory.Proofs.Json.Grammar

/-!
# Strings in JSON texts

A string is read as the characters that it stands for, whichever escapes it is written with, and a
string of the grammar that stands for no characters is not read at all. Passing over a string asks less:
every string of the grammar is passed over, so its end does not depend on what it stands for. What is
written between quotation marks stands for the characters that were given.
-/

namespace TeacherDirectory.Text

set_option autoImplicit false

theorem hex_value_below {digit : Char} {number : Nat} (reads : hexValue? digit = some number) :
    number < 16 := by
  have upTo {limit : Char} (within : digit ≤ limit) : digit.toNat ≤ limit.toNat := within
  unfold hexValue? at reads
  split at reads
  case isTrue decimal =>
    have bounded : digit.toNat ≤ 57 := upTo decimal.2
    have same := Option.some.inj reads
    simp only [Char.reduceToNat] at same
    omega
  case isFalse =>
    split at reads
    case isTrue lower =>
      have bounded : digit.toNat ≤ 102 := upTo lower.2
      have same := Option.some.inj reads
      simp only [Char.reduceToNat] at same
      omega
    case isFalse =>
      split at reads
      case isTrue upper =>
        have bounded : digit.toNat ≤ 70 := upTo upper.2
        have same := Option.some.inj reads
        simp only [Char.reduceToNat] at same
        omega
      case isFalse => cases reads

theorem hex_value_digit : ∀ number < 16, hexValue? (hexDigit number) = some number := by decide

end TeacherDirectory.Text

namespace TeacherDirectory.Json

set_option autoImplicit false

open Text

variable {letter character : Char} {digits escape letters text value rest left : List Char}
  {code : Nat}

theorem bind_ok_iff {First Second : Type} {read : Except Fault First}
    {next : First → Except Fault Second} {result : Second} :
    read >>= next = .ok result ↔ ∃ first, read = .ok first ∧ next first = .ok result := by
  cases read with
  | error fault => exact ⟨nofun, fun ⟨_, impossible, _⟩ => nomatch impossible⟩
  | ok first => exact ⟨fun same => ⟨first, rfl, same⟩, fun ⟨_, same, ends⟩ => by cases same; exact ends⟩

theorem map_ok_iff {First Second : Type} {read : Except Fault First} {image : First → Second}
    {result : Second} :
    read.map image = .ok result ↔ ∃ first, read = .ok first ∧ image first = result := by
  cases read <;> simp [Except.map]

section Escapes

theorem IsUnit.below (isUnit : IsUnit digits code) : code < 0x10000 := by
  cases isUnit with
  | digits firstDigit secondDigit thirdDigit fourthDigit =>
      have high := hex_value_below firstDigit
      have upper := hex_value_below secondDigit
      have lower := hex_value_below thirdDigit
      have low := hex_value_below fourthDigit
      omega

theorem read_unit_iff : readUnit letters = .ok (code, rest) ↔
    ∃ digits, letters = digits ++ rest ∧ IsUnit digits code := by
  constructor
  · intro read
    unfold readUnit at read
    split at read
    next first second third fourth behind =>
      split at read
      next high upper lower low firstDigit secondDigit thirdDigit fourthDigit =>
        cases read
        exact ⟨[first, second, third, fourth], rfl,
          .digits firstDigit secondDigit thirdDigit fourthDigit⟩
      next => cases read
    next => split at read <;> cases read
  · rintro ⟨digits, rfl, isUnit⟩
    cases isUnit with
    | digits firstDigit secondDigit thirdDigit fourthDigit =>
        simp [readUnit, firstDigit, secondDigit, thirdDigit, fourthDigit]

theorem short_escape_iff : shortEscape? letter = some character ↔ Names letter character := by
  constructor
  · intro found
    unfold shortEscape? at found
    split at found <;> cases found <;> constructor
  · intro names
    cases names <;> rfl

theorem Names.not_unit (names : Names letter character) : letter ≠ 'u' := by
  rintro rfl
  cases names

theorem of_nat_iff (valid : code.isValidChar) :
    Char.ofNat code = character ↔ character.toNat = code := by
  have kept : (Char.ofNat code).toNat = code := by
    rw [Char.ofNat, dif_pos valid]
    rfl
  constructor
  · rintro rfl
    exact kept
  · rintro rfl
    exact Char.ofNat_toNat character

theorem read_trailing_iff {leading : Nat} (leads : 0xd800 ≤ leading ∧ leading ≤ 0xdbff) :
    readTrailing leading letters = .ok (character, rest) ↔
      ∃ low trailing, letters = '\\' :: 'u' :: (low ++ rest) ∧ IsUnit low trailing ∧
        (0xdc00 ≤ trailing ∧ trailing ≤ 0xdfff) ∧
        character.toNat = 0x10000 + (leading - 0xd800) * 0x400 + (trailing - 0xdc00) := by
  have made {trailing : Nat} (trails : 0xdc00 ≤ trailing ∧ trailing ≤ 0xdfff) :
      Char.ofNat (0x10000 + (leading - 0xd800) * 0x400 + (trailing - 0xdc00)) = character ↔
        character.toNat = 0x10000 + (leading - 0xd800) * 0x400 + (trailing - 0xdc00) :=
    of_nat_iff (.inr (by omega))
  constructor
  · intro read
    unfold readTrailing at read
    split at read
    next => cases read
    next => cases read
    next behind =>
      obtain ⟨⟨trailing, after⟩, unit, ends⟩ := bind_ok_iff.mp read
      obtain ⟨low, rfl, isUnit⟩ := read_unit_iff.mp unit
      dsimp only at ends
      split at ends
      case isTrue trails =>
        have trails : 0xdc00 ≤ trailing ∧ trailing ≤ 0xdfff := by simpa [isTrailing] using trails
        obtain ⟨same, rfl⟩ := Prod.mk.inj (Except.ok.inj ends)
        exact ⟨low, trailing, rfl, isUnit, trails, (made trails).mp same⟩
      case isFalse => cases ends
    next => cases read
  · rintro ⟨low, trailing, rfl, isUnit, trails, same⟩
    have isTrail : isTrailing trailing = true := by simpa [isTrailing] using trails
    unfold readTrailing
    refine bind_ok_iff.mpr ⟨(trailing, rest), read_unit_iff.mpr ⟨low, rfl, isUnit⟩, ?_⟩
    dsimp only
    rw [if_pos isTrail, (made trails).mpr same]
    rfl

theorem read_escape_iff : readEscape letters = .ok (character, rest) ↔
    ∃ escape, letters = escape ++ rest ∧ Escapes character escape := by
  constructor
  · intro read
    unfold readEscape at read
    split at read
    next => cases read
    next letter behind =>
      split at read
      case isTrue same =>
        subst same
        split at read
        next => cases read
        next code after unit =>
          obtain ⟨digits, rfl, isUnit⟩ := read_unit_iff.mp unit
          split at read
          case isTrue => cases read
          case isFalse notTrailing =>
            split at read
            case isTrue leads =>
              have leads : 0xd800 ≤ code ∧ code ≤ 0xdbff := by simpa [isLeading] using leads
              obtain ⟨low, trailing, rfl, lowUnit, trails, same⟩ := (read_trailing_iff leads).mp read
              exact ⟨'u' :: (digits ++ '\\' :: 'u' :: low), by simp,
                .pair isUnit lowUnit leads trails same⟩
            case isFalse notLeading =>
              obtain ⟨same, rfl⟩ := Prod.mk.inj (Except.ok.inj read)
              have below := isUnit.below
              have valid : code.isValidChar := by
                simp only [isTrailing, isLeading, Bool.and_eq_true, decide_eq_true_eq] at *
                rw [Nat.isValidChar]
                omega
              rw [← (of_nat_iff valid).mp same] at isUnit
              exact ⟨'u' :: digits, rfl, .unit isUnit⟩
      case isFalse =>
        split at read
        next found =>
          cases read
          exact ⟨[letter], rfl, .named (short_escape_iff.mp found)⟩
        next => cases read
  · rintro ⟨escape, rfl, escapes⟩
    cases escapes with
    | named names =>
        simp [readEscape, names.not_unit, short_escape_iff.mpr names]
    | @unit character digits isUnit =>
        have valid : character.toNat.isValidChar := character.valid
        have unit : readUnit (digits ++ rest) = .ok (character.toNat, rest) :=
          read_unit_iff.mpr ⟨digits, rfl, isUnit⟩
        have notTrailing : isTrailing character.toNat = false := by
          simp only [isTrailing, Bool.and_eq_false_iff, decide_eq_false_iff_not]
          rw [Nat.isValidChar] at valid
          omega
        have notLeading : isLeading character.toNat = false := by
          simp only [isLeading, Bool.and_eq_false_iff, decide_eq_false_iff_not]
          rw [Nat.isValidChar] at valid
          omega
        simp [readEscape, unit, notTrailing, notLeading]
    | @pair character high low leading trailing highUnit lowUnit leads trails same =>
        have unit : readUnit (high ++ '\\' :: 'u' :: (low ++ rest)) =
            .ok (leading, '\\' :: 'u' :: (low ++ rest)) := read_unit_iff.mpr ⟨high, rfl, highUnit⟩
        have isLead : isLeading leading = true := by simpa [isLeading] using leads
        have notTrailing : isTrailing leading = false := by
          simp only [isTrailing, Bool.and_eq_false_iff, decide_eq_false_iff_not]
          omega
        have paired : readTrailing leading ('\\' :: 'u' :: (low ++ rest)) = .ok (character, rest) :=
          (read_trailing_iff leads).mpr ⟨low, trailing, rfl, lowUnit, trails, same⟩
        simp only [readEscape, List.cons_append, List.append_assoc, unit, notTrailing, isLead, paired]
        rfl

theorem skip_escape (isEscape : IsEscape escape) : skipEscape (escape ++ rest) = .ok rest := by
  cases isEscape with
  | named names => simp [skipEscape, names.not_unit, short_escape_iff.mpr names]
  | unit isUnit => simp [skipEscape, read_unit_iff.mpr ⟨_, rfl, isUnit⟩]

end Escapes

section Quoted

theorem unescaped_iff : isUnescaped letter = true ↔
    letter ≠ '"' ∧ letter ≠ '\\' ∧ ¬letter.toNat < 0x20 := by
  simp [isUnescaped]

/-- A string is read exactly as what it stands for. -/
theorem read_quoted_iff : readQuoted letters = .ok (value, rest) ↔
    ∃ text, letters = text ++ '"' :: rest ∧ Spells value text := by
  constructor
  · intro read
    fun_induction readQuoted letters generalizing value with
    | case1 => cases read
    | case2 behind =>
        cases read
        exact ⟨[], rfl, .nothing⟩
    | case3 => cases read
    | case4 behind character after escaped _ _ induction =>
        obtain ⟨⟨further, left⟩, again, same⟩ := map_ok_iff.mp read
        cases same
        obtain ⟨text, rfl, spells⟩ := induction again
        obtain ⟨escape, rfl, escapes⟩ := read_escape_iff.mp escaped
        exact ⟨'\\' :: (escape ++ text), by simp, .escaped escapes spells⟩
    | case5 => cases read
    | case6 letter behind noMark noBackslash printable induction =>
        obtain ⟨⟨further, left⟩, again, same⟩ := map_ok_iff.mp read
        cases same
        obtain ⟨text, rfl, spells⟩ := induction again
        have unescaped := unescaped_iff.mpr ⟨noMark, noBackslash, printable⟩
        exact ⟨letter :: text, rfl, .plain unescaped spells⟩
  · rintro ⟨text, rfl, spells⟩
    induction spells with
    | nothing => simp [readQuoted]
    | plain unescaped _ induction =>
        obtain ⟨noMark, noBackslash, printable⟩ := unescaped_iff.mp unescaped
        rw [List.cons_append, readQuoted, if_neg noMark, if_neg noBackslash, if_neg printable]
        exact map_ok_iff.mpr ⟨_, induction, rfl⟩
    | @escaped character value escape text escapes _ induction =>
        have read : readEscape (escape ++ (text ++ '"' :: rest)) =
            .ok (character, text ++ '"' :: rest) :=
          read_escape_iff.mpr ⟨escape, rfl, escapes⟩
        rw [List.cons_append, List.append_assoc, readQuoted, if_neg (by decide), if_pos rfl]
        split
        next fault failed =>
          rw [read] at failed
          cases failed
        next other after escaped =>
          rw [read] at escaped
          cases escaped
          exact map_ok_iff.mpr ⟨_, induction, rfl⟩

theorem Escapes.quoted (escapes : Escapes character escape) (further : IsQuoted text) :
    IsQuoted ('\\' :: (escape ++ text)) := by
  cases escapes with
  | named names => exact .escaped (.named names) further
  | unit isUnit => exact .escaped (.unit isUnit) further
  | @pair _ high low _ _ highUnit lowUnit =>
      have second : IsQuoted ('\\' :: ('u' :: low ++ text)) := .escaped (.unit lowUnit) further
      have first : IsQuoted ('\\' :: ('u' :: high ++ '\\' :: ('u' :: low ++ text))) :=
        .escaped (.unit highUnit) second
      simpa using first

theorem Spells.isQuoted (spells : Spells value text) : IsQuoted text := by
  induction spells with
  | nothing => exact .nothing
  | plain unescaped _ induction => exact .plain unescaped induction
  | escaped escapes _ induction => exact escapes.quoted induction

theorem skip_quoted (isQuoted : IsQuoted text) : skipQuoted (text ++ '"' :: rest) = .ok rest := by
  induction isQuoted with
  | nothing => simp [skipQuoted]
  | plain unescaped _ induction =>
      obtain ⟨noMark, noBackslash, printable⟩ := unescaped_iff.mp unescaped
      rw [List.cons_append, skipQuoted, if_neg noMark, if_neg noBackslash, if_neg printable, induction]
  | @escaped escape text isEscape _ induction =>
      have skipped : skipEscape (escape ++ (text ++ '"' :: rest)) = .ok (text ++ '"' :: rest) :=
        skip_escape isEscape
      rw [List.cons_append, List.append_assoc, skipQuoted, if_neg (by decide), if_pos rfl]
      split
      next fault failed =>
        rw [skipped] at failed
        cases failed
      next after passed =>
        rw [skipped] at passed
        cases passed
        exact induction

theorem read_spelled (spells : Spells value text) (rest : List Char) :
    readQuoted (text ++ '"' :: rest) = .ok (value, rest) :=
  read_quoted_iff.mpr ⟨text, rfl, spells⟩

/-- A string ends where the grammar ends it, whether it stands for anything or not. -/
theorem read_quoted_exact (isQuoted : IsQuoted text) :
    readQuoted (text ++ '"' :: rest) = .ok (value, left) ↔ Spells value text ∧ left = rest := by
  rw [read_quoted_iff]
  constructor
  · rintro ⟨other, same, spells⟩
    -- Both ways to cut the text end where passing over it ends.
    have ends : skipQuoted (text ++ '"' :: rest) = .ok left := same ▸ skip_quoted spells.isQuoted
    obtain rfl := Except.ok.inj ((skip_quoted isQuoted).symm.trans ends)
    exact ⟨List.append_cancel_right same ▸ spells, rfl⟩
  · rintro ⟨spells, rfl⟩
    exact ⟨text, rfl, spells⟩

theorem Spells.unique {other : List Char} (spells : Spells value text)
    (others : Spells other text) : value = other := by
  have read := read_spelled spells []
  rw [read_spelled others []] at read
  exact (Prod.mk.inj (Except.ok.inj read)).1.symm

end Quoted

section Written

theorem control_unit (control : character.toNat < 0x20) :
    IsUnit ['0', '0', hexDigit (character.toNat / 16), hexDigit (character.toNat % 16)]
      character.toNat := by
  have upper := hex_value_digit (character.toNat / 16) (by omega)
  have lower := hex_value_digit (character.toNat % 16) (by omega)
  have zero : hexValue? '0' = some 0 := rfl
  have whole : ((0 * 16 + 0) * 16 + character.toNat / 16) * 16 + character.toNat % 16 =
      character.toNat := by omega
  have isUnit := IsUnit.digits zero zero upper lower
  rwa [whole] at isUnit

theorem escape_character_spells (spells : Spells value text) :
    Spells (character :: value) (escapeCharacter character ++ text) := by
  unfold escapeCharacter
  split_ifs with mark backslash backspace tab lineFeed formFeed carriageReturn control
  · subst mark
    exact .escaped (.named .quotation) spells
  · subst backslash
    exact .escaped (.named .backslash) spells
  · subst backspace
    exact .escaped (.named .backspace) spells
  · subst tab
    exact .escaped (.named .tab) spells
  · subst lineFeed
    exact .escaped (.named .lineFeed) spells
  · subst formFeed
    exact .escaped (.named .formFeed) spells
  · subst carriageReturn
    exact .escaped (.named .carriageReturn) spells
  · exact .escaped (.unit (control_unit control)) spells
  · exact .plain (unescaped_iff.mpr ⟨mark, backslash, control⟩) spells

/-- Whatever a text holds, what is written for it stands for it. -/
theorem escaped_spells (text : List Char) : Spells text (text.flatMap escapeCharacter) := by
  induction text with
  | nil => exact .nothing
  | cons character text induction =>
      rw [List.flatMap_cons]
      exact escape_character_spells induction

theorem quote_list_quoted (text : List Char) :
    quoteList text = quoted (text.flatMap escapeCharacter) :=
  rfl

end Written

end TeacherDirectory.Json
