import Mathlib.Data.List.Forall2
import TeacherDirectory.Proofs.DistinguishedName.Value

/-!
# The grammar of written values

Section 3 of RFC 4514 derives the texts that stand for a value inside a name. They are the texts that
can be cut into parts of which the first one can lead and the last one can trail, so reading a value
accepts these texts and no others, up to bytes that are no text. An escaped value is derived by the
grammar, and taking its escapes back gives the value, whatever characters that holds.
-/

namespace TeacherDirectory.DistinguishedName

set_option autoImplicit false

open Text

/-- `pair = ESC ( ESC / special / hexpair )` -/
inductive IsPair : List Char → Prop
  | character {letter : Char} (escapable : isEscapable letter = true) : IsPair ['\\', letter]
  | byte {high low : Char} (digits : (hexByte? high low).isSome) : IsPair ['\\', high, low]

inductive IsPart (allowed : Char → Bool) : List Char → Prop
  | letter {letter : Char} (isAllowed : allowed letter = true) : IsPart allowed [letter]
  | pair {part : List Char} (isPair : IsPair part) : IsPart allowed part

/-- `stringchar = SUTF1 / UTFMB` -/
def isInnerLetter (letter : Char) : Bool := !isReserved letter

/-- `leadchar = LUTF1 / UTFMB` -/
def isLeadLetter (letter : Char) : Bool := !isReserved letter && (letter ≠ ' ' && letter ≠ '#')

/-- `trailchar = TUTF1 / UTFMB` -/
def isTrailLetter (letter : Char) : Bool := !isReserved letter && letter ≠ ' '

/-- `string = [ ( leadchar / pair ) [ *( stringchar / pair ) ( trailchar / pair ) ] ]` -/
inductive IsValueText : List Char → Prop
  | empty : IsValueText []
  | single {lead : List Char} (leads : IsPart isLeadLetter lead) : IsValueText lead
  | longer {lead trail : List Char} {inner : List (List Char)} (leads : IsPart isLeadLetter lead)
      (inside : ∀ part ∈ inner, IsPart isInnerLetter part) (trails : IsPart isTrailLetter trail) :
      IsValueText (lead ++ (inner.flatten ++ trail))

variable {letters part : List Char} {piece : Piece} {pieces : List Piece}

theorem part_iff {allowed : Char → Bool} {can : Piece → Bool}
    (plain : ∀ letter, allowed letter = (!isReserved letter && can (.plain letter)))
    (escaped : ∀ letter, can (.escaped letter) = true) (byte : ∀ value, can (.byte value) = true) :
    IsPart allowed part ↔ ∃ piece, Writes part piece ∧ can piece = true := by
  constructor
  · intro isPart
    cases isPart with
    | letter isAllowed =>
        rw [plain, Bool.and_eq_true, Bool.not_eq_true'] at isAllowed
        exact ⟨_, .plain isAllowed.1, isAllowed.2⟩
    | pair isPair =>
        cases isPair with
        | character escapable => exact ⟨_, .escaped escapable, escaped _⟩
        | byte digits => exact ⟨_, .byte (Option.some_get digits).symm, byte _⟩
  · rintro ⟨piece, writes, possible⟩
    cases writes with
    | plain unreserved =>
        refine .letter ?_
        rw [plain, unreserved, possible]
        rfl
    | escaped escapable => exact .pair (.character escapable)
    | byte digits => exact .pair (.byte (Option.isSome_of_mem digits))

theorem lead_iff :
    IsPart isLeadLetter part ↔ ∃ piece, Writes part piece ∧ piece.canLead = true :=
  part_iff (fun _ => rfl) (fun _ => rfl) (fun _ => rfl)

theorem trail_iff :
    IsPart isTrailLetter part ↔ ∃ piece, Writes part piece ∧ piece.canTrail = true :=
  part_iff (fun _ => rfl) (fun _ => rfl) (fun _ => rfl)

theorem inner_iff : IsPart isInnerLetter part ↔ ∃ piece, Writes part piece := by
  have both := @part_iff part isInnerLetter (fun _ => true) (fun letter => (Bool.and_true _).symm)
    (fun _ => rfl) (fun _ => rfl)
  simpa only [and_true] using both

theorem pieces_cases (read : pieces? letters = some pieces) :
    letters = [] ∧ pieces = [] ∨
      ∃ part rest piece others, letters = part ++ rest ∧ pieces = piece :: others ∧
        Writes part piece ∧ pieces? rest = some others := by
  unfold pieces? at read
  split at read
  next => exact .inl ⟨rfl, (Option.some.inj read).symm⟩
  next letter rest =>
    right
    split at read
    case isTrue backslash =>
      subst backslash
      split at read
      next first rest =>
        split at read
        case isTrue escapable =>
          obtain ⟨others, further, rfl⟩ := Option.map_eq_some_iff.mp read
          exact ⟨['\\', first], rest, _, others, rfl, rfl, .escaped escapable, further⟩
        case isFalse =>
          split at read
          next second rest =>
            obtain ⟨value, digits, later⟩ := Option.bind_eq_some_iff.mp read
            obtain ⟨others, further, rfl⟩ := Option.map_eq_some_iff.mp later
            exact ⟨['\\', first, second], rest, _, others, rfl, rfl, .byte digits, further⟩
          next => cases read
      next => cases read
    case isFalse =>
      split at read
      case isTrue => cases read
      case isFalse unreserved =>
        obtain ⟨others, further, rfl⟩ := Option.map_eq_some_iff.mp read
        exact ⟨[letter], rest, _, others, rfl, rfl, .plain (Bool.eq_false_iff.mpr unreserved),
          further⟩

theorem pieces_iff :
    pieces? letters = some pieces ↔
      ∃ parts, letters = parts.flatten ∧ List.Forall₂ Writes parts pieces := by
  constructor
  · intro read
    induction pieces generalizing letters with
    | nil =>
        obtain ⟨rfl, -⟩ | ⟨_, _, _, _, -, impossible, -⟩ := pieces_cases read
        · exact ⟨[], rfl, .nil⟩
        · cases impossible
    | cons piece pieces induction =>
        obtain ⟨-, impossible⟩ | ⟨part, rest, _, _, rfl, same, writes, further⟩ := pieces_cases read
        · cases impossible
        · obtain ⟨rfl, rfl⟩ := List.cons.inj same
          obtain ⟨parts, rfl, written⟩ := induction further
          exact ⟨part :: parts, rfl, .cons writes written⟩
  · rintro ⟨parts, rfl, written⟩
    induction written with
    | nil => rfl
    | cons writes _ read =>
        rw [List.flatten_cons, pieces_written writes, read]
        rfl

theorem pieces_exist {parts : List (List Char)}
    (each : ∀ part ∈ parts, ∃ piece, Writes part piece) :
    ∃ pieces, List.Forall₂ Writes parts pieces := by
  induction parts with
  | nil => exact ⟨[], .nil⟩
  | cons part parts induction =>
      obtain ⟨piece, writes⟩ := each part List.mem_cons_self
      obtain ⟨pieces, written⟩ :=
        induction fun other member => each other (List.mem_cons_of_mem part member)
      exact ⟨piece :: pieces, .cons writes written⟩

theorem pieces_written_each {parts : List (List Char)} (written : List.Forall₂ Writes parts pieces) :
    ∀ part ∈ parts, ∃ piece, Writes part piece := by
  induction written with
  | nil => simp
  | cons writes _ each =>
      intro part member
      rcases List.mem_cons.mp member with rfl | later
      · exact ⟨_, writes⟩
      · exact each part later

theorem IsValueText.read (derived : IsValueText letters) :
    ∃ pieces, pieces? letters = some pieces ∧ pieces.head?.all Piece.canLead = true ∧
      pieces.getLast?.all Piece.canTrail = true := by
  cases derived with
  | empty => exact ⟨[], rfl, rfl, rfl⟩
  | single leads =>
      obtain ⟨piece, writes, canLead⟩ := lead_iff.mp leads
      refine ⟨[piece], pieces_iff.mpr ⟨[letters], ?_, .cons writes .nil⟩, canLead,
        can_trail_of_lead canLead⟩
      exact List.flatten_singleton.symm
  | @longer lead trail inner leads inside trails =>
      obtain ⟨first, writesFirst, canLead⟩ := lead_iff.mp leads
      obtain ⟨last, writesLast, canTrail⟩ := trail_iff.mp trails
      obtain ⟨middle, written⟩ := pieces_exist fun part member => inner_iff.mp (inside part member)
      refine ⟨first :: (middle ++ [last]), pieces_iff.mpr ⟨lead :: (inner ++ [trail]), ?_,
        .cons writesFirst (List.rel_append written (.cons writesLast .nil))⟩, canLead, ?_⟩
      · rw [List.flatten_cons, List.flatten_append, List.flatten_singleton]
      · rw [List.getLast?_cons]
        simpa using canTrail

/-- With a part at either end there is one that leads, and unless it is the only one, one that trails;
the parts between them can be any. -/
theorem value_text_of_pieces (read : pieces? letters = some pieces)
    (canLead : pieces.head?.all Piece.canLead = true)
    (canTrail : pieces.getLast?.all Piece.canTrail = true) : IsValueText letters := by
  obtain ⟨parts, rfl, written⟩ := pieces_iff.mp read
  cases written with
  | nil => exact .empty
  | @cons lead first parts others writesFirst written =>
      have leads : IsPart isLeadLetter lead := lead_iff.mpr ⟨first, writesFirst, canLead⟩
      obtain rfl | ⟨middle, last, rfl⟩ := others.eq_nil_or_concat'
      · cases written
        rw [List.flatten_singleton]
        exact .single leads
      · obtain ⟨inner, behind, rfl, before, after⟩ : ∃ inner behind, parts = inner ++ behind ∧
            List.Forall₂ Writes inner middle ∧ List.Forall₂ Writes behind [last] :=
          ⟨_, _, (List.take_append_drop middle.length parts).symm,
            List.forall₂_take_append _ _ _ written, List.forall₂_drop_append _ _ _ written⟩
        cases after with
        | @cons trail _ _ _ writesLast nothing =>
            cases nothing
            have trails : IsPart isTrailLetter trail := by
              refine trail_iff.mpr ⟨last, writesLast, ?_⟩
              rw [List.getLast?_cons] at canTrail
              simpa using canTrail
            rw [List.flatten_cons, List.flatten_append, List.flatten_singleton]
            exact .longer leads
              (fun part member => inner_iff.mpr (pieces_written_each before part member)) trails

theorem is_written_iff {written : String} :
    isWritten written = true ↔ IsValueText written.toList := by
  unfold isWritten
  constructor
  · intro accepted
    obtain ⟨pieces, parts, ends⟩ := (Option.any_eq_true _ _).mp accepted
    obtain ⟨canLead, canTrail⟩ := Bool.and_eq_true_iff.mp ends
    exact value_text_of_pieces parts canLead canTrail
  · intro derived
    obtain ⟨pieces, parts, canLead, canTrail⟩ := derived.read
    rw [parts, Option.any_some, canLead, canTrail, Bool.and_self]

theorem read_value_iff {written value : String} :
    readValue? written = some value ↔
      IsValueText written.toList ∧ unescape? written = some value := by
  rw [readValue?, Option.ite_none_right_eq_some, is_written_iff]

/-- Escaping writes what the grammar derives and loses nothing. -/
theorem escaped_values_derived (value : String) :
    IsValueText (escapeValue value).toList ∧ unescape? (escapeValue value) = some value :=
  read_value_iff.mp (read_escaped_value value)

example : unescape? "  a\\, b\\20 " = some "a, b " := by decide +kernel

end TeacherDirectory.DistinguishedName
