import TeacherDirectory.Text.Utf8

/-!
# Text written as bytes is read back

Every character is written as a sequence that is read as this character and leaves what follows it.
So reading undoes writing, with or without replacement, and different texts have different bytes.
Bytes below 128 stand for themselves and in no other character's sequence.
-/

namespace TeacherDirectory.Text

set_option autoImplicit false

theorem to_list_loop (bytes : ByteArray) (position : Nat) (read : List UInt8) :
    ByteArray.toList.loop bytes position read =
      read.reverse ++ bytes.data.toList.drop position := by
  induction size : bytes.size - position generalizing position read with
  | zero =>
      have past : ¬position < bytes.size := by omega
      have dropped : bytes.data.toList.drop position = [] := by
        apply List.drop_eq_nil_of_le
        have same : bytes.data.toList.length = bytes.size := rfl
        omega
      rw [ByteArray.toList.loop, if_neg past, dropped, List.append_nil]
  | succ rest induction =>
      have inside : position < bytes.size := by omega
      have listed : position < bytes.data.toList.length := inside
      have byte : bytes.get! position = bytes.data.toList[position] :=
        getElem!_pos bytes.data position inside
      rw [ByteArray.toList.loop, if_pos inside, induction (position + 1) _ (by omega),
        List.drop_eq_getElem_cons listed, List.reverse_cons, List.append_assoc, byte]
      rfl

theorem encode_of_list (text : List Char) :
    encode (String.ofList text) = text.flatMap String.utf8EncodeChar := by
  unfold encode ByteArray.toList
  rw [to_list_loop]
  simp [List.utf8Encode]

theorem encode_letters (text : String) :
    text.toList.flatMap String.utf8EncodeChar = encode text := by
  rw [← encode_of_list, String.ofList_toList]

theorem encode_append (earlier later : List Char) :
    encode (String.ofList (earlier ++ later)) =
      encode (String.ofList earlier) ++ encode (String.ofList later) := by
  simp only [encode_of_list, List.flatMap_append]

theorem of_nat_byte {value : Nat} (small : value < 256) : (UInt8.ofNat value).toNat = value := by
  rw [UInt8.toNat_ofNat']
  omega

theorem continue_sequence_last {payload least greatest value : Nat} {rest : Bytes}
    (small : value < 256) (inRange : least ≤ value ∧ value ≤ greatest) :
    continueSequence payload least greatest 0 (UInt8.ofNat value :: rest) =
      (some (Char.ofNat (payload * 64 + (value - 0x80))), rest) := by
  rw [continueSequence, of_nat_byte small, if_pos inRange]

theorem continue_sequence_more {payload least greatest further value : Nat} {rest : Bytes}
    (small : value < 256) (inRange : least ≤ value ∧ value ≤ greatest) :
    continueSequence payload least greatest (further + 1) (UInt8.ofNat value :: rest) =
      continueSequence (payload * 64 + (value - 0x80)) 0x80 0xbf further rest := by
  rw [continueSequence, of_nat_byte small, if_pos inRange]

theorem lead_of_two {top : Nat} (least : 2 ≤ top) (greatest : top < 32) :
    Lead.ofByte? (UInt8.ofNat (top + 0xc0)) = some ⟨top, 0x80, 0xbf, 0⟩ := by
  unfold Lead.ofByte?
  rw [of_nat_byte (by omega)]
  simp only [show 0xc2 ≤ top + 0xc0 ∧ top + 0xc0 ≤ 0xdf by omega, and_self, if_true,
    Nat.add_sub_cancel]

/-- The second byte after a lead byte of three is in range unless the character would need fewer
bytes or be a surrogate. -/
theorem lead_of_three (top second : Nat) (greatest : top < 16) (continues : second < 64)
    (shortest : top = 0 → 32 ≤ second) (noSurrogate : top = 13 → second < 32) :
    ∃ least most, Lead.ofByte? (UInt8.ofNat (top + 0xe0)) = some ⟨top, least, most, 1⟩ ∧
      least ≤ second + 0x80 ∧ second + 0x80 ≤ most := by
  unfold Lead.ofByte?
  rw [of_nat_byte (by omega)]
  by_cases isZero : top = 0
  · exact ⟨0xa0, 0xbf, by simp [isZero], by omega, by omega⟩
  · by_cases isThirteen : top = 13
    · exact ⟨0x80, 0x9f, by simp [isThirteen], by omega, by omega⟩
    · refine ⟨0x80, 0xbf, ?_, by omega, by omega⟩
      rw [if_neg (by omega), if_neg (by omega), if_neg (by omega), if_pos (by omega),
        Nat.add_sub_cancel]

theorem lead_of_four (top second : Nat) (greatest : top < 5) (continues : second < 64)
    (shortest : top = 0 → 16 ≤ second) (last : top = 4 → second < 16) :
    ∃ least most, Lead.ofByte? (UInt8.ofNat (top + 0xf0)) = some ⟨top, least, most, 2⟩ ∧
      least ≤ second + 0x80 ∧ second + 0x80 ≤ most := by
  unfold Lead.ofByte?
  rw [of_nat_byte (by omega)]
  by_cases isZero : top = 0
  · exact ⟨0x90, 0xbf, by simp [isZero], by omega, by omega⟩
  · by_cases isFour : top = 4
    · exact ⟨0x80, 0x8f, by simp [isFour], by omega, by omega⟩
    · refine ⟨0x80, 0xbf, ?_, by omega, by omega⟩
      rw [if_neg (by omega), if_neg (by omega), if_neg (by omega), if_neg (by omega),
        if_neg (by omega), if_pos (by omega), Nat.add_sub_cancel]

theorem code_point_valid (character : Char) :
    character.toNat < 0xd800 ∨ 0xdfff < character.toNat ∧ character.toNat < 0x110000 :=
  character.valid

theorem take_character_lead {value : Nat} {rest : Bytes} {lead : Lead} (small : value < 256)
    (large : 0x80 ≤ value) (found : Lead.ofByte? (UInt8.ofNat value) = some lead) :
    takeCharacter (UInt8.ofNat value) rest =
      continueSequence lead.payload lead.least lead.greatest lead.further rest := by
  unfold takeCharacter
  rw [of_nat_byte small, if_neg (by omega), found]

theorem take_character_encode (character : Char) (rest : Bytes) :
    ∃ byte tail, String.utf8EncodeChar character ++ rest = byte :: tail ∧
      takeCharacter byte tail = (some character, rest) := by
  have valid := code_point_valid character
  have whole : Char.ofNat character.toNat = character := Char.ofNat_toNat character
  unfold String.utf8EncodeChar
  simp only [← Char.toNat_val] at valid whole
  generalize character.val.toNat = value at valid whole
  by_cases oneByte : value ≤ 0x7f
  · refine ⟨UInt8.ofNat value, rest, by simp [oneByte], ?_⟩
    unfold takeCharacter
    rw [of_nat_byte (by omega), if_pos (by omega), whole]
  by_cases twoBytes : value ≤ 0x7ff
  · refine ⟨UInt8.ofNat (value / 64 % 32 + 0xc0), UInt8.ofNat (value % 64 + 0x80) :: rest,
      by simp [oneByte, twoBytes], ?_⟩
    have sum : value / 64 % 32 * 64 + (value % 64 + 0x80 - 0x80) = value := by omega
    rw [take_character_lead (by omega) (by omega) (lead_of_two (by omega) (by omega))]
    dsimp only
    rw [continue_sequence_last (by omega) (by omega), sum, whole]
  by_cases threeBytes : value ≤ 0xffff
  · refine ⟨UInt8.ofNat (value / 4096 % 16 + 0xe0), UInt8.ofNat (value / 64 % 64 + 0x80) ::
      UInt8.ofNat (value % 64 + 0x80) :: rest, by simp [oneByte, twoBytes, threeBytes], ?_⟩
    obtain ⟨least, most, found, inRange⟩ := lead_of_three (value / 4096 % 16) (value / 64 % 64)
      (by omega) (by omega) (by omega) (by omega)
    have sum : (value / 4096 % 16 * 64 + (value / 64 % 64 + 0x80 - 0x80)) * 64 +
        (value % 64 + 0x80 - 0x80) = value := by omega
    rw [take_character_lead (by omega) (by omega) found, continue_sequence_more (by omega) inRange,
      continue_sequence_last (by omega) (by omega), sum, whole]
  · refine ⟨UInt8.ofNat (value / 262144 % 8 + 0xf0), UInt8.ofNat (value / 4096 % 64 + 0x80) ::
      UInt8.ofNat (value / 64 % 64 + 0x80) :: UInt8.ofNat (value % 64 + 0x80) :: rest,
      by simp [oneByte, twoBytes, threeBytes], ?_⟩
    obtain ⟨least, most, found, inRange⟩ := lead_of_four (value / 262144 % 8)
      (value / 4096 % 64) (by omega) (by omega) (by omega) (by omega)
    have sum : ((value / 262144 % 8 * 64 + (value / 4096 % 64 + 0x80 - 0x80)) * 64 +
        (value / 64 % 64 + 0x80 - 0x80)) * 64 + (value % 64 + 0x80 - 0x80) = value := by omega
    rw [take_character_lead (by omega) (by omega) found, continue_sequence_more (by omega) inRange,
      continue_sequence_more (by omega) (by omega), continue_sequence_last (by omega) (by omega),
      sum, whole]

theorem characters_encode (text : List Char) :
    characters (encode (String.ofList text)) = text.map some := by
  rw [encode_of_list]
  induction text with
  | nil => rw [List.flatMap_nil, characters, List.map_nil]
  | cons character text induction =>
      obtain ⟨byte, tail, front, taken⟩ :=
        take_character_encode character (text.flatMap String.utf8EncodeChar)
      rw [List.flatMap_cons, front, characters, taken, induction, List.map_cons]

theorem decode_encode (text : String) : decode? (encode text) = some text := by
  obtain ⟨letters, rfl⟩ : ∃ letters, text = String.ofList letters :=
    ⟨text.toList, String.ofList_toList.symm⟩
  have all : (letters.map some).mapM id = some letters := by
    induction letters with
    | nil => rfl
    | cons letter rest induction =>
        rw [List.map_cons, List.mapM_cons, induction]
        rfl
  unfold decode?
  rw [characters_encode, all]
  rfl

theorem decode_lossy_encode (text : String) : decodeLossy (encode text) = text := by
  obtain ⟨letters, rfl⟩ : ∃ letters, text = String.ofList letters :=
    ⟨text.toList, String.ofList_toList.symm⟩
  unfold decodeLossy
  rw [characters_encode, List.map_map]
  exact congrArg String.ofList (List.map_id letters)

theorem encode_injective {text other : String} (same : encode text = encode other) :
    text = other := by
  rw [← decode_lossy_encode text, same, decode_lossy_encode]

theorem encode_string_append (earlier later : String) :
    encode (earlier ++ later) = encode earlier ++ encode later := by
  rw [← String.ofList_toList (s := earlier), ← String.ofList_toList (s := later),
    ← String.ofList_append, encode_append]

/-- A character below 128 is written as the byte of its code point; all bytes of any other one are
from 128 on. -/
theorem encode_char_bytes (character : Char) :
    character.toNat < 0x80 ∧ String.utf8EncodeChar character = [UInt8.ofNat character.toNat] ∨
      0x80 ≤ character.toNat ∧ ∀ byte ∈ String.utf8EncodeChar character, 0x80 ≤ byte.toNat := by
  unfold String.utf8EncodeChar
  simp only [← Char.toNat_val]
  generalize character.val.toNat = value
  by_cases oneByte : value ≤ 0x7f
  · exact .inl ⟨by omega, by simp [oneByte]⟩
  · have large (byte : Nat) (small : byte < 256) (from128 : 0x80 ≤ byte) :
        0x80 ≤ (UInt8.ofNat byte).toNat := by
      rwa [of_nat_byte small]
    refine .inr ⟨by omega, ?_⟩
    rw [if_neg oneByte]
    intro byte member
    split at member
    · simp only [List.mem_cons, List.not_mem_nil, or_false] at member
      rcases member with rfl | rfl <;> exact large _ (by omega) (by omega)
    · split at member
      · simp only [List.mem_cons, List.not_mem_nil, or_false] at member
        rcases member with rfl | rfl | rfl <;> exact large _ (by omega) (by omega)
      · simp only [List.mem_cons, List.not_mem_nil, or_false] at member
        rcases member with rfl | rfl | rfl | rfl <;> exact large _ (by omega) (by omega)

end TeacherDirectory.Text
