import TeacherDirectory.Proofs.Directory.LastWrites

/-!
# Reading search results

A search result lists text attributes apart from binary ones, each kind without two spellings of one
name. The entry made of it tells under every spelling of a name the values that are listed, the
binary ones first of all, and nothing else. In which order the attributes are listed makes no
difference, and neither does it for a list of texts whether it comes as texts or as bytes.
-/

namespace TeacherDirectory

set_option autoImplicit false

open Text
open Entry (OneName NamesApart)

namespace AttributeValue

theorem texts_of_texts (values : List String) : (ofTexts values).texts = values := by
  rcases values with _ | ⟨value, _ | ⟨second, rest⟩⟩ <;> rfl

theorem texts_of_binaries (values : List Bytes) :
    (ofBinaries values).texts = values.map decodeLossy := by
  rcases values with _ | ⟨value, _ | ⟨second, rest⟩⟩ <;> rfl

end AttributeValue

namespace SearchResult

variable {result other : SearchResult} {wanted : String} {values : List String}

structure Distinct (result : SearchResult) : Prop where
  texts : NamesApart result.texts
  binaries : NamesApart result.binaries

/-- What a result tells under a name. Binary values that are listed under it hide texts. -/
inductive Delivers (result : SearchResult) (wanted : String) : List String → Prop
  | binary {name : String} {values : List Bytes} (listed : (name, values) ∈ result.binaries)
      (spelled : OneName name wanted) : Delivers result wanted (values.map decodeLossy)
  | text {name : String} {values : List String} (listed : (name, values) ∈ result.texts)
      (spelled : OneName name wanted)
      (noBinary : ∀ given ∈ result.binaries, ¬OneName given.1 wanted) :
      Delivers result wanted values
  | absent (noText : ∀ given ∈ result.texts, ¬OneName given.1 wanted)
      (noBinary : ∀ given ∈ result.binaries, ¬OneName given.1 wanted) : Delivers result wanted []

structure Reordered (result other : SearchResult) : Prop where
  name : result.name = other.name
  texts : result.texts.Perm other.texts
  binaries : result.binaries.Perm other.binaries

structure InBytes (written : String) (values : List String) (result other : SearchResult) :
    Prop where
  name : result.name = other.name
  texts : result.texts.Perm ((written, values) :: other.texts)
  binaries : ((written, values.map encode) :: result.binaries).Perm other.binaries
  free : ∀ given ∈ result.binaries, ¬OneName given.1 written

def textWrites (result : SearchResult) : List (String × AttributeValue) :=
  result.texts.map fun listed => (listed.1, .ofTexts listed.2)

def binaryWrites (result : SearchResult) : List (String × AttributeValue) :=
  result.binaries.map fun listed => (listed.1, .ofBinaries listed.2)

theorem entry_built (result : SearchResult) :
    result.entry =
      ((Entry.empty result.name).setAll result.textWrites).setAll result.binaryWrites := by
  unfold entry textWrites binaryWrites Entry.setAll
  rw [List.foldl_map, List.foldl_map]

theorem Distinct.text_writes (distinct : result.Distinct) : NamesApart result.textWrites :=
  distinct.texts.map AttributeValue.ofTexts

theorem Distinct.binary_writes (distinct : result.Distinct) : NamesApart result.binaryWrites :=
  distinct.binaries.map AttributeValue.ofBinaries

theorem get_binary (distinct : result.Distinct) {name : String} {given : List Bytes}
    (listed : (name, given) ∈ result.binaries) (spelled : OneName name wanted) :
    result.entry.get wanted = .ofBinaries given := by
  rw [entry_built]
  exact Entry.get_set_all_listed distinct.binary_writes
    (List.mem_map.mpr ⟨(name, given), listed, rfl⟩) spelled

theorem get_beside_binaries (noBinary : ∀ given ∈ result.binaries, ¬OneName given.1 wanted) :
    result.entry.get wanted = ((Entry.empty result.name).setAll result.textWrites).get wanted := by
  rw [entry_built]
  exact Entry.get_set_all_apart (List.forall_mem_map.mpr noBinary)

theorem Delivers.read (distinct : result.Distinct) (delivers : result.Delivers wanted values) :
    result.entry.values wanted = values := by
  unfold Entry.values
  cases delivers with
  | binary listed spelled =>
      rw [get_binary distinct listed spelled, AttributeValue.texts_of_binaries]
  | @text name _ listed spelled noBinary =>
      have seen : ((Entry.empty result.name).setAll result.textWrites).get wanted =
          .ofTexts values :=
        Entry.get_set_all_listed distinct.text_writes
          (List.mem_map.mpr ⟨(name, values), listed, rfl⟩) spelled
      rw [get_beside_binaries noBinary, seen, AttributeValue.texts_of_texts]
  | absent noText noBinary =>
      have unseen : ((Entry.empty result.name).setAll result.textWrites).get wanted = .absent :=
        Entry.get_set_all_apart (List.forall_mem_map.mpr noText)
      rw [get_beside_binaries noBinary, unseen]
      rfl

theorem delivers_some (result : SearchResult) (wanted : String) :
    ∃ values, result.Delivers wanted values := by
  by_cases inBinaries : ∃ given ∈ result.binaries, OneName given.1 wanted
  · rcases inBinaries with ⟨given, listed, spelled⟩
    exact ⟨_, .binary listed spelled⟩
  · have noBinary : ∀ given ∈ result.binaries, ¬OneName given.1 wanted := by
      simpa using inBinaries
    by_cases inTexts : ∃ given ∈ result.texts, OneName given.1 wanted
    · rcases inTexts with ⟨given, listed, spelled⟩
      exact ⟨_, .text listed spelled noBinary⟩
    · exact ⟨[], .absent (by simpa using inTexts) noBinary⟩

theorem values_iff (distinct : result.Distinct) :
    result.entry.values wanted = values ↔ result.Delivers wanted values := by
  constructor
  · rintro rfl
    rcases delivers_some result wanted with ⟨told, delivers⟩
    exact delivers.read distinct ▸ delivers
  · exact Delivers.read distinct

theorem Reordered.same_map (reordered : result.Reordered other) (distinct : result.Distinct) :
    result.entry.SameMap other.entry := by
  have texts : ((Entry.empty result.name).setAll result.textWrites).SameMap
      ((Entry.empty result.name).setAll other.textWrites) :=
    Entry.set_all_perm _ (reordered.texts.map _) distinct.text_writes
  have binaries : (((Entry.empty result.name).setAll other.textWrites).setAll
      result.binaryWrites).SameMap
        (((Entry.empty result.name).setAll other.textWrites).setAll other.binaryWrites) :=
    Entry.set_all_perm _ (reordered.binaries.map _) distinct.binary_writes
  rw [entry_built, entry_built other, ← reordered.name]
  exact (texts.set_all result.binaryWrites).trans binaries

namespace InBytes

variable {written : String} {moved : List String}

theorem distinct (recoded : InBytes written moved result other) (distinct : result.Distinct) :
    other.Distinct where
  texts := (List.pairwise_cons.mp (distinct.texts.perm recoded.texts)).2
  binaries := by
    apply NamesApart.perm _ recoded.binaries
    exact List.pairwise_cons.mpr
      ⟨fun given listed same => recoded.free given listed same.symm, distinct.binaries⟩

theorem delivers (recoded : InBytes written moved result other) (distinct : result.Distinct)
    (delivers : result.Delivers wanted values) : other.Delivers wanted values := by
  have text_iff (given : String × List String) :
      given ∈ result.texts ↔ given = (written, moved) ∨ given ∈ other.texts := by
    rw [recoded.texts.mem_iff, List.mem_cons]
  have binary_iff (given : String × List Bytes) :
      given ∈ other.binaries ↔ given = (written, moved.map encode) ∨ given ∈ result.binaries := by
    rw [← recoded.binaries.mem_iff, List.mem_cons]
  have no_binary (apart : ¬OneName written wanted)
      (noBinary : ∀ given ∈ result.binaries, ¬OneName given.1 wanted) :
      ∀ given ∈ other.binaries, ¬OneName given.1 wanted := by
    intro given listed
    rcases (binary_iff given).mp listed with rfl | old
    · exact apart
    · exact noBinary given old
  have read_back : (moved.map encode).map decodeLossy = moved := by
    simp only [List.map_map, Function.comp_def, decode_lossy_encode, List.map_id']
  cases delivers with
  | binary listed spelled => exact .binary ((binary_iff _).mpr (.inr listed)) spelled
  | @text name _ listed spelled noBinary =>
      rcases (text_iff (name, values)).mp listed with same | kept
      · cases same
        have told : other.Delivers wanted ((values.map encode).map decodeLossy) :=
          .binary ((binary_iff _).mpr (.inl rfl)) spelled
        exact read_back ▸ told
      · have apart : ¬OneName written name :=
          (List.pairwise_cons.mp (distinct.texts.perm recoded.texts)).1 (name, values) kept
        exact .text kept spelled
          (no_binary (fun same => apart (same.trans spelled.symm)) noBinary)
  | absent noText noBinary =>
      have unwritten : ¬OneName written wanted :=
        noText (written, moved) ((text_iff (written, moved)).mpr (.inl rfl))
      exact .absent (fun given listed => noText given ((text_iff given).mpr (.inr listed)))
        (no_binary unwritten noBinary)

theorem same_values (recoded : InBytes written moved result other) (distinct : result.Distinct)
    (wanted : String) : other.entry.values wanted = result.entry.values wanted :=
  (values_iff (recoded.distinct distinct)).mpr
    (recoded.delivers distinct ((values_iff distinct).mp rfl))

end InBytes

theorem entry_name (result : SearchResult) : result.entry.name = result.name := by
  rw [entry_built, Entry.set_all_name, Entry.set_all_name]
  rfl

/-- The entry made of a search result keeps its name, tells under every name what the result
delivers and nothing else, and does not depend on the order of the attributes or on whether a list
of texts comes as bytes. -/
theorem search_result_read (result : SearchResult) (distinct : result.Distinct) :
    result.entry.name = result.name ∧
      (∀ wanted values, result.entry.values wanted = values ↔ result.Delivers wanted values) ∧
      (∀ wanted values, result.Delivers wanted values →
        result.entry.first? wanted = values.head?) ∧
      (∀ other, result.Reordered other → result.entry.SameMap other.entry) ∧
      ∀ written moved other, InBytes written moved result other →
        ∀ wanted, other.entry.values wanted = result.entry.values wanted := by
  constructor
  · exact entry_name result
  constructor
  · intro wanted values
    exact values_iff distinct
  constructor
  · intro wanted values delivers
    exact congrArg List.head? (delivers.read distinct)
  constructor
  · intro other reordered
    exact reordered.same_map distinct
  · intro written moved other recoded
    exact recoded.same_values distinct

/-- Names in mixed case in both lists, a byte that is no text, an empty list and a single value. -/
theorem mixed_result_read :
    let result : SearchResult :=
      ⟨"uid=anna", [("Mail", ["a@schule", "b@schule"]), ("cn", ["Anna"]), ("SN", [])],
        [("CN", [[0x4a, 0xc3, 0xb6], [0x41, 0xff]]), ("photo", [[0xff]])]⟩
    let reordered : SearchResult :=
      ⟨"uid=anna", [("SN", []), ("cn", ["Anna"]), ("Mail", ["a@schule", "b@schule"])],
        [("photo", [[0xff]]), ("CN", [[0x4a, 0xc3, 0xb6], [0x41, 0xff]])]⟩
    let recoded : SearchResult :=
      ⟨"uid=anna", [("cn", ["Anna"]), ("SN", [])],
        [("Mail", ["a@schule", "b@schule"].map encode),
          ("CN", [[0x4a, 0xc3, 0xb6], [0x41, 0xff]]), ("photo", [[0xff]])]⟩
    result.Distinct ∧ result.entry.values "Cn" = ["Jö", "A�"] ∧ result.entry.values "sn" = [] ∧
      result.entry.first? "MAIL" = some "a@schule" ∧ result.entry.SameMap reordered.entry ∧
      ∀ wanted, recoded.entry.values wanted = result.entry.values wanted := by
  intro result reordered recoded
  have distinct : result.Distinct := ⟨by decide +kernel, by decide +kernel⟩
  rcases search_result_read result distinct with ⟨-, told, first, order, bytes⟩
  have decoded : [[0x4a, 0xc3, 0xb6], [0x41, 0xff]].map decodeLossy = ["Jö", "A�"] := by
    decide +kernel
  have common : result.Delivers "Cn" ["Jö", "A�"] :=
    decoded ▸ .binary List.mem_cons_self (by decide +kernel)
  have noSurname : ∀ given ∈ result.binaries, ¬OneName given.1 "sn" := by decide +kernel
  have noMail : ∀ given ∈ result.binaries, ¬OneName given.1 "MAIL" := by decide +kernel
  have surname : result.Delivers "sn" [] :=
    .text (by decide : ("SN", []) ∈ result.texts) (by decide +kernel) noSurname
  have mail : result.Delivers "MAIL" ["a@schule", "b@schule"] :=
    .text List.mem_cons_self (by decide +kernel) noMail
  have shuffled : result.Reordered reordered := ⟨rfl, by decide +kernel, by decide +kernel⟩
  have inBytes : InBytes "Mail" ["a@schule", "b@schule"] result recoded :=
    ⟨rfl, .refl _, .refl _, by decide +kernel⟩
  exact ⟨distinct, (told _ _).mpr common, (told _ _).mpr surname, first _ _ mail,
    order reordered shuffled, bytes "Mail" _ recoded inBytes⟩

end SearchResult

end TeacherDirectory
