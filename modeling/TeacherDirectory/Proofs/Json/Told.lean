import TeacherDirectory.Proofs.Json.Records

/-!
# What the members of an object tell

A record is read from an object member by member, with what was found so far at hand. What comes of
it does not depend on that: the members tell a value for each field, wherever they stand.
-/

namespace TeacherDirectory.Json

set_option autoImplicit false

variable {key : String} {text : List Char} {field : Field} {fields : List Field}
  {found result : Found} {value : Option String} {values : List (Option String)}
  {told : String × List Char} {members own others : List (String × List Char)} {record : String}

/-- The value of a field, by its member. A field that is left out is null, unless it is required. -/
inductive Told (members : List (String × List Char)) (field : Field) : Option String → Prop
  | given {text : List Char} {value : Option String} (member : (field.key, text) ∈ members)
      (reads : Reads field text value) : Told members field value
  | leftOut (optional : field.required = false) (absent : ∀ told ∈ members, told.1 ≠ field.key) :
      Told members field none

def occurrences (key : String) (members : List (String × List Char)) : Nat :=
  (members.map Prod.fst).count key

/-- Members tell the values of the fields: no field occurs twice, and each has its value. What other
members there are and how all are ordered does not matter. -/
structure Tells (fields : List Field) (values : List (Option String))
    (members : List (String × List Char)) : Prop where
  once : ∀ field ∈ fields, occurrences field.key members ≤ 1
  each : List.Forall₂ (Told members) fields values

def Known (fields : List Field) (key : String) (field : Field) : Prop :=
  (fields.find? fun field => field.key = key) = some field

section Gathering

theorem occurrences_cons : occurrences key (told :: members) =
    occurrences key members + if told.1 = key then 1 else 0 := by
  simp [occurrences, List.count_cons]

theorem occurrences_none : occurrences key members = 0 ↔ ∀ told ∈ members, told.1 ≠ key := by
  rw [occurrences, List.count_eq_zero, List.mem_map, not_exists]
  exact forall_congr' fun told => not_and

theorem only_member (once : occurrences key members ≤ 1) {other : List Char}
    (first : (key, text) ∈ members) (second : (key, other) ∈ members) : text = other := by
  induction members with
  | nil => cases first
  | cons told members induction =>
      rw [occurrences_cons] at once
      by_cases same : told.1 = key
      · have absent : ∀ told ∈ members, told.1 ≠ key := by
          rw [if_pos same] at once
          exact occurrences_none.mp (by omega)
        have here {letters : List Char} (member : (key, letters) ∈ told :: members) :
            (key, letters) = told :=
          (List.mem_cons.mp member).resolve_right fun later => absent _ later rfl
        exact (Prod.mk.inj ((here first).trans (here second).symm)).2
      · have later {letters : List Char} (member : (key, letters) ∈ told :: members) :
            (key, letters) ∈ members :=
          (List.mem_cons.mp member).resolve_left fun here => same (here ▸ rfl)
        rw [if_neg same] at once
        exact induction once (later first) (later second)

theorem Known.key_eq (known : Known fields key field) : field.key = key := by
  simpa using List.find?_some known

theorem Known.mem (known : Known fields key field) : field ∈ fields :=
  List.mem_of_find?_eq_some known

theorem known_of_mem (distinct : (fields.map Field.key).Nodup) (mem : field ∈ fields) :
    Known fields field.key field := by
  induction fields with
  | nil => cases mem
  | cons first fields induction =>
      rw [List.map_cons, List.nodup_cons] at distinct
      rcases List.mem_cons.mp mem with rfl | later
      · exact List.find?_cons_of_pos (by simp)
      · have apart : first.key ≠ field.key := by
          intro same
          exact distinct.1 (same ▸ List.mem_map_of_mem later)
        rw [Known, List.find?_cons_of_neg (by simpa using apart)]
        exact induction distinct.2 later

theorem adds_lookup (known : Known fields key field) {between : Found}
    (adds : Adds fields found told between) :
    between.lookup key = some value ↔
      found.lookup key = some value ∨ ∃ text, (key, text) = told ∧ Reads field text value := by
  cases adds with
  | @passed other text unknown =>
      have apart : key ≠ other := by
        rintro rfl
        cases unknown.symm.trans known
      simp [apart]
  | @taken other text owner taken here fresh reads =>
      by_cases same : key = other
      · subst same
        obtain rfl := Option.some.inj (here.symm.trans known)
        rw [List.lookup_cons_self, fresh]
        constructor
        · rintro ⟨⟩
          exact .inr ⟨text, rfl, reads⟩
        · rintro (⟨⟨⟩⟩ | ⟨again, same, others⟩)
          cases same
          rw [reads.unique others]
      · have apart : (key == other) = false := beq_false_of_ne same
        simp [List.lookup_cons, apart, same]

theorem gathers_lookup (known : Known fields key field)
    (gathers : Gathers fields found members result) :
    result.lookup key = some value ↔
      found.lookup key = some value ∨ ∃ text, (key, text) ∈ members ∧ Reads field text value := by
  induction members generalizing found with
  | nil =>
      obtain rfl := gathers
      simp
  | cons told members induction =>
      obtain ⟨between, adds, further⟩ := gathers
      rw [induction further, adds_lookup known adds, or_assoc]
      simp only [List.mem_cons, or_and_right, exists_or]

theorem adds_count (known : Known fields key field) {between : Found}
    (adds : Adds fields found told between) :
    (between.lookup key).toList.length =
      (found.lookup key).toList.length + if told.1 = key then 1 else 0 := by
  cases adds with
  | @passed other text unknown =>
      have apart : other ≠ key := by
        rintro rfl
        cases unknown.symm.trans known
      simp [apart]
  | @taken other text owner taken here fresh reads =>
      by_cases same : key = other
      · subst same
        simp [fresh]
      · simp [List.lookup_cons, beq_false_of_ne same, Ne.symm same]

theorem gathers_count (known : Known fields key field)
    (gathers : Gathers fields found members result) :
    (result.lookup key).toList.length =
      (found.lookup key).toList.length + occurrences key members := by
  induction members generalizing found with
  | nil =>
      obtain rfl := gathers
      rfl
  | cons told members induction =>
      obtain ⟨between, adds, further⟩ := gathers
      rw [induction further, adds_count known adds, occurrences_cons]
      omega

/-- Members are gathered if each has a value for its field and none is the second one for it. -/
theorem gathers_of
    (once : ∀ key field, Known fields key field →
      (found.lookup key).toList.length + occurrences key members ≤ 1)
    (readable : ∀ told ∈ members, ∀ field, Known fields told.1 field →
      ∃ value, Reads field told.2 value) :
    ∃ result, Gathers fields found members result := by
  induction members generalizing found with
  | nil => exact ⟨found, rfl⟩
  | cons told members induction =>
      obtain ⟨first, others⟩ := List.forall_mem_cons.mp readable
      obtain ⟨between, adds⟩ : ∃ between, Adds fields found told between := by
        cases known : fields.find? fun field => field.key = told.1 with
        | none => exact ⟨found, .passed known⟩
        | some field =>
            obtain ⟨value, reads⟩ := first field known
            have fresh : found.lookup told.1 = none := by
              have total := once told.1 field known
              rw [occurrences_cons, if_pos rfl] at total
              cases earlier : found.lookup told.1 with
              | none => rfl
              | some value =>
                  rw [earlier, Option.toList_some, List.length_singleton] at total
                  omega
            exact ⟨_, .taken known fresh reads⟩
      have onceLater key field (known : Known fields key field) :
          (between.lookup key).toList.length + occurrences key members ≤ 1 := by
        have total := once key field known
        rw [occurrences_cons] at total
        rw [adds_count known adds]
        omega
      obtain ⟨result, further⟩ := induction onceLater others
      exact ⟨result, between, adds, further⟩

end Gathering

section Telling

theorem found_values_iff :
    Found.values found fields = .ok values ↔
      List.Forall₂ (fun field value => found.value field = .ok value) fields values := by
  rw [Found.values]
  induction fields generalizing values with
  | nil => cases values <;> simp [pure, Except.pure]
  | cons field fields induction =>
      rw [List.mapM_cons, bind_ok_iff]
      constructor
      · rintro ⟨value, here, ends⟩
        obtain ⟨further, later, same⟩ := bind_ok_iff.mp ends
        cases same
        exact .cons here (induction.mp later)
      · rintro (_ | ⟨here, further⟩)
        exact ⟨_, here, bind_ok_iff.mpr ⟨_, induction.mpr further, rfl⟩⟩

theorem found_value_iff (known : Known fields field.key field)
    (gathers : Gathers fields [] members found) :
    found.value field = .ok value ↔ Told members field value := by
  have lookup {value : Option String} : found.lookup field.key = some value ↔ _ :=
    gathers_lookup known gathers
  have count := gathers_count known gathers
  simp only [List.lookup_nil, Option.toList_none, List.length_nil, Nat.zero_add, reduceCtorEq,
    false_or] at lookup count
  have absent : found.lookup field.key = none ↔ ∀ told ∈ members, told.1 ≠ field.key := by
    rw [← occurrences_none, ← count]
    cases found.lookup field.key <;> simp
  rw [Found.value]
  constructor
  · intro valued
    cases given : found.lookup field.key with
    | some other =>
        rw [given] at valued
        cases valued
        obtain ⟨text, member, reads⟩ := lookup.mp given
        exact .given member reads
    | none =>
        rw [given] at valued
        cases required : field.required with
        | true => simp [required] at valued
        | false =>
            simp only [required, Bool.false_eq_true, if_false, Except.ok.injEq] at valued
            exact valued ▸ .leftOut required (absent.mp given)
  · rintro (⟨member, reads⟩ | ⟨optional, missing⟩)
    · rw [lookup.mpr ⟨_, member, reads⟩]
    · rw [absent.mpr missing]
      simp [optional]

theorem Tells.of_mem (tells : Tells fields values members) (mem : field ∈ fields) :
    ∃ value, Told members field value := by
  have each := tells.each
  obtain ⟨position, bound, rfl⟩ := List.getElem_of_mem mem
  exact ⟨_, (List.forall₂_iff_get.mp each).2 position bound (each.length_eq ▸ bound)⟩

theorem Tells.present (tells : Tells fields values members) (mem : field ∈ fields)
    (required : field.required = true) : ∃ told ∈ members, told.1 = field.key := by
  obtain ⟨value, _ | ⟨optional, -⟩⟩ := tells.of_mem mem
  · exact ⟨_, ‹_›, rfl⟩
  · rw [required] at optional
    cases optional

theorem Tells.gathers (tells : Tells fields values members) :
    ∃ result, Gathers fields [] members result := by
  refine gathers_of (fun key field known => ?_) (fun told member field known => ?_)
  · rw [List.lookup_nil, Option.toList_none, List.length_nil, Nat.zero_add]
    exact known.key_eq ▸ tells.once field known.mem
  · obtain ⟨value, isTold⟩ := tells.of_mem known.mem
    obtain ⟨key, text⟩ := told
    obtain rfl := known.key_eq
    cases isTold with
    | given other reads =>
        obtain rfl := only_member (tells.once field known.mem) other member
        exact ⟨_, reads⟩
    | leftOut optional absent => exact (absent _ member rfl).elim

/-- A record is read from an object if its members tell the values, in whatever order and among
whatever other members they stand. -/
theorem read_object_tells (distinct : (fields.map Field.key).Nodup)
    (isObject : IsObject members record.toList) :
    readRecord fields record = .ok values ↔ Tells fields values members := by
  rw [read_record_object isObject]
  have toldIff {found : Found} (gathers : Gathers fields [] members found) :
      Found.values found fields = .ok values ↔ List.Forall₂ (Told members) fields values := by
    have each (field : Field) (mem : field ∈ fields) (value : Option String) :
        found.value field = .ok value ↔ Told members field value :=
      found_value_iff (known_of_mem distinct mem) gathers
    rw [found_values_iff]
    constructor
    · intro valued
      exact ((List.forall₂_and_left _ _).mpr ⟨each, valued⟩).imp
        fun _ value both => (both.1 value).mp both.2
    · intro tells
      exact ((List.forall₂_and_left _ _).mpr ⟨each, tells⟩).imp
        fun _ value both => (both.1 value).mpr both.2
  constructor
  · rintro ⟨found, gathers, valued⟩
    refine ⟨fun field mem => ?_, (toldIff gathers).mp valued⟩
    have count := gathers_count (known_of_mem distinct mem) gathers
    simp only [List.lookup_nil, Option.toList_none, List.length_nil, Nat.zero_add] at count
    rw [← count]
    cases found.lookup field.key <;> simp
  · intro tells
    obtain ⟨found, gathers⟩ := tells.gathers
    exact ⟨found, gathers, (toldIff gathers).mpr tells.each⟩

end Telling

/-- Members as a writer may choose them for values: those of the fields in order, each text spelled
in some way, and null written or left out. -/
inductive Spelled : List Field → List (Option String) → List (String × List Char) → Prop
  | none : Spelled [] [] []
  | given {field : Field} {fields : List Field} {text : List Char} {value : Option String}
      {values : List (Option String)} {own : List (String × List Char)}
      (reads : Reads field text value) (further : Spelled fields values own) :
      Spelled (field :: fields) (value :: values) ((field.key, text) :: own)
  | leftOut {field : Field} {fields : List Field} {values : List (Option String)}
      {own : List (String × List Char)} (optional : field.required = false)
      (further : Spelled fields values own) : Spelled (field :: fields) (Option.none :: values) own

section Rearranging

theorem Told.among (isTold : Told own field value) (subset : own ⊆ members)
    (only : ∀ told ∈ members, told.1 = field.key → told ∈ own) : Told members field value := by
  cases isTold with
  | given member reads => exact .given (subset member) reads
  | leftOut optional absent =>
      exact .leftOut optional fun told member same => absent told (only told member same) same

theorem Spelled.keys (spelled : Spelled fields values own) :
    (own.map Prod.fst).Sublist (fields.map Field.key) := by
  induction spelled with
  | none => exact .slnil
  | given _ _ induction => exact .cons_cons _ induction
  | leftOut _ _ induction => exact .cons _ induction

theorem Spelled.each_told (spelled : Spelled fields values own)
    (distinct : (fields.map Field.key).Nodup) : List.Forall₂ (Told own) fields values := by
  induction spelled with
  | none => exact .nil
  | @given field fields text value values own reads further induction =>
      obtain ⟨apart, distinct⟩ := List.nodup_cons.mp distinct
      refine .cons (.given List.mem_cons_self reads) ?_
      refine ((List.forall₂_and_left _ _).mpr ⟨fun _ mem => mem, induction distinct⟩).imp ?_
      rintro other value ⟨mem, isTold⟩
      refine isTold.among (List.subset_cons_self _ _) ?_
      rintro told member same
      refine (List.mem_cons.mp member).resolve_left ?_
      rintro rfl
      exact apart (List.mem_map.mpr ⟨other, mem, same.symm⟩)
  | @leftOut field fields values own optional further induction =>
      obtain ⟨apart, distinct⟩ := List.nodup_cons.mp distinct
      refine .cons (.leftOut optional fun told member same => ?_) (induction distinct)
      exact apart (same ▸ further.keys.subset (List.mem_map_of_mem member))

theorem Spelled.tells (spelled : Spelled fields values own)
    (distinct : (fields.map Field.key).Nodup)
    (unknown : ∀ told ∈ others, ∀ field ∈ fields, told.1 ≠ field.key)
    (order : members.Perm (own ++ others)) : Tells fields values members := by
  refine ⟨fun field mem => ?_, ?_⟩
  · have absent : (others.map Prod.fst).count field.key = 0 :=
      occurrences_none.mpr fun told member => unknown told member field mem
    rw [occurrences, (order.map Prod.fst).count_eq, List.map_append, List.count_append, absent]
    exact List.nodup_iff_count.mp (distinct.sublist spelled.keys) field.key
  · refine ((List.forall₂_and_left _ _).mpr ⟨fun _ mem => mem, spelled.each_told distinct⟩).imp ?_
    rintro field value ⟨mem, isTold⟩
    refine isTold.among (fun told member => order.symm.subset (List.mem_append_left _ member)) ?_
    intro told member same
    exact (List.mem_append.mp (order.subset member)).resolve_right fun other =>
      unknown told other field mem same

end Rearranging

end TeacherDirectory.Json
