import TeacherDirectory.Proofs.Directory.Catalogue
import TeacherDirectory.Proofs.Service.SharedGroup

/-!
# Concurrent joins

Any number of people join the group of one school at the same time, each of them with two retries at
least. However their calls are interleaved, all of them succeed, and the group has the members that
it had and all the people who joined, each of them once.
-/

namespace TeacherDirectory.Service

set_option autoImplicit false

structure Joiner where
  policy : RetryPolicy
  referrer : String
  person : String

def Joiner.program (service : Service) (schoolCode : String) (joiner : Joiner) :
    Program (Except ServiceError Bool) :=
  ({ service with policy := joiner.policy }.joinGroup joiner.referrer schoolCode joiner.person).run

def joining {State : Type} (service : Service) (schoolCode : String) (joiners : List Joiner)
    (state : State) : Session (Fin joiners.length) State (Except ServiceError Bool) :=
  ⟨fun client => (joiners.get client).program service schoolCode, state⟩

/-- The record is the one that a store had under the name, but perhaps for its members. -/
def Extends (before : Store) (name : String) (record : Record) : Prop :=
  ∃ earlier, before name = some earlier ∧ ∀ key, key ≠ "member" → record key = earlier key

structure AllJoined (service : Service) (schoolCode : String) (people : List String)
    (before after : Store) : Prop where
  unit : ∃ record, after (service.schoolName schoolCode) = some record ∧
    (Filter.equal "objectClass" "organizationalUnit").Matches record
  group : ∃ record, IsGroup service.base after schoolCode (service.groupName schoolCode) record ∧
    (record "member").Perm (service.members schoolCode before ++ people)
  single : ∀ name record, IsGroup service.base after schoolCode name record →
    name = service.groupName schoolCode
  others : ∀ name record, after name = some record →
    name = service.schoolName schoolCode ∨ name = service.groupName schoolCode ∨
      Extends before name record
  distinct : (service.members schoolCode before).Nodup → (service.members schoolCode after).Nodup

variable {service : Service} {schoolCode : String} {joiners : List Joiner}

def JoinDone (service : Service) (schoolCode person : String)
    (outcome : Except ServiceError Bool) (store : Store) : Prop :=
  outcome = .ok true ∧ Listed service schoolCode person store

theorem person_injective (distinct : (joiners.map Joiner.person).Nodup)
    {client other : Fin joiners.length} (apart : other ≠ client) :
    (joiners.get other).person ≠ (joiners.get client).person := by
  intro same
  have position (index : Fin joiners.length) : (joiners.map Joiner.person).get
      (index.cast (List.length_map _).symm) = (joiners.get index).person := by simp
  have sameIndex := List.nodup_iff_injective_get.mp distinct
    ((position other).trans (same.trans (position client).symm))
  exact apart (Fin.cast_injective _ sameIndex)

theorem joiners_cooperate (distinct : (joiners.map Joiner.person).Nodup) :
    Cooperation (Store.answering False)
      (fun client => service.IsJoinOf schoolCode (joiners.get client).person)
      (fun client => service.Meanwhile schoolCode (joiners.get client).person)
      (fun client => service.JoinDone schoolCode (joiners.get client).person) where
  refl _ := Meanwhile.refl
  trans _ := Meanwhile.trans
  guaranteed apart _ _ _ _ asked answered :=
    (join_step asked answered).meanwhile (.inr (person_injective distinct apart))
  stable _ _ _ _ relied ended :=
    ⟨ended.1, relied.keeps _ ended.2.1, relied.listed ended.2.2⟩

theorem joiner_behaves {State : Type} {held : State → Store} {start : State}
    (patient : ∀ joiner ∈ joiners, 2 ≤ joiner.policy.maxRetries.toNat)
    (home : Home service schoolCode (held start))
    (outside : ∀ joiner ∈ joiners, joiner.person ∉ service.members schoolCode (held start))
    (client : Fin joiners.length) :
    Session.Behaves (Store.answering False) held
      (fun client => service.IsJoinOf schoolCode (joiners.get client).person)
      (fun client => service.Meanwhile schoolCode (joiners.get client).person)
      (fun client => service.JoinDone schoolCode (joiners.get client).person)
      (joining service schoolCode joiners start) client where
  plain := performs_join_calls trivial (fun _ _ => trivial) (fun _ _ _ _ _ => trivial)
    (.inl ⟨rfl, rfl⟩) (.inr ⟨rfl, rfl⟩) fun _ => rfl
  ensured := by
    let joiner := joiners.get client
    have joined : ({ service with policy := joiner.policy }.joinGroup joiner.referrer schoolCode
        joiner.person).Ensures (service.joinRule schoolCode joiner.person)
        (fun changed after => changed = true ∧ Listed service schoolCode joiner.person after)
        (fun _ _ => False) (held start) :=
      ensures_join_shared (patient joiner (List.get_mem joiners client)) home
        (outside joiner (List.get_mem joiners client))
    refine Program.Ensures.weaken joined fun outcome after ended => ?_
    cases outcome with
    | ok changed => exact ⟨congrArg Except.ok ended.1, ended.2⟩
    | error failure => exact ended.elim

structure JoinsSoFar (service : Service) (schoolCode : String) (people : List String)
    (before now : Store) : Prop where
  home : Home service schoolCode now
  members : ∃ added, service.members schoolCode now = service.members schoolCode before ++ added ∧
    added.Nodup ∧ ∀ person ∈ added, person ∈ people
  others : ∀ name record, now name = some record →
    name = service.schoolName schoolCode ∨ name = service.groupName schoolCode ∨
      Extends before name record

variable {people : List String} {person name : String} {before now after : Store} {record : Record}

theorem JoinStep.others (step : JoinStep service schoolCode person before after)
    (found : after name = some record) :
    name = service.schoolName schoolCode ∨ name = service.groupName schoolCode ∨
      Extends before name record := by
  have kept (same : before name = some record) : Extends before name record :=
    ⟨record, same, fun _ _ => rfl⟩
  cases step with
  | same => exact .inr (.inr (kept found))
  | unit _ =>
      by_cases place : name = service.schoolName schoolCode
      · exact .inl place
      · exact .inr (.inr (kept (Function.update_of_ne place _ before ▸ found)))
  | group _ =>
      by_cases place : name = service.groupName schoolCode
      · exact .inr (.inl place)
      · exact .inr (.inr (kept (Function.update_of_ne place _ before ▸ found)))
  | @member changed content stored _ =>
      by_cases place : name = changed
      · subst place
        rw [Function.update_self] at found
        obtain rfl := Option.some.inj found
        exact .inr (.inr ⟨content, stored, fun _ other => Function.update_of_ne other _ content⟩)
      · exact .inr (.inr (kept (Function.update_of_ne place _ before ▸ found)))

theorem JoinsSoFar.step (soFar : JoinsSoFar service schoolCode people before now)
    (listed : person ∈ people) (step : JoinStep service schoolCode person now after) :
    JoinsSoFar service schoolCode people before after := by
  obtain ⟨home, ⟨added, members, distinct, ours⟩, others⟩ := soFar
  refine ⟨step.home home, ?_, fun name record found => ?_⟩
  · rcases step.members with same | ⟨absent, behind⟩
    · exact ⟨added, same.trans members, distinct, ours⟩
    · rw [members, List.mem_append, not_or] at absent
      refine ⟨added ++ [person], ?_, ?_, fun member among => ?_⟩
      · rw [behind, members, List.append_assoc]
      · exact distinct.append (List.nodup_singleton person) (by simpa using absent.2)
      · rcases List.mem_append.mp among with earlier | last
        · exact ours member earlier
        · exact List.mem_singleton.mp last ▸ listed
  · rcases step.others found with unit | group | ⟨between, there, same⟩
    · exact .inl unit
    · exact .inr (.inl group)
    · refine (others name between there).imp_right (.imp_right ?_)
      rintro ⟨earlier, stored, unchanged⟩
      exact ⟨earlier, stored, fun key other => (same key other).trans (unchanged key other)⟩

theorem JoinsSoFar.all_joined (soFar : JoinsSoFar service schoolCode people before after)
    (nonempty : people ≠ []) (distinct : people.Nodup)
    (outside : ∀ person ∈ people, person ∉ service.members schoolCode before)
    (listed : ∀ person ∈ people, Listed service schoolCode person after) :
    AllJoined service schoolCode people before after := by
  obtain ⟨home, ⟨added, members, once, ours⟩, others⟩ := soFar
  have perm : added.Perm people := by
    refine (List.perm_ext_iff_of_nodup once distinct).mpr fun person =>
      ⟨ours person, fun joined => ?_⟩
    have member := (listed person joined).2
    rw [members] at member
    exact (List.mem_append.mp member).resolve_left (outside person joined)
  obtain ⟨first, joined⟩ := List.exists_mem_of_ne_nil people nonempty
  obtain ⟨unitPresent, firstMember⟩ := listed first joined
  obtain ⟨unit, unitStored⟩ := Option.ne_none_iff_exists'.mp unitPresent
  have groupPresent : after (service.groupName schoolCode) ≠ none := by
    intro absent
    rw [Service.members, absent] at firstMember
    exact List.not_mem_nil firstMember
  obtain ⟨group, groupStored⟩ := Option.ne_none_iff_exists'.mp groupPresent
  refine ⟨⟨unit, unitStored, home.unit unit unitStored⟩,
    ⟨group, home.group group groupStored, ?_⟩, home.single, others, fun initially => ?_⟩
  · rw [← members_stored groupStored, members]
    exact perm.append_left _
  · rw [members]
    exact initially.append once fun person earlier later =>
      outside person (ours person later) earlier

/-- However the calls of the joiners are interleaved, they come to an end, everyone succeeds, and
the group then has all of them. -/
theorem concurrent_joins_succeed {State : Type} {world : World State} {held : State → Store}
    {start : State} (obeys : world.Obeys (Store.answering False) held)
    (patient : ∀ joiner ∈ joiners, 2 ≤ joiner.policy.maxRetries.toNat)
    (distinct : (joiners.map Joiner.person).Nodup)
    (home : Home service schoolCode (held start))
    (outside : ∀ joiner ∈ joiners, joiner.person ∉ service.members schoolCode (held start)) :
    (¬∃ sessions : Nat → Session (Fin joiners.length) State (Except ServiceError Bool),
      sessions 0 = joining service schoolCode joiners start ∧
        ∀ turn, Session.Turn world (sessions turn) (sessions (turn + 1))) ∧
      ∀ now, Relation.ReflTransGen (Session.Turn world) (joining service schoolCode joiners start)
        now →
        (∀ client outcome, now.left client = .done outcome → outcome = .ok true) ∧
          ((∀ later, ¬Session.Turn world now later) →
            (∀ client, now.left client = .done (.ok true)) ∧
              (joiners ≠ [] → AllJoined service schoolCode (joiners.map Joiner.person) (held start)
                (held now.state))) := by
  refine ⟨fun ⟨sessions, _, turns⟩ => Session.turns_end sessions turns, fun now reached => ?_⟩
  have begun := joiner_behaves patient home outside
  have behaves := Session.reachable_behaves obeys (joiners_cooperate distinct) reached begun
  have succeeded (client : Fin joiners.length) (outcome : Except ServiceError Bool)
      (ended : now.left client = .done outcome) : outcome = .ok true :=
    ((behaves client).finished ended).1
  refine ⟨succeeded, fun idle => ?_⟩
  have done (client : Fin joiners.length) : now.left client = .done (.ok true) := by
    obtain ⟨outcome, ended⟩ := Session.idle_done idle client
    rw [ended, succeeded client outcome ended]
  refine ⟨done, fun nonempty => ?_⟩
  have soFar : JoinsSoFar service schoolCode (joiners.map Joiner.person) (held start)
      (held now.state) := by
    refine Session.reachable_invariant obeys (fun client _ _ _ _ asked answered soFar => ?_) reached
      (fun client => (begun client).plain) ?_
    · exact soFar.step (List.mem_map_of_mem (List.get_mem joiners client))
        (join_step asked answered)
    · exact ⟨home, ⟨[], (List.append_nil _).symm, List.nodup_nil, nofun⟩,
        fun _ record stored => .inr (.inr ⟨record, stored, fun _ _ => rfl⟩)⟩
  refine soFar.all_joined (by simpa using nonempty) distinct ?_ ?_
  · intro person among
    obtain ⟨joiner, joins, rfl⟩ := List.mem_map.mp among
    exact outside joiner joins
  · intro person among
    obtain ⟨joiner, joins, rfl⟩ := List.mem_map.mp among
    obtain ⟨client, rfl⟩ := List.get_of_mem joins
    exact ((behaves client).finished (done client)).2

/-- Three people are the first teachers of a new school. -/
theorem three_joins_succeed :
    let service : Service :=
      ⟨⟨"", "cn=admin", none, "dc=schule", none, none, none, none, none, none⟩, .standard⟩
    let joiners : List Joiner := [⟨.standard, "anna", "uid=anna,dc=schule"⟩,
      ⟨.standard, "bert", "uid=bert,dc=schule"⟩, ⟨.immediate 2, "carl", "uid=carl,dc=schule"⟩]
    Catalogue.world.Obeys (Store.answering False) Catalogue.store ∧
      (∀ joiner ∈ joiners, 2 ≤ joiner.policy.maxRetries.toNat) ∧
      (joiners.map Joiner.person).Nodup ∧
      Home service "0705" Catalogue.empty.store ∧
      (∀ joiner ∈ joiners, joiner.person ∉ service.members "0705" Catalogue.empty.store) ∧
      ∀ now, Relation.ReflTransGen (Session.Turn Catalogue.world)
        (joining service "0705" joiners Catalogue.empty) now →
        (∀ later, ¬Session.Turn Catalogue.world now later) →
        (∀ client, now.left client = .done (.ok true)) ∧
          AllJoined service "0705"
            ["uid=anna,dc=schule", "uid=bert,dc=schule", "uid=carl,dc=schule"]
            Catalogue.empty.store now.state.store := by
  intro service joiners
  have patient : ∀ joiner ∈ joiners, 2 ≤ joiner.policy.maxRetries.toNat := by decide
  have distinct : (joiners.map Joiner.person).Nodup := by decide
  have home : Home service "0705" Catalogue.empty.store :=
    ⟨nofun, nofun, fun _ _ isGroup => nomatch isGroup.stored⟩
  have outside : ∀ joiner ∈ joiners,
      joiner.person ∉ service.members "0705" Catalogue.empty.store := fun _ _ => List.not_mem_nil
  refine ⟨Catalogue.world_obeys False, patient, distinct, home, outside, fun now reached idle => ?_⟩
  have succeed := concurrent_joins_succeed (Catalogue.world_obeys False) patient distinct home
    outside
  obtain ⟨done, joined⟩ := (succeed.2 now reached).2 idle
  exact ⟨done, joined (List.cons_ne_nil _ _)⟩

end TeacherDirectory.Service
