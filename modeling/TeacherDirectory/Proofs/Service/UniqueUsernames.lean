import TeacherDirectory.Proofs.Service.UsernameWrites

/-!
# Usernames that two entries share

A task puts an entry at a name for a username, at most one and where no entry was; a renamed entry
leaves another name for it. All other tasks give nobody a username. So two entries below the base
share a username only after one of them was put there while the other one had it. Creating a teacher
looks into one realm only and renaming looks for nothing, so both can do this; reading a person
cannot.
-/

namespace TeacherDirectory

set_option autoImplicit false

open DistinguishedName
open Function (update)

namespace Service

section Names

variable {base username place origin name other : String} {before after : Store} {record : Record}

structure Named (base username : String) (store : Store) (name : String) : Prop where
  inside : Within base name
  listed : username ∈ usernames store name

def UniqueUsernames (base : String) (store : Store) : Prop :=
  ∀ username name other, Named base username store name → Named base username store other →
    name = other

theorem Named.congr (same : usernames after name = usernames before name) :
    Named base username after name ↔ Named base username before name :=
  ⟨fun named => ⟨named.inside, same ▸ named.listed⟩,
    fun named => ⟨named.inside, same ▸ named.listed⟩⟩

theorem UserEntry.is_named (user : UserEntry base username name record before) :
    Named base username before name :=
  ⟨user.inside, usernames_stored user.stored ▸ user.named⟩

theorem unidentified_iff :
    Unidentified base username before ↔ ∀ name, ¬Named base username before name := by
  constructor
  · intro unidentified name named
    cases stored : before name with
    | none =>
        have listed := named.listed
        simp [usernames, stored] at listed
    | some record =>
        exact unidentified name record stored named.inside
          (usernames_stored stored ▸ named.listed)
  · intro nobody name record stored inside listed
    exact nobody name ⟨inside, usernames_stored stored ▸ listed⟩

theorem UniqueUsernames.fewer (unique : UniqueUsernames base before)
    (fewer : ∀ name, usernames after name ⊆ usernames before name) : UniqueUsernames base after :=
  fun username name other named otherNamed =>
    unique username name other ⟨named.inside, fewer name named.listed⟩
      ⟨otherNamed.inside, fewer other otherNamed.listed⟩

/-- Every name has an entry or none as before, with the same usernames. -/
def SameUsernames (before after : Store) : Prop :=
  ∀ name, (after name).map (· "uid") = (before name).map (· "uid")

theorem SameUsernames.usernames (same : SameUsernames before after) (name : String) :
    usernames after name = usernames before name := by
  unfold Service.usernames
  rw [same name]

theorem SameUsernames.free (same : SameUsernames before after) :
    after name = none ↔ before name = none := by
  rw [← Option.map_eq_none_iff, same name, Option.map_eq_none_iff]

theorem SameUsernames.set {changed : Record} (same : SameUsernames before after)
    (stored : after name = some record) (kept : changed "uid" = record "uid") :
    SameUsernames before (update after name (some changed)) := by
  intro other
  by_cases here : other = name
  · rw [here, Function.update_self, ← same name, stored]
    exact congrArg some kept
  · rw [Function.update_of_ne here]
    exact same other

end Names

section Putting

variable {base username place origin name other : String} {before after : Store} {record : Record}

/-- An entry was put at a place where none was, for a username. It may have come from another name,
with usernames that it had there. -/
structure PutAt (place username origin : String) (before after : Store) : Prop where
  elsewhere : ∀ other, other ≠ place →
    usernames after other = if other = origin then [] else usernames before other
  given : username ∈ usernames after place
  only : ∀ listed ∈ usernames after place, listed = username ∨ listed ∈ usernames before origin
  vacant : place ≠ origin → usernames before place = []

theorem PutAt.unique (put : PutAt place username origin before after)
    (unique : UniqueUsernames base before)
    (inside : ∀ listed, listed ∈ usernames before origin → Within base origin)
    (apart : Within base place → ∀ other, other ≠ origin → ¬Named base username before other) :
    UniqueUsernames base after := by
  -- An entry elsewhere was there before, and is not the one that moved.
  have stayed {listed other : String} (different : other ≠ place)
      (named : Named base listed after other) :
      other ≠ origin ∧ Named base listed before other := by
    have listedThere := named.listed
    rw [put.elsewhere other different] at listedThere
    split at listedThere
    · cases listedThere
    case isFalse notOrigin => exact ⟨notOrigin, named.inside, listedThere⟩
  have alone {listed other : String} (here : Named base listed after place)
      (named : Named base listed after other) : other = place := by
    by_contra different
    obtain ⟨notOrigin, there⟩ := stayed different named
    rcases put.only listed here.listed with rfl | earlier
    · exact apart here.inside other notOrigin there
    · exact notOrigin (unique listed other origin there ⟨inside listed earlier, earlier⟩)
  intro listed name other named otherNamed
  by_cases here : name = place
  · subst here
    exact (alone named otherNamed).symm
  · by_cases there : other = place
    · subst there
      exact alone otherNamed named
    · exact unique listed name other (stayed here named).2 (stayed there otherNamed).2

theorem PutAt.shared (put : PutAt place username origin before after) (inside : Within base place)
    (apart : other ≠ origin) (named : Named base username before other) :
    ¬UniqueUsernames base after := by
  intro unique
  have different : other ≠ place := by
    rintro rfl
    have nobody := put.vacant apart
    exact List.not_mem_nil (nobody ▸ named.listed)
  have there : Named base username after other := by
    refine ⟨named.inside, ?_⟩
    rw [put.elsewhere other different, if_neg apart]
    exact named.listed
  exact different (unique username other place there ⟨inside, put.given⟩)

theorem PutAt.congr {earlier later : Store} (put : PutAt place username origin before after)
    (start : ∀ name, usernames before name = usernames earlier name)
    (finish : ∀ name, usernames later name = usernames after name) :
    PutAt place username origin earlier later where
  elsewhere other different :=
    (finish other).trans (start other ▸ put.elsewhere other different)
  given := finish place ▸ put.given
  only listed member := start origin ▸ put.only listed (finish place ▸ member)
  vacant moved := start place ▸ put.vacant moved

theorem Entered.put_at (entered : Entered base username place record before after)
    (names : record "uid" = [username]) : PutAt place username place before after := by
  have placed : usernames after place = [username] := by
    rw [entered.stored, usernames_stored (Function.update_self _ _ _), names]
  have nobody : usernames before place = [] := by
    unfold usernames
    rw [entered.free]
    rfl
  refine ⟨fun other different => ?_, ?_, fun listed member => ?_, fun moved => (moved rfl).elim⟩
  · rw [if_neg different, entered.stored]
    unfold usernames
    rw [Function.update_of_ne different]
  · rw [placed]
    exact List.mem_singleton.mpr rfl
  · rw [placed] at member
    exact .inl (List.mem_singleton.mp member)

theorem renamed_put_at {new : String} {givenName surname : Option String}
    (stored : before name = some record) (free : RenameFree name new before) :
    PutAt (renameUser name new) new name before
      (renamedStore name new givenName surname record before) := by
  have placed : usernames (renamedStore name new givenName surname record before)
      (renameUser name new) = movedRecord name new givenName surname record "uid" := by
    rw [renamed_store_eq]
    exact usernames_stored (Function.update_self _ _ _)
  have kept : namedRecord givenName surname new record "uid" = record "uid" :=
    names_replaced_usernames
  refine ⟨fun other different => ?_, placed ▸ moved_record_values.1, fun listed member => ?_,
    fun moved => ?_⟩
  · rw [renamed_store_eq]
    unfold usernames
    rw [Function.update_of_ne different]
    by_cases here : other = name
    · rw [here, Function.update_self, if_pos rfl]
      rfl
    · rw [Function.update_of_ne here, if_neg here]
  · rw [placed] at member
    rw [usernames_stored stored, ← kept]
    exact (moved_record_values.2 "uid" listed member).imp_left And.right
  · unfold usernames
    rw [rename_free_iff.mp free moved]
    rfl

end Putting

section Tasks

variable {service : Service} {failing : Prop} {before after : Store} {task : Task}
  {place username origin : String}

/-- What a task has to put: the place, the username, and the name that the entry leaves. Creating a
teacher looks for the username in one realm, reading a person looks everywhere below the base, and
renaming looks for the old username only. -/
inductive Puts (service : Service) (store : Store) : Task → String → String → String → Prop
  | teacher {person : Person} {domain schoolCode username : String} {entryUuid : Option String}
      {realm : Realm} (found : service.settings.realm? domain = some realm)
      (named : person.referrer = some username)
      (unknown : Unidentified (service.realmName realm) username store)
      (free : store (service.teacherName username realm) = none) :
      Puts service store (.createTeacher person domain schoolCode entryUuid)
        (service.teacherName username realm) username (service.teacherName username realm)
  | placeholder {personId username domain : String} {realm : Realm}
      (found : service.settings.realm? domain = some realm)
      (unknown : Unidentified service.base username store)
      (free : store (service.teacherName username realm) = none) :
      Puts service store (.attributes personId username domain)
        (service.teacherName username realm) username (service.teacherName username realm)
  | renamed {referrer new name : String} {givenName surname : Option String}
      (user : Named service.base referrer store name) (free : RenameFree name new store) :
      Puts service store (.modifyAttributes referrer givenName surname (some new))
        (renameUser name new) new name

theorem Puts.determined {place' username' origin' : String}
    (unique : UniqueUsernames service.base before)
    (puts : Puts service before task place username origin)
    (other : Puts service before task place' username' origin') :
    place' = place ∧ username' = username ∧ origin' = origin := by
  cases puts with
  | teacher found named =>
      cases other with
      | teacher foundOther namedOther =>
          obtain rfl := Option.some.inj (found.symm.trans foundOther)
          obtain rfl := Option.some.inj (named.symm.trans namedOther)
          exact ⟨rfl, rfl, rfl⟩
  | placeholder found =>
      cases other with
      | placeholder foundOther =>
          obtain rfl := Option.some.inj (found.symm.trans foundOther)
          exact ⟨rfl, rfl, rfl⟩
  | renamed user =>
      cases other with
      | renamed userOther =>
          obtain rfl := unique _ _ _ user userOther
          exact ⟨rfl, rfl, rfl⟩

theorem Puts.origin_inside (puts : Puts service before task place username origin) :
    ∀ listed, listed ∈ usernames before origin → Within service.base origin := by
  intro listed member
  cases puts with
  | teacher => exact teacher_name_within
  | placeholder => exact teacher_name_within
  | renamed user => exact user.inside

def PutEnds (service : Service) (failing : Prop) (task : Task) (before after : Store) : Prop :=
  (∃ place username origin, Puts service before task place username origin ∧
    PutAt place username origin before after) ∨
  ((∀ name, usernames after name ⊆ usernames before name) ∧
    (failing ∨ ∀ place username origin, ¬Puts service before task place username origin))

theorem put_ends_same (same : after = before)
    (cause : failing ∨ ∀ place username origin, ¬Puts service before task place username origin) :
    PutEnds service failing task before after :=
  .inr ⟨fun _ => same ▸ List.Subset.refl _, cause⟩

theorem ensures_quiet_usernames {Result : Type} {attempt : Attempt Result}
    (quiet : attempt.Performs (Effect.Calling (Call.Opening Call.Quiet))) :
    attempt.EndsIn (Store.answering failing)
      (fun after => ∀ name, usernames after name = usernames before name) before :=
  quiet.keeps (fun _ _ _ _ called same answered name =>
    (quiet_keeps called answered name).usernames.trans (same name)) fun _ => rfl

theorem ensures_sparing_usernames (sparing : task.isSparing = true) :
    (task.perform service).EndsIn (Store.answering failing)
      (fun after => ∀ name, usernames after name ⊆ usernames before name) before := by
  refine (performs_sparing sparing).keeps ?_ fun _ => List.Subset.refl _
  intro state request answer later called fewer answered name
  rcases sparing_keeps called answered name with gone | kept
  · unfold usernames
    rw [gone]
    exact List.nil_subset _
  · exact kept.usernames ▸ fewer name

theorem ensures_create_puts {person : Person} {domain schoolCode : String}
    {entryUuid : Option String} :
    (service.createTeacher person domain schoolCode entryUuid).EndsIn (Store.answering failing)
      (PutEnds service failing (.createTeacher person domain schoolCode entryUuid) before)
      before := by
  unfold createTeacher Attempt.EndsIn
  simp only [Attempt.ensures_bind, ensures_realm, ensures_referrer]
  refine ⟨fun realm found => ⟨fun username named => ?_, fun none => ?_⟩, fun none => ?_⟩
  · -- With nothing put, either the realm knew the username or the place was taken.
    have kept {after : Store} (same : after = before)
        (cause : failing ∨ ¬(Unidentified (service.realmName realm) username before ∧
          before (service.teacherName username realm) = none)) :
        PutEnds service failing (.createTeacher person domain schoolCode entryUuid) before
          after := by
      refine put_ends_same same (cause.imp_right fun unready _ _ _ puts => ?_)
      cases puts with
      | teacher foundThere namedThere unknown free =>
          obtain rfl := Option.some.inj (found.symm.trans foundThere)
          obtain rfl := Option.some.inj (named.symm.trans namedThere)
          exact unready ⟨unknown, free⟩
    refine ensures_create_store.weaken (fun created between ended => ?_) fun _ _ failed =>
      kept failed.1 (failed.2.imp_right fun taken ready => taken ready.2)
    cases created with
    | none => exact Attempt.ensures_pure.mpr (kept ended.1 (.inr fun ready => ended.2 ready.1))
    | some created =>
        have entered : Entered (service.realmName realm) username _ _ before between := ended
        have put := entered.put_at teacher_called.username
        have joined (after : Store) (same : ∀ name, usernames after name = usernames between name) :
            PutEnds service failing (.createTeacher person domain schoolCode entryUuid) before
              after :=
          .inl ⟨_, username, _, .teacher found named entered.unknown entered.free,
            put.congr (fun _ => rfl) same⟩
        dsimp only
        rw [Attempt.ensures_bind]
        refine (ensures_quiet_usernames performs_joining).weaken (fun _ after same => ?_)
          fun _ after same => joined after same
        split <;> simpa [Program.ensures_log] using joined after same
  · refine put_ends_same rfl (.inr fun _ _ _ puts => ?_)
    cases puts with
    | teacher _ named => cases none.symm.trans named
  · refine put_ends_same rfl (.inr fun _ _ _ puts => ?_)
    cases puts with
    | teacher found => cases none.symm.trans found

theorem ensures_attributes_puts {personId username domain : String} :
    (service.attributes personId username domain).EndsIn (Store.answering failing)
      (PutEnds service failing (.attributes personId username domain) before) before := by
  refine ensures_attributes_store.weaken (fun _ after ended => ?_) fun _ after failed => ?_
  · rcases ended with ⟨same, identified⟩ | ⟨realm, found, entered⟩
    · refine put_ends_same same (.inr fun _ _ _ puts => ?_)
      cases puts with
      | placeholder _ unknown => exact identified unknown
    · exact .inl ⟨_, username, _, .placeholder found entered.unknown entered.free,
        entered.put_at placeholder_called.username⟩
  · refine put_ends_same failed.1 (failed.2.imp_right fun full _ _ _ puts => ?_)
    cases puts with
    | placeholder found _ free => exact full _ found free

theorem ensures_naming_store {operation username new : String} {givenName surname : Option String} :
    (service.attempt operation
      (service.modifyAttributesOnce username givenName surname (some new))).Ensures
      (Store.answering failing)
      (fun renamed after => ∃ between name record, SameUsernames before between ∧
        renamed = some name ∧
          RenamesUser service username new givenName surname between name record after)
      (fun _ after => SameUsernames before after ∧ (failing ∨
        Unidentified service.base username before ∨
          ∃ name, Named service.base username before name ∧ ¬RenameFree name new before))
      before := by
  refine RetryPolicy.ensures_retry (SameUsernames before) (fun _ => rfl) ?_
  intro _ state same
  -- What an attempt looks up depends on usernames and on taken names only, as they were at first.
  have identified (name : String) :
      Named service.base username state name ↔ Named service.base username before name :=
    Named.congr (same.usernames name)
  have free (name : String) : RenameFree name new state ↔ RenameFree name new before := by
    rw [rename_free_iff, rename_free_iff, same.free]
  refine Attempt.Ensures.unnoted [] (ensures_naming_once.weaken ?_ ?_)
  · rintro renamed after ⟨-, name, record, rfl, renames⟩
    exact ⟨state, name, record, same, rfl, renames⟩
  · rintro _ after ⟨-, failed⟩
    cases failed with
    | early unchanged cause =>
        rw [unidentified_iff, forall_congr' fun name => not_congr (identified name),
          ← unidentified_iff] at cause
        exact ⟨unchanged ▸ same, unchanged ▸ same, cause.imp_right .inl⟩
    | @late name record failure user stored refused cause =>
        have kept : SameUsernames before after.1 :=
          stored ▸ same.set user.stored names_replaced_usernames
        refine ⟨kept, kept, cause.imp_right fun taken => .inr ⟨name, ?_, ?_⟩⟩
        · exact (identified name).mp user.is_named
        · exact fun ready => taken ((free name).mpr ready)

theorem ensures_rename_puts {username new : String} {givenName surname : Option String}
    (unique : UniqueUsernames service.base before) :
    (service.modifyAttributes username givenName surname (some new)).EndsIn
      (Store.answering failing)
      (PutEnds service failing (.modifyAttributes username givenName surname (some new)) before)
      before := by
  unfold modifyAttributes Attempt.EndsIn
  rw [Attempt.ensures_bind]
  refine ensures_naming_store.weaken ?_ ?_
  · rintro _ stage ⟨between, name, record, same, rfl, renames⟩
    have put : PutAt (renameUser name new) new name between stage :=
      renames.stored ▸ renamed_put_at renames.user.stored renames.free
    have user : Named service.base username before name :=
      (Named.congr (same.usernames name)).mp renames.user.is_named
    have free : RenameFree name new before :=
      rename_free_iff.mpr fun moved => same.free.mp (rename_free_iff.mp renames.free moved)
    have followed (after : Store)
        (sameAfter : ∀ name, usernames after name = usernames stage name) :
        PutEnds service failing (.modifyAttributes username givenName surname (some new)) before
          after :=
      .inl ⟨_, new, name, .renamed user free, put.congr same.usernames sameAfter⟩
    rw [Attempt.ensures_bind]
    exact (ensures_quiet_usernames performs_following).weaken
      (fun _ after sameAfter => Attempt.ensures_pure.mpr (followed after sameAfter))
      fun _ after sameAfter => followed after sameAfter
  · rintro _ after ⟨same, cause⟩
    refine .inr ⟨fun name => same.usernames name ▸ List.Subset.refl _,
      cause.imp_right fun unready _ _ _ puts => ?_⟩
    cases puts with
    | renamed user free =>
        rcases unready with unknown | ⟨name, named, taken⟩
        · exact unidentified_iff.mp unknown _ user
        · obtain rfl := unique _ _ _ user named
          exact taken free

theorem ensures_puts (unique : UniqueUsernames service.base before) :
    (task.perform service).EndsIn (Store.answering failing) (PutEnds service failing task before)
      before := by
  have sparing (spares : task.isSparing = true)
      (none : ∀ place username origin, ¬Puts service before task place username origin) :
      (task.perform service).EndsIn (Store.answering failing) (PutEnds service failing task before)
        before :=
    (ensures_sparing_usernames spares).weaken (fun _ _ fewer => .inr ⟨fewer, .inr none⟩)
      fun _ _ fewer => .inr ⟨fewer, .inr none⟩
  cases task with
  | createTeacher person domain schoolCode entryUuid => exact ensures_create_puts
  | attributes personId referrer domain => exact ensures_attributes_puts
  | modifyAttributes referrer givenName surname newUsername =>
      cases newUsername with
      | none => exact sparing rfl fun _ _ _ puts => nomatch puts
      | some new => exact ensures_rename_puts unique
  | _ => exact sparing rfl fun _ _ _ puts => nomatch puts

end Tasks

section Runs

variable {service : Service} {failing : Prop} {before after : Store} {task : Task}
  {State : Type} {world : World State} {held : State → Store}

/-- A task that has an entry to put below the base for a username that another entry there has. -/
def Collides (service : Service) (task : Task) (store : Store) : Prop :=
  ∃ place username origin, Puts service store task place username origin ∧
    Within service.base place ∧ ∃ other, other ≠ origin ∧ Named service.base username store other

/-- Reading a person looks for the username everywhere below the base before it puts an entry. -/
theorem attributes_never_collide {personId username domain : String} :
    ¬Collides service (.attributes personId username domain) before := by
  rintro ⟨_, _, _, puts, -, other, -, named⟩
  cases puts with
  | placeholder _ unknown => exact unidentified_iff.mp unknown other named

theorem PutEnds.unique (ended : PutEnds service failing task before after)
    (unique : UniqueUsernames service.base before) (apart : ¬Collides service task before) :
    UniqueUsernames service.base after := by
  rcases ended with ⟨place, username, origin, puts, put⟩ | ⟨fewer, -⟩
  · refine put.unique unique puts.origin_inside fun inside other different named => ?_
    exact apart ⟨place, username, origin, puts, inside, other, different, named⟩
  · exact unique.fewer fewer

theorem PutEnds.shared (ended : PutEnds service failing task before after)
    (unique : UniqueUsernames service.base before) (reliable : ¬failing)
    (collides : Collides service task before) : ¬UniqueUsernames service.base after := by
  obtain ⟨place, username, origin, puts, inside, other, different, named⟩ := collides
  rcases ended with ⟨_, _, _, putsThere, put⟩ | ⟨-, cause⟩
  · obtain ⟨rfl, rfl, rfl⟩ := puts.determined unique putsThere
    exact put.shared inside different named
  · exact (cause.resolve_left reliable _ _ _ puts).elim

/-- From unique usernames on, two entries below the base share one only after a task collided, and
the usernames were unique until then. Where no call fails without a reason, every task that collides
makes two entries share a username. -/
theorem usernames_unique_until_collision (service : Service) (state : State)
    (tasks : List Task) (obeys : world.Obeys (Store.answering failing) held)
    (start : UniqueUsernames service.base (held state)) :
    (UniqueUsernames service.base (held (service.stateAfter world state tasks)) ∨
      ∃ earlier task later, tasks = earlier ++ task :: later ∧
        UniqueUsernames service.base (held (service.stateAfter world state earlier)) ∧
        Collides service task (held (service.stateAfter world state earlier))) ∧
    ∀ earlier task later, tasks = earlier ++ task :: later →
      UniqueUsernames service.base (held (service.stateAfter world state earlier)) → ¬failing →
      Collides service task (held (service.stateAfter world state earlier)) →
      ¬UniqueUsernames service.base
        (held (service.stateAfter world state (earlier ++ [task]))) := by
  have each (task : Task) (earlier : List Task)
      (unique : UniqueUsernames service.base (held (service.stateAfter world state earlier))) :
      PutEnds service failing task (held (service.stateAfter world state earlier))
        (held (service.stateAfter world state (earlier ++ [task]))) := by
    rw [state_after_append, state_after_cons, state_after_nil]
    exact (ensures_puts unique).of_run obeys
  constructor
  · let unique (state : State) : Prop := UniqueUsernames service.base (held state)
    refine (kept_or_lost unique start).imp_right ?_
    rintro ⟨earlier, task, later, split, unique, lost⟩
    -- The task that loses uniqueness collides, for one that does not collide keeps it.
    refine ⟨earlier, task, later, split, unique, ?_⟩
    by_contra apart
    exact lost ((each task earlier unique).unique unique apart)
  · intro earlier task later _ unique reliable collides
    exact (each task earlier unique).shared unique reliable collides

/-- A teacher of a public school is created once more as a teacher of a private one. -/
theorem namesake_in_other_realm :
    let service : Service :=
      ⟨⟨"", "cn=admin", none, "dc=schule", none, none, none, none, none, none⟩, .immediate 0⟩
    let person : Person := ⟨"7", "Anna", "Ahrens", some "anna", none⟩
    let attributes := teacherAttributes person "anna" "7"
    let start := Catalogue.empty.put (service.teacherName "anna" .publicSchools)
      (Record.keyed_by_attributes attributes)
    let task : Task := .createTeacher person "ersatzschule-sh.de" "0705" none
    UniqueUsernames service.base start.store ∧ Collides service task start.store ∧
      ¬UniqueUsernames service.base (service.stateAfter Catalogue.world start [task]).store := by
  intro service person attributes start task
  let name := service.teacherName "anna" .publicSchools
  have placed : start.store =
      update (fun _ => none) name (some (Record.ofAttributes attributes)) := rfl
  have stored : start.store name = some (Record.ofAttributes attributes) :=
    placed ▸ Function.update_self _ _ _
  have free {other : String} (different : other ≠ name) : start.store other = none :=
    placed ▸ Function.update_of_ne different _ _
  have sole {other : String} (present : start.store other ≠ none) : other = name :=
    not_not.mp fun different => present (free different)
  have alone {username other : String} (named : Named service.base username start.store other) :
      other = name := by
    refine sole fun free => ?_
    have listed := named.listed
    simp [usernames, free] at listed
  have anna : Named service.base "anna" start.store name := by
    refine ⟨teacher_name_within, ?_⟩
    rw [usernames_stored stored, teacher_called.username]
    exact List.mem_singleton.mpr rfl
  have unique : UniqueUsernames service.base start.store := fun _ _ _ named other =>
    (alone named).trans (alone other).symm
  have different : service.teacherName "anna" .privateSchools ≠ name := by decide +kernel
  have elsewhere : ¬Within (service.realmName .privateSchools) name :=
    fun inside => absurd (realms_apart inside) (by decide)
  have puts : Puts service start.store task (service.teacherName "anna" .privateSchools) "anna"
      (service.teacherName "anna" .privateSchools) := by
    refine .teacher (by decide +kernel) rfl (fun other record found inside _ => ?_) ?_
    · exact elsewhere (sole (found ▸ Option.some_ne_none _) ▸ inside)
    · exact free different
  have collides : Collides service task start.store :=
    ⟨_, "anna", _, puts, teacher_name_within, name, different.symm, anna⟩
  exact ⟨unique, collides, (usernames_unique_until_collision service start [task]
    (Catalogue.world_obeys False) unique).2 [] task [] rfl unique id collides⟩

end Runs

end Service

end TeacherDirectory
