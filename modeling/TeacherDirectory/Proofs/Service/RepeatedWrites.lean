import TeacherDirectory.Proofs.Service.GroupStore
import TeacherDirectory.Proofs.Service.PersonCalls
import TeacherDirectory.Proofs.Service.SingleWrites

/-!
# Repeating a write whose answer was lost

A directory may carry a write out and keep silent about it. The attempt fails then, and the next one
starts from the store that the write has led to. For the operations here that makes no difference:
whether an answer is lost or not, they succeed with the same store, or they fail in either case. A new
password is drawn for every attempt, so there the store is the same up to the password.
-/

namespace TeacherDirectory

set_option autoImplicit false

open Function (update)

namespace Journal

/-- The answer to one write may be lost after the write was carried out. No other call is lost. -/
abbrev silence : CallRule Journal := losing (Loss.onceCarriedOut Call.isWrite)

def Silenced (before after : Journal) : Prop := before.losses = [] ∧ after.losses ≠ []

variable {before after : Journal} {later : Store} {request : Call}
  {refused : DirectoryError → Program ServiceError} {bad : ServiceError → Journal → Prop}

theorem Stumbles.not_silent {anything : Prop}
    (stumbles : before.Stumbles (Loss.onceCarriedOut Call.isWrite) after) : anything := by
  obtain ⟨request, read, loses⟩ := stumbles
  obtain ⟨applied, ⟨-, -, writes⟩, -⟩ := loses.recorded
  rw [read] at writes
  cases writes

theorem ensures_write_silence {good : request.Reply → Journal → Prop}
    (written : before.store.write request = some later)
    (onReply : ∀ reply, good reply ⟨later, before.losses⟩)
    (onLoss : ∀ failure after, before.Silenced after → after.store = later →
      (refused failure).Ensures silence bad after) :
    @Attempt.Ensures (no_index request.Reply) _ silence (Attempt.call request refused) good bad
      before := by
  rw [ensures_admitted written]
  refine ⟨fun reply _ => onReply reply, fun failure after loses => ?_⟩
  cases loses with
  | undone permitted => cases permitted.2.1
  | applied permitted done =>
      exact onLoss failure _ ⟨permitted.1, by simp⟩ (Option.some.inj (done.symm.trans written))

theorem ensures_refused_silence {good : request.Reply → Journal → Prop}
    (unwritten : before.store.write request = none)
    (onRefusal : ∀ failure, (refused failure).Ensures silence bad before) :
    @Attempt.Ensures (no_index request.Reply) _ silence (Attempt.call request refused) good bad
      before := by
  refine ensures_unadmitted unwritten onRefusal fun failure after loses => ?_
  cases loses with
  | undone permitted => cases permitted.2.1
  | applied permitted done =>
      rw [unwritten] at done
      cases done

end Journal

namespace Service

open DistinguishedName Journal

variable {service : Service} {Result : Type} {operation : String} {once : Attempt Result}
  {start : Store} {before after : Journal} {base username name : String} {record : Record}

section Repetition

/-- An attempt that can only fail after a write was carried out without an answer, and that then
leaves a store from which the next attempt reaches the same ends. -/
theorem ensures_repeated (good : Result → Store → Prop) (pending : Store → Prop)
    (retries : 1 ≤ service.policy.maxRetries.toNat) (begins : pending start)
    (each : ∀ before : Journal, pending before.store → once.Ensures silence
      (fun value after => good value after.store)
      (fun _ after => before.Silenced after ∧ pending after.store) before) :
    (service.attempt operation once).Ensures silence (fun value after => good value after.store)
      (fun _ _ => False) ⟨start, []⟩ := by
  let again (after : Journal) : Prop := after.losses ≠ [] ∧ pending after.store
  refine RetryPolicy.ensures_second_chance again (fun _ => False) retries ?first ?second nofun
  case first =>
    exact fun _ => (each ⟨start, []⟩ begins).weaken (fun _ _ ended => ended)
      fun _ _ failed => .inl ⟨failed.1.2, failed.2⟩
  case second =>
    exact fun _ state ready => (each state ready.2).weaken (fun _ _ ended => ended)
      fun _ _ failed => ready.1 failed.1.1

/-- An attempt leads to a store, unless the answer to the write that led there was lost. -/
def Reaches (once : Attempt Result) (target : Store) (before : Journal) : Prop :=
  once.Ensures silence (fun _ after => after.store = target)
    (fun _ after => before.Silenced after ∧ after.store = target) before

theorem ensures_reached {target : Store} (retries : 1 ≤ service.policy.maxRetries.toNat)
    (each : ∀ before : Journal, before.store = start ∨ before.store = target →
      Reaches once target before) :
    (service.attempt operation once).Ensures silence (fun _ after => after.store = target)
      (fun _ _ => False) ⟨start, []⟩ :=
  ensures_repeated (fun _ store => store = target) (fun store => store = start ∨ store = target)
    retries (.inl rfl) fun before known => (each before known).weaken (fun _ _ reached => reached)
      fun _ _ lost => ⟨lost.1, .inr lost.2⟩

theorem ensures_blocked (stuck : Store → Prop) (begins : stuck start)
    (each : ∀ before : Journal, stuck before.store → once.Ensures silence (fun _ _ => False)
      (fun _ after => stuck after.store) before) :
    (service.attempt operation once).Ensures silence (fun _ _ => False) (fun _ _ => True)
      ⟨start, []⟩ :=
  RetryPolicy.ensures_retry (fun state => stuck state.store) begins fun _ state ready =>
    (each state ready).weaken (fun _ _ impossible => impossible) fun _ _ failed => ⟨failed, trivial⟩

/-- An operation succeeds whether an answer is lost or not, with a store that its value tells, or it
fails in either case. -/
def Converges (attempt : Attempt Result) (start : Store) (ends : (Result → Store) → Prop) : Prop :=
  (∃ stores, ends stores ∧ attempt.Ensures silence (fun value after => after.store = stores value)
      (fun _ _ => False) ⟨start, []⟩) ∨
    attempt.Ensures silence (fun _ _ => False) (fun _ _ => True) ⟨start, []⟩

def IsConstant (stores : Result → Store) : Prop := ∃ store, stores = fun _ => store

theorem converges_to {attempt : Attempt Result} (target : Store)
    (ensured : attempt.Ensures silence (fun _ after => after.store = target) (fun _ _ => False)
      ⟨start, []⟩) : Converges attempt start IsConstant :=
  .inl ⟨fun _ => target, ⟨target, rfl⟩, ensured⟩

end Repetition

section Persons

/-- A store in which no username has two entries below a base and no school two groups. -/
structure Orderly (base : String) (store : Store) : Prop where
  users : ∀ {username name other record content}, store name = some record → Within base name →
    username ∈ record "uid" → store other = some content → Within base other →
    username ∈ content "uid" → other = name
  groups : ∀ {schoolCode name other record content}, IsGroup base store schoolCode name record →
    IsGroup base store schoolCode other content → name = other

theorem Orderly.identified {root : String} (orderly : Orderly base start)
    (below : Within base root) (username : String) :
    Unidentified root username start ∨
      ∃ name record, Identified root username name record start := by
  by_cases unidentified : Unidentified root username start
  · exact .inl unidentified
  · unfold Unidentified at unidentified
    push Not at unidentified
    obtain ⟨name, record, stored, inside, named⟩ := unidentified
    refine .inr ⟨name, record, stored, inside, named, fun other content found within usernames => ?_⟩
    exact orderly.users stored (inside.trans below) named found (within.trans below) usernames

theorem ensures_nobody {operation absence : String} {names : List String}
    {next : Entry → Attempt Result} (nobody : Unidentified service.base username start) :
    (service.attempt operation (service.bind >>= fun _ =>
        service.requirePerson username names absence >>= next)).Ensures silence
      (fun _ _ => False) (fun _ _ => True) ⟨start, []⟩ := by
  refine ensures_blocked (· = start) rfl fun before same => ?_
  exact ensures_unidentified (same ▸ nobody) (fun _ _ => Stumbles.not_silent) same

theorem names_reached {givenName surname : Option String}
    (identified : Identified service.base username name record start)
    (replacing : Replacing name record (nameChanges givenName surname none) start before.store) :
    Reaches (service.modifyAttributesOnce username givenName surname none)
      (update start name (some (record.replaced (nameChanges givenName surname none)))) before := by
  obtain ⟨current, here⟩ := replacing.identified identified names_replaced_usernames
  have written := replacing.write identified.stored
    fun change member => (name_changes_replace change member).1
  unfold modifyAttributesOnce
  refine ensures_identified here (fun _ _ => Stumbles.not_silent) fun entry named _ => ?_
  dsimp only
  split
  case isTrue empty =>
    simp only [Attempt.ensures_bind, Attempt.ensures_lift, Attempt.ensures_pure,
      Program.ensures_log]
    have unchanged : record.replaced (nameChanges givenName surname none) = record := by
      rw [List.isEmpty_iff.mp empty]
      rfl
    rw [Replacing, unchanged, ← identified.stored, Function.update_eq_self] at replacing
    rw [unchanged, ← identified.stored, Function.update_eq_self]
    exact replacing.elim id id
  case isFalse =>
    rw [named, Attempt.ensures_bind]
    refine ensures_write_silence written (fun _ => ?_) fun _ _ silenced same =>
      Program.ensures_pure.mpr ⟨silenced, same⟩
    simp only [Attempt.ensures_bind, Attempt.ensures_lift, Attempt.ensures_pure,
      Program.ensures_log]

theorem converges_names {givenName surname : Option String} (orderly : Orderly service.base start)
    (retries : 1 ≤ service.policy.maxRetries.toNat) :
    Converges (service.modifyAttributes username givenName surname none) start IsConstant := by
  unfold modifyAttributes
  rcases orderly.identified .self username with nobody | ⟨name, record, identified⟩
  · exact .inr ((ensures_nobody nobody).bind fun _ _ impossible => impossible.elim)
  · refine converges_to
      (update start name (some (record.replaced (nameChanges givenName surname none))))
      ((ensures_reached retries fun _ => names_reached identified).bind fun _ _ same => ?_)
    simpa only [Attempt.ensures_bind, Attempt.ensures_pure] using same

theorem write_password {store : Store} {password : String} (stored : store name = some record) :
    store.write (.modify name [.replace "userPassword" [password]]) =
      some (update store name (some (update record "userpassword" [password]))) := by
  have folded : Entry.key "userPassword" = "userpassword" := by decide +kernel
  have replaces : ∀ change ∈ [Change.replace "userPassword" [password]],
      change.kind = .replace := by simp [Change.replace]
  rw [Store.write_replace stored replaces]
  simp only [Record.replaced, List.foldl_cons, List.foldl_nil, Change.replace, folded]

def withPassword (name : String) (record : Record) (start : Store) (password : String) : Store :=
  update start name (some (update record "userpassword" [password]))

/-- While attempts to set a password fail, the entry may hold a password that nobody was told. -/
def PasswordPending (name : String) (record : Record) (start store : Store) : Prop :=
  store = start ∨ ∃ password, store = withPassword name record start password

theorem PasswordPending.current {store : Store} (pending : PasswordPending name record start store)
    (identified : Identified base username name record start) :
    ∃ current, Identified base username name current store ∧ ∀ password,
      update store name (some (update current "userpassword" [password])) =
        withPassword name record start password := by
  rcases pending with rfl | ⟨earlier, rfl⟩
  · exact ⟨record, identified, fun _ => rfl⟩
  · refine ⟨_, identified.set ?_, fun password => ?_⟩
    · rw [Function.update_of_ne (by decide)]
      exact identified.named
    · rw [withPassword, Function.update_idem, Function.update_idem]
      rfl

theorem ensures_password_once {personId : String}
    (identified : Identified service.base username name record start)
    (pending : PasswordPending name record start before.store) :
    (service.changePasswordOnce personId username).Ensures silence
      (fun password after => after.store = withPassword name record start password)
      (fun _ after => before.Silenced after ∧ PasswordPending name record start after.store)
      before := by
  obtain ⟨current, here, same⟩ := pending.current identified
  unfold changePasswordOnce
  refine ensures_identified here (fun _ _ => Stumbles.not_silent) fun entry named _ => ?_
  simp only [Attempt.ensures_bind, Attempt.ensures_lift, Program.ensures_draw]
  intro draws
  rw [named]
  refine ensures_write_silence (write_password here.stored) (fun _ => ?_)
    fun _ after silenced written =>
      Program.ensures_logged.mpr ⟨silenced, .inr ⟨passwordOf draws, written.trans (same _)⟩⟩
  simp only [Program.ensures_log, Attempt.ensures_pure]
  exact same _

def HoldsPassword (base username : String) (start : Store) (stores : String → Store) : Prop :=
  ∃ name record, Identified base username name record start ∧
    stores = withPassword name record start

theorem converges_password {personId : String} (orderly : Orderly service.base start)
    (retries : 1 ≤ service.policy.maxRetries.toNat) :
    Converges (service.changePassword personId username) start
      (HoldsPassword service.base username start) := by
  unfold changePassword
  rcases orderly.identified .self username with nobody | ⟨name, record, identified⟩
  · exact .inr ((ensures_nobody nobody).bind fun _ _ impossible => impossible.elim)
  · refine .inl ⟨_, ⟨name, record, identified, rfl⟩, ?_⟩
    refine Attempt.Ensures.bind (ensures_repeated
      (fun password store => store = withPassword name record start password) _ retries (.inl rfl)
      fun _ => ensures_password_once identified) fun password after holds => ?_
    simpa only [Attempt.ensures_bind, Attempt.ensures_lift, ensures_publish,
      Attempt.ensures_pure] using holds

theorem ensures_absent_person {personId domain : String}
    {good : PersonAttributes → Journal → Prop} {bad : ServiceError → Journal → Prop}
    (nobody : Unidentified service.base username before.store)
    (placed : (service.createPlaceholder username domain).Ensures silence good bad before) :
    (service.attributesOnce personId username domain).Ensures silence good bad before := by
  unfold attributesOnce
  simp only [Attempt.ensures_bind]
  refine ensures_looked_up (fun _ _ => Stumbles.not_silent) fun entries finds => ?_
  obtain rfl := nobody.find finds
  simp only [Attempt.ensures_bind, Attempt.ensures_lift, Program.ensures_log]
  exact placed

theorem found_person_reached {personId domain : String}
    (identified : Identified service.base username name record before.store) :
    Reaches (service.attributesOnce personId username domain) before.store before := by
  unfold attributesOnce Reaches
  simp only [Attempt.ensures_bind]
  refine ensures_looked_up (fun _ _ => Stumbles.not_silent) fun entries finds => ?_
  obtain ⟨entry, rfl, -⟩ := identified.find finds
  simp only [Attempt.ensures_bind, Attempt.ensures_lift, Attempt.ensures_pure]
  exact ensures_report_missing rfl

def withPlaceholder (service : Service) (username : String) (realm : Realm) (store : Store) :
    Store :=
  update store (service.teacherName username realm)
    (some (.ofAttributes (placeholderAttributes username)))

theorem placeholder_identified {realm : Realm} (nobody : Unidentified service.base username start) :
    Identified service.base username (service.teacherName username realm)
      (.ofAttributes (placeholderAttributes username))
      (service.withPlaceholder username realm start) := by
  refine nobody.identified teacher_name_within ?_
  rw [placeholder_called.username]
  exact List.mem_singleton.mpr rfl

theorem placeholder_reached {domain : String} {realm : Realm}
    (known : service.settings.realm? domain = some realm)
    (free : before.store (service.teacherName username realm) = none) :
    Reaches (service.createPlaceholder username domain)
      (service.withPlaceholder username realm before.store) before := by
  unfold createPlaceholder Reaches
  rw [Attempt.ensures_bind, ensures_realm, known]
  refine ⟨fun _ same => ?_, nofun⟩
  obtain rfl := Option.some.inj same
  rw [Attempt.ensures_bind]
  refine ensures_write_silence (Store.write_add free) (fun _ => ?_)
    fun _ after silenced written => Program.ensures_logged.mpr ⟨silenced, written⟩
  simp only [Attempt.ensures_bind, Attempt.ensures_lift, Attempt.ensures_pure, Program.ensures_log,
    ensures_fetch]
  exact fun _ _ answered => losing_read rfl answered

theorem ensures_unplaced {domain : String}
    (taken : ∀ realm, service.settings.realm? domain = some realm →
      before.store (service.teacherName username realm) ≠ none) :
    (service.createPlaceholder username domain).Ensures silence (fun _ _ => False)
      (fun _ after => after.store = before.store) before := by
  unfold createPlaceholder
  rw [Attempt.ensures_bind, ensures_realm]
  refine ⟨fun realm known => ?_, fun _ => rfl⟩
  rw [Attempt.ensures_bind]
  exact ensures_refused_silence (Store.write_add_taken (taken realm known)) fun _ =>
    Program.ensures_logged.mpr rfl

theorem converges_attributes {personId domain : String} (orderly : Orderly service.base start)
    (retries : 1 ≤ service.policy.maxRetries.toNat) :
    Converges (service.attributes personId username domain) start IsConstant := by
  unfold attributes
  rcases orderly.identified .self username with nobody | ⟨name, record, identified⟩
  · by_cases place : ∃ realm, service.settings.realm? domain = some realm ∧
      start (service.teacherName username realm) = none
    · rcases place with ⟨realm, known, free⟩
      refine converges_to (service.withPlaceholder username realm start) (ensures_reached retries ?_)
      rintro ⟨store, losses⟩ (rfl | rfl)
      · exact ensures_absent_person nobody (placeholder_reached known free)
      · exact found_person_reached (placeholder_identified nobody)
    · push Not at place
      refine .inr (ensures_blocked (· = start) rfl ?_)
      rintro ⟨store, losses⟩ rfl
      exact ensures_absent_person nobody (ensures_unplaced place)
  · refine converges_to start (ensures_reached retries ?_)
    rintro ⟨store, losses⟩ (rfl | rfl) <;> exact found_person_reached identified

theorem deletion_reached {person : Person} {schoolCode : String}
    (identified : Identified base username name record before.store) :
    Reaches (service.deleteTeacherOnce person username base schoolCode)
      (update before.store name none) before := by
  unfold deleteTeacherOnce Reaches
  simp only [Attempt.ensures_bind]
  refine ensures_looked_up (fun _ _ => Stumbles.not_silent) fun entries finds => ?_
  obtain ⟨entry, rfl, rfl, -⟩ := identified.find finds
  simp only [Attempt.ensures_bind]
  refine ensures_write_silence (Store.write_delete identified.stored) (fun _ => ?_)
    fun _ after silenced written => Program.ensures_logged.mpr ⟨silenced, written⟩
  simp only [Attempt.ensures_lift, Attempt.ensures_pure, Program.ensures_log]

theorem absence_reached {person : Person} {schoolCode : String}
    (nobody : Unidentified base username before.store) :
    Reaches (service.deleteTeacherOnce person username base schoolCode) before.store before := by
  unfold deleteTeacherOnce Reaches
  simp only [Attempt.ensures_bind]
  refine ensures_looked_up (fun _ _ => Stumbles.not_silent) fun entries finds => ?_
  obtain rfl := nobody.find finds
  simp only [Attempt.ensures_bind, Attempt.ensures_lift, Attempt.ensures_pure, Program.ensures_log]

theorem converges_delete {person : Person} {schoolCode domain : String}
    (orderly : Orderly service.base start) (retries : 1 ≤ service.policy.maxRetries.toNat) :
    Converges (service.deleteTeacher person schoolCode domain) start IsConstant := by
  unfold deleteTeacher Converges
  simp only [Attempt.ensures_bind, ensures_realm, ensures_referrer]
  cases known : service.settings.realm? domain with
  | none => simp
  | some realm =>
  cases named : person.referrer with
  | none => simp
  | some username =>
  simp only [Option.some.injEq, forall_eq', reduceCtorEq, false_imp_iff, and_true]
  change Converges _ start IsConstant
  have below : Within service.base (service.realmName realm) := realm_name_within
  rcases orderly.identified below username with nobody | ⟨name, record, identified⟩
  · refine converges_to start (ensures_reached retries ?_)
    rintro ⟨store, losses⟩ (rfl | rfl) <;> exact absence_reached nobody
  · refine converges_to (update start name none) (ensures_reached retries ?_)
    rintro ⟨store, losses⟩ (rfl | rfl)
    · exact deletion_reached identified
    · exact absence_reached identified.deleted

end Persons

end Service

end TeacherDirectory
