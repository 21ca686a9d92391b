import TeacherDirectory.Proofs.Service.RenamingCalls

/-!
# How changing names goes

Changing names has two stages with a retry budget each. The first one replaces the names and renames
the entry, and it is over with the rename. The second one gives the groups the new name and happens
after a rename only, so that neither a rename nor a search for the username is ever repeated on its
account. The report says this of the calls of every run, whatever the directory answers.
-/

namespace TeacherDirectory.Service

set_option autoImplicit false

open DistinguishedName

def naming (service : Service) (username : String)
    (givenName surname newUsername : Option String) : Attempt (Option String) :=
  service.attempt "modify_person_attributes"
    (service.modifyAttributesOnce username givenName surname newUsername)

def following (service : Service) (username new name : String) : Attempt String :=
  service.attempt "update_member_dn_in_groups" (service.renameInGroupsOnce username new name)

inductive ModificationTrace (service : Service) (username : String)
    (givenName surname newUsername : Option String) :
    List Step → Except ServiceError String → Prop
  | failed {steps : List Step} {failure : ServiceError}
      (named : (service.naming username givenName surname newUsername).run.Takes steps
        (.error failure)) :
      ModificationTrace service username givenName surname newUsername steps (.error failure)
  | kept {steps : List Step} {renamed : Option String}
      (named : (service.naming username givenName surname newUsername).run.Takes steps
        (.ok renamed))
      (nothing : renamed = none ∨ newUsername = none) :
      ModificationTrace service username givenName surname newUsername steps (.ok username)
  | renamed {changing updating : List Step} {name new message : String}
      (given : newUsername = some new)
      (named : (service.naming username givenName surname newUsername).run.Takes changing
        (.ok (some name)))
      (followed : (service.following username new name).run.Takes updating (.ok message)) :
      ModificationTrace service username givenName surname newUsername (changing ++ updating)
        (.ok username)
  | unfollowed {changing updating reporting : List Step} {name new : String}
      {failure : ServiceError} (given : newUsername = some new)
      (named : (service.naming username givenName surname newUsername).run.Takes changing
        (.ok (some name)))
      (followed : (service.following username new name).run.Takes updating (.error failure))
      (silent : exchanges reporting = []) :
      ModificationTrace service username givenName surname newUsername
        (changing ++ updating ++ reporting) (.error failure)

def FoundGroups (exchange : Exchange) : Prop :=
  (∃ name, exchange.request.Asks "member" name) ∧ exchange.succeeded = true

/-- What holds of the calls of every run that changes names: those of the first stage, with the
outcome `changed`, come before those of the second. A search for groups is told by the attribute
that its filter asserts, and so is a search for a username. -/
structure ModificationReport (service : Service) (username : String)
    (givenName surname newUsername : Option String) (history : List Exchange)
    (result : Except ServiceError String) (changing updating : List Exchange)
    (changed : Except ServiceError (Option String)) : Prop where
  parts : history = changing ++ updating
  first : (service.naming username givenName surname newUsername).run.Yields changing changed
  renamedOnce : history.countP Exchange.renamed ≤ 1
  keepsName : newUsername = none → ∀ exchange ∈ history, exchange.request.isRename = false
  keepsAll : givenName = none → surname = none → newUsername = none →
    ∀ exchange ∈ history, exchange.request.isWrite = false
  firstOver : history.Pairwise fun earlier later => earlier.renamed = true →
    later.request.isRename = false ∧ ∀ value, ¬later.request.Asks "uid" value
  searched : ∀ before search after name, history = before ++ search :: after →
    search.request.Asks "member" name → ∃ leaf, ⟨.rename name leaf, .ok ()⟩ ∈ before
  rewritten : ∀ before base scope filter names groups after name,
    history = before ++ ⟨.search base scope filter names, .ok groups⟩ :: after →
    (Call.search base scope filter names).Asks "member" name →
    ∃ leaf, ⟨.rename name leaf, .ok ()⟩ ∈ before ∧
      after.map Exchange.request = groups.map (memberUpdate name leaf)
  noOthers : ∀ before name changes answer after,
    history = before ++ ⟨.modify name changes, answer⟩ :: after →
    changes = nameChanges givenName surname newUsername ∨ ∃ search ∈ before, FoundGroups search
  renames : ∀ name, changed = .ok (some name) ↔
    ∃ leaf, ⟨.rename name leaf, .ok ()⟩ ∈ history
  success : (∃ value, result = .ok value) ↔ (∃ renamed, changed = .ok renamed) ∧
    ∀ name, changed = .ok (some name) →
      ∃ search ∈ updating, search.request.Asks "member" name ∧ search.succeeded = true
  value : ∀ value, result = .ok value → value = username

variable {service : Service} {username : String} {givenName surname newUsername : Option String}

theorem ensures_naming :
    (service.naming username givenName surname newUsername).Ensures CallRule.recording
      (fun renamed after =>
        match renamed with
        | none => newUsername = none ∧ service.Naming username givenName surname newUsername after
        | some name => service.RenamedLast username givenName surname newUsername name after)
      (fun _ => service.Naming username givenName surname newUsername) [] :=
  RetryPolicy.ensures_retry _ naming_nil fun _ _ ready =>
    (ensures_modify_once ready).weaken (fun _ _ ended => ended) fun _ _ ended => ⟨ended, ended⟩

theorem ensures_following {new name : String} :
    (service.following username new name).Ensures CallRule.recording
      (fun _ => service.GroupsWritten name (userComponent new)) (fun _ => service.Following name)
      [] :=
  RetryPolicy.ensures_retry _ following_nil fun _ _ ready =>
    (ensures_rename_in_groups ready).weaken (fun _ _ ended => ended)
      fun _ _ ended => ⟨ended, ended⟩

theorem follow_takes {new name : String} {steps : List Step} {outcome : Except ServiceError Unit}
    (taken : (service.followRename username new name).run.Takes steps outcome) :
    (∃ message, (service.following username new name).run.Takes steps (.ok message) ∧
      outcome = .ok ()) ∨
    ∃ updating reporting failure, steps = updating ++ reporting ∧ exchanges reporting = [] ∧
      (service.following username new name).run.Takes updating (.error failure) ∧
      outcome = .error failure := by
  obtain ⟨updating, reporting, followed, rfl, followTaken, reported⟩ :=
    (Program.takes_bind _ _ steps outcome).mp taken
  cases followed with
  | ok message =>
      rcases reported with ⟨rfl, rfl⟩
      exact .inl ⟨message, by rwa [List.append_nil], rfl⟩
  | error failure =>
      obtain ⟨_, rest, _, rfl, logged, rfl, rfl⟩ :=
        (Program.takes_bind _ _ reporting outcome).mp reported
      obtain rfl := (Program.takes_log _ _ _ _ _).mp logged
      exact .inr ⟨updating, _, failure, rfl, rfl, followTaken, rfl⟩

theorem modify_takes {steps : List Step} {result : Except ServiceError String}
    (taken : (service.modifyAttributes username givenName surname newUsername).run.Takes steps
      result) :
    ModificationTrace service username givenName surname newUsername steps result := by
  unfold modifyAttributes at taken
  rcases (Attempt.takes_bind _ _ _ _).mp taken with
    ⟨failure, failed, rfl⟩ | ⟨changing, rest, renamed, rfl, named, continued⟩
  · exact .failed failed
  have stopped (nothing : renamed = none ∨ newUsername = none)
      (ended : rest = [] ∧ result = .ok username) :
      ModificationTrace service username givenName surname newUsername (changing ++ rest)
        result := by
    rcases ended with ⟨rfl, rfl⟩
    rw [List.append_nil]
    exact .kept named nothing
  cases renamed with
  | none => exact stopped (.inl rfl) continued
  | some name =>
      cases newUsername with
      | none => exact stopped (.inr rfl) continued
      | some new =>
          rcases (Attempt.takes_bind _ _ _ _).mp continued with
            ⟨failure, failed, rfl⟩ | ⟨updating, last, _, rfl, succeeded, rfl, rfl⟩
          · rcases follow_takes failed with
              ⟨_, _, impossible⟩ | ⟨updating, reporting, _, rfl, silent, followed, same⟩
            · cases impossible
            · cases same
              rw [← List.append_assoc]
              exact .unfollowed rfl named followed silent
          · rcases follow_takes succeeded with
              ⟨message, followed, -⟩ | ⟨_, _, _, _, _, _, impossible⟩
            · rw [List.append_nil]
              exact .renamed rfl named followed
            · cases impossible

section Calls

variable {name type value : String} {history : List Exchange} {exchange : Exchange}

theorem naming_not_member
    (naming : service.IsNaming username givenName surname newUsername exchange) :
    ¬exchange.request.Asks "member" value := by
  rcases exchange with ⟨request, answer⟩
  have call := naming.1
  cases request with
  | search base scope filter names =>
      have same : Call.search base scope filter names = userSearch service.base username [] := call
      cases same
      exact fun asks => absurd (user_search_asks.mp asks).1 (by decide)
  | _ => exact not_asks fun _ _ _ _ impossible => by cases impossible

theorem following_plain (following : service.IsFollowing name exchange) :
    exchange.request.isWrite = false ∧ (∀ value, ¬exchange.request.Asks "uid" value) ∧
      ∀ value, exchange.request.Asks "member" value →
        value = name ∧ exchange.succeeded = false := by
  rcases exchange with ⟨request, answer⟩
  unfold IsFollowing at following
  cases request with
  | search base scope filter names =>
      obtain ⟨same, failed⟩ : Call.search base scope filter names = service.memberSearch name ∧
        Exchange.succeeded ⟨_, answer⟩ = false := following
      cases same
      exact ⟨rfl, fun _ asks => absurd (member_search_asks.mp asks).1 (by decide),
        fun _ asks => ⟨(member_search_asks.mp asks).2, failed⟩⟩
  | connect =>
      have none {type value : String} : ¬Call.connect.Asks type value :=
        not_asks fun _ _ _ _ impossible => by cases impossible
      exact ⟨rfl, fun _ => none, fun _ asks => (none asks).elim⟩
  | bind admin password =>
      have none {type value : String} : ¬(Call.bind admin password).Asks type value :=
        not_asks fun _ _ _ _ impossible => by cases impossible
      exact ⟨rfl, fun _ => none, fun _ asks => (none asks).elim⟩
  | _ => exact following.elim

theorem naming_keeps_name
    (naming : service.IsNaming username givenName surname newUsername exchange)
    (none : newUsername = none) : exchange.request.isRename = false := by
  rcases exchange with ⟨request, answer⟩
  have call := naming.1
  cases request with
  | rename renamed leaf =>
      rcases call with ⟨new, given, -⟩
      rw [none] at given
      cases given
  | _ => rfl

theorem naming_keeps_all
    (naming : service.IsNaming username none none none exchange) :
    exchange.request.isWrite = false := by
  rcases exchange with ⟨request, answer⟩
  have call := naming.1
  cases request with
  | modify modified changes =>
      rcases call with ⟨none, some⟩
      exact (some none).elim
  | rename renamed leaf =>
      rcases call with ⟨new, given, -⟩
      cases given
  | add added attributes => exact call.elim
  | delete deleted => exact call.elim
  | _ => rfl

theorem written_request {leaf : String} {updates : List Exchange} {groups : List Entry}
    (requests : updates.map Exchange.request = groups.map (memberUpdate name leaf))
    (member : exchange ∈ updates) : ∃ group, exchange.request = memberUpdate name leaf group := by
  have listed : exchange.request ∈ groups.map (memberUpdate name leaf) :=
    requests ▸ List.mem_map_of_mem member
  obtain ⟨group, -, same⟩ := List.mem_map.mp listed
  exact ⟨group, same.symm⟩

theorem update_not_asks {leaf : String} {group : Entry} :
    ¬(memberUpdate name leaf group).Asks type value :=
  not_asks fun _ _ _ _ impossible => by cases impossible

/-- After the rename nothing is renamed, no username is looked for, and the groups that are looked
for are those of the old name. -/
theorem updating_plain {leaf : String}
    (updating : service.Following name history ∨ service.GroupsWritten name leaf history)
    (member : exchange ∈ history) :
    exchange.request.isRename = false ∧ (∀ value, ¬exchange.request.Asks "uid" value) ∧
      ∀ value, exchange.request.Asks "member" value → value = name := by
  have followed (following : service.IsFollowing name exchange) :
      exchange.request.isRename = false ∧ (∀ value, ¬exchange.request.Asks "uid" value) ∧
        ∀ value, exchange.request.Asks "member" value → value = name := by
    obtain ⟨noWrite, noUid, members⟩ := following_plain following
    refine ⟨?_, noUid, fun value asks => (members value asks).1⟩
    revert noWrite
    cases exchange.request <;> simp [Call.isWrite, Call.isRename]
  rcases updating with following | ⟨searching, groups, updates, rfl, following, requests⟩
  · exact followed (following exchange member)
  · rcases List.mem_append.mp member with early | late
    · exact followed (following exchange early)
    · rcases List.mem_cons.mp late with rfl | updated
      · exact ⟨rfl, fun _ asks => absurd (member_search_asks.mp asks).1 (by decide),
          fun _ asks => (member_search_asks.mp asks).2⟩
      · obtain ⟨group, same⟩ := written_request requests updated
        rw [same]
        exact ⟨rfl, fun _ => update_not_asks, fun _ asks => (update_not_asks asks).elim⟩

theorem following_not_found (following : service.IsFollowing name exchange) :
    ¬FoundGroups exchange := by
  intro found
  rcases found with ⟨⟨value, asks⟩, succeeded⟩
  rw [((following_plain following).2.2 value asks).2] at succeeded
  cases succeeded

theorem updating_rewrites {leaf base : String} {front before after : List Exchange}
    {scope : SearchScope} {filter : Filter String} {names : List String} {groups : List Entry}
    (updating : service.Following name history ∨ service.GroupsWritten name leaf history)
    (unfound : ∀ exchange ∈ front, ¬FoundGroups exchange)
    (cut : front ++ history = before ++ ⟨.search base scope filter names, .ok groups⟩ :: after)
    (asks : (Call.search base scope filter names).Asks "member" value) :
    after.map Exchange.request = groups.map (memberUpdate name leaf) := by
  have isFound : FoundGroups ⟨.search base scope filter names, .ok groups⟩ := ⟨⟨value, asks⟩, rfl⟩
  rcases updating with following | ⟨searching, found, updates, rfl, following, requests⟩
  · have member : (⟨.search base scope filter names, .ok groups⟩ : Exchange) ∈
        front ++ history := by
      rw [cut]
      exact List.mem_append_right before List.mem_cons_self
    rcases List.mem_append.mp member with early | late
    · exact (unfound _ early isFound).elim
    · exact (following_not_found (following _ late) isFound).elim
  · rw [← List.append_assoc] at cut
    have unfoundBefore : ∀ exchange ∈ front ++ searching, ¬FoundGroups exchange :=
      List.forall_mem_append.mpr
        ⟨unfound, fun exchange member => following_not_found (following exchange member)⟩
    have unfoundAfter : ∀ exchange ∈ updates, ¬FoundGroups exchange := by
      intro exchange member given
      rcases given with ⟨⟨other, asked⟩, -⟩
      obtain ⟨group, same⟩ := written_request requests member
      rw [same] at asked
      exact update_not_asks asked
    -- No other search for groups was answered, so the history is cut at this one.
    obtain ⟨-, same, rfl⟩ := cut_unique cut.symm isFound unfoundBefore unfoundAfter
    have sameRequest := congrArg Exchange.request same
    cases sameRequest
    cases same
    exact requests

/-- Only after the rename are groups searched for, and only those that list the old name. -/
theorem searches_after_rename {leaf : String} {earlier updating before after : List Exchange}
    {search : Exchange} (naming : service.Naming username givenName surname newUsername earlier)
    (shape : service.Following name updating ∨ service.GroupsWritten name leaf updating)
    (cut : earlier ++ ⟨.rename name leaf, .ok ()⟩ :: updating = before ++ search :: after)
    (asks : search.request.Asks "member" value) :
    value = name ∧ ⟨.rename name leaf, .ok ()⟩ ∈ before := by
  have notRename : ¬(Call.rename name leaf).Asks "member" value :=
    not_asks fun _ _ _ _ impossible => by cases impossible
  refine ⟨?_, cut_behind (fun exchange => exchange.request.Asks "member" value) cut.symm asks
    (fun other member => naming_not_member (naming other member)) notRename⟩
  have member : search ∈ earlier ++ ⟨.rename name leaf, .ok ()⟩ :: updating := by
    rw [cut]
    exact List.mem_append_right before List.mem_cons_self
  rcases List.mem_append.mp member with early | late
  · exact (naming_not_member (naming search early) asks).elim
  · rcases List.mem_cons.mp late with rfl | updated
    · exact (notRename asks).elim
    · exact (updating_plain shape updated).2.2 value asks

theorem updating_others {leaf modified : String} {front before after : List Exchange}
    {changes : List Change} {answer : (Call.modify modified changes).Answer}
    (updating : service.Following name history ∨ service.GroupsWritten name leaf history)
    (cut : front ++ history = before ++ ⟨.modify modified changes, answer⟩ :: after) :
    ⟨.modify modified changes, answer⟩ ∈ front ∨ ∃ search ∈ before, FoundGroups search := by
  have noWrite (other : Exchange) (following : service.IsFollowing name other) :
      other ≠ ⟨.modify modified changes, answer⟩ := by
    intro same
    rw [same] at following
    exact following
  by_cases early : ⟨.modify modified changes, answer⟩ ∈ front
  · exact .inl early
  right
  rcases updating with following | ⟨searching, found, updates, rfl, following, requests⟩
  · have member : (⟨.modify modified changes, answer⟩ : Exchange) ∈ front ++ history := by
      rw [cut]
      exact List.mem_append_right before List.mem_cons_self
    have late := (List.mem_append.mp member).resolve_left early
    exact (noWrite _ (following _ late) rfl).elim
  · rw [← List.append_assoc] at cut
    refine ⟨_, cut_behind (· = ⟨.modify modified changes, answer⟩) cut.symm rfl ?_ ?_,
      ⟨⟨name, member_search_asks.mpr ⟨rfl, rfl⟩⟩, rfl⟩⟩
    · refine List.forall_mem_append.mpr ⟨fun other member same => early (same ▸ member), ?_⟩
      exact fun other member => noWrite other (following other member)
    · intro same
      cases congrArg Exchange.request same

end Calls

section Reports

variable {history : List Exchange} {result : Except ServiceError String}

theorem report_unrenamed {changed : Except ServiceError (Option String)}
    (yielded : (service.naming username givenName surname newUsername).run.Yields history changed)
    (naming : service.Naming username givenName surname newUsername history)
    (kept : ∀ name, changed ≠ .ok (some name))
    (success : (∃ value, result = .ok value) ↔ ∃ renamed, changed = .ok renamed)
    (value : ∀ value, result = .ok value → value = username) :
    ModificationReport service username givenName surname newUsername history result history []
      changed where
  parts := (List.append_nil history).symm
  first := yielded
  renamedOnce := by
    rw [List.countP_eq_zero.mpr fun exchange member => by simp [(naming exchange member).2]]
    exact Nat.zero_le 1
  keepsName none exchange member := naming_keeps_name (naming exchange member) none
  keepsAll noGiven noSurname noUsername exchange member := by
    subst noGiven noSurname noUsername
    exact naming_keeps_all (naming exchange member)
  firstOver := List.pairwise_of_forall_mem_list fun earlier member _ _ renamed => by
    rw [(naming earlier member).2] at renamed
    cases renamed
  searched before search after name cut asks := by
    have member : search ∈ history := cut ▸ List.mem_append_right before List.mem_cons_self
    exact (naming_not_member (naming search member) asks).elim
  rewritten before base scope filter names groups after name cut asks := by
    have member : (⟨.search base scope filter names, .ok groups⟩ : Exchange) ∈ history :=
      cut ▸ List.mem_append_right before List.mem_cons_self
    exact (naming_not_member (naming _ member) asks).elim
  noOthers before name changes answer after cut := by
    have member : (⟨.modify name changes, answer⟩ : Exchange) ∈ history :=
      cut ▸ List.mem_append_right before List.mem_cons_self
    exact .inl (naming _ member).1.1
  renames name := by
    refine iff_of_false (kept name) fun given => ?_
    rcases given with ⟨leaf, member⟩
    cases (naming _ member).2
  success := success.trans
    ⟨fun changedOk => ⟨changedOk, fun name impossible => (kept name impossible).elim⟩, And.left⟩
  value := value

section Renamed

variable {earlier updating : List Exchange} {name leaf : String}

def Updating (service : Service) (name leaf : String) (updating : List Exchange) :
    Except ServiceError String → Prop
  | .ok _ => service.GroupsWritten name leaf updating
  | .error _ => service.Following name updating

theorem Updating.shape {outcome : Except ServiceError String}
    (ended : service.Updating name leaf updating outcome) :
    service.Following name updating ∨ service.GroupsWritten name leaf updating := by
  cases outcome with
  | ok message => exact .inr ended
  | error failure => exact .inl ended

/-- The second stage succeeds if a search for the groups was answered in it. -/
theorem Updating.succeeds {outcome : Except ServiceError String}
    (ended : service.Updating name leaf updating outcome) :
    (∃ value, (outcome.map fun _ => username) = .ok value) ↔
      ∃ search ∈ updating, search.request.Asks "member" name ∧ search.succeeded = true := by
  cases outcome with
  | ok message =>
      obtain ⟨searching, groups, updates, rfl, -, -⟩ : service.GroupsWritten name leaf updating :=
        ended
      exact iff_of_true ⟨username, rfl⟩ ⟨_, List.mem_append_right searching List.mem_cons_self,
        member_search_asks.mpr ⟨rfl, rfl⟩, rfl⟩
  | error failure =>
      have following : service.Following name updating := ended
      refine iff_of_false (fun impossible => ?_) fun impossible => ?_
      · obtain ⟨_, same⟩ := impossible
        cases same
      · obtain ⟨search, member, asks, succeeded⟩ := impossible
        exact following_not_found (following search member) ⟨⟨name, asks⟩, succeeded⟩

section Whole

variable (naming : service.Naming username givenName surname newUsername earlier)
  (shape : service.Following name updating ∨ service.GroupsWritten name leaf updating)

include naming shape

theorem renamed_once :
    (earlier ++ ⟨.rename name leaf, .ok ()⟩ :: updating).countP Exchange.renamed = 1 := by
  have noneBefore : earlier.countP Exchange.renamed = 0 :=
    List.countP_eq_zero.mpr fun exchange member => by simp [(naming exchange member).2]
  have noneAfter : updating.countP Exchange.renamed = 0 :=
    List.countP_eq_zero.mpr fun exchange member => by
      simp [Exchange.not_renamed (updating_plain shape member).1]
  rw [List.countP_append, List.countP_cons, noneBefore, noneAfter]
  rfl

theorem first_over_with_rename :
    (earlier ++ ⟨.rename name leaf, .ok ()⟩ :: updating : List Exchange).Pairwise
      fun first second => first.renamed = true →
        second.request.isRename = false ∧ ∀ value, ¬second.request.Asks "uid" value := by
  refine pairwise_around (fun first member _ wasRenamed => ?_) fun second member _ _ =>
    ⟨(updating_plain shape member).1, (updating_plain shape member).2.1⟩
  rw [(naming first member).2] at wasRenamed
  cases wasRenamed

theorem only_rename {other value : String}
    (carried : ⟨.rename value other, .ok ()⟩ ∈ earlier ++ ⟨.rename name leaf, .ok ()⟩ :: updating) :
    value = name := by
  rcases List.mem_append.mp carried with early | late
  · cases (naming _ early).2
  · rcases List.mem_cons.mp late with same | updated
    · cases congrArg Exchange.request same
      rfl
    · cases Exchange.not_renamed (updating_plain shape updated).1

end Whole

theorem unfound_before_updating
    (naming : service.Naming username givenName surname newUsername earlier) :
    ∀ exchange ∈ earlier ++ [⟨.rename name leaf, .ok ()⟩], ¬FoundGroups exchange := by
  refine List.forall_mem_append.mpr ⟨fun exchange member found => ?_,
    List.forall_mem_singleton.mpr fun found => ?_⟩
  · obtain ⟨value, asks⟩ := found.1
    exact naming_not_member (naming exchange member) asks
  · obtain ⟨value, asks⟩ := found.1
    exact not_asks (fun _ _ _ _ impossible => by cases impossible) asks

theorem report_renamed {changing : List Exchange} {new : String}
    (outcome : Except ServiceError String) (given : newUsername = some new)
    (yielded : (service.naming username givenName surname newUsername).run.Yields changing
      (.ok (some name)))
    (renamed : service.RenamedLast username givenName surname newUsername name changing)
    (ended : service.Updating name (userComponent new) updating outcome) :
    ModificationReport service username givenName surname newUsername (changing ++ updating)
      (outcome.map fun _ => username) changing updating (.ok (some name)) := by
  obtain ⟨earlier, _, same, naming, rfl⟩ := renamed
  obtain rfl := Option.some.inj (given.symm.trans same)
  have shape := ended.shape
  have whole : earlier ++ [⟨.rename name (userComponent new), .ok ()⟩] ++ updating =
      earlier ++ ⟨.rename name (userComponent new), .ok ()⟩ :: updating :=
    List.append_assoc earlier [_] updating
  refine ⟨rfl, yielded, ?once, ?keepsName, ?keepsAll, ?firstOver, ?searched, ?rewritten, ?noOthers,
    ?renames, ?success, ?value⟩
  case once => exact whole ▸ (renamed_once naming shape).le
  case keepsName =>
    intro none
    cases none.symm.trans given
  case keepsAll =>
    intro _ _ none
    cases none.symm.trans given
  case firstOver => exact whole ▸ first_over_with_rename naming shape
  case searched =>
    intro before search after value cut asks
    obtain ⟨rfl, behind⟩ := searches_after_rename naming shape (whole.symm.trans cut) asks
    exact ⟨_, behind⟩
  case rewritten =>
    intro before base scope filter names groups after value cut asks
    obtain ⟨rfl, behind⟩ := searches_after_rename naming shape (whole.symm.trans cut) asks
    exact ⟨_, behind, updating_rewrites shape (unfound_before_updating naming) cut asks⟩
  case noOthers =>
    intro before modified changes answer after cut
    refine (updating_others shape cut).imp_left fun member => ?_
    rcases List.mem_append.mp member with early | late
    · exact (naming _ early).1.1
    · cases congrArg Exchange.request (List.mem_singleton.mp late)
  case renames =>
    intro value
    constructor
    · intro same
      cases same
      exact ⟨_, whole ▸ List.mem_append_right earlier List.mem_cons_self⟩
    · intro carried
      obtain ⟨leaf, member⟩ := carried
      obtain rfl : value = name := only_rename naming shape (whole ▸ member)
      rfl
  case success =>
    refine ended.succeeds.trans ⟨fun found => ⟨⟨some name, rfl⟩, fun value same => ?_⟩,
      fun both => both.2 name rfl⟩
    cases same
    exact found
  case value =>
    intro value same
    cases outcome with
    | ok message =>
        cases same
        rfl
    | error failure => cases same

end Renamed

theorem modification_report {steps : List Step}
    (trace : ModificationTrace service username givenName surname newUsername steps result) :
    ∃ changing updating changed, ModificationReport service username givenName surname newUsername
      (exchanges steps) result changing updating changed := by
  cases trace with
  | @failed _ failure named =>
      have naming : service.Naming username givenName surname newUsername (exchanges steps) :=
        ensures_naming.of_takes named
      refine ⟨_, [], _, report_unrenamed named.yields naming nofun (iff_of_false ?_ ?_) nofun⟩
      · exact nofun
      · exact nofun
  | @kept _ renamed named nothing =>
      have ended := ensures_naming.of_takes named
      have naming : renamed = none ∧
          service.Naming username givenName surname newUsername (exchanges steps) := by
        cases renamed with
        | none => exact ⟨rfl, And.right ended⟩
        | some name =>
            obtain ⟨_, new, given, -⟩ : service.RenamedLast username givenName surname newUsername
              name (exchanges steps) := ended
            rw [nothing.resolve_left nofun] at given
            cases given
      obtain ⟨rfl, naming⟩ := naming
      refine ⟨_, [], _, report_unrenamed named.yields naming nofun (iff_of_true ?_ ?_) ?_⟩
      · exact ⟨username, rfl⟩
      · exact ⟨none, rfl⟩
      · intro value same
        cases same
        rfl
  | @renamed changing updating name new message given named followed =>
      rw [exchanges_append]
      exact ⟨_, _, _, report_renamed (.ok message) given named.yields
        (ensures_naming.of_takes named) (ensures_following.of_takes followed)⟩
  | @unfollowed changing updating reporting name new failure given named followed silent =>
      rw [exchanges_append, exchanges_append, silent, List.append_nil]
      exact ⟨_, _, _, report_renamed (.error failure) given named.yields
        (ensures_naming.of_takes named) (ensures_following.of_takes followed)⟩

/-- Every run in every world has its report. -/
theorem modify_attributes_reported {State : Type} (world : World State) (state : State)
    (service : Service) (username : String) (givenName surname newUsername : Option String) :
    let run := (service.modifyAttributes username givenName surname newUsername).run.run world state
    ∃ changing updating changed, ModificationReport service username givenName surname newUsername
      (exchanges run.steps) run.result changing updating changed :=
  modification_report (modify_takes (Program.run_takes world _ state))

end Reports

end TeacherDirectory.Service
