import TeacherDirectory.Proofs.Service.PersonCalls
import TeacherDirectory.Service.Credentials

/-!
# Which address is kept

A change of address writes the new address and, beside it, the primary address that the attempt found.
The address that the person had is kept that way, unless the write of an attempt was carried out and
its answer lost: then the next attempt finds the new address and keeps that one. So it depends on the
lost calls alone which address becomes the alternative one, and the event that is handed over always
tells what the entry says.
-/

namespace TeacherDirectory.Service

set_option autoImplicit false

open DistinguishedName
open Function (update)

def readdressed (record : Record) (address alternative : String) : Record :=
  update (update record "mailprimaryaddress" [address]) "mailalternativeaddress" [alternative]

def previousAddress (record : Record) (address : String) : String :=
  (record "mailprimaryaddress").head?.getD address

/-- The address that is kept beside a new one, given the calls that were lost. -/
def keptAddress (record : Record) (address : String) (losses : List Loss) : String :=
  if losses.any Loss.wrote then address else previousAddress record address

/-- What an entry can hold between two attempts to change its address. -/
structure Readdressing (name address : String) (record : Record) (start : Store) (journal : Journal)
    (current : Record) : Prop where
  store : journal.store = update start name (some current)
  usernames : current "uid" = record "uid"
  rewritten : ∀ alternative,
    readdressed current address alternative = readdressed record address alternative
  previous : previousAddress current address = keptAddress record address journal.losses

variable {service : Service} {may : List Loss → Loss → Prop} {name address alternative : String}
  {personId username : String} {record current : Record} {start : Store} {before after : Journal}
  {loss : Loss} {request : Call}

section Records

theorem readdressed_twice {other : String} :
    readdressed (readdressed record address other) address alternative =
      readdressed record address alternative := by
  funext key
  unfold readdressed
  by_cases second : key = "mailalternativeaddress"
  · rw [second, Function.update_self, Function.update_self]
  rw [Function.update_of_ne second, Function.update_of_ne second]
  by_cases first : key = "mailprimaryaddress"
  · rw [first, Function.update_self, Function.update_self]
  · rw [Function.update_of_ne first, Function.update_of_ne first, Function.update_of_ne second,
      Function.update_of_ne first]

theorem readdressed_primary :
    readdressed record address alternative "mailprimaryaddress" = [address] := by
  unfold readdressed
  rw [Function.update_of_ne (by decide), Function.update_self]

theorem readdressed_usernames : readdressed record address alternative "uid" = record "uid" := by
  unfold readdressed
  rw [Function.update_of_ne (by decide), Function.update_of_ne (by decide)]

theorem write_addresses {store : Store} (stored : store name = some record) :
    store.write (.modify name [.replace "mailPrimaryAddress" [address],
        .replace "mailAlternativeAddress" [alternative]]) =
      some (update store name (some (readdressed record address alternative))) := by
  have folded : Entry.key "mailPrimaryAddress" = "mailprimaryaddress" ∧
      Entry.key "mailAlternativeAddress" = "mailalternativeaddress" := by
    decide +kernel
  have replaces : ∀ change ∈ [Change.replace "mailPrimaryAddress" [address],
      .replace "mailAlternativeAddress" [alternative]], change.kind = .replace := by
    simp [Change.replace]
  rw [Store.write_replace stored replaces]
  simp only [Record.replaced, List.foldl_cons, List.foldl_nil, Change.replace, folded, readdressed]

end Records

section Attempts

theorem readdressing_start (stored : start name = some record) :
    Readdressing name address record start ⟨start, []⟩ record where
  store := by rw [← stored, Function.update_eq_self]
  usernames := rfl
  rewritten := fun _ => rfl
  previous := rfl

theorem Readdressing.unchanged (pending : Readdressing name address record start before current)
    (same : after.store = before.store) (recorded : after.losses = before.losses ++ [loss])
    (harmless : loss.wrote = false) : Readdressing name address record start after current where
  store := same.trans pending.store
  usernames := pending.usernames
  rewritten := pending.rewritten
  previous := by
    rw [pending.previous]
    unfold keptAddress
    rw [recorded, List.any_append, List.any_cons, harmless, List.any_nil, Bool.or_false,
      Bool.or_false]

/-- A write that was carried out puts the new address where the next attempt looks. -/
theorem Readdressing.overwritten (pending : Readdressing name address record start before current)
    (written : after.store =
      update before.store name (some (readdressed current address alternative)))
    (recorded : after.losses = before.losses ++ [loss]) (carriedOut : loss.wrote = true) :
    Readdressing name address record start after (readdressed current address alternative) where
  store := by rw [written, pending.store, Function.update_idem]
  usernames := readdressed_usernames.trans pending.usernames
  rewritten := fun other => readdressed_twice.trans (pending.rewritten other)
  previous := by
    unfold keptAddress previousAddress
    rw [readdressed_primary, recorded, List.any_append, List.any_cons, carriedOut, Bool.true_or,
      Bool.or_true, if_pos rfl]
    rfl

theorem Readdressing.identified (pending : Readdressing name address record start before current)
    (identified : Identified service.base username name record start) :
    Identified service.base username name current before.store := by
  rw [pending.store]
  exact identified.set (pending.usernames ▸ identified.named)

theorem Readdressing.stumbles (pending : Readdressing name address record start before current)
    (stumbles : before.Stumbles may after) : Readdressing name address record start after current := by
  rcases stumbles with ⟨request, read, loses⟩
  obtain ⟨applied, -, recorded⟩ := loses.recorded
  refine pending.unchanged (Journal.Stumbles.same_store ⟨request, read, loses⟩) recorded ?_
  unfold Loss.wrote
  rw [read, Bool.and_false]

def Readdressed (name address : String) (record : Record) (start : Store) (alternative : String)
    (after : Journal) : Prop :=
  alternative = keptAddress record address after.losses ∧
    after.store = update start name (some (readdressed record address alternative))

theorem losses_grow (loses : before.Loses may request after) :
    after.losses.length = before.losses.length + 1 := by
  obtain ⟨_, -, recorded⟩ := loses.recorded
  rw [recorded, List.length_append, List.length_singleton]

theorem ensures_address_once (identified : Identified service.base username name record start)
    (pending : Readdressing name address record start before current) :
    (service.changeAddressOnce personId username address).Ensures (Journal.losing may)
      (Readdressed name address record start)
      (fun _ after => (∃ current, Readdressing name address record start after current) ∧
        after.losses.length = before.losses.length + 1) before := by
  have here := pending.identified identified
  unfold changeAddressOnce
  refine ensures_identified here (fun _ after stumbles => ?_) fun entry named shown => ?_
  · obtain ⟨request, read, loses⟩ := stumbles
    exact ⟨⟨current, pending.stumbles ⟨request, read, loses⟩⟩, losses_grow loses⟩
  have read : (entry.first? "mailPrimaryAddress").getD address =
      keptAddress record address before.losses := by
    have folded : Entry.key "mailPrimaryAddress" = "mailprimaryaddress" := by decide +kernel
    unfold Entry.first?
    rw [shown "mailPrimaryAddress" (.inr (List.mem_singleton.mpr rfl)), folded]
    exact pending.previous
  dsimp only
  rw [named, read, Attempt.ensures_bind, Journal.ensures_admitted (write_addresses here.stored)]
  refine ⟨fun _ _ => ?_, fun _ after loses => Program.ensures_logged.mpr ⟨?_, losses_grow loses⟩⟩
  · simp only [Attempt.ensures_bind, Attempt.ensures_lift, Attempt.ensures_pure,
      Program.ensures_log]
    refine ⟨rfl, ?_⟩
    rw [pending.store, Function.update_idem, pending.rewritten]
  · cases loses with
    | undone _ => exact ⟨current, pending.unchanged rfl rfl rfl⟩
    | applied _ written =>
        have later := Option.some.inj ((write_addresses here.stored).symm.trans written)
        exact ⟨_, pending.overwritten later.symm rfl rfl⟩

theorem ensures_address_attempts (identified : Identified service.base username name record start) :
    (service.attempt "change_email_address_by_person_id"
        (service.changeAddressOnce personId username address)).Ensures (Journal.losing may)
      (Readdressed name address record start)
      (fun _ after => service.policy.maxRetries.toNat + 1 ≤ after.losses.length) ⟨start, []⟩ := by
  let invariant (left : Nat) (state : Journal) : Prop :=
    (∃ current, Readdressing name address record start state current) ∧
      service.policy.maxRetries.toNat + 1 ≤ state.losses.length + left
  have first : invariant (service.policy.maxRetries.toNat + 1) ⟨start, []⟩ :=
    ⟨⟨record, readdressing_start identified.stored⟩, Nat.le_add_left _ _⟩
  refine RetryPolicy.ensures_retry_counted invariant first fun _ left state holds => ?_
  rcases holds with ⟨⟨current, pending⟩, budget⟩
  refine (ensures_address_once identified pending).weaken (fun _ _ ended => ended) ?_
  exact fun _ after failed => ⟨⟨failed.1, by omega⟩, by omega⟩

theorem address_opens_first {calls : Call → Prop}
    (searches : calls (userSearch service.base username ["mailPrimaryAddress"]))
    (replaces : ∀ name alternative, calls (.modify name
      [.replace "mailPrimaryAddress" [address], .replace "mailAlternativeAddress" [alternative]])) :
    service.OpensFirst (Effect.Only calls)
      (service.changeAddressOnce personId username address) := by
  refine ⟨_, rfl, Attempt.performs_bind (performs_require_person searches) fun entry => ?_⟩
  refine Attempt.performs_bind (Attempt.performs_call (replaces _ _) fun _ => ?_) fun _ => ?_
  · exact Program.performs_bind (Program.performs_ask trivial) fun _ => trivial
  · exact Attempt.performs_bind (Attempt.performs_log _ _ _) fun _ => trivial

theorem performs_address_once {calls : Call → Prop} (any : ∀ request, calls request) :
    (service.changeAddressOnce personId username address).Performs (Effect.Only calls) :=
  (address_opens_first (any _) fun _ _ => any _).performs
    (performs_bound (any _) fun _ _ => any _)

theorem change_address_valid
    (valid : ∃ domain realm, addressDomain? address = some domain ∧
      service.settings.realm? domain = some realm) :
    service.changeAddress personId username address = (do
      let alternative ← service.attempt "change_email_address_by_person_id"
        (service.changeAddressOnce personId username address)
      publish (.addressesChanged personId address alternative)
      return personId) := by
  obtain ⟨domain, realm, parsed, accepted⟩ := valid
  unfold changeAddress
  rw [parsed]
  dsimp only
  unfold Service.realm
  rw [accepted]
  rfl

end Attempts

section Runs

variable {State : Type} {world : World State} {held : State → Journal} {state : State}

/-- A change of address in a directory where any call may get lost. It fails only if every attempt
lost a call. If it succeeds, the entry and the event tell the same two addresses; the alternative one
is the address that the person had, or the new one if a write was carried out and its answer lost. -/
theorem address_kept_unless_lost (obeys : world.Obeys (Journal.losing Loss.anything) held)
    (begins : (held state).losses = [])
    (identified : Identified service.base username name record (held state).store)
    (valid : ∃ domain realm, addressDomain? address = some domain ∧
      service.settings.realm? domain = some realm) :
    let run := (service.changeAddress personId username address).run.run world state
    let kept := keptAddress record address (held run.state).losses
    (run.result = .ok personId ∧ events run.steps = [.addressesChanged personId address kept] ∧
        (held run.state).store =
          update (held state).store name (some (readdressed record address kept))) ∨
      (∃ failure, run.result = .error failure) ∧ events run.steps = [] ∧
        service.policy.maxRetries.toNat + 1 ≤ (held run.state).losses.length := by
  intro run kept
  have start : held state = ⟨(held state).store, []⟩ := by rw [← begins]
  have attempts : (service.attempt "change_email_address_by_person_id"
      (service.changeAddressOnce personId username address)).Ensures (Journal.losing Loss.anything)
      (Readdressed name address record (held state).store)
      (fun _ after => service.policy.maxRetries.toNat + 1 ≤ after.losses.length) (held state) := by
    rw [start]
    exact ensures_address_attempts identified
  have plain : (service.attempt "change_email_address_by_person_id"
      (service.changeAddressOnce personId username address)).Performs (Effect.Only fun _ => True) :=
    RetryPolicy.performs_retry fun _ => performs_address_once fun _ => trivial
  have taken : (service.changeAddress personId username address).run.Takes run.steps run.result :=
    Program.run_takes world _ state
  have follows : (Journal.losing Loss.anything).Follows (held state) run.steps (held run.state) :=
    Program.run_follows obeys _ state
  clear_value run
  rw [change_address_valid valid] at taken
  obtain ⟨_, result, ⟨rfl, stored⟩, announced⟩ | ⟨failure, result, spent, silent⟩ :=
    ensures_announced plain attempts taken follows
  · exact .inl ⟨result, announced, stored⟩
  · exact .inr ⟨⟨failure, result⟩, silent, spent⟩

/-- The answer to the first write is lost: no address of before is left. -/
theorem lost_write_loses_address :
    let service : Service :=
      ⟨⟨"", "cn=admin", none, "dc=schule", none, none, none, none, none, none⟩, .immediate 1⟩
    let name := "uid=anna,ou=oeffentlicheSchulen,dc=schule"
    let address := "ahrens@schule-sh.de"
    let attributes : Attributes :=
      [("uid", ["anna"]), ("mailPrimaryAddress", ["anna@schule-sh.de"])]
    let record := Record.ofAttributes attributes
    let start := Catalogue.empty.put name (Record.keyed_by_attributes attributes)
    let run := (service.changeAddress "7" "anna" address).run.run
      (Catalogue.forgetful Call.isWrite) (start, [])
    Identified service.base "anna" name record start.store ∧
      previousAddress record address = "anna@schule-sh.de" ∧
      run.result = .ok "7" ∧ events run.steps = [.addressesChanged "7" address address] ∧
      run.state.1.store = update start.store name (some (readdressed record address address)) := by
  intro service name address attributes record start run
  have usernames : record "uid" = ["anna"] := by decide +kernel
  have previous : previousAddress record address = "anna@schule-sh.de" := by decide +kernel
  have inRealm : name = service.teacherName "anna" .publicSchools := by decide +kernel
  have identified : Identified service.base "anna" name record start.store :=
    Unidentified.identified (fun _ _ stored => nomatch stored) (inRealm ▸ teacher_name_within)
      (usernames ▸ List.mem_singleton.mpr rfl)
  have obeys : (Catalogue.forgetful Call.isWrite).Obeys (Journal.losing Loss.anything)
      Catalogue.journal := Catalogue.forgetful_obeys fun _ _ => trivial
  have outcome : (run.result = .ok "7" ∧ events run.steps =
        [.addressesChanged "7" address (keptAddress record address run.state.2)] ∧
        run.state.1.store = update start.store name
          (some (readdressed record address (keptAddress record address run.state.2)))) ∨
      (∃ failure, run.result = .error failure) ∧ events run.steps = [] ∧
        2 ≤ run.state.2.length :=
    address_kept_unless_lost obeys rfl identified
      ⟨"schule-sh.de", .publicSchools, by decide +kernel, by decide +kernel⟩
  have losses : (run.state.2 = [] ∧ run.state.1.store = start.store) ∨
      ∃ request, Call.isWrite request = true ∧ run.state.2 = [⟨request, true⟩] :=
    Catalogue.forgetful_writes
  refine ⟨identified, previous, ?_⟩
  rcases losses with ⟨none, same⟩ | ⟨request, writes, alone⟩
  · -- Without a loss the change was carried out, and the store is another one.
    rw [none] at outcome
    obtain ⟨-, -, stored⟩ := outcome.resolve_right fun failed => by simp at failed
    have primary := congrArg (fun store => (store name).map (· "mailprimaryaddress"))
      (same.symm.trans stored)
    have before : (start.store name).map (· "mailprimaryaddress") =
        some ["anna@schule-sh.de"] := by
      decide +kernel
    simp only [before, Function.update_self, Option.map_some, readdressed_primary] at primary
    simp [address] at primary
  · have lost : keptAddress record address run.state.2 = address := by
      unfold keptAddress
      rw [alone, List.any_cons, Loss.wrote, writes]
      rfl
    rw [lost, alone] at outcome
    exact outcome.resolve_right fun failed => by simp at failed

end Runs

end TeacherDirectory.Service
