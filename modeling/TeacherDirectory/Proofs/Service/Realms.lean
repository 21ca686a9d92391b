import TeacherDirectory.Proofs.Service.Arguments

/-!
# Which realm a domain belongs to

The settings may give a domain to either realm, and the two built-in domains stay in use beside
them. Which realm a domain is assigned to when some of the four are the same is said here without the
order in which they are compared. The comparison gives every domain its realm except one: the built-in
domain of public schools goes to them even if the settings give it to private schools alone.
-/

namespace TeacherDirectory

set_option autoImplicit false

namespace DirectorySettings

variable {settings : DirectorySettings} {domain : String} {realm : Realm}

/-- The realm of a domain by the settings. Public schools have their configured domain, private ones
theirs if it is another one, and a built-in domain belongs to its realm unless the other one has it
configured. -/
inductive Assigned (settings : DirectorySettings) (domain : String) : Realm → Prop
  | configuredPublic (configured : domain = settings.domain .publicSchools) :
      Assigned settings domain .publicSchools
  | configuredPrivate (configured : domain = settings.domain .privateSchools)
      (differs : domain ≠ settings.domain .publicSchools) :
      Assigned settings domain .privateSchools
  | builtIn (realm : Realm) (same : domain = realm.builtInDomain)
      (free : ∀ other, other ≠ realm → domain ≠ settings.domain other) :
      Assigned settings domain realm

/-- A domain of private schools alone that public schools have built in. -/
structure Overruled (settings : DirectorySettings) (domain : String) : Prop where
  configured : domain = settings.domain .privateSchools
  differs : domain ≠ settings.domain .publicSchools
  builtIn : domain = Realm.builtInDomain .publicSchools

theorem assigned_public_iff :
    settings.Assigned domain .publicSchools ↔
      domain = settings.domain .publicSchools ∨
        domain = Realm.builtInDomain .publicSchools ∧ domain ≠ settings.domain .privateSchools := by
  constructor
  · rintro (configured | _ | ⟨_, same, free⟩)
    · exact .inl configured
    · exact .inr ⟨same, free .privateSchools (by decide)⟩
  · rintro (configured | ⟨same, free⟩)
    · exact .configuredPublic configured
    · refine .builtIn .publicSchools same fun other apart => ?_
      cases other with
      | publicSchools => exact absurd rfl apart
      | privateSchools => exact free

theorem assigned_private_iff :
    settings.Assigned domain .privateSchools ↔
      domain ≠ settings.domain .publicSchools ∧
        (domain = settings.domain .privateSchools ∨
          domain = Realm.builtInDomain .privateSchools) := by
  constructor
  · rintro (_ | ⟨configured, differs⟩ | ⟨_, same, free⟩)
    · exact ⟨differs, .inl configured⟩
    · exact ⟨free .publicSchools (by decide), .inr same⟩
  · rintro ⟨differs, configured | same⟩
    · exact .configuredPrivate configured differs
    · refine .builtIn .privateSchools same fun other apart => ?_
      cases other with
      | publicSchools => exact differs
      | privateSchools => exact absurd rfl apart

theorem Assigned.unique {other : Realm} (first : settings.Assigned domain realm)
    (second : settings.Assigned domain other) : realm = other := by
  have apart :
      ¬(settings.Assigned domain .publicSchools ∧ settings.Assigned domain .privateSchools) := by
    rw [assigned_public_iff, assigned_private_iff]
    rintro ⟨configured | ⟨same, free⟩, differs, given⟩
    · exact differs configured
    · rcases given with configured | other
      · exact free configured
      · exact absurd (same.symm.trans other) (by decide)
  cases realm <;> cases other
  · rfl
  · exact (apart ⟨first, second⟩).elim
  · exact (apart ⟨second, first⟩).elim
  · rfl

theorem realm_public_iff :
    settings.realm? domain = some .publicSchools ↔
      domain = settings.domain .publicSchools ∨ domain = Realm.builtInDomain .publicSchools := by
  unfold realm?
  grind

theorem realm_private_iff :
    settings.realm? domain = some .privateSchools ↔
      ¬(domain = settings.domain .publicSchools ∨ domain = Realm.builtInDomain .publicSchools) ∧
        (domain = settings.domain .privateSchools ∨
          domain = Realm.builtInDomain .privateSchools) := by
  unfold realm?
  grind

/-- The realm that is found is the assigned one, except for an overruled domain. -/
theorem realm_some_iff :
    settings.realm? domain = some realm ↔
      settings.Overruled domain ∧ realm = .publicSchools ∨
        ¬settings.Overruled domain ∧ settings.Assigned domain realm := by
  cases realm with
  | publicSchools =>
      rw [realm_public_iff, assigned_public_iff]
      constructor
      · rintro (configured | builtIn)
        · exact .inr ⟨fun overruled => overruled.differs configured, .inl configured⟩
        · by_cases overruled : settings.Overruled domain
          · exact .inl ⟨overruled, rfl⟩
          · refine .inr ⟨overruled, ?_⟩
            by_cases configured : domain = settings.domain .publicSchools
            · exact .inl configured
            · exact .inr ⟨builtIn, fun given => overruled ⟨given, configured, builtIn⟩⟩
      · rintro (⟨overruled, -⟩ | ⟨-, configured | ⟨builtIn, -⟩⟩)
        · exact .inr overruled.builtIn
        · exact .inl configured
        · exact .inr builtIn
  | privateSchools =>
      rw [realm_private_iff, assigned_private_iff]
      constructor
      · rintro ⟨others, given⟩
        exact .inr ⟨fun overruled => others (.inr overruled.builtIn), others ∘ .inl, given⟩
      · rintro (⟨-, same⟩ | ⟨ruled, differs, given⟩)
        · cases same
        · refine ⟨?_, given⟩
          rintro (configured | builtIn)
          · exact differs configured
          · rcases given with configured | other
            · exact ruled ⟨configured, differs, builtIn⟩
            · exact absurd (builtIn.symm.trans other) (by decide)

end DirectorySettings

namespace Service

theorem realm_run {State : Type} (world : World State) (state : State) (service : Service)
    (domain : String) :
    let run := (service.realm domain).run.run world state
    run.result = (match service.settings.realm? domain with
      | some realm => .ok realm
      | none => .error (.emailDomain domain)) ∧ exchanges run.steps = [] := by
  intro run
  have taken : (service.realm domain).run.Takes run.steps run.result :=
    Program.run_takes world _ state
  unfold realm at taken
  cases found : service.settings.realm? domain with
  | some realm =>
      rw [found] at taken
      obtain ⟨steps, result⟩ := (Attempt.takes_pure realm _ _).mp taken
      exact ⟨result, steps ▸ rfl⟩
  | none =>
      rw [found] at taken
      obtain ⟨steps, result⟩ := (Attempt.takes_refuse _ _ _ _).mp taken
      exact ⟨result, steps ▸ rfl⟩

/-- Every domain is resolved without a call to the directory, as the settings assign it, but an
overruled one goes to the public schools although it is assigned to the private ones. What is neither
configured nor built in is refused. -/
theorem realm_assigned_unless_overruled {State : Type} (world : World State) (state : State)
    (service : Service) (domain : String) :
    let run := (service.realm domain).run.run world state
    (∀ realm, run.result = .ok realm ↔
        service.settings.Overruled domain ∧ realm = .publicSchools ∨
          ¬service.settings.Overruled domain ∧ service.settings.Assigned domain realm) ∧
      (service.settings.Overruled domain → service.settings.Assigned domain .privateSchools) ∧
        (∀ failure, run.result = .error failure ↔
          failure = .emailDomain domain ∧ ¬service.settings.Accepts domain) ∧
            exchanges run.steps = [] := by
  intro run
  obtain ⟨result, silent⟩ := service.realm_run world state domain
  refine ⟨fun realm => ?_,
    fun overruled => .configuredPrivate overruled.configured overruled.differs,
    fun failure => ?_, silent⟩
  · rw [← DirectorySettings.realm_some_iff, result]
    cases service.settings.realm? domain <;> simp
  · rw [← DirectorySettings.realm_none_iff, result]
    cases service.settings.realm? domain <;> simp [eq_comm]

/-- Private schools have the domain that public schools have built in, and public schools another one:
the domain is still taken for one of public schools. -/
theorem private_domain_taken_for_public :
    let service : Service :=
      ⟨⟨"", "cn=admin", none, "dc=schule", some "schulen.example", some "schule-sh.de", none, none,
        none, none⟩, .immediate 0⟩
    let run := (service.realm "schule-sh.de").run.run Stage.world ⟨Script.empty, 0, false, 0⟩
    service.settings.Assigned "schule-sh.de" .privateSchools ∧
      ¬service.settings.Assigned "schule-sh.de" .publicSchools ∧
        run.result = .ok .publicSchools := by
  intro service run
  obtain ⟨resolved, given, -⟩ :=
    realm_assigned_unless_overruled Stage.world ⟨Script.empty, 0, false, 0⟩ service "schule-sh.de"
  have overruled : service.settings.Overruled "schule-sh.de" := ⟨rfl, by decide, rfl⟩
  have alone : ¬service.settings.Assigned "schule-sh.de" .publicSchools := fun other =>
    absurd ((given overruled).unique other) (by decide)
  exact ⟨given overruled, alone, (resolved .publicSchools).mpr (.inl ⟨overruled, rfl⟩)⟩

end Service

end TeacherDirectory
