import TeacherDirectory.Proofs.Text.Utf8
import TeacherDirectory.Settings.Load

/-!
# Only checked directories are worked on

Settings come from one of three places. Nothing is said here of how a file is decoded or a URL is
taken apart; whatever comes of that, a section on the directory leaves with a URL that was found to be
one of a directory, or not at all.
-/

namespace TeacherDirectory

set_option autoImplicit false

def IsDirectoryUrl (url : String) : Prop :=
  ∃ parsed, Url.read url = .ok parsed ∧ (parsed.scheme = "ldap" ∨ parsed.scheme = "ldaps")

namespace DirectorySettings

variable {directory : DirectorySettings}

theorem is_scheme_iff {scheme : String} :
    isScheme scheme = true ↔ scheme = "ldap" ∨ scheme = "ldaps" := by
  simp [isScheme]

theorem with_password (directory : DirectorySettings) (password : Option String) :
    directory.withPassword password =
      { directory with password := password.or directory.password } := by
  cases password <;> rfl

theorem accept_checked (isUrl : IsDirectoryUrl directory.url) (password : Option String) :
    directory.accept password =
      .ok { directory with password := password.or directory.password } := by
  obtain ⟨parsed, read, scheme⟩ := isUrl
  rw [accept, checkUrl, read, ← with_password]
  simp only [is_scheme_iff.mpr scheme, if_true]
  rfl

theorem accept_unparsed {reason : UrlError} (unparsed : Url.read directory.url = .error reason)
    (password : Option String) : directory.accept password = .error (.url reason) := by
  rw [accept, checkUrl, unparsed]
  rfl

theorem accept_foreign {parsed : Url} (read : Url.read directory.url = .ok parsed)
    (foreign : ¬(parsed.scheme = "ldap" ∨ parsed.scheme = "ldaps")) (password : Option String) :
    directory.accept password = .error (.scheme parsed.scheme) := by
  rw [accept, checkUrl, read]
  simp only [if_neg (mt is_scheme_iff.mp foreign)]
  rfl

end DirectorySettings

section Accepting

variable {file : Settings} {directory : DirectorySettings} {password : Option String}

theorem Settings.accept_without (none : file.directory = none) :
    file.accept password = .ok { file with version := programVersion } := by
  obtain ⟨name, address, version, directory, broker, telemetry⟩ := file
  obtain rfl : directory = .none := none
  rfl

theorem Settings.accept_with (given : file.directory = some directory) :
    file.accept password = (directory.accept password).map fun accepted =>
      { file with version := programVersion, directory := some accepted } := by
  rw [accept, given, Option.mapM_some]
  cases directory.accept password <;> rfl

end Accepting

namespace Surroundings

variable {surroundings : Surroundings} {place : FilePlace} {content : Text.Bytes} {file : Settings}
  {directory : DirectorySettings}

/-- The place that is read: the given one if a file is there, otherwise the one that the environment
names, otherwise the standard one. -/
structure PlaceRead (surroundings : Surroundings) (place : FilePlace) : Prop where
  given : surroundings.given.isFile = true → place = surroundings.given
  named : ∀ named, surroundings.given.isFile = false → surroundings.named = some named →
    place = named
  standard : surroundings.given.isFile = false → surroundings.named = none →
    place = surroundings.standard

def Holds (place : FilePlace) (file : Settings) : Prop :=
  ∃ content, place.content? = some content ∧ Settings.ofBytes? content = some file

structure Outcome (surroundings : Surroundings) (place : FilePlace) : Prop where
  unread : place.content? = none → surroundings.settings = .ok Settings.standard
  undecoded {content : Text.Bytes} : place.content? = some content →
    Settings.ofBytes? content = none → surroundings.settings = .ok Settings.standard
  undirected {file : Settings} : Holds place file → file.directory = none →
    surroundings.settings = .ok { file with version := programVersion }
  checked {file : Settings} {directory : DirectorySettings} : Holds place file →
    file.directory = some directory → IsDirectoryUrl directory.url →
    surroundings.settings = .ok
      { file with
        version := programVersion
        directory := some
          { directory with password := surroundings.password.or directory.password } }
  unparsed {file : Settings} {directory : DirectorySettings} {reason : UrlError} :
    Holds place file → file.directory = some directory → Url.read directory.url = .error reason →
    surroundings.settings = .error (.url reason)
  foreign {file : Settings} {directory : DirectorySettings} {parsed : Url} : Holds place file →
    file.directory = some directory → Url.read directory.url = .ok parsed →
    ¬(parsed.scheme = "ldap" ∨ parsed.scheme = "ldaps") →
    surroundings.settings = .error (.scheme parsed.scheme)

theorem place_read (surroundings : Surroundings) : surroundings.PlaceRead surroundings.place := by
  refine ⟨fun isFile => ?_, fun named noFile isNamed => ?_, fun noFile notNamed => ?_⟩
  · rw [place, if_pos isFile]
  · rw [place, noFile, isNamed]
    rfl
  · rw [place, noFile, notNamed]
    rfl

theorem settings_unread (unread : surroundings.place.settings? = none) :
    surroundings.settings = .ok Settings.standard := by
  rw [settings, read, unread]
  rfl

theorem settings_held (holds : Holds surroundings.place file) :
    surroundings.settings = file.accept surroundings.password := by
  obtain ⟨content, opened, decoded⟩ := holds
  have held : surroundings.place.settings? = some file := by
    rw [FilePlace.settings?, opened]
    exact decoded
  rw [settings, read, held, Option.mapM_some]
  cases file.accept surroundings.password <;> rfl

theorem settings_directed (holds : Holds surroundings.place file)
    (given : file.directory = some directory) :
    surroundings.settings = (directory.accept surroundings.password).map fun accepted =>
      { file with version := programVersion, directory := some accepted } := by
  rw [settings_held holds, Settings.accept_with given]

theorem outcome (surroundings : Surroundings) : surroundings.Outcome surroundings.place := by
  refine ⟨fun unread => ?_, fun opened undecoded => ?_, fun holds none => ?_,
    fun holds given isUrl => ?_, fun holds given unparsed => ?_, fun holds given read foreign => ?_⟩
  · exact settings_unread (by rw [FilePlace.settings?, unread, Option.bind_none])
  · exact settings_unread (by rw [FilePlace.settings?, opened, Option.bind_some, undecoded])
  · rw [settings_held holds, Settings.accept_without none]
  · rw [settings_directed holds given, DirectorySettings.accept_checked isUrl]
    rfl
  · rw [settings_directed holds given, DirectorySettings.accept_unparsed unparsed]
    rfl
  · rw [settings_directed holds given, DirectorySettings.accept_foreign read foreign]
    rfl

theorem held_or_standard (surroundings : Surroundings) :
    (∃ file, Holds surroundings.place file) ∨ surroundings.settings = .ok Settings.standard := by
  cases opened : surroundings.place.content? with
  | none => exact .inr (surroundings.outcome.unread opened)
  | some content =>
      cases decoded : Settings.ofBytes? content with
      | none => exact .inr (surroundings.outcome.undecoded opened decoded)
      | some file => exact .inl ⟨file, content, opened, decoded⟩

theorem directory_checked {result : Settings} (ok : surroundings.settings = .ok result)
    (given : result.directory = some directory) : IsDirectoryUrl directory.url := by
  obtain ⟨file, holds⟩ | standard := surroundings.held_or_standard
  · cases stated : file.directory with
    | none =>
        rw [surroundings.outcome.undirected holds stated] at ok
        cases ok
        cases stated.symm.trans given
    | some before =>
        cases read : Url.read before.url with
        | error reason =>
            rw [surroundings.outcome.unparsed holds stated read] at ok
            cases ok
        | ok parsed =>
            by_cases scheme : parsed.scheme = "ldap" ∨ parsed.scheme = "ldaps"
            · have isUrl : IsDirectoryUrl before.url := ⟨parsed, read, scheme⟩
              rw [surroundings.outcome.checked holds stated isUrl] at ok
              cases ok
              cases given
              exact isUrl
            · rw [surroundings.outcome.foreign holds stated read scheme] at ok
              cases ok
  · rw [standard] at ok
    cases ok
    cases given

end Surroundings

/-- Settings are those of the file at the place that is read, with the program's version and the
environment's password; where no file can be read they are the standard ones, without a directory. A
directory never comes with a URL that was not checked. -/
theorem loaded_directories_are_checked (surroundings : Surroundings) :
    (∃ place, surroundings.PlaceRead place ∧ surroundings.Outcome place) ∧
      Settings.standard.directory = none ∧
      ∀ result directory, surroundings.settings = .ok result → result.directory = some directory →
        IsDirectoryUrl directory.url :=
  ⟨⟨_, surroundings.place_read, surroundings.outcome⟩, rfl,
    fun _ _ ok given => Surroundings.directory_checked ok given⟩

theorem directory_file_decoded :
    Settings.ofBytes? (Text.encode
      "name: a\nversion: x\nldap: \x7burl: LDAPS://h, bind_dn: b, base_dn: c\x7d") =
      some ⟨"a", none, "x",
        some ⟨"LDAPS://h", "b", none, "c", none, none, none, none, none, none⟩, none, none⟩ := by
  decide +kernel

theorem upper_case_url_checked : IsDirectoryUrl "LDAPS://h" := by
  have scheme : (Url.read "LDAPS://h").toOption.map Url.scheme = some "ldaps" := by decide +kernel
  obtain ⟨parsed, found, named⟩ := Option.map_eq_some_iff.mp scheme
  cases read : Url.read "LDAPS://h" with
  | error reason =>
      rw [read] at found
      cases found
  | ok url =>
      rw [read] at found
      cases found
      exact ⟨_, read, .inr named⟩

/-- The environment names a file and a password, and there is a folder at the given place. The version
in the file does not count. -/
theorem named_file_loaded :
    (Surroundings.mk .folder (some (.file (Text.encode
        "name: a\nversion: x\nldap: \x7burl: LDAPS://h, bind_dn: b, base_dn: c\x7d"))) .nothing
      (some "p")).settings =
      .ok ⟨"a", none, "0.1.0",
        some ⟨"LDAPS://h", "b", some "p", "c", none, none, none, none, none, none⟩, none, none⟩ := by
  obtain ⟨⟨place, isPlace, outcome⟩, -⟩ := loaded_directories_are_checked (Surroundings.mk .folder
    (some (.file (Text.encode
      "name: a\nversion: x\nldap: \x7burl: LDAPS://h, bind_dn: b, base_dn: c\x7d"))) .nothing
    (some "p"))
  obtain rfl := isPlace.named _ rfl rfl
  exact outcome.checked ⟨_, rfl, directory_file_decoded⟩ rfl upper_case_url_checked

end TeacherDirectory
