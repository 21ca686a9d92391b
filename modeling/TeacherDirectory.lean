import TeacherDirectory.Http
import TeacherDirectory.PersonRecord
import TeacherDirectory.Script
import TeacherDirectory.Service.Attributes
import TeacherDirectory.Service.Credentials
import TeacherDirectory.Service.Teacher
import TeacherDirectory.Settings.Load
import TeacherDirectory.Wire.World
import TeacherDirectory.Proofs.Program.Rule
import TeacherDirectory.Proofs.Metrics
import TeacherDirectory.Proofs.Retry.FirstSuccess
import TeacherDirectory.Proofs.Retry.Invariant
import TeacherDirectory.Proofs.Program.Effects
import TeacherDirectory.Proofs.Program.Parallel
import TeacherDirectory.Proofs.Service.CreationCalls
import TeacherDirectory.Proofs.Service.JoiningCalls
import TeacherDirectory.Proofs.Service.Creation
import TeacherDirectory.Proofs.Directory.Calls
import TeacherDirectory.Proofs.Directory.Catalogue
import TeacherDirectory.Proofs.Directory.Encodings
import TeacherDirectory.Proofs.Directory.LostAnswers
import TeacherDirectory.Proofs.Service.Usernames
import TeacherDirectory.Proofs.Service.PersonCalls
import TeacherDirectory.Proofs.Service.AddressChanges
import TeacherDirectory.Proofs.Service.GroupUpdates
import TeacherDirectory.Proofs.Service.RepeatedWrites
import TeacherDirectory.Proofs.Service.RepeatedJoins
import TeacherDirectory.Proofs.Service.Repetition
import TeacherDirectory.Proofs.Service.LostRename
import TeacherDirectory.Proofs.Service.ConcurrentJoins
import TeacherDirectory.Proofs.Service.CreationReport
import TeacherDirectory.Proofs.Service.Enrolment
import TeacherDirectory.Proofs.Service.LifeCycle
import TeacherDirectory.Proofs.Service.LostAdditions
import TeacherDirectory.Proofs.Service.Memberships
import TeacherDirectory.Proofs.Service.NewSchool
import TeacherDirectory.Proofs.Service.Renaming
import TeacherDirectory.Proofs.Service.SingleWrites
import TeacherDirectory.Proofs.Service.Connections
import TeacherDirectory.Proofs.Service.LostRemovals
import TeacherDirectory.Proofs.Service.UniqueUsernames
import TeacherDirectory.Proofs.Service.CommonNames
import TeacherDirectory.Proofs.Service.Accounts
import TeacherDirectory.Proofs.Service.Additions
import TeacherDirectory.Proofs.Service.Announcements
import TeacherDirectory.Proofs.Service.Secrets
import TeacherDirectory.Proofs.Service.Encodings
import TeacherDirectory.Proofs.Service.Arguments
import TeacherDirectory.Proofs.Service.UnknownDomains
import TeacherDirectory.Proofs.DistinguishedName.Grammar
import TeacherDirectory.Proofs.Service.Filters
import TeacherDirectory.Proofs.DistinguishedName.Commas
import TeacherDirectory.Proofs.Service.MemberSpellings
import TeacherDirectory.Proofs.Service.Realms
import TeacherDirectory.Proofs.Directory.SearchResults
import TeacherDirectory.Proofs.Service.Waiting
import TeacherDirectory.Proofs.Service.Placeholders
import TeacherDirectory.Proofs.PersonRecord
import TeacherDirectory.Proofs.PersonEvent
import TeacherDirectory.Proofs.Settings.Load
import TeacherDirectory.Proofs.Retry.AttemptNumbers
