/-!
# Log events

A log event has a level, a message and named fields whose values are texts.
-/

namespace TeacherDirectory

set_option autoImplicit false

inductive LogLevel
  | trace
  | debug
  | info
  | warn
  | error
  deriving DecidableEq

structure LogEvent where
  level : LogLevel
  message : String
  fields : List (String × String)
  deriving DecidableEq

end TeacherDirectory
