import TeacherDirectory.Text.Occurrence
import TeacherDirectory.Time

/-!
# Metrics

A recorder counts events by series, a name with labels, and sorts measured spans into buckets. It
is shown as lines of text, one for each value, with a line that names the kind of each metric that
was used. Lines are shown in the order of their code points.
-/

namespace TeacherDirectory

set_option autoImplicit false

structure Series where
  name : String
  labels : List (String × String)
  deriving DecidableEq

inductive Counter
  | finished (operation : String) (succeeded : Bool)
  | failedAttempt (operation : String)
  deriving DecidableEq

def Counter.series : Counter → Series
  | finished operation succeeded =>
      ⟨"ldap_operations_total",
        [("operation", operation), ("status", if succeeded then "success" else "failure")]⟩
  | failedAttempt operation => ⟨"ldap_operation_failed_attempts_total", [("operation", operation)]⟩

namespace Metrics

def labelText (labels : List (String × String)) : String :=
  if labels.isEmpty then ""
  else "\x7b" ++ ",".intercalate (labels.map fun (key, value) => key ++ "=\"" ++ value ++ "\"") ++
    "\x7d"

def valueLine (name : String) (labels : List (String × String)) (value : Nat) : String :=
  name ++ labelText labels ++ " " ++ toString value

def kindLine (name kind : String) : String := "# TYPE " ++ name ++ " " ++ kind

def helpLine (name text : String) : String := "# HELP " ++ name ++ " " ++ text

def secondsText (span : Span) : String :=
  if span.subsecond = 0 then toString span.seconds
  else
    let digits := (Nat.toDigits 10 (Span.perSecond + span.subsecond)).drop 1
    let needed := (digits.reverse.dropWhile (· = '0')).reverse
    toString span.seconds ++ "." ++ String.ofList needed

def buckets : List Span := [5, 10, 25, 50, 100, 250, 500, 1000, 2500, 5000, 10000].map .ofMilliseconds

/-- The lines of one measured series: how many spans lie at or below each bucket's end, and how
many there are. -/
def measuredLines (series : Series) (spans : List Span) : List String :=
  let bucket (label : String) (count : Nat) :=
    valueLine (series.name ++ "_bucket") (series.labels ++ [("le", label)]) count
  (buckets.map fun upper =>
    bucket (secondsText upper) (spans.countP fun span => span.nanoseconds ≤ upper.nanoseconds)) ++
    [bucket "+Inf" spans.length, valueLine (series.name ++ "_count") series.labels spans.length]

end Metrics

open Metrics

/-- The counts and measurements made so far. A series appears with its first use. -/
structure Recorder where
  descriptions : List (String × String)
  counts : List (Series × Nat)
  spans : List (Series × List Span)

namespace Recorder

def empty : Recorder := ⟨[], [], []⟩

def described : Recorder :=
  { empty with
    descriptions := [
      ("ldap_operations_total", "Directory operations by final outcome."),
      ("ldap_operation_failed_attempts_total",
        "Failed attempts of directory operations, retried ones included."),
      ("http_requests_total", "HTTP requests served.")] }

/-- Adds to the value of a key, which comes last if it is new. -/
def update {Value : Type} (key : Series) (first : Value) (more : Value → Value) :
    List (Series × Value) → List (Series × Value)
  | [] => [(key, first)]
  | (other, value) :: rest =>
      if other = key then (other, more value) :: rest
      else (other, value) :: update key first more rest

def add (recorder : Recorder) (series : Series) (amount : Nat) : Recorder :=
  { recorder with counts := update series amount (· + amount) recorder.counts }

def count (recorder : Recorder) (counter : Counter) : Recorder := recorder.add counter.series 1

def measure (recorder : Recorder) (series : Series) (span : Span) : Recorder :=
  { recorder with spans := update series [span] (· ++ [span]) recorder.spans }

def total (recorder : Recorder) (series : Series) : Nat :=
  (recorder.counts.lookup series).getD 0

def ascending (lines : List String) : List String :=
  lines.mergeSort fun left right => decide (left ≤ right)

def lines (recorder : Recorder) : List String :=
  let counted := (recorder.counts.map fun (series, _) => series.name).eraseDups
  let measured := (recorder.spans.map fun (series, _) => series.name).eraseDups
  let helped := recorder.descriptions.filter fun (name, _) =>
    counted.contains name || measured.contains name
  ascending <|
    (helped.map fun (name, text) => helpLine name text) ++
      (counted.map fun name => kindLine name "counter") ++
      (measured.map fun name => kindLine name "histogram") ++
      (recorder.counts.map fun (series, value) => valueLine series.name series.labels value) ++
      (recorder.spans.flatMap fun (series, spans) => measuredLines series spans)

def text (recorder : Recorder) : String := String.join (recorder.lines.map (· ++ "\n"))

def isSummary (line : String) : Bool :=
  ["ldap_", "http_requests_total", "http_requests_duration_seconds_count"].any fun part =>
    Text.occursIn part.toList line.toList

def summary (recorder : Recorder) : List String := recorder.lines.filter isSummary

end Recorder

end TeacherDirectory
