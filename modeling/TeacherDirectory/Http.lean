import TeacherDirectory.Http.Request
import TeacherDirectory.Json.Quote
import TeacherDirectory.Startup

/-!
# Requests over HTTP

Two pages are served: the status, which binds to the directory once, and the metrics. A request that
takes ten seconds is cut off. Requests for a page are counted and measured by method, page and status
code, unless they were cut off; a page of metrics does not know of its own request.
-/

namespace TeacherDirectory

set_option autoImplicit false

namespace Http

structure Response where
  status : Nat
  contentType : Option String
  allow : Option String
  body : String

inductive Page
  | status
  | metrics
  deriving DecidableEq

def Page.path : Page → String
  | status => "/status.json"
  | metrics => "/metrics"

def Page.ofPath? (path : String) : Option Page :=
  [Page.status, Page.metrics].find? fun page => page.path == path

def defaultName : String := "lehrer_sync"

def statusText (name : String) (isUp : Bool) : String :=
  Json.object [Json.member "version" (Json.quote programVersion),
    Json.member "name" (Json.quote (if name.isEmpty then defaultName else name)),
    Json.member "ldap" (Json.quote (if isUp then "up" else "down"))]

/-- The status page: whether a connection to the directory can be used. -/
def statusPage (app : App) : Program Response := do
  match ← app.service.checkConnection.run with
  | .ok _ => return ⟨200, some "application/json", none, statusText app.name true⟩
  | .error failure =>
      Program.log .warn "ldap unreachable" [("error", failure.message)]
      return ⟨503, some "application/json", none, statusText app.name false⟩

def metricsPage (recorder : Recorder) : Response :=
  ⟨200, some "text/plain; charset=utf-8", none, recorder.text⟩

def notFound : Response := ⟨404, none, none, ""⟩

def notAllowed : Response := ⟨405, none, some "GET,HEAD", ""⟩

def timedOut : Response := ⟨408, none, none, ""⟩

/-- Answers a request. Only reading is allowed, and the head of a page has no body. -/
def answer (app : App) (recorder : Recorder) (request : Request) : Program Response := do
  match Page.ofPath? request.path with
  | none => return notFound
  | some page =>
      if request.method = "GET" || request.method = "HEAD" then
        let response ← match page with
          | .status => statusPage app
          | .metrics => pure (metricsPage recorder)
        return if request.method = "HEAD" then { response with body := "" } else response
      else return notAllowed

def limit : Span := .ofSeconds 10

def track (recorder : Recorder) (request : Request) (page : Page) (status : Nat) (span : Span) :
    Recorder :=
  let labels := [("method", request.method), ("path", page.path), ("status", toString status)]
  (recorder.add ⟨"http_requests_total", labels⟩ 1).measure
    ⟨"http_requests_duration_seconds", labels⟩ span

structure Exchange (State : Type) where
  response : Response
  steps : List Step
  recorder : Recorder
  state : State

def serve {State : Type} (world : World State) (clock : State → Span) (app : App)
    (recorder : Recorder) (request : Request) (state : State) : Exchange State :=
  let start := clock state
  let inTime (state : State) : Bool :=
    (clock state).nanoseconds < start.nanoseconds + limit.nanoseconds
  let run := (answer app recorder request).runWhile world inTime state
  match run.result with
  | none => ⟨timedOut, run.steps, recorder, run.state⟩
  | some response =>
      let span : Span := ⟨(clock run.state).nanoseconds - start.nanoseconds⟩
      let recorder := match Page.ofPath? request.path with
        | some page => track recorder request page response.status span
        | none => recorder
      ⟨response, run.steps, recorder, run.state⟩

end Http

end TeacherDirectory
