import ShellBridge.Databus
import ShellBridge.Failure
import ShellBridge.Observer
import ShellBridge.Session.Options
import ShellBridge.Text.Natural

/-!
The configuration of a bridge, from environment variables.

Every variable may be left out; one whose value is not UTF-8 counts as left out.  Credentials need
both a user and a password.
-/

namespace ShellBridge

structure Configuration where
  session : SessionOptions
  repository : String
  shell : String
  /-- The whole shell is watched if absent. -/
  submodel : Option String
  /-- The paths that pass; all paths pass if there are none. -/
  whitelist : List String
  bus : Databus
  deriving DecidableEq

namespace Configuration

/-- Values of variables, by name. -/
abbrev Environment : Type := String → Option Bytes

/-- The value of a variable, if it is text. -/
def Environment.text? (environment : Environment) (name : String) : Option String :=
  (environment name).bind Utf8.decode?

def standardShell : String := "urn:example:aas:1"

/-- The client identifier where none is configured; `unique` tells the sessions apart. -/
def clientIdFor (unique : String) : String :=
  "aas-eventbridge-" ++ unique

/-- What is not configured. -/
def standard (unique : String) : Configuration where
  session := .anonymous SessionOptions.standardBroker (clientIdFor unique)
  repository := TopicScheme.standardRepository
  shell := standardShell
  submodel := none
  whitelist := []
  bus := .standard

/-- The items between commas, without the blanks around them; blank items do not count. -/
def parseWhitelist (text : String) : List String :=
  ((Text.split ',' text).map Text.trim).filter (· ≠ "")

inductive Fault where
  | keepAlive (fault : Text.Natural.Fault)
  deriving DecidableEq, Repr

def Fault.failure : Fault → Failure
  | keepAlive fault => ⟨"Invalid EVENTBRIDGE_KEEP_ALIVE_SECS", some fault.message⟩

/-- How many seconds a keep-alive time has at most. -/
def secondsBound : Nat := 0x10000000000000000

def parseKeepAlive (text : String) : Except Fault Duration :=
  match Text.Natural.parse secondsBound text with
  | .ok seconds => .ok (.ofSeconds seconds)
  | .error fault => .error (.keepAlive fault)

variable (environment : Environment)

def credentials? : Option Credentials :=
  match environment.text? "EVENTBRIDGE_USERNAME", environment.text? "EVENTBRIDGE_PASSWORD" with
  | some user, some password => some ⟨user, password⟩
  | _, _ => none

def ofEnvironment (unique : String) : Except Fault Configuration := do
  let text (name standard : String) : String := (environment.text? name).getD standard
  let base := standard unique
  let keepAlive ←
    match environment.text? "EVENTBRIDGE_KEEP_ALIVE_SECS" with
    | some seconds => parseKeepAlive seconds
    | none => .ok base.session.keepAlive
  .ok {
    session := {
      broker := text "EVENTBRIDGE_MQTT_BROKER" base.session.broker
      clientId := text "EVENTBRIDGE_CLIENT_ID" base.session.clientId
      credentials := credentials? environment
      keepAlive := keepAlive
      connectTimeout := base.session.connectTimeout }
    repository := text "EVENTBRIDGE_REPO_ID" base.repository
    shell := text "EVENTBRIDGE_SHELL_ID" base.shell
    submodel := (environment.text? "EVENTBRIDGE_SUBMODEL_ID").filter (· ≠ "")
    whitelist := ((environment.text? "EVENTBRIDGE_WHITELIST").map parseWhitelist).getD []
    bus := {
      inbox := text "EVENTBRIDGE_SUB_TOPIC" base.bus.inbox
      outbox := text "EVENTBRIDGE_PUB_TOPIC" base.bus.outbox } }

/-- What the bridge watches. -/
def scope (configuration : Configuration) : ObserverScope :=
  ⟨configuration.repository, configuration.shell, configuration.submodel⟩

/-- The filter of the bridge. -/
def filter (configuration : Configuration) : Filter :=
  if configuration.whitelist.isEmpty then .disabled
  else (Filter.disabled.setWhitelist configuration.whitelist).enable

end Configuration

end ShellBridge
