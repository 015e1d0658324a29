import ShellBridge.Duration
import ShellBridge.Text.Quoted

/-!
What a session with a broker is asked to be.
-/

namespace ShellBridge

structure Credentials where
  user : String
  password : String
  deriving DecidableEq, Repr

/-- The credentials in words; the password is not shown. -/
def Credentials.description (credentials : Credentials) : String :=
  "Credentials \x7b username: " ++ Text.quoted credentials.user
    ++ ", password: " ++ Text.quoted "<redacted>" ++ " \x7d"

structure SessionOptions where
  /-- The address of the broker, as it was given. -/
  broker : String
  clientId : String
  /-- None for an anonymous session. -/
  credentials : Option Credentials
  /-- The time between two signs of life; zero for none. -/
  keepAlive : Duration
  /-- How long the broker may take to accept the session. -/
  connectTimeout : Duration
  deriving DecidableEq, Repr

namespace SessionOptions

def standardBroker : String := "tcp://localhost:1883"
def standardKeepAlive : Duration := .ofSeconds 30
def standardTimeout : Duration := .ofSeconds 10

/-- An anonymous session with the usual times. -/
def anonymous (broker clientId : String) : SessionOptions :=
  ⟨broker, clientId, none, standardKeepAlive, standardTimeout⟩

/-- The options in words. -/
def description (options : SessionOptions) : String :=
  let credentials :=
    match options.credentials with
    | some credentials => "Some(" ++ credentials.description ++ ")"
    | none => "None"
  "ConnectionOptions \x7b broker: " ++ Text.quoted options.broker
    ++ ", client_id: " ++ Text.quoted options.clientId
    ++ ", credentials: " ++ credentials
    ++ ", keep_alive: " ++ options.keepAlive.text
    ++ ", connect_timeout: " ++ options.connectTimeout.text ++ " \x7d"

end SessionOptions

end ShellBridge
