import ShellBridge.Failure
import ShellBridge.Frame
import ShellBridge.Topic

/-!
The command line: identifiers, topics and frames.

A command is run on its arguments and on a way to read files; its outcome is what it prints and its
exit status.  Arguments behind those that a command needs do not count.
-/

namespace ShellBridge.CommandLine

structure Outcome where
  status : Nat
  output : String
  errors : String
  deriving DecidableEq, Repr

def success (output : String) : Outcome := ⟨0, output, ""⟩

def failure (errors : String) : Outcome := ⟨1, "", errors⟩

/-- The outcome of a command that may fail. -/
def Outcome.of : Except Failure String → Outcome
  | .ok output => success output
  | .error fault => failure fault.report

/-- How a file is read; an error is told in words. -/
abbrev FileReader : Type := String → Except String Bytes

def helpLines : List String :=
  ["AAS-EventBridge CLI",
    "",
    "USAGE:",
    "    aas-eventbridge <COMMAND> [OPTIONS]",
    "",
    "COMMANDS:",
    "    encode <id>              Encode an AAS identifier to base64url (no padding)",
    "    decode <encoded>         Decode a base64url-encoded identifier",
    "    topic <kind> <shell-id> [submodel-id] [path] [repo]",
    "                             Print the topic for an event",
    "    parse-topic <topic>      Show the kind and identifiers of a topic",
    "    frame-check <file>       Validate a JSON message frame",
    "    help                     Show this help message",
    "",
    "TOPIC KINDS:",
    "    shell-created, submodel-created, submodel-deleted,",
    "    element-created, element-updated, element-deleted, element-value",
    "",
    "EXAMPLES:",
    "    aas-eventbridge encode \"urn:example:aas:asset1\"",
    "    aas-eventbridge topic element-value urn:example:aas:1 urn:example:sm:data temperature",
    ""]

def lines (texts : List String) : String :=
  String.join (texts.map (· ++ "\n"))

def help : String := lines helpLines

inductive Command where
  | encode
  | decode
  | topic
  | parseTopic
  | frameCheck
  deriving DecidableEq, Repr

def Command.ofName? (name : String) : Option Command :=
  if name = "encode" then some encode
  else if name = "decode" then some decode
  else if name = "topic" then some topic
  else if name = "parse-topic" then some parseTopic
  else if name = "frame-check" then some frameCheck
  else none

/-- What follows the name of the program in the usage of a command. -/
def Command.usage : Command → String
  | encode => "encode <identifier>"
  | decode => "decode <encoded>"
  | topic => "topic <kind> <shell-id> [submodel-id] [path] [repo]"
  | parseTopic => "parse-topic <topic>"
  | frameCheck => "frame-check <file>"

def Command.misused (command : Command) : Outcome :=
  failure s!"Usage: aas-eventbridge {command.usage}\n"

/-- The name of a kind of topics on the command line. -/
def kindName : TopicKind → String
  | .shellCreated => "shell-created"
  | .submodelCreated => "submodel-created"
  | .submodelDeleted => "submodel-deleted"
  | .elementCreated => "element-created"
  | .elementUpdated => "element-updated"
  | .elementDeleted => "element-deleted"
  | .elementValue => "element-value"

def kindOfName? (name : String) : Option TopicKind :=
  TopicKind.all.find? fun kind => kindName kind = name

def decode (encoded : String) : Except Failure String :=
  match Identifier.decode encoded with
  | .ok id => .ok (lines [id])
  | .error refusal => .error ⟨"Failed to decode", some refusal.message⟩

/-- The topic of an event; a path and a repository may follow the submodel. -/
def topic (kind shell : String) (rest : List String) : Except Failure String :=
  match kindOfName? kind with
  | none => .error ⟨s!"Unknown topic kind: {kind}", none⟩
  | some kind =>
      let ids : EntityIds := ⟨shell, rest.getD 0 "", rest[2]?⟩
      .ok (lines [TopicScheme.standard.topic kind ids (rest.getD 1 "")])

/-- The parts of a topic, one a line. -/
def topicLines (parsed : ParsedTopic) : List String :=
  let line (title : String) (part : Option String) : List String :=
    (part.map (title ++ ·)).toList
  ["kind:      " ++ parsed.kind.name, "repo:      " ++ parsed.repository]
    ++ line "shell:     " parsed.shell ++ line "submodel:  " parsed.submodel
    ++ line "path:      " parsed.path

def parseTopic (text : String) : Except Failure String :=
  match ParsedTopic.parse text with
  | some parsed => .ok (lines (topicLines parsed))
  | none => .error ⟨s!"Not an event bridge topic: {text}", none⟩

/-- A valid frame, indented. -/
def checkFrame (content : Bytes) : Except Failure String :=
  match Frame.decode content with
  | .ok frame => .ok (lines [frame.toJson.indentedText])
  | .error fault => .error ⟨"Invalid message frame", some fault.message⟩

def frameCheck (read : FileReader) (file : String) : Except Failure String :=
  match read file with
  | .ok content => checkFrame content
  | .error reason => .error ⟨s!"Failed to read {file}", some reason⟩

def Command.run (read : FileReader) (command : Command) (arguments : List String) : Outcome :=
  match command, arguments with
  | encode, id :: _ => success (lines [Identifier.encode id])
  | decode, encoded :: _ => .of (CommandLine.decode encoded)
  | topic, kind :: shell :: rest => .of (CommandLine.topic kind shell rest)
  | parseTopic, text :: _ => .of (CommandLine.parseTopic text)
  | frameCheck, file :: _ => .of (CommandLine.frameCheck read file)
  | command, _ => command.misused

/-- Runs the command that the arguments name. -/
def run (read : FileReader) : List String → Outcome
  | [] => success help
  | name :: arguments =>
      match Command.ofName? name with
      | some command => command.run read arguments
      | none =>
          if ["help", "--help", "-h"].contains name then success help
          else ⟨1, help, s!"Unknown command: {name}\n"⟩

end ShellBridge.CommandLine
