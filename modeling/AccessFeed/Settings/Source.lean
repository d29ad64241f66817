/-
This file defines where settings come from: a built-in document, a file, and the
environment, each laid over the one before.

A file is looked for by its path, or by its path with the extension of TOML
documents, and a file that is not there counts as empty. Variables of the
environment take part when their names begin with a mark; the rest of such a
name is a path whose parts are separated by two underscores.
-/

import AccessFeed.Files.Tree
import AccessFeed.Settings.Conversion
import AccessFeed.Settings.Layout
import AccessFeed.Settings.Path
import AccessFeed.Toml.Document

namespace AccessFeed.Settings

/-! ### Documents -/

mutual

/-- A TOML value as a setting. -/
def Setting.ofToml (origin : Option String) : Toml.Value → Setting
  | .text value => .scalar origin (.text value)
  | .integer value => .scalar origin (.integer value)
  | .float value => .scalar origin (.float value)
  | .flag value => .scalar origin (.flag value)
  | .moment written => .scalar origin (.text written)
  | .array elements => .list origin (Setting.ofElements origin elements)
  | .table members => .table origin (Setting.ofMembers origin members)

/-- The elements of a TOML array as settings. -/
def Setting.ofElements (origin : Option String) : List Toml.Value → List Setting
  | [] => []
  | value :: rest => Setting.ofToml origin value :: Setting.ofElements origin rest

/-- The members of a TOML table as settings. -/
def Setting.ofMembers (origin : Option String) :
    List (String × Toml.Value) → List (String × Setting)
  | [] => []
  | (name, value) :: rest => (name, Setting.ofToml origin value) :: Setting.ofMembers origin rest

end

/-- The settings of a document. -/
def ofDocument (origin : Option String) (text : String) :
    Except SourceFault (List (String × Setting)) :=
  match Toml.read text with
  | some members => .ok (Setting.ofMembers origin members)
  | none => .error .unreadable

/-- The built-in document. -/
def builtin : String :=
  "timezone = \"Asia/Seoul\"

[redis]
url = \"redis://127.0.0.1:6379\"
cluster_nodes = []
command_timeout_ms = 3000

[streams]
event_stream_key = \"EVENT_STREAM\"
read_count = 10
poll_timeout_ms = 500
replay_pending_on_start = true
stop_grace_ms = 5000

[[streams.consumers]]
stream_key = \"EVENT_STREAM\"
group_name = \"event-group\"
consumer_prefix = \"event-consumer\"
consumer_count = 2

[monitor]
check_interval_ms = 10000

[retention]
enabled = true
schedule = \"0 0 10 * * *\"
retention_days = 60
pending_batch_size = 1000
delete_batch_size = 5000
ack_stale_pending = true
dead_letter_enabled = true
dead_letter_suffix = \":dlq\"

[storage]
backend = \"sled\"
path = \"data/access-events\"

[observability]
log_level = \"info\"
json_logs = false
metrics_enabled = true
service_name = \"access-event-stream\"
"

/-! ### Files -/

/-- The surroundings in which settings are looked for: the files by their paths from the working
folder, folders besides those that hold the files, and the variables of the environment. -/
structure Surroundings where
  files : List (String × String)
  folders : List String := []
  environment : List (String × String)
deriving Repr

namespace Surroundings

/-- The files and folders that are known. -/
def tree (surroundings : Surroundings) : Files.Tree :=
  .ofPaths (surroundings.files.map Prod.fst) surroundings.folders

/-- The content of the file to which a path leads. -/
def content? (surroundings : Surroundings) (path : String) : Option String :=
  match surroundings.tree.find path with
  | .ok place =>
    (surroundings.files.find? fun file => Files.placeOf file.1 == place).map Prod.snd
  | .error _ => none

/-- The extension of TOML documents. -/
def extension : String := ".toml"

/-- Whether the last name of a path ends in the extension of TOML documents, with something before
it. -/
def hasExtension (path : String) : Bool :=
  match (Files.namesOf path).getLast? with
  | some name => name.endsWith extension && name != extension
  | none => false

/-- The path with the extension of TOML documents behind its last name. -/
def extended? (path : String) : Option String :=
  Files.renamed? path (· ++ extension)

/-- The path of a file as it is named in messages. -/
def shownPath (path : String) : String :=
  "/".intercalate (Files.namesOf path)

/-- The mark that may stand in front of a text and says how it is encoded. -/
def encodingMark : Char := '\ufeff'

/-- A text in which every line ends with a single line feed, also the last one; a carriage return
counts only in front of a line feed. -/
def evenLines : List Char → List Char
  | [] => []
  | ['\n'] => ['\n']
  | [c] => [c, '\n']
  | '\r' :: '\n' :: rest => '\n' :: evenLines rest
  | c :: rest => c :: evenLines rest

/-- What is read of the content of a file. -/
def readable (content : String) : String :=
  match content.toList with
  | [] => ""
  | c :: rest => String.ofList (evenLines (if c = encodingMark then rest else c :: rest))

/-- The document to be read for a path, with the name it has in messages. -/
def document? (surroundings : Surroundings) (path : String) : Option (String × String) :=
  match surroundings.content? path with
  | some content => if hasExtension path then some (shownPath path, content) else none
  | none =>
    (extended? path).bind fun path =>
      (surroundings.content? path).map fun content => (shownPath path, content)

/-- The value of a variable of the environment; of several with one name the last one counts. -/
def named? (surroundings : Surroundings) (name : String) : Option String :=
  (surroundings.environment.reverse.find? fun entry => entry.1 == name).map Prod.snd

end Surroundings

/-- The settings of the file at a path. -/
def ofFile (surroundings : Surroundings) (path : String) :
    Except SourceFault (List (String × Setting)) :=
  match surroundings.document? path with
  | some (name, content) => ofDocument (some name) (Surroundings.readable content)
  | none => .ok []

/-! ### The environment -/

/-- How messages name the environment. -/
def environmentName : String := "the environment"

/-- What the names of variables begin with when they are settings, in lower case. -/
def environmentMark : List Char := ['a', 'e', 's', '_', '_']

/-- The value of a variable: a truth value, a whole number or a floating-point number when it reads
as one, and a text otherwise. -/
def ofVariable (text : String) : Scalar :=
  let word := Text.lowercase text
  if word = "true" then .flag true
  else if word = "false" then .flag false
  else
    match Text.readInt64 text.toList with
    | .ok value => .integer value
    | .error _ =>
      match Binary64.read text.toList with
      | .ok value => .float value
      | .error _ => .text text

/-- A name with every two underscores in a row replaced by a point. -/
def pointed : List Char → List Char
  | '_' :: '_' :: rest => '.' :: pointed rest
  | c :: rest => c :: pointed rest
  | [] => []

/-- A variable as a setting, if it is one. -/
def ofEntry? (entry : String × String) : Option (String × Setting) :=
  let name := (Text.lowercase entry.1).toList
  if environmentMark.isPrefixOf name then
    some (String.ofList (pointed (name.drop environmentMark.length)),
      .scalar (some environmentName) (ofVariable entry.2))
  else none

/-- The settings of the environment. -/
def ofEnvironment (surroundings : Surroundings) : List (String × Setting) :=
  surroundings.environment.filterMap ofEntry?

/-! ### All sources -/

/-- The completed settings of all sources, with the file at a path. -/
def load (surroundings : Surroundings) (path : String) : Except SourceFault Json := do
  let base ← ofDocument none builtin
  let file ← ofFile surroundings path
  let layers := [base, file, ofEnvironment surroundings]
  match layers.foldlM Setting.overlay Setting.emptyTable with
  | none => .error .outOfList
  | some settings => Setting.convert Layout.whole settings

/-- The path of the file that is read when none is given. -/
def defaultPath : String := "config/default.toml"

/-- The variable of the environment that names another file. -/
def pathVariable : String := "CONFIG_PATH"

/-- The completed settings of all sources, with the file that the environment names. -/
def loadDefault (surroundings : Surroundings) : Except SourceFault Json :=
  load surroundings ((surroundings.named? pathVariable).getD defaultPath)

end AccessFeed.Settings
