import MediaGateway.Text.Lowercase
import MediaGateway.Text.Numeral

/-!
# Names and values of settings

Each setting has a name, which a variable may write in any case, and a kind of
value.
-/

namespace MediaGateway

/-- How log lines are written. -/
inductive LogFormat where
  /-- One object a line. -/
  | json
  /-- Plain text. -/
  | console
  deriving DecidableEq, Repr

/-- The word for a log format. -/
def LogFormat.word : LogFormat → String
  | json => "json"
  | console => "console"

namespace Settings

/-- The settings, in the order of their declaration. -/
inductive Key where
  /-- Private key of the account. -/
  | ikPrivateKey
  /-- Public key of the account. -/
  | ikPublicKey
  /-- Address under which files are delivered. -/
  | ikUrlEndpoint
  /-- Base address of the provider. -/
  | ikApiBaseUrl
  /-- Base address for uploads. -/
  | ikUploadBaseUrl
  /-- Seconds to wait for the provider. -/
  | ikTimeoutSecs
  /-- Host to listen on. -/
  | grpcHost
  /-- Port to listen on. -/
  | grpcPort
  /-- Calls served at a time. -/
  | maxWorkers
  /-- Least level of the events that are written. -/
  | logLevel
  /-- How log lines are written. -/
  | logFormat
  /-- Name of the running program. -/
  | appName
  /-- Environment that it runs in. -/
  | environment
  /-- Whether calls are counted. -/
  | metricsEnabled
  /-- Largest file in mebibytes. -/
  | maxFileSizeMb
  /-- Most files of one batch. -/
  | maxFilesPerBatchDelete
  /-- Largest message in mebibytes. -/
  | maxMessageSizeMb
  /-- Seconds that running calls are given at the end. -/
  | shutdownGraceSecs
  deriving DecidableEq, Repr

namespace Key

/-- Every setting, in the order of declaration. -/
def all : List Key :=
  [.ikPrivateKey, .ikPublicKey, .ikUrlEndpoint, .ikApiBaseUrl, .ikUploadBaseUrl, .ikTimeoutSecs,
    .grpcHost, .grpcPort, .maxWorkers, .logLevel, .logFormat, .appName, .environment,
    .metricsEnabled, .maxFileSizeMb, .maxFilesPerBatchDelete, .maxMessageSizeMb,
    .shutdownGraceSecs]

/-- The name of a setting. -/
def name : Key → String
  | ikPrivateKey => "ik_private_key"
  | ikPublicKey => "ik_public_key"
  | ikUrlEndpoint => "ik_url_endpoint"
  | ikApiBaseUrl => "ik_api_base_url"
  | ikUploadBaseUrl => "ik_upload_base_url"
  | ikTimeoutSecs => "ik_timeout_secs"
  | grpcHost => "grpc_host"
  | grpcPort => "grpc_port"
  | maxWorkers => "max_workers"
  | logLevel => "log_level"
  | logFormat => "log_format"
  | appName => "app_name"
  | environment => "environment"
  | metricsEnabled => "metrics_enabled"
  | maxFileSizeMb => "max_file_size_mb"
  | maxFilesPerBatchDelete => "max_files_per_batch_delete"
  | maxMessageSizeMb => "max_message_size_mb"
  | shutdownGraceSecs => "shutdown_grace_secs"

/-- The setting that a variable's name denotes, whatever its case. -/
def ofVariable? (given : String) : Option Key :=
  all.find? fun key => key.name = Text.lowercase given

/-- The usual name of the variable for a setting: its name in capitals. -/
def variableName (key : Key) : String := key.name.map Char.toUpper

/-- The kinds of values. -/
inductive Kind where
  /-- Any text. -/
  | text
  /-- A natural number of so many bits. -/
  | number (bits : Nat)
  /-- A truth value. -/
  | flag
  /-- A log format. -/
  | format
  deriving DecidableEq, Repr

/-- The kind of a setting's value. -/
def kind : Key → Kind
  | grpcPort => .number 16
  | ikTimeoutSecs | maxWorkers | maxFileSizeMb | maxFilesPerBatchDelete | maxMessageSizeMb
  | shutdownGraceSecs => .number 64
  | metricsEnabled => .flag
  | logFormat => .format
  | _ => .text

end Key

/-- A value that was read. -/
inductive Value where
  /-- A text. -/
  | text (content : String)
  /-- A number. -/
  | number (content : Nat)
  /-- A truth value. -/
  | flag (content : Bool)
  /-- A log format. -/
  | format (content : LogFormat)
  deriving DecidableEq, Repr

/-- What can be wrong with the value of a variable. -/
inductive ValueProblem where
  /-- It is no number of its kind. -/
  | numeral (problem : Text.NumeralProblem)
  /-- It is no truth value. -/
  | notFlag
  /-- It is no log format. -/
  | notFormat
  deriving DecidableEq, Repr

/-- The words for a problem that names its variable. -/
def ValueProblem.text : ValueProblem → String
  | numeral .empty => "cannot parse integer from empty string"
  | numeral .badDigit => "invalid digit found in string"
  | numeral .tooLarge => "number too large to fit in target type"
  | notFlag => "provided string was not \x60true\x60 or \x60false\x60"
  | notFormat => "unknown variant"

/-- The value of a kind that a text writes. -/
def Value.read (kind : Key.Kind) (content : String) : Except ValueProblem Value :=
  match kind with
  | .text => .ok (.text content)
  | .number bits =>
    match Text.readNatural (Nat.pow 2 bits) content.toList with
    | .ok natural => .ok (.number natural)
    | .error problem => .error (.numeral problem)
  | .flag =>
    if content = "true" then .ok (.flag true)
    else if content = "false" then .ok (.flag false)
    else .error .notFlag
  | .format =>
    if content = LogFormat.json.word then .ok (.format .json)
    else if content = LogFormat.console.word then .ok (.format .console)
    else .error .notFormat

/-- Why variables make no settings. -/
inductive Problem where
  /-- A setting without which nothing works is not there. -/
  | missing (key : Key)
  /-- Two variables name one setting. -/
  | duplicate (key : Key)
  /-- The value of a variable is not of its setting's kind. -/
  | badValue (problem : ValueProblem) (content given : String)
  /-- A credential is blank. -/
  | blank (key : Key)
  /-- Nobody would serve calls. -/
  | noWorkers
  deriving DecidableEq, Repr

/-- The words for a problem. -/
def Problem.text (problem : Problem) : String :=
  "Invalid configuration: " ++ match problem with
    | missing key => "missing value for field " ++ key.name
    | duplicate key => "duplicate field \x60" ++ key.name ++ "\x60"
    | badValue .notFormat content _ =>
      "unknown variant \x60" ++ content ++ "\x60, expected \x60json\x60 or \x60console\x60"
    | badValue cause content given =>
      cause.text ++ " while parsing value '" ++ content ++ "' provided by " ++ given
    | blank key => key.variableName ++ " must not be empty"
    | noWorkers => Key.maxWorkers.variableName ++ " must be at least 1"

end Settings

end MediaGateway
