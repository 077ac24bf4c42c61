import MediaGateway.Files
import MediaGateway.Settings.Key
import MediaGateway.Text.AsciiCase
import MediaGateway.Text.Blank

/-!
# Settings of the service

Settings come from variables. They are read in order, and the first problem met
is the answer; only when all are read is a missing credential reported, then a
blank one, and last a number of workers that would serve nobody.
-/

namespace MediaGateway

/-- Everything that can be set. -/
structure Settings where
  /-- Private key of the account. -/
  ikPrivateKey : String
  /-- Public key of the account. -/
  ikPublicKey : String
  /-- Address under which files are delivered. -/
  ikUrlEndpoint : String
  /-- Base address of the provider. -/
  ikApiBaseUrl : String
  /-- Base address for uploads. -/
  ikUploadBaseUrl : String
  /-- Seconds to wait for the provider. -/
  ikTimeoutSecs : UInt64
  /-- Host to listen on. -/
  grpcHost : String
  /-- Port to listen on. -/
  grpcPort : UInt16
  /-- Calls served at a time. -/
  maxWorkers : UInt64
  /-- Least level of the events that are written. -/
  logLevel : String
  /-- How log lines are written. -/
  logFormat : LogFormat
  /-- Name of the running program. -/
  appName : String
  /-- Environment that it runs in. -/
  environment : String
  /-- Whether calls are counted, when that is said. -/
  metricsEnabledSetting : Option Bool
  /-- Largest file in mebibytes. -/
  maxFileSizeMb : UInt64
  /-- Most files of one batch. -/
  maxFilesPerBatchDelete : UInt64
  /-- Largest message in mebibytes. -/
  maxMessageSizeMb : UInt64
  /-- Seconds that running calls are given at the end. -/
  shutdownGraceSecs : UInt64
  deriving DecidableEq, Repr

namespace Settings

/-- The values that were read, one for each setting that a variable named. -/
abbrev Draft : Type := List (Key × Value)

namespace Draft

/-- The value of a setting, if a variable gave one. -/
def value? (draft : Draft) (key : Key) : Option Value :=
  (draft.find? fun entry => entry.1 = key).map (·.2)

/-- The text of a setting. -/
def text? (draft : Draft) (key : Key) : Option String :=
  match draft.value? key with
  | some (.text content) => some content
  | _ => none

/-- The number of a setting. -/
def number? (draft : Draft) (key : Key) : Option Nat :=
  match draft.value? key with
  | some (.number content) => some content
  | _ => none

/-- The truth value of a setting. -/
def flag? (draft : Draft) (key : Key) : Option Bool :=
  match draft.value? key with
  | some (.flag content) => some content
  | _ => none

/-- The log format of a setting. -/
def format? (draft : Draft) (key : Key) : Option LogFormat :=
  match draft.value? key with
  | some (.format content) => some content
  | _ => none

/-- The number of a setting of 64 bits, or the given one. -/
def wordOr (draft : Draft) (key : Key) (fallback : UInt64) : UInt64 :=
  ((draft.number? key).map UInt64.ofNat).getD fallback

/-- The text of a setting that must be there. -/
def require (draft : Draft) (key : Key) : Except Problem String :=
  match draft.text? key with
  | some content => .ok content
  | none => .error (.missing key)

end Draft

/-- The values of variables after those already read. Names of no setting are passed over; a
setting that has been named before is a problem before its value is looked at. -/
def readVariables (draft : Draft) : List (String × String) → Except Problem Draft
  | [] => .ok draft
  | (given, content) :: rest =>
    match Key.ofVariable? given with
    | none => readVariables draft rest
    | some key =>
      if (draft.value? key).isSome then .error (.duplicate key)
      else match Value.read key.kind content with
        | .error problem => .error (.badValue problem content given)
        | .ok value => readVariables (draft ++ [(key, value)]) rest

/-- The settings of a draft, with the usual value for whatever it does not have. -/
def ofDraft (draft : Draft) : Except Problem Settings := do
  let privateKey ← draft.require .ikPrivateKey
  let publicKey ← draft.require .ikPublicKey
  let urlEndpoint ← draft.require .ikUrlEndpoint
  return {
    ikPrivateKey := privateKey
    ikPublicKey := publicKey
    ikUrlEndpoint := urlEndpoint
    ikApiBaseUrl := (draft.text? .ikApiBaseUrl).getD "https://api.imagekit.io"
    ikUploadBaseUrl := (draft.text? .ikUploadBaseUrl).getD "https://upload.imagekit.io"
    ikTimeoutSecs := draft.wordOr .ikTimeoutSecs 60
    grpcHost := (draft.text? .grpcHost).getD "0.0.0.0"
    grpcPort := ((draft.number? .grpcPort).map UInt16.ofNat).getD 50056
    maxWorkers := draft.wordOr .maxWorkers 10
    logLevel := (draft.text? .logLevel).getD "INFO"
    logFormat := (draft.format? .logFormat).getD .json
    appName := (draft.text? .appName).getD "media-service"
    environment := (draft.text? .environment).getD "development"
    metricsEnabledSetting := draft.flag? .metricsEnabled
    maxFileSizeMb := draft.wordOr .maxFileSizeMb 100
    maxFilesPerBatchDelete := draft.wordOr .maxFilesPerBatchDelete 100
    maxMessageSizeMb := draft.wordOr .maxMessageSizeMb 256
    shutdownGraceSecs := draft.wordOr .shutdownGraceSecs 30 }

/-- The settings, provided that no credential is blank and somebody serves calls. -/
def validated (settings : Settings) : Except Problem Settings :=
  if Text.isAllBlank settings.ikPrivateKey then .error (.blank .ikPrivateKey)
  else if Text.isAllBlank settings.ikPublicKey then .error (.blank .ikPublicKey)
  else if Text.isAllBlank settings.ikUrlEndpoint then .error (.blank .ikUrlEndpoint)
  else if settings.maxWorkers = 0 then .error .noWorkers
  else .ok settings

/-- The settings that variables make. -/
def ofVariables (entries : List (String × String)) : Except Problem Settings := do
  let draft ← readVariables [] entries
  let settings ← ofDraft draft
  validated settings

/-- The address to listen on. -/
def listenAddress (settings : Settings) : String :=
  settings.grpcHost ++ ":" ++ toString settings.grpcPort.toNat

/-- Whether calls are counted: as the setting says, else in production only. -/
def metricsEnabled (settings : Settings) : Bool :=
  settings.metricsEnabledSetting.getD (Text.sameIgnoringCase settings.environment "production")

/-- Whether clients may ask what the service speaks: in development only. -/
def reflectionEnabled (settings : Settings) : Bool :=
  Text.sameIgnoringCase settings.environment "development"

/-- The largest word. -/
def largestWord : Nat := Nat.pow 2 64 - 1

/-- Room in a message beside the content of a file, in mebibytes. -/
def headroomMb : Nat := 16

/-- The longest message in octets. It is never below the largest file and the room beside it,
so a file that is too large is found out by its size and not cut off before. -/
def maxMessageBytes (settings : Settings) : Nat :=
  let floor := min (settings.maxFileSizeMb.toNat + headroomMb) largestWord
  min (max settings.maxMessageSizeMb.toNat floor * Upload.mebibyte) largestWord

end Settings

/-- What the storage behind the service has to know. -/
structure StorageConfig where
  /-- Private key of the account. -/
  privateKey : String
  /-- Base address of the provider. -/
  apiBaseUrl : String
  /-- Base address for uploads. -/
  uploadBaseUrl : String
  /-- Seconds to wait for the provider. -/
  timeoutSecs : UInt64
  /-- Largest file in mebibytes. -/
  maxFileSizeMb : UInt64
  /-- Most files of one batch. -/
  maxFilesPerBatchDelete : UInt64
  deriving DecidableEq, Repr

namespace StorageConfig

/-- A text without the slashes at its end. -/
def withoutTrailingSlashes (text : String) : String :=
  String.ofList (text.toList.reverse.dropWhile (· = '/')).reverse

/-- The part of the settings that concerns the storage. -/
def ofSettings (settings : Settings) : StorageConfig where
  privateKey := settings.ikPrivateKey
  apiBaseUrl := withoutTrailingSlashes settings.ikApiBaseUrl
  uploadBaseUrl := withoutTrailingSlashes settings.ikUploadBaseUrl
  timeoutSecs := settings.ikTimeoutSecs
  maxFileSizeMb := settings.maxFileSizeMb
  maxFilesPerBatchDelete := settings.maxFilesPerBatchDelete

end StorageConfig

end MediaGateway
