import MediaGateway.Files
import MediaGateway.Http.Exchange
import MediaGateway.Json.Kept
import MediaGateway.Text.Numeral

/-!
# What the provider answers

The provider describes files and batches in JSON. Fields that are missing or null
are blank, fields that nobody knows are passed over, and anything else that is
not as it should be makes the whole answer unusable.
-/

namespace MediaGateway.Storage

open Json (Written)

/-- The part of a path up to its last slash, with the slash; empty when there is none. -/
def folderOf (path : String) : String :=
  String.ofList (path.toList.reverse.dropWhile (· ≠ '/')).reverse

/-- The fields of a described file, each with the names that it may have. -/
def fileFields : List (List String) := [
  ["fileId"], ["name"], ["url"], ["thumbnailUrl", "thumbnail"], ["size"], ["fileType"], ["tags"],
  ["filePath"], ["createdAt"], ["updatedAt"], ["width"], ["height"], ["customMetadata"]]

/-- A value of a further fact: a text as it is, anything else in its compact form. -/
def factText : Json.Value → String
  | .text content => content
  | value => value.compact

/-- The further facts that are written. -/
def facts (entries : List (String × Json.Value)) : TextMap :=
  TextMap.ofList (entries.map fun entry => (entry.1, factText entry.2))

/-- A text that may be missing. -/
def textField (field : Option Written) : Option String :=
  (Json.optional? Written.text? field).map fun value => value.getD ""

/-- A whole number of 64 bits that may be missing. -/
def longField (field : Option Written) : Option Int64 :=
  (Json.optional? (Written.integer? (-Int.pow 2 63) (Int.pow 2 63)) field).map
    fun value => Int64.ofInt (value.getD 0)

/-- A whole number of 32 bits that may be missing. -/
def shortField (field : Option Written) : Option Int32 :=
  (Json.optional? (Written.integer? (-Int.pow 2 31) (Int.pow 2 31)) field).map
    fun value => Int32.ofInt (value.getD 0)

/-- A list of texts that may be missing. -/
def textsField (field : Option Written) : Option (List String) :=
  (Json.optional? Written.texts? field).map fun value => value.getD []

/-- Further facts that may be missing. -/
def factsField (room : Nat) (field : Option Written) : Option TextMap :=
  (Json.optional? (Written.record? room) field).map fun value => facts (value.getD [])

/-- The file of a description whose fields stand in their order; the facts may have at most
`room` lists and records inside one another. -/
def fileOfFields? (room : Nat) : List (Option Written) → Option StoredFile
  | [fileId, name, url, thumbnailUrl, size, fileType, tags, filePath, createdAt, updatedAt, width,
      height, customMetadata] => do
    return {
      fileId := ← textField fileId
      name := ← textField name
      url := ← textField url
      thumbnailUrl := ← textField thumbnailUrl
      size := ← longField size
      fileType := ← textField fileType
      tags := ← textsField tags
      folderPath := folderOf (← textField filePath)
      createdAt := ← textField createdAt
      updatedAt := ← textField updatedAt
      width := ← shortField width
      height := ← shortField height
      customMetadata := ← factsField room customMetadata }
  | _ => none

/-- The file that is described, inside `depth` lists. -/
def describedFile? (depth : Nat) (written : Written) : Option StoredFile :=
  (written.fields? fileFields).bind (fileOfFields? (Json.deepest - depth - 1))

/-- The file that a body describes. -/
def readFile? (body : Bytes) : Option StoredFile := (Written.read? body).bind (describedFile? 0)

/-- The files that a body describes. -/
def readFiles? (body : Bytes) : Option (List StoredFile) :=
  match Written.read? body with
  | some (.list items) => items.mapM (describedFile? 1)
  | _ => none

/-- What became of a batch: the identifiers that were deleted, and those that were missing. -/
structure BatchReport where
  /-- Identifiers of the files that were deleted. -/
  deleted : List String
  /-- Identifiers of the files that were not there. -/
  missing : List String
  deriving DecidableEq

/-- The fields of a batch report. -/
def batchFields : List (List String) := [["successfullyDeletedFileIds"], ["missingFileIds"]]

/-- The batch report of a body. -/
def readBatch? (body : Bytes) : Option BatchReport :=
  match (Written.read? body).bind (Written.fields? batchFields) with
  | some [deleted, missing] => do return ⟨← textsField deleted, ← textsField missing⟩
  | _ => none

/-- The outcome for one file of a batch. -/
def BatchReport.outcome (report : BatchReport) (fileId : String) : DeleteOutcome :=
  if report.deleted.contains fileId then .deleted fileId
  else if report.missing.contains fileId then .failed fileId "File not found"
  else .failed fileId "Unknown error"

/-- The number of all matching files that an answer states, if it states one that fits. -/
def statedTotal? (answer : Http.Answer) : Option Int64 :=
  match answer.header? "x-total-count" with
  | none => none
  | some octets =>
    if octets.all fun octet => (0x20 ≤ octet && octet ≤ 0x7E) || octet = 0x09 then
      let chars := octets.map fun octet => Char.ofNat octet.toNat
      match Text.readInt64 (Text.trimWhere (fun char => char = ' ' || char = '\t') chars) with
      | .ok value => some (Int64.ofInt value)
      | .error _ => none
    else none

end MediaGateway.Storage
