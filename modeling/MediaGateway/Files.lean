import MediaGateway.Decimal.Binary64
import MediaGateway.TextMap
import MediaGateway.Bytes

/-!
# Files and what is done with them

The records that pass between the calls of the service and the storage behind
it. A field that a caller may leave out is an optional value here: absent is not
the same as empty.
-/

namespace MediaGateway

/-- A stored file. -/
structure StoredFile where
  /-- Identifier of the file. -/
  fileId : String
  /-- Name of the file. -/
  name : String
  /-- Address of the file. -/
  url : String
  /-- Address of a small picture of it. -/
  thumbnailUrl : String
  /-- Size in octets. -/
  size : Int64
  /-- Kind of file. -/
  fileType : String
  /-- Tags. -/
  tags : List String
  /-- Folder that holds the file. -/
  folderPath : String
  /-- When it was stored. -/
  createdAt : String
  /-- When it was last changed. -/
  updatedAt : String
  /-- Width in points. -/
  width : Int32
  /-- Height in points. -/
  height : Int32
  /-- Further facts by name. -/
  customMetadata : TextMap
  deriving DecidableEq

namespace StoredFile

/-- A file of which nothing is known. -/
def blank : StoredFile := ⟨"", "", "", "", 0, "", [], "", "", "", 0, 0, TextMap.empty⟩

end StoredFile

/-- What became of one file of a batch that was to be deleted. -/
structure DeleteOutcome where
  /-- Identifier of the file. -/
  fileId : String
  /-- Whether it was deleted. -/
  success : Bool
  /-- Why it was not, else empty. -/
  errorMessage : String
  deriving DecidableEq

namespace DeleteOutcome

/-- The file was deleted. -/
def deleted (fileId : String) : DeleteOutcome := ⟨fileId, true, ""⟩

/-- The file was not deleted, for the stated reason. -/
def failed (fileId reason : String) : DeleteOutcome := ⟨fileId, false, reason⟩

end DeleteOutcome

/-- A credential with which a client may upload on its own. -/
structure UploadCredential where
  /-- Token that is signed. -/
  token : String
  /-- Second at which it lapses. -/
  expire : Int64
  /-- Signature of token and lapse. -/
  signature : String
  deriving DecidableEq

/-- A file to be stored. -/
structure Upload where
  /-- Content of the file. -/
  content : Bytes
  /-- Name to store it under. -/
  filename : String
  /-- Folder to store it in. -/
  folder : Option String
  /-- Tags to give it. -/
  tags : Option (List String)
  /-- Whether its name is made unique. -/
  useUniqueFilename : Bool
  /-- Area of interest. -/
  customCoordinates : Option String
  deriving DecidableEq

namespace Upload

/-- Octets in a mebibyte. -/
def mebibyte : Nat := 1048576

/-- Size of the content in octets. -/
def size (upload : Upload) : Nat := upload.content.length

/-- Size of the content in mebibytes. -/
def sizeMb (upload : Upload) : Binary64 :=
  (Binary64.ofNat upload.size).div (Binary64.ofNat mebibyte)

end Upload

/-- What files a listing should show. -/
structure ListQuery where
  /-- Files to leave out at the front. -/
  skip : Int32
  /-- Most files to return. -/
  limit : Int32
  /-- Search expression. -/
  searchQuery : Option String
  /-- Tags that the files have. -/
  tags : Option (List String)
  /-- Kind of file. -/
  fileType : Option String
  /-- Order of the files. -/
  sort : Option String
  /-- Folder to look in. -/
  path : Option String
  deriving DecidableEq

namespace ListQuery

/-- Files returned when a query does not say how many. -/
def defaultLimit : Int32 := 1000

/-- The query that asks for nothing in particular. -/
def blank : ListQuery := ⟨0, defaultLimit, none, none, none, none, none⟩

/-- The query with its page put right: a limit that is not positive becomes the default one,
and nothing less than nothing is skipped. -/
def normalized (query : ListQuery) : ListQuery :=
  { query with
    limit := if query.limit ≤ 0 then defaultLimit else query.limit
    skip := if query.skip < 0 then 0 else query.skip }

end ListQuery

/-- A page of files. -/
structure Listing where
  /-- The files on the page. -/
  files : List StoredFile
  /-- How many files match in all. -/
  totalCount : Int64
  deriving DecidableEq

/-- Details of a file that are to be changed; an absent one is left alone. -/
structure FileUpdate where
  /-- The new tags. -/
  tags : Option (List String)
  /-- The new area of interest. -/
  customCoordinates : Option String
  /-- The new further facts. -/
  customMetadata : Option TextMap
  deriving DecidableEq

namespace FileUpdate

/-- The names of the details that are to be changed. -/
def fieldNames (update : FileUpdate) : List String :=
  (if update.tags.isSome then ["tags"] else [])
    ++ (if update.customCoordinates.isSome then ["custom_coordinates"] else [])
    ++ (if update.customMetadata.isSome then ["custom_metadata"] else [])

end FileUpdate

end MediaGateway
