import MediaGateway.Chain
import MediaGateway.Files

/-!
# Storages

A storage carries out seven operations on files. Each of them has a result of its
own type, or fails, or panics; what is told on the way is kept in order. A
storage may have a state that its operations change.
-/

namespace MediaGateway

/-- What a storage is asked to do. -/
inductive Storage.Operation where
  /-- Issue a credential to upload with. -/
  | credential
  /-- Store a file. -/
  | upload (content : Upload)
  /-- Describe a file. -/
  | details (fileId : String)
  /-- List a page of files. -/
  | list (query : ListQuery)
  /-- Delete a file. -/
  | delete (fileId : String)
  /-- Delete several files. -/
  | deleteAll (fileIds : List String)
  /-- Change details of a file. -/
  | update (fileId : String) (changes : FileUpdate)
  deriving DecidableEq

/-- The type of an operation's result. -/
abbrev Storage.Operation.Result : Storage.Operation → Type
  | credential => UploadCredential
  | upload _ => StoredFile
  | details _ => StoredFile
  | list _ => Listing
  | delete _ => Unit
  | deleteAll _ => List DeleteOutcome
  | update _ _ => StoredFile

/-- How an operation ends. -/
inductive Storage.Outcome (α : Type) where
  /-- With a result. -/
  | done (result : α)
  /-- With a failure. -/
  | failed (fault : Fault)
  /-- In a panic. -/
  | panicked (panic : Chain.Panic)

/-- An operation that is over. -/
structure Storage.Ran (σ α : Type) where
  /-- How it ended. -/
  outcome : Storage.Outcome α
  /-- What was told. -/
  events : List Event
  /-- The state of the storage afterwards. -/
  state : σ

/-- A storage with a state. -/
abbrev Storage (σ : Type) : Type :=
  (operation : Storage.Operation) → σ → Storage.Ran σ operation.Result

end MediaGateway
