import MediaGateway.Grpc.Reply
import MediaGateway.Protobuf.Descriptor

/-!
# Reflection

A client may ask a server for the descriptions of what it speaks: for a file by
its name or by something that it declares, and for the names of the services.
Every question has an answer of its own; the first one without an answer ends
the conversation, and so does a question that cannot be read.
-/

namespace MediaGateway.Grpc.Reflection

open Protobuf
open Protobuf.Descriptor

/-- A text that is there or not. An empty one that is there is written too. -/
def chosenText : Shape (Option String) where
  blank := none
  write _ number
    | none => []
    | some value => Shape.writeContent number (Bytes.ofText value)
  size number
    | none => 0
    | some value => Shape.delimitedSize number value.utf8ByteSize
  read _ wire _ bytes := Shape.expecting .lengthDelimited wire <|
    (Shape.readText bytes).map fun (value, rest) => (some value, rest)
  view
    | none => .absent
    | some value => .text value
  ofView?
    | .absent => some none
    | .text value => some (some value)
    | _ => none

/-- Asks for the file with an extension. -/
structure ExtensionRequest where
  /-- The message that is extended. -/
  containingType : String
  /-- The number of the extension. -/
  extensionNumber : Int32
  deriving DecidableEq

instance : Message ExtensionRequest where
  name := "ExtensionRequest"
  blank := ⟨"", 0⟩
  fields := [
    ⟨"containing_type", 1, _, .text, (·.containingType), fun m v => { m with containingType := v }⟩,
    ⟨"extension_number", 2, _, .int32, (·.extensionNumber),
      fun m v => { m with extensionNumber := v }⟩]

/-- What can be asked. -/
inductive Question where
  /-- The file with a name. -/
  | fileNamed (name : String)
  /-- The file that declares something. -/
  | fileDeclaring (symbol : String)
  /-- The file with an extension. -/
  | fileExtending (extension : ExtensionRequest)
  /-- The numbers of the extensions of a message. -/
  | extensionsOf (typeName : String)
  /-- The names of the services. -/
  | services (content : String)
  deriving DecidableEq

/-- One turn of a client. -/
structure Request where
  /-- The host that it thinks it talks to. -/
  host : String
  /-- What it asks, if anything. -/
  question : Option Question
  deriving DecidableEq

namespace Request

/-- The request with its question set where a value is given. -/
def asking {α : Type} (request : Request) (question : α → Question) : Option α → Request
  | some value => { request with question := some (question value) }
  | none => request

/-- The name of a file that is asked for. -/
def fileNamed? (request : Request) : Option String :=
  match request.question with
  | some (.fileNamed name) => some name
  | _ => none

/-- The symbol that is asked for. -/
def fileDeclaring? (request : Request) : Option String :=
  match request.question with
  | some (.fileDeclaring symbol) => some symbol
  | _ => none

/-- The extension that is asked for. -/
def fileExtending? (request : Request) : Option ExtensionRequest :=
  match request.question with
  | some (.fileExtending extension) => some extension
  | _ => none

/-- The message whose extensions are asked for. -/
def extensionsOf? (request : Request) : Option String :=
  match request.question with
  | some (.extensionsOf typeName) => some typeName
  | _ => none

/-- What comes with a question for the services. -/
def services? (request : Request) : Option String :=
  match request.question with
  | some (.services content) => some content
  | _ => none

end Request

instance : Message Request where
  name := "ServerReflectionRequest"
  blank := ⟨"", none⟩
  fields := [
    ⟨"host", 1, _, .text, (·.host), fun m v => { m with host := v }⟩,
    ⟨"file_by_filename", 3, _, chosenText, Request.fileNamed?, fun m v => m.asking .fileNamed v⟩,
    ⟨"file_containing_symbol", 4, _, chosenText, Request.fileDeclaring?,
      fun m v => m.asking .fileDeclaring v⟩,
    ⟨"file_containing_extension", 5, _, .nested, Request.fileExtending?,
      fun m v => m.asking .fileExtending v⟩,
    ⟨"all_extension_numbers_of_type", 6, _, chosenText, Request.extensionsOf?,
      fun m v => m.asking .extensionsOf v⟩,
    ⟨"list_services", 7, _, chosenText, Request.services?, fun m v => m.asking .services v⟩]

/-- What can be answered. -/
inductive Answer where
  /-- The description of a file. -/
  | file (description : Bytes)
  /-- That a message has no extensions. -/
  | noExtensions
  /-- The names of the services. -/
  | services (names : List String)
  deriving DecidableEq

/-- The octets of an answer. -/
def Answer.encode : Answer → Bytes
  | file description => Shape.writeContent 4 (Shape.writeContent 1 description)
  | noExtensions => Shape.writeContent 5 []
  | services names => Shape.writeContent 6 (names.flatMap fun name =>
      Shape.writeContent 1 (Shape.writeContent 1 (Bytes.ofText name)))

/-- The octets of a turn of the server: the host, the request, and the answer. -/
def encodeTurn (request : Request) (answer : Answer) : Bytes :=
  Shape.text.write .byKey 1 request.host
    ++ Shape.writeContent 2 (Message.encode request) ++ answer.encode

/-- The names that a message declares inside a scope: its own, those of its fields and choices,
and those of its map entries and their fields. -/
def messageSymbols (scope : String) (message : MessageInfo) : List String :=
  let name := scope ++ "." ++ message.name
  let entrySymbols (entry : EntryInfo) : List String :=
    let inner := name ++ "." ++ entry.name
    inner :: entry.fields.map fun field => inner ++ "." ++ field.name
  name :: message.entries.flatMap entrySymbols
    ++ message.fields.map (fun field => name ++ "." ++ field.name)
    ++ message.choices.map fun choice => name ++ "." ++ choice

/-- The full name of a service. -/
def serviceName (file : FileInfo) (service : ServiceInfo) : String :=
  file.package ++ "." ++ service.name

/-- The names that a file declares. -/
def symbols (file : FileInfo) : List String :=
  file.messages.flatMap (messageSymbols file.package)
    ++ file.services.flatMap fun service =>
      let name := serviceName file service
      name :: service.methods.map fun method => name ++ "." ++ method.name

/-- The names of all services of files. -/
def serviceNames (files : List FileInfo) : List String :=
  files.flatMap fun file => file.services.map (serviceName file)

/-- The status of something that is not there. -/
def notFound (kind name : String) : Status :=
  .plain .notFound (kind ++ " '" ++ name ++ "' not found")

/-- The answer to a question about files, if it has one. -/
def answer (files : List FileInfo) : Option Question → Except Status Answer
  | none => .error (.plain .invalidArgument "invalid MessageRequest")
  | some (.fileNamed name) =>
    match files.find? fun file => file.name = name with
    | some file => .ok (.file file.encode)
    | none => .error (notFound "file" name)
  | some (.fileDeclaring symbol) =>
    match files.find? fun file => (symbols file).contains symbol with
    | some file => .ok (.file file.encode)
    | none => .error (notFound "symbol" symbol)
  | some (.fileExtending _) => .error (.plain .notFound "extensions are not supported")
  | some (.extensionsOf _) => .ok .noExtensions
  | some (.services _) => .ok (.services (serviceNames files))

/-- Octets that a turn of a client may take. -/
def turnLimit : Nat := 4 * 1024 * 1024

/-- The turns of the server for the frames of a client, and the status at the end; `fuel` is
more than there can be frames. -/
def converse (files : List FileInfo) : (fuel : Nat) → Bytes → List Bytes × Status
  | 0, _ => ([], .success)
  | fuel + 1, bytes =>
    match takeMessage Request turnLimit bytes with
    | .error _ => ([], .success)
    | .ok none => ([], .success)
    | .ok (some (request, rest)) =>
      match answer files request.question with
      | .error status => ([], status)
      | .ok answer =>
        let (turns, status) := converse files fuel rest
        (encodeTurn request answer :: turns, status)

/-- The reply to the frames of a client. -/
def reply (files : List FileInfo) (bytes : Bytes) : Reply :=
  let (turns, status) := converse files (bytes.length + 1) bytes
  .streamed turns status

end MediaGateway.Grpc.Reflection
