import MediaGateway.Protobuf.Wire

/-!
# Descriptions of messages

A description names the messages of a file, their fields and the calls of its
services, and has octets of its own, so that a client can be told what a server
speaks. Of the standard description only the parts that a proto3 file without
enumerations and extensions fills in are here.
-/

namespace MediaGateway.Protobuf.Descriptor

/-- How often a field occurs. -/
inductive Label where
  /-- At most once. -/
  | optional
  /-- Any number of times. -/
  | repeated
  deriving DecidableEq, Repr

/-- The number of a label. -/
def Label.number : Label → Nat
  | optional => 1
  | repeated => 3

/-- The standard name of a label. -/
def Label.name : Label → String
  | optional => "LABEL_OPTIONAL"
  | repeated => "LABEL_REPEATED"

/-- The type of a field's values. -/
inductive FieldType where
  /-- A signed integer of 64 bits. -/
  | int64
  /-- A signed integer of 32 bits. -/
  | int32
  /-- A truth value. -/
  | bool
  /-- A text. -/
  | string
  /-- A nested message. -/
  | message
  /-- Octets. -/
  | bytes
  deriving DecidableEq, Repr

/-- The number of a field type. -/
def FieldType.number : FieldType → Nat
  | int64 => 3
  | int32 => 5
  | bool => 8
  | string => 9
  | message => 11
  | bytes => 12

/-- The standard name of a field type. -/
def FieldType.name : FieldType → String
  | int64 => "TYPE_INT64"
  | int32 => "TYPE_INT32"
  | bool => "TYPE_BOOL"
  | string => "TYPE_STRING"
  | message => "TYPE_MESSAGE"
  | bytes => "TYPE_BYTES"

/-- The description of a field. -/
structure FieldInfo where
  /-- Its name. -/
  name : String
  /-- Its number. -/
  number : Nat
  /-- How often it occurs. -/
  label : Label
  /-- The type of its values. -/
  type : FieldType
  /-- The full name of the nested message, after a dot. -/
  typeName : Option String
  /-- Its place among the choices of the message, if it is one of several alternatives. -/
  choice : Option Nat
  /-- Its name in JSON. -/
  jsonName : String
  deriving DecidableEq, Repr

/-- The description of a map entry: the message that stands for one entry of a map. -/
structure EntryInfo where
  /-- Its name. -/
  name : String
  /-- The fields of key and value. -/
  fields : List FieldInfo
  deriving DecidableEq, Repr

/-- The description of a message. -/
structure MessageInfo where
  /-- Its name. -/
  name : String
  /-- Its fields. -/
  fields : List FieldInfo
  /-- The entries of its maps. -/
  entries : List EntryInfo
  /-- The names of its choices between alternative fields. -/
  choices : List String
  deriving DecidableEq, Repr

/-- The description of a call. -/
structure MethodInfo where
  /-- Its name. -/
  name : String
  /-- The full name of its request, after a dot. -/
  inputType : String
  /-- The full name of its response, after a dot. -/
  outputType : String
  /-- Whether there may be any number of requests and of responses. -/
  streaming : Bool
  deriving DecidableEq, Repr

/-- The description of a service. -/
structure ServiceInfo where
  /-- Its name. -/
  name : String
  /-- Its calls. -/
  methods : List MethodInfo
  deriving DecidableEq, Repr

/-- What a file says about the code made from it, by field number: texts and marks. -/
inductive OptionInfo where
  /-- A text. -/
  | text (number : Nat) (content : String)
  /-- A mark that is set. -/
  | mark (number : Nat)
  deriving DecidableEq, Repr

/-- The description of a file. -/
structure FileInfo where
  /-- Its name. -/
  name : String
  /-- The package of its declarations. -/
  package : String
  /-- Its messages. -/
  messages : List MessageInfo
  /-- Its services. -/
  services : List ServiceInfo
  /-- What it says about the code made from it, in the order of the numbers. -/
  options : List OptionInfo
  /-- The language version it is written in. -/
  edition : String
  deriving DecidableEq, Repr

/-- A text under a field number; here an empty text is written too. -/
def writeText (number : Nat) (text : String) : Bytes :=
  writeKey number .lengthDelimited ++ writeDelimited (Bytes.ofText text)

/-- A nested description under a field number. -/
def writePart (number : Nat) (part : Bytes) : Bytes :=
  writeKey number .lengthDelimited ++ writeDelimited part

/-- A number under a field number. -/
def writeNumber (number value : Nat) : Bytes := writeKey number .varint ++ writeVarint value

/-- The octets of a field's description. -/
def FieldInfo.encode (field : FieldInfo) : Bytes :=
  writeText 1 field.name ++ writeNumber 3 field.number ++ writeNumber 4 field.label.number
    ++ writeNumber 5 field.type.number
    ++ (match field.typeName with
      | some typeName => writeText 6 typeName
      | none => [])
    ++ (match field.choice with
      | some place => writeNumber 9 place
      | none => [])
    ++ writeText 10 field.jsonName

/-- The octets of a map entry's description, which carries the mark of a map entry. -/
def EntryInfo.encode (entry : EntryInfo) : Bytes :=
  writeText 1 entry.name ++ entry.fields.flatMap (fun field => writePart 2 field.encode)
    ++ writePart 7 (writeNumber 7 1)

/-- The octets of a message's description. -/
def MessageInfo.encode (message : MessageInfo) : Bytes :=
  writeText 1 message.name ++ message.fields.flatMap (fun field => writePart 2 field.encode)
    ++ message.entries.flatMap (fun entry => writePart 3 entry.encode)
    ++ message.choices.flatMap (fun choice => writePart 8 (writeText 1 choice))

/-- The octets of a call's description. -/
def MethodInfo.encode (method : MethodInfo) : Bytes :=
  writeText 1 method.name ++ writeText 2 method.inputType ++ writeText 3 method.outputType
    ++ (if method.streaming then writeNumber 5 1 ++ writeNumber 6 1 else [])

/-- The octets of a service's description. -/
def ServiceInfo.encode (service : ServiceInfo) : Bytes :=
  writeText 1 service.name ++ service.methods.flatMap fun method => writePart 2 method.encode

/-- The octets of something said about code. -/
def OptionInfo.encode : OptionInfo → Bytes
  | text number content => writeText number content
  | mark number => writeNumber number 1

/-- The octets of a file's description. -/
def FileInfo.encode (file : FileInfo) : Bytes :=
  writeText 1 file.name ++ writeText 2 file.package
    ++ file.messages.flatMap (fun message => writePart 4 message.encode)
    ++ file.services.flatMap (fun service => writePart 6 service.encode)
    ++ (if file.options = [] then [] else writePart 8 (file.options.flatMap OptionInfo.encode))
    ++ writeText 12 file.edition

/-- The octets of a set of files. -/
def encodeSet (files : List FileInfo) : Bytes :=
  files.flatMap fun file => writePart 1 file.encode

/-- The full name of a declaration, with the dot in front that marks it as full. -/
def fullName (package name : String) : String := "." ++ package ++ "." ++ name

/-- Drops underscores and writes the letter after each in upper case. -/
def joinWords : (raise : Bool) → List Char → List Char
  | _, [] => []
  | raise, char :: rest =>
    if char = '_' then joinWords true rest
    else (if raise then char.toUpper else char) :: joinWords false rest

/-- The JSON name of a field: its words joined, each after the first with a capital. -/
def jsonName (name : String) : String := String.ofList (joinWords false name.toList)

/-- The name of the entry message of a map field: the words with capitals, and `Entry`. -/
def entryName (name : String) : String := jsonName ("_" ++ name) ++ "Entry"

end MediaGateway.Protobuf.Descriptor
