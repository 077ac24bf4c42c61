import MediaGateway.Protobuf.Descriptor

/-!
# The description of reflection

Reflection is a service like any other, so the file that declares it can be asked
for too.
-/

namespace MediaGateway.Grpc.Reflection.Description

open Protobuf.Descriptor

/-- The package of the service. -/
def package : String := "grpc.reflection.v1"

/-- A field of a plain type. -/
def plain (name : String) (number : Nat) (label : Label) (type : FieldType) : FieldInfo :=
  ⟨name, number, label, type, none, none, jsonName name⟩

/-- A field that holds messages. -/
def part (name : String) (number : Nat) (label : Label) (typeName : String) : FieldInfo :=
  ⟨name, number, label, .message, some (fullName package typeName), none, jsonName name⟩

/-- A field that is one of several alternatives. -/
def alternative (field : FieldInfo) : FieldInfo := { field with choice := some 0 }

/-- A message without alternatives. -/
def message (name : String) (fields : List FieldInfo) : MessageInfo := ⟨name, fields, [], []⟩

/-- The messages, in the order of their declaration. -/
def messages : List MessageInfo := [
  ⟨"ServerReflectionRequest", [
    plain "host" 1 .optional .string,
    alternative (plain "file_by_filename" 3 .optional .string),
    alternative (plain "file_containing_symbol" 4 .optional .string),
    alternative (part "file_containing_extension" 5 .optional "ExtensionRequest"),
    alternative (plain "all_extension_numbers_of_type" 6 .optional .string),
    alternative (plain "list_services" 7 .optional .string)], [], ["message_request"]⟩,
  message "ExtensionRequest" [plain "containing_type" 1 .optional .string,
    plain "extension_number" 2 .optional .int32],
  ⟨"ServerReflectionResponse", [
    plain "valid_host" 1 .optional .string,
    part "original_request" 2 .optional "ServerReflectionRequest",
    alternative (part "file_descriptor_response" 4 .optional "FileDescriptorResponse"),
    alternative (part "all_extension_numbers_response" 5 .optional "ExtensionNumberResponse"),
    alternative (part "list_services_response" 6 .optional "ListServiceResponse"),
    alternative (part "error_response" 7 .optional "ErrorResponse")], [], ["message_response"]⟩,
  message "FileDescriptorResponse" [plain "file_descriptor_proto" 1 .repeated .bytes],
  message "ExtensionNumberResponse" [plain "base_type_name" 1 .optional .string,
    plain "extension_number" 2 .repeated .int32],
  message "ListServiceResponse" [part "service" 1 .repeated "ServiceResponse"],
  message "ServiceResponse" [plain "name" 1 .optional .string],
  message "ErrorResponse" [plain "error_code" 1 .optional .int32,
    plain "error_message" 2 .optional .string]]

/-- The name of the one call. -/
def methodName : String := "ServerReflectionInfo"

/-- The service. -/
def service : ServiceInfo := ⟨"ServerReflection", [⟨methodName,
  fullName package "ServerReflectionRequest", fullName package "ServerReflectionResponse", true⟩]⟩

/-- The file that declares everything. -/
def file : FileInfo where
  name := "reflection_v1.proto"
  package := package
  messages := messages
  services := [service]
  options := [.text 1 "io.grpc.reflection.v1", .text 8 "ServerReflectionProto", .mark 10,
    .text 11 "google.golang.org/grpc/reflection/grpc_reflection_v1"]
  edition := "proto3"

/-- The path under which the one call is reached. -/
def path : String := "/" ++ package ++ "." ++ service.name ++ "/" ++ methodName

end MediaGateway.Grpc.Reflection.Description
