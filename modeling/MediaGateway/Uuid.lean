import MediaGateway.Bytes

/-!
# Random identifiers

A version 4 identifier is sixteen random octets with the version in the seventh
and the variant in the ninth, written in five hyphenated groups.
-/

namespace MediaGateway.Uuid

/-- The octets of an identifier made from random ones: the high half of octet 6 becomes the
version, the two high bits of octet 8 the variant. -/
def stamp (random : Bytes) : Bytes :=
  random.zipIdx.map fun (octet, place) =>
    if place = 6 then (octet &&& 0x0F) ||| 0x40
    else if place = 8 then (octet &&& 0x3F) ||| 0x80
    else octet

/-- Five groups of lower-case digits: 8, 4, 4, 4 and 12 of them. -/
def grouped (bytes : Bytes) : String :=
  let part (start count : Nat) : String := Bytes.toHex ((bytes.drop start).take count)
  String.intercalate "-" [part 0 4, part 4 2, part 6 2, part 8 2, part 10 6]

/-- The text of the version 4 identifier made from sixteen random octets. -/
def ofRandom (random : Bytes) : String := grouped (stamp random)

end MediaGateway.Uuid
