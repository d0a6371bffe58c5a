/-!
The outer shape of certificates and private keys, in the distinguished encoding of ASN.1: every item
is a tag, a length and a content. What the items say is not looked at.
-/

namespace GeoLayers.Connection

namespace Der

/-- The tags of items. -/
def integerTag : UInt8 := 0x02

def bitsTag : UInt8 := 0x03

def sequenceTag : UInt8 := 0x30

/-- The tag of the version of a certificate. -/
def versionTag : UInt8 := 0xA0

/-- The tag of the extensions of a certificate. -/
def extensionsTag : UInt8 := 0xA3

/-- Reads a length. It has the shortest form and takes at most two bytes after the first. -/
def readLength : List UInt8 → Option (Nat × List UInt8)
  | [] => none
  | first :: bytes =>
    if first < 0x80 then some (first.toNat, bytes)
    else match first, bytes with
      | 0x81, a :: bytes => if a < 0x80 then none else some (a.toNat, bytes)
      | 0x82, a :: b :: bytes => if a = 0 then none else some (a.toNat * 256 + b.toNat, bytes)
      | _, _ => none

/-- Reads an item with a tag: its content and what follows. -/
def read (tag : UInt8) : List UInt8 → Option (List UInt8 × List UInt8)
  | [] => none
  | first :: bytes =>
    if first ≠ tag then none
    else do
      let (length, bytes) ← readLength bytes
      if bytes.length < length then none else some (bytes.take length, bytes.drop length)

/-- Reads an item that nothing follows. -/
def readOnly (tag : UInt8) (bytes : List UInt8) : Option (List UInt8) :=
  match read tag bytes with
  | some (content, []) => some content
  | _ => none

/-- Passes over items with some tags. -/
def skip : List UInt8 → List UInt8 → Option (List UInt8)
  | [], bytes => some bytes
  | tag :: tags, bytes => (read tag bytes).bind fun (_, rest) => skip tags rest

end Der

open Der

/-- Whether the body of a certificate has its parts: the version, unless it is the first, a serial
number, the algorithm of the signature, issuer, validity, subject and key, and perhaps
extensions. -/
def isCertificateBody (algorithm body : List UInt8) : Bool :=
  let parts (rest : List UInt8) : Option Bool := do
    let rest ← skip [integerTag] rest
    let (own, rest) ← read sequenceTag rest
    let rest ← skip [sequenceTag, sequenceTag, sequenceTag, sequenceTag] rest
    some (own == algorithm && (rest.isEmpty || (readOnly extensionsTag rest).isSome))
  match read versionTag body with
  | some (version, rest) => version == [integerTag, 1, 2] && (parts rest).getD false
  | none => (parts body).getD false

/-- Whether some bytes have the shape of a certificate: a body, an algorithm and a signature. -/
def isCertificate (bytes : List UInt8) : Bool :=
  let shaped : Option Bool := do
    let content ← readOnly sequenceTag bytes
    let (body, rest) ← read sequenceTag content
    let (algorithm, rest) ← read sequenceTag rest
    let _ ← readOnly bitsTag rest
    some (isCertificateBody algorithm body)
  shaped.getD false

/-- Whether some bytes have the shape of a private key: a version and what follows it. -/
def isPrivateKey (bytes : List UInt8) : Bool :=
  let shaped : Option Bool := do
    let content ← readOnly sequenceTag bytes
    let rest ← skip [integerTag] content
    some (!rest.isEmpty)
  shaped.getD false

end GeoLayers.Connection
