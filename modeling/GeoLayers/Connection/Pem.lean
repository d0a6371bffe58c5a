import GeoLayers.Text.Blank
import GeoLayers.Text.Utf8

/-!
Texts that hold binary sections between lines `-----BEGIN …-----` and `-----END …-----`.
What stands outside of sections is passed over, and so are sections of kinds that are not known.
Lines end with a line feed or a carriage return.
-/

namespace GeoLayers.Connection

namespace Base64

/-- The value of a character of the alphabet: letters, digits, plus and slash. -/
def value? (b : UInt8) : Option Nat :=
  let n := b.toNat
  if 65 ≤ n ∧ n ≤ 90 then some (n - 65)
  else if 97 ≤ n ∧ n ≤ 122 then some (n - 71)
  else if 48 ≤ n ∧ n ≤ 57 then some (n + 4)
  else if n = 43 then some 62
  else if n = 47 then some 63
  else none

/-- Characters that are passed over. -/
def isSpace (b : UInt8) : Bool := b = 32 || b = 9 || b = 10 || b = 13

/-- The bytes of some values. Four values are three bytes; of two or three values that are left the
last bits are dropped. -/
def bytes? : List Nat → Option (List UInt8)
  | [] => some []
  | [_] => none
  | [a, b] => some [UInt8.ofNat (a * 4 + b / 16)]
  | [a, b, c] => some [UInt8.ofNat (a * 4 + b / 16), UInt8.ofNat (b % 16 * 16 + c / 4)]
  | a :: b :: c :: d :: rest =>
    (bytes? rest).map fun bytes =>
      UInt8.ofNat (a * 4 + b / 16) :: UInt8.ofNat (b % 16 * 16 + c / 4) ::
        UInt8.ofNat (c % 4 * 64 + d) :: bytes

/-- Decodes a text. Padding is either left out or fills the last group of four. -/
def decode? (text : List UInt8) : Option (List UInt8) :=
  let text := text.filter fun b => !isSpace b
  let body := text.reverse.dropWhile (· == 61)
  let padding := text.length - body.length
  if padding = 0 ∨ (padding ≤ 2 ∧ text.length % 4 = 0) then
    (body.reverse.mapM value?).bind bytes?
  else none

end Base64

/-- The kinds of sections that are known. -/
inductive SectionKind where
  | certificate
  | privateKey
  | other
  deriving DecidableEq, Repr, Inhabited

/-- The kind of a section by its label. -/
def SectionKind.ofLabel? (label : String) : Option SectionKind :=
  match label with
  | "CERTIFICATE" => some .certificate
  | "PRIVATE KEY" | "RSA PRIVATE KEY" | "EC PRIVATE KEY" => some .privateKey
  | "PUBLIC KEY" | "X509 CRL" | "CERTIFICATE REQUEST" | "ECHCONFIG" => some .other
  | _ => none

/-- A section: its kind and its bytes. -/
structure Section where
  kind : SectionKind
  content : List UInt8
  deriving Repr, Inhabited

namespace Pem

/-- The label of a line that begins a section; nothing inside if the line does not end as it has
to. -/
def begin? (line : List Char) : Option (Option (List Char)) :=
  match Text.afterStart "-----BEGIN ".toList line with
  | none => none
  | some _ =>
    let tail := line.reverse.takeWhile fun c => c == '-' || c == ' '
    if tail.count '-' = 5 then
      let blanks := (tail.reverse.takeWhile (· == ' ')).length
      some (some ((line.take (line.length - tail.length + blanks)).drop 11))
    else some none

/-- Whether a line ends the section with a label. -/
def ends (label line : List Char) : Bool :=
  (Text.afterStart ("-----END ".toList ++ label ++ "-----".toList) line).isSome

/-- The sections of a text. Reading stops at a section that does not end or cannot be decoded. -/
structure Sections where
  found : List Section := []
  /-- Whether the text was read to its end. -/
  complete : Bool
  deriving Repr, Inhabited

/-- Reads sections line by line. Within a section `label?` is its label; `content` holds the lines
that were read, the latest first. -/
def sectionsFrom (label? : Option (List Char)) (content : List (List Char)) :
    List (List Char) → Sections
  | [] => { complete := label?.isNone }
  | line :: lines =>
    match begin? line with
    | some none => { complete := false }
    | some (some label) => sectionsFrom (some label) content lines
    | none =>
      match label? with
      | none => sectionsFrom none [] lines
      | some label =>
        if ends label line then
          match SectionKind.ofLabel? (String.ofList label) with
          | none => sectionsFrom none [] lines
          | some kind =>
            match Base64.decode? (Text.toUtf8 (String.ofList content.reverse.flatten)) with
            | none => { complete := false }
            | some bytes =>
              let rest := sectionsFrom none [] lines
              { rest with found := ⟨kind, bytes⟩ :: rest.found }
        else sectionsFrom (some label) (line :: content) lines

/-- The sections of a text. -/
def sections (text : String) : Sections :=
  sectionsFrom none [] (Text.splitWhen (fun c => c == '\n' || c == '\r') text.toList)

end Pem

end GeoLayers.Connection
