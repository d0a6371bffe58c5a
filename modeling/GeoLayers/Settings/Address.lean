import GeoLayers.Number.Numeral
import GeoLayers.Settings.Basic

/-!
Addresses to listen at, as texts. An address of version 4 is four numbers with periods, one of
version 6 eight groups of hexadecimal digits with colons, of which a run of zeros may be left out;
before a port the latter stands in square brackets.
-/

namespace GeoLayers

namespace HostAddress

/-- The value of a digit in a base up to sixteen. -/
def digit? (base : Nat) (c : Char) : Option Nat :=
  let value :=
    if c.isDigit then c.toNat - '0'.toNat
    else if 'a' ≤ c ∧ c ≤ 'f' then c.toNat - 'a'.toNat + 10
    else if 'A' ≤ c ∧ c ≤ 'F' then c.toNat - 'A'.toNat + 10
    else 16
  if value < base then some value else none

/-- Reads digits: at least one, at most as many as are allowed, for a number up to `high`. -/
def readNumber (base : Nat) (digits : Option Nat) (high : Nat) (cs : List Char) :
    Option (Nat × List Char) :=
  let taken := cs.takeWhile fun c => (digit? base c).isSome
  let value := taken.foldl (fun n c => n * base + (digit? base c).getD 0) 0
  if taken.isEmpty || digits.any (· < taken.length) || high < value then none
  else some (value, cs.dropWhile fun c => (digit? base c).isSome)

/-- Reads one of the four numbers. It has no zeros in front. -/
def readOctet (cs : List Char) : Option (Nat × List Char) :=
  match cs with
  | '0' :: c :: _ => if (digit? 10 c).isSome then none else readNumber 10 (some 3) 255 cs
  | _ => readNumber 10 (some 3) 255 cs

/-- Reads a character. -/
def readChar (c : Char) : List Char → Option (List Char)
  | [] => none
  | first :: cs => if first = c then some cs else none

/-- Reads four numbers. -/
def readV4 (cs : List Char) : Option ((Nat × Nat × Nat × Nat) × List Char) := do
  let (a, cs) ← readOctet cs
  let (b, cs) ← readOctet (← readChar '.' cs)
  let (c, cs) ← readOctet (← readChar '.' cs)
  let (d, cs) ← readOctet (← readChar '.' cs)
  some ((a, b, c, d), cs)

/-- Reads up to `limit` groups with colons between them. The last two may be written as an address
of version 4; the flag tells that they were. -/
def readGroups : (limit : Nat) → (first : Bool) → List Char → List Nat × Bool × List Char
  | 0, _, cs => ([], false, cs)
  | limit + 1, first, cs =>
    let start := if first then some cs else readChar ':' cs
    match (if limit = 0 then none else start.bind readV4) with
    | some ((a, b, c, d), rest) => ([a * 256 + b, c * 256 + d], true, rest)
    | none =>
      match start.bind (readNumber 16 (some 4) 0xFFFF) with
      | none => ([], false, cs)
      | some (group, rest) =>
        let (groups, ended, rest) := readGroups limit false rest
        (group :: groups, ended, rest)

/-- Reads eight groups, or fewer with two colons for the zeros that are left out. -/
def readV6 (cs : List Char) : Option (List Nat × List Char) :=
  let (head, ended, rest) := readGroups 8 true cs
  if head.length = 8 then some (head, rest)
  else if ended then none
  else match rest with
    | ':' :: ':' :: rest =>
      let (tail, _, rest) := readGroups (7 - head.length) true rest
      some (head ++ List.replicate (8 - head.length - tail.length) 0 ++ tail, rest)
    | _ => none

/-- What was read, if nothing is left. -/
def whole {α : Type} : Option (α × List Char) → Option α
  | some (value, []) => some value
  | _ => none

/-- An address without a port. -/
def ofText? (text : String) : Option HostAddress :=
  match whole (readV4 text.toList) with
  | some (a, b, c, d) => some (.v4 a b c d)
  | none => (whole (readV6 text.toList)).map (.v6 · 0)

/-- The first longest run of zeros among groups: where it begins and how long it is. -/
def zeroRun (groups : List Nat) : Nat × Nat :=
  (List.range groups.length).foldl (fun best start =>
    let length := ((groups.drop start).takeWhile (· == 0)).length
    if best.2 < length then (start, length) else best) (0, 0)

def hexText (n : Nat) : String := String.ofList (Nat.toDigits 16 n)

def groupsText (groups : List Nat) : String := ":".intercalate (groups.map hexText)

def v4Text (a b c d : Nat) : String := ".".intercalate ([a, b, c, d].map toString)

/-- An address of version 6. Of several zeros the longest run is left out; an address that stands
for one of version 4 shows it. -/
def v6Text (groups : List Nat) : String :=
  match groups with
  | [0, 0, 0, 0, 0, 0xFFFF, high, low] =>
    "::ffff:" ++ v4Text (high / 256) (high % 256) (low / 256) (low % 256)
  | _ =>
    let (start, length) := zeroRun groups
    if length < 2 then groupsText groups
    else groupsText (groups.take start) ++ "::" ++ groupsText (groups.drop (start + length))

def text : HostAddress → String
  | .v4 a b c d => v4Text a b c d
  | .v6 groups 0 => v6Text groups
  | .v6 groups scope => v6Text groups ++ "%" ++ toString scope

end HostAddress

namespace SocketAddress

/-- The highest port. -/
def highestPort : Nat := 65535

open HostAddress in
/-- Reads a colon and a port. -/
def readPort (cs : List Char) : Option (Nat × List Char) := do
  readNumber 10 none highestPort (← readChar ':' cs)

open HostAddress in
def readV4 (cs : List Char) : Option (SocketAddress × List Char) := do
  let ((a, b, c, d), cs) ← HostAddress.readV4 cs
  let (port, cs) ← readPort cs
  some (⟨.v4 a b c d, port⟩, cs)

open HostAddress in
def readV6 (cs : List Char) : Option (SocketAddress × List Char) := do
  let (groups, cs) ← HostAddress.readV6 (← readChar '[' cs)
  let (scope, cs) := ((readChar '%' cs).bind (readNumber 10 none 0xFFFFFFFF)).getD (0, cs)
  let (port, cs) ← readPort (← readChar ']' cs)
  some (⟨.v6 groups scope, port⟩, cs)

/-- An address with a port. -/
def ofText? (text : String) : Option SocketAddress :=
  HostAddress.whole (readV4 text.toList) <|> HostAddress.whole (readV6 text.toList)

def text (address : SocketAddress) : String :=
  match address.host with
  | .v4 .. => address.host.text ++ ":" ++ toString address.port
  | .v6 .. => "[" ++ address.host.text ++ "]:" ++ toString address.port

/-- A number in the address of a host: decimal, octal after a zero, or hexadecimal after `0x`. -/
def hostNumber? (part : String) : Option Nat :=
  let read (base : Nat) (cs : List Char) :=
    HostAddress.whole (HostAddress.readNumber base none 0xFFFFFFFF cs)
  match part.toList with
  | '0' :: 'x' :: cs | '0' :: 'X' :: cs => read 16 cs
  | '0' :: c :: cs => read 8 (c :: cs)
  | cs => read 10 cs

/-- An address of version 4 in one to four numbers. The last one fills the bytes that are left. -/
def hostOfNumbers? (numbers : List Nat) : Option HostAddress :=
  match numbers.reverse with
  | [] => none
  | last :: leading =>
    if 3 < leading.length || leading.any (255 < ·) then none
    else if Nat.pow 256 (4 - leading.length) ≤ last then none
    else
      let value := leading.reverse.foldl (fun n byte => n * 256 + byte) 0 *
        Nat.pow 256 (4 - leading.length) + last
      some (.v4 (value / 0x1000000) (value / 0x10000 % 256) (value / 256 % 256) (value % 256))

/-- The address of a host. Of names only that of the machine itself is known. -/
def host? (name : String) : Option HostAddress :=
  if name = "localhost" then some (.v4 127 0 0 1)
  else
    (((Text.splitAt '.' name).mapM hostNumber?).bind hostOfNumbers?) <|>
      (HostAddress.whole (HostAddress.readV6 name.toList)).map (.v6 · 0)

/-- Cuts a text at its last colon. -/
def cutPort? (text : String) : Option (String × String) :=
  match Text.cutFirst ':' text.toList.reverse with
  | some (port, host) => some (String.ofList host.reverse, String.ofList port.reverse)
  | none => none

/-- The address that a text names: an address with a port, or a host and a port after the last
colon. -/
def resolve? (text : String) : Option SocketAddress :=
  ofText? text <|> do
    let (host, port) ← cutPort? text
    let port ← Number.word? 16 port
    let host ← host? host
    some ⟨host, port.toNat⟩

end SocketAddress

end GeoLayers
