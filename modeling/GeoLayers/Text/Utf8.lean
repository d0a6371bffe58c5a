/-!
UTF-8. Bytes are cut into characters and ill-formed sequences; an ill-formed sequence is as long as
it could still have begun a character.
-/

namespace GeoLayers.Text

/-- For the first byte of a character: its share of the code point, and the ranges that the bytes
after it have to lie in. -/
def utf8Start? (b : Nat) : Option (Nat × List (Nat × Nat)) :=
  let any := (0x80, 0xBF)
  if b < 0x80 then some (b, [])
  else if b < 0xC2 then none
  else if b < 0xE0 then some (b - 0xC0, [any])
  else if b = 0xE0 then some (0, [(0xA0, 0xBF), any])
  else if b = 0xED then some (0xD, [(0x80, 0x9F), any])
  else if b < 0xF0 then some (b - 0xE0, [any, any])
  else if b = 0xF0 then some (0, [(0x90, 0xBF), any, any])
  else if b < 0xF4 then some (b - 0xF0, [any, any, any])
  else if b = 0xF4 then some (4, [(0x80, 0x8F), any, any])
  else none

/-- Reads the bytes after the first one. Gives the code point, if all are there, and the rest. -/
def utf8Rest (point : Nat) : List (Nat × Nat) → List UInt8 → Option Nat × List UInt8
  | [], bytes => (some point, bytes)
  | _ :: _, [] => (none, [])
  | (low, high) :: ranges, b :: bytes =>
    if low ≤ b.toNat ∧ b.toNat ≤ high then utf8Rest (point * 64 + b.toNat % 64) ranges bytes
    else (none, b :: bytes)

theorem length_utf8Rest_le (point : Nat) (ranges : List (Nat × Nat)) (bytes : List UInt8) :
    (utf8Rest point ranges bytes).2.length ≤ bytes.length := by
  induction ranges generalizing point bytes with
  | nil => simp [utf8Rest]
  | cons range ranges ih =>
    cases bytes with
    | nil => simp [utf8Rest]
    | cons b bytes =>
      simp only [utf8Rest]
      split
      · exact Nat.le_succ_of_le (ih _ bytes)
      · exact Nat.le_refl _

/-- The characters of some bytes, and nothing for each ill-formed sequence. -/
def utf8Chars (bytes : List UInt8) : List (Option Char) :=
  match bytes with
  | [] => []
  | b :: bytes =>
    match utf8Start? b.toNat with
    | none => none :: utf8Chars bytes
    | some (point, ranges) =>
      (utf8Rest point ranges bytes).1.map Char.ofNat :: utf8Chars (utf8Rest point ranges bytes).2
termination_by bytes.length
decreasing_by
  · simp
  · exact Nat.lt_succ_of_le (length_utf8Rest_le point ranges bytes)

/-- The text of some bytes, if they are well-formed. -/
def ofUtf8? (bytes : List UInt8) : Option String :=
  ((utf8Chars bytes).mapM id).map String.ofList

/-- The text of some bytes, with the replacement character for each ill-formed sequence. -/
def ofUtf8Lossy (bytes : List UInt8) : String :=
  String.ofList ((utf8Chars bytes).map fun c => c.getD '\uFFFD')

/-- The bytes of a text. -/
def toUtf8 (s : String) : List UInt8 := s.toUTF8.toList

end GeoLayers.Text
