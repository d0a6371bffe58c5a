/-!
Blank characters. `isBlank` is the Unicode property `White_Space`; trimming and splitting into
words are defined from it, so that every place of the library that ignores surrounding blanks
ignores the same ones.
-/

namespace GeoLayers.Text

/-- The characters with the property `White_Space`. -/
def isBlank (c : Char) : Bool :=
  let n := c.toNat
  (9 ≤ n && n ≤ 13) || n == 32 || n == 0x85 || n == 0xA0 || n == 0x1680 ||
    (0x2000 ≤ n && n ≤ 0x200A) || n == 0x2028 || n == 0x2029 || n == 0x202F || n == 0x205F ||
    n == 0x3000

/-- Drops the blanks in front. -/
def trimStart (cs : List Char) : List Char := cs.dropWhile isBlank

/-- Drops the blanks at the end. -/
def trimEnd (cs : List Char) : List Char := (cs.reverse.dropWhile isBlank).reverse

/-- Drops the blanks on both sides. -/
def trimChars (cs : List Char) : List Char := trimEnd (trimStart cs)

/-- Drops the blanks on both sides of a text. -/
def trim (s : String) : String := String.ofList (trimChars s.toList)

/-- Whether a text has no character other than blanks. -/
def isBlankText (s : String) : Bool := s.toList.all isBlank

/-- Cuts a list at every character that satisfies `stop`; `n` such characters give `n + 1` parts. -/
def splitWhen (stop : Char → Bool) : List Char → List (List Char)
  | [] => [[]]
  | c :: rest =>
    if stop c then [] :: splitWhen stop rest
    else match splitWhen stop rest with
      | [] => [[c]]
      | part :: parts => (c :: part) :: parts

/-- The parts of a text between the occurrences of one character. -/
def splitAt (sep : Char) (s : String) : List String :=
  (splitWhen (· == sep) s.toList).map String.ofList

/-- The words of a text: its longest runs without blanks. -/
def words (s : String) : List String :=
  ((splitWhen isBlank s.toList).filter (!·.isEmpty)).map String.ofList

/-- Cuts a list at the first occurrence of a character, which belongs to neither part. -/
def cutFirst (sep : Char) : List Char → Option (List Char × List Char)
  | [] => none
  | c :: rest =>
    if c == sep then some ([], rest)
    else (cutFirst sep rest).map fun (before, after) => (c :: before, after)

/-- Cuts a text at the first occurrence of a character. -/
def cutAt (sep : Char) (s : String) : Option (String × String) :=
  (cutFirst sep s.toList).map fun (before, after) => (String.ofList before, String.ofList after)

/-- What follows a given beginning of a list. -/
def afterStart (start cs : List Char) : Option (List Char) :=
  match start, cs with
  | [], cs => some cs
  | _ :: _, [] => none
  | s :: start, c :: cs => if s == c then afterStart start cs else none

/-- What follows a given beginning of a text. -/
def stripStart (start s : String) : Option String :=
  (afterStart start.toList s.toList).map String.ofList

/-- What precedes a given end of a text. -/
def stripEnd (tail s : String) : Option String :=
  (afterStart tail.toList.reverse s.toList.reverse).map fun cs => String.ofList cs.reverse

/-- Whether `part` occurs in a list of characters. -/
def occursIn (part : List Char) : List Char → Bool
  | [] => part.isEmpty
  | c :: cs => (afterStart part (c :: cs)).isSome || occursIn part cs

/-- The ASCII letters of a text as small letters, all else as it is. -/
def asciiLower (s : String) : String := String.ofList (s.toList.map Char.toLower)

/-- The ASCII letters of a text as capitals, all else as it is. -/
def asciiUpper (s : String) : String := String.ofList (s.toList.map Char.toUpper)

theorem splitWhen_ne_nil (stop : Char → Bool) (cs : List Char) : splitWhen stop cs ≠ [] := by
  cases cs with
  | nil => simp [splitWhen]
  | cons c rest =>
      simp only [splitWhen]
      split
      · simp
      · split <;> simp

end GeoLayers.Text
