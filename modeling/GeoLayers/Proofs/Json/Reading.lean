import GeoLayers.Proofs.Json.Numerals
import GeoLayers.Proofs.Json.Parts
import GeoLayers.Proofs.Json.Quoted

/-!
Values read back. The text of a value is read up to its end as the value with every floating-point
number as it reads back, if the value is not nested too deep. The fuel that the reader starts with is
twice the length of the text: each character costs one at most for the value that starts there and one
for the item.
-/

namespace GeoLayers.Json

namespace Reader

variable {rest : List Char}

/-- What stands behind a value. -/
def EndsValue (rest : List Char) : Prop := ∀ c ∈ rest.head?, c = ',' ∨ c = ']' ∨ c = '}'

theorem EndsValue.nil : EndsValue [] := fun _ hc => nomatch hc

theorem IsFractional.head {cs : List Char} (h : IsFractional cs) :
    ∃ c tail, cs = c :: tail ∧ Number.isDigit c = true := by
  have hwhole : ∃ whole tail, cs = whole ++ tail ∧ IsWhole whole := by
    cases h with
    | point hwhole => exact ⟨_, _, rfl, hwhole⟩
    | exponent hwhole => exact ⟨_, _, rfl, hwhole⟩
  obtain ⟨whole, tail, rfl, hwhole⟩ := hwhole
  obtain ⟨c, cs, rfl⟩ := List.exists_cons_of_ne_nil hwhole.digits.1
  exact ⟨c, cs ++ tail, rfl, hwhole.digits.2 c List.mem_cons_self⟩

end Reader

namespace Reader

variable {rest : List Char}

/-- Texts with commas between them. -/
def commas (texts : List (List Char)) : List Char := [','].intercalate texts

theorem commas_singleton (text : List Char) : commas [text] = text := List.intercalate_singleton

theorem commas_cons_cons (text next : List Char) (texts : List (List Char)) :
    commas (text :: next :: texts) = text ++ ',' :: commas (next :: texts) := by
  rw [commas, List.intercalate_cons_cons, List.append_assoc]
  rfl

theorem commas_cons (text : List Char) (texts : List (List Char)) :
    ∃ more, commas (text :: texts) = text ++ more := by
  cases texts with
  | nil => exact ⟨[], by rw [commas_singleton, List.append_nil]⟩
  | cons next texts => exact ⟨_, commas_cons_cons text next texts⟩

/-- A text in front of which nothing is skipped and that does not close an array. -/
def StartsItem (cs : List Char) : Prop := ∃ c tail, cs = c :: tail ∧ isSpace c = false ∧ c ≠ ']'

theorem StartsItem.append {cs : List Char} (h : StartsItem cs) (ds : List Char) :
    StartsItem (cs ++ ds) := by
  obtain ⟨c, tail, rfl, hc⟩ := h
  exact ⟨c, tail ++ ds, rfl, hc⟩

theorem StartsItem.commas {text : List Char} (h : StartsItem text) (texts : List (List Char)) :
    StartsItem (commas (text :: texts)) := by
  obtain ⟨more, hmore⟩ := commas_cons text texts
  rw [hmore]
  exact h.append more

end Reader

end GeoLayers.Json
