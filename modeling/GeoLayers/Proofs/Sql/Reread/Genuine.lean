import GeoLayers.Proofs.Sql.Reread.Marks

/-!
Where tokens that are genuine come from: the scanner gives a keyword to words without quotes only,
and so do the pieces that a condition is printed from.
-/

namespace GeoLayers.Sql

open Text

/-- What stays what it is where something comes after it, can come out of the scanner. -/
theorem Token.isGenuine_of_fits {t : Token} {next : Option Char} (h : t.fits next = true) :
    t.isGenuine = true := by
  cases t with
  | word w =>
      cases hw : w.quoted with
      | true =>
          simp only [Token.fits, hw, if_true, Bool.and_eq_true] at h
          simpa [Token.isGenuine, hw] using h.1
      | false => simp [Token.isGenuine, hw]
  | _ => rfl

theorem isGenuine_of_fitAll {next : Option Char} {ps : List Piece} (h : fitAll next ps = true) :
    ∀ p ∈ ps, p.token.isGenuine = true := by
  induction ps with
  | nil => simp
  | cons p ps ih =>
      rw [fitAll, Bool.and_eq_true] at h
      exact List.forall_mem_cons.2 ⟨Token.isGenuine_of_fits h.1, ih h.2⟩

namespace Scan

/-- Whether a step of the scanner finds a token that is genuine, if it finds one. -/
def Step.isGenuine : Step → Bool
  | .ok (some t, _) => t.isGenuine
  | _ => true

theorem isGenuine_text (kind : Quoted) (found : Option (List Char × List Char)) :
    Step.isGenuine (text kind found) = true := by
  cases found <;> rfl

theorem isGenuine_extend (start : String) (known : Option Symbol) (rest : List Char) :
    Step.isGenuine (extend start known rest) = true := by
  unfold extend
  split <;> rfl

theorem isGenuine_dollar (cs : List Char) : Step.isGenuine (dollar cs) = true := by
  unfold dollar
  split
  · split <;> rfl
  · dsimp only
    split
    · split <;> rfl
    · rfl

theorem isGenuine_number (cs : List Char) : Step.isGenuine (number cs) = true := by
  unfold number
  dsimp only
  split
  · rfl
  · split
    · rfl
    · split <;> rfl

theorem isGenuine_symbolic {c : Char} {cs : List Char} {found : Step}
    (h : symbolic c cs = some found) : found.isGenuine = true := by
  unfold symbolic at h
  split at h
  all_goals first
    | obtain rfl := Option.some.inj h; exact isGenuine_extend _ _ _
    | obtain rfl := Option.some.inj h; rfl
    | cases h
    | split at h <;> (obtain rfl := Option.some.inj h; first | rfl | exact isGenuine_extend _ _ _)

theorem isGenuine_next (afterWord : Bool) (c : Char) (cs : List Char) :
    Step.isGenuine (next afterWord c cs) = true := by
  unfold next
  split
  case h_21 =>
    split
    · exact isGenuine_number _
    · split
      · next hfound => exact isGenuine_symbolic hfound
      · split
        · rfl
        · split <;> rfl
  all_goals first
    | rfl
    | exact isGenuine_text _ _
    | exact isGenuine_dollar _
    | split <;> rfl

/-- The scanner gives a keyword to no quoted word. -/
theorem isGenuine_all : ∀ {fuel : Nat} {afterWord : Bool} {cs : List Char} {ts : List Token},
    all fuel afterWord cs = .ok ts → ∀ t ∈ ts, t.isGenuine = true := by
  intro fuel
  induction fuel with
  | zero =>
      intro afterWord cs ts h
      cases cs with
      | nil =>
          obtain rfl : [] = ts := Except.ok.inj h
          simp
      | cons c cs => cases h
  | succ fuel ih =>
      intro afterWord cs ts h
      cases cs with
      | nil =>
          obtain rfl : [] = ts := Except.ok.inj h
          simp
      | cons c cs =>
          rw [all] at h
          split at h
          · cases h
          · exact ih h
          · next t rest hnext =>
            have ht := isGenuine_next afterWord c cs
            rw [hnext] at ht
            dsimp only at h
            generalize hmore : all fuel _ rest = found at h
            cases found with
            | error fault => cases h
            | ok more =>
                obtain rfl : t :: more = ts := Except.ok.inj h
                exact List.forall_mem_cons.2 ⟨ht, ih hmore⟩

end Scan

end GeoLayers.Sql
