import GeoLayers.Statement.Basic
import Mathlib.Data.List.Basic

/-!
What a statement says that is made of pieces. Its text is the texts of the pieces one after the
other, where the parameters are numbered from one in their order, and its parameters are theirs.
-/

namespace GeoLayers.Statement

/-- The text that stands for the parameter with a number. -/
def placeholder (number : Nat) : String := "$" ++ toString number

/-- The parameters of pieces. -/
def bindsOf : List Piece → List Bind
  | [] => []
  | .text _ :: pieces => bindsOf pieces
  | .bind value :: pieces => value :: bindsOf pieces

/-- The text of pieces behind a number of parameters. -/
def textFrom : Nat → List Piece → String
  | _, [] => ""
  | n, .text text :: pieces => text ++ textFrom n pieces
  | n, .bind _ :: pieces => placeholder (n + 1) ++ textFrom (n + 1) pieces

@[simp] theorem bindsOf_append (pieces more : List Piece) :
    bindsOf (pieces ++ more) = bindsOf pieces ++ bindsOf more := by
  induction pieces with
  | nil => rfl
  | cons piece pieces ih =>
      cases piece with
      | text text => exact ih
      | bind value => exact congrArg (value :: ·) ih

@[simp] theorem textFrom_append (n : Nat) (pieces more : List Piece) :
    textFrom n (pieces ++ more) = textFrom n pieces ++ textFrom (n + (bindsOf pieces).length) more := by
  induction pieces generalizing n with
  | nil => exact String.empty_append.symm
  | cons piece pieces ih =>
      cases piece with
      | text text => rw [List.cons_append, textFrom, textFrom, bindsOf, ih, String.append_assoc]
      | bind value =>
          have hcount : n + 1 + (bindsOf pieces).length = n + (value :: bindsOf pieces).length := by
            rw [List.length_cons]
            omega
          rw [List.cons_append, textFrom, textFrom, bindsOf, ih, String.append_assoc, hcount]

/-- What pieces add to a statement. -/
theorem foldl_add_eq (pieces : List Piece) (s : Statement) :
    pieces.foldl add s = ⟨s.sql ++ textFrom s.binds.length pieces, s.binds ++ bindsOf pieces⟩ := by
  induction pieces generalizing s with
  | nil => simp [textFrom, bindsOf]
  | cons piece pieces ih =>
      rw [List.foldl_cons, ih]
      cases piece with
      | text text => simp [add, push, textFrom, bindsOf, String.append_assoc]
      | bind value =>
          simp [add, pushBind, push, bind, textFrom, bindsOf, placeholder, String.append_assoc]

theorem ofPieces_eq (pieces : List Piece) : ofPieces pieces = ⟨textFrom 0 pieces, bindsOf pieces⟩ := by
  rw [ofPieces, foldl_add_eq, String.empty_append, List.nil_append, List.length_nil]

theorem between_cons_cons (sep : String) (item next : List Piece) (items : List (List Piece)) :
    between sep (item :: next :: items) = item ++ .text sep :: between sep (next :: items) := rfl

theorem bindsOf_between (sep : String) (items : List (List Piece)) :
    bindsOf (between sep items) = items.flatMap bindsOf := by
  induction items with
  | nil => rfl
  | cons item items ih =>
      cases items with
      | nil => simp [between]
      | cons next items =>
          rw [between_cons_cons, bindsOf_append, bindsOf, ih, ← List.flatMap_cons]

/-- Items with one parameter each are numbered by their places. -/
theorem textFrom_between (n : Nat) (sep : String) {items : List (List Piece)}
    (h : ∀ item ∈ items, (bindsOf item).length = 1) :
    textFrom n (between sep items) =
      sep.intercalate (items.mapIdx fun i item => textFrom (n + i) item) := by
  induction items generalizing n with
  | nil => rw [List.mapIdx_nil, String.intercalate_nil, between, textFrom]
  | cons item items ih =>
      obtain ⟨hitem, hitems⟩ := List.forall_mem_cons.1 h
      -- Past the first item, both the numbers and the places have moved on by one.
      have hshift : (fun i item => textFrom (n + 1 + i) item) =
          fun i item => textFrom (n + (i + 1)) item := by
        funext i item
        rw [Nat.add_assoc, Nat.add_comm 1 i]
      cases items with
      | nil => rw [between, List.mapIdx_singleton, String.intercalate_singleton, Nat.add_zero]
      | cons next items =>
          rw [between_cons_cons, textFrom_append, textFrom, hitem, ih (n + 1) hitems, hshift,
            List.mapIdx_cons, List.mapIdx_cons, List.mapIdx_cons, String.intercalate_cons_cons,
            String.append_assoc]
          rfl

end GeoLayers.Statement
