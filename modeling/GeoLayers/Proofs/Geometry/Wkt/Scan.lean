import GeoLayers.Geometry.Wkt.Reader

/-!
The tokens of printed well-known text. A text prints some tokens if it is cut into them in front of
anything that ends a word; what is printed of points, paths and polygons is put together of such
texts. Of numbers no more is asked than that their text looks like a number and reads back.
-/

namespace GeoLayers

/-- Whether a number is told by its text: it reads back, and its text starts like a number and goes
on without anything that ends a word. -/
structure Numeric.Legible {α : Type} [Numeric α] (x : α) : Prop where
  starts : ∃ c cs, (text x).toList = c :: cs ∧ Wkt.Token.startsNumber c = true ∧ c ≠ '+'
  continues : ∀ c ∈ (text x).toList, Wkt.Token.continues c = true
  readBack : read? (text x) = some x

/-- Whether both numbers of a point are told by their texts. -/
structure Coord.Legible {α : Type} [Numeric α] (c : Coord α) : Prop where
  x : Numeric.Legible c.x
  y : Numeric.Legible c.y

namespace Wkt

variable {α : Type} [Numeric α]

/-- A point is written as one item. -/
theorem render_point (c : Coord α) : render (.point c) = named "POINT" ([c].map coordText) := by
  rw [← String.toList_inj]
  simp [render, named, bracketed]

namespace Token

theorem length_dropWhile_le (test : Char → Bool) (cs : List Char) :
    (cs.dropWhile test).length ≤ cs.length :=
  (List.dropWhile_sublist test).length_le

/-- With as much fuel as there are characters, more makes no difference. -/
theorem scan_congr {fuel fuel' : Nat} {cs : List Char} (h : cs.length ≤ fuel)
    (h' : cs.length ≤ fuel') : scan fuel cs = (scan fuel' cs : List (Token α)) := by
  induction fuel generalizing fuel' cs with
  | zero =>
      obtain rfl := List.length_eq_zero_iff.1 (Nat.le_zero.1 h)
      cases fuel' <;> rfl
  | succ fuel ih =>
      cases cs with
      | nil => cases fuel' <;> rfl
      | cons c cs =>
          cases fuel' with
          | zero => simp at h'
          | succ fuel' =>
              rw [List.length_cons] at h h'
              have hdrop := length_dropWhile_le continues cs
              have hcs : scan fuel cs = (scan fuel' cs : List (Token α)) := ih (by omega) (by omega)
              have hrest : scan fuel (cs.dropWhile continues) =
                  (scan fuel' (cs.dropWhile continues) : List (Token α)) := ih (by omega) (by omega)
              rw [scan, scan, hcs, hrest]

/-- The tokens of some characters. -/
def ofChars (cs : List Char) : List (Token α) := scan cs.length cs

theorem ofText_eq (s : String) : (ofText s : List (Token α)) = ofChars s.toList := by
  rw [ofText, ofChars, String.length_toList]

theorem ofChars_cons (c : Char) (cs : List Char) :
    (ofChars (c :: cs) : List (Token α)) =
      if isEnd c then []
      else if isSpace c then ofChars cs
      else if c == '(' then .openBracket :: ofChars cs
      else if c == ')' then .closeBracket :: ofChars cs
      else if c == ',' then .comma :: ofChars cs
      else ofRun c (c :: cs.takeWhile continues) :: ofChars (cs.dropWhile continues) := by
  rw [ofChars, List.length_cons, scan,
    scan_congr (length_dropWhile_le continues cs) (Nat.le_refl (cs.dropWhile continues).length)]
  rfl

theorem ofChars_space (cs : List Char) : (ofChars (' ' :: cs) : List (Token α)) = ofChars cs :=
  ofChars_cons ' ' cs

theorem ofChars_open (cs : List Char) :
    (ofChars ('(' :: cs) : List (Token α)) = .openBracket :: ofChars cs := ofChars_cons '(' cs

theorem ofChars_close (cs : List Char) :
    (ofChars (')' :: cs) : List (Token α)) = .closeBracket :: ofChars cs := ofChars_cons ')' cs

theorem ofChars_comma (cs : List Char) :
    (ofChars (',' :: cs) : List (Token α)) = .comma :: ofChars cs := ofChars_cons ',' cs

/-- Whether a word or a number that stands in front ends there. -/
def Ends (rest : List Char) : Prop := ∀ c, rest.head? = some c → continues c = false

theorem ofChars_run {c : Char} {run rest : List Char} (hrun : ∀ d ∈ c :: run, continues d = true)
    (hrest : Ends rest) :
    (ofChars (c :: run ++ rest) : List (Token α)) = ofRun c (c :: run) :: ofChars rest := by
  obtain ⟨hc, hrun⟩ := List.forall_mem_cons.1 hrun
  have htake : rest.takeWhile continues = [] := by
    cases rest with
    | nil => rfl
    | cons d rest => rw [List.takeWhile_cons, hrest d rfl, if_neg Bool.false_ne_true]
  have hdrop : rest.dropWhile continues = rest := by
    cases rest with
    | nil => rfl
    | cons d rest => rw [List.dropWhile_cons, hrest d rfl, if_neg Bool.false_ne_true]
  simp only [continues, Bool.not_eq_true', Bool.or_eq_false_iff] at hc
  rw [List.cons_append, ofChars_cons, hc.1.1.1.2, hc.1.1.1.1, hc.1.1.2, hc.1.2, hc.2,
    List.takeWhile_append_of_pos hrun, List.dropWhile_append_of_pos hrun, htake, hdrop,
    List.append_nil]
  rfl

/-! ### What texts print -/

/-- Whether a text is cut into some tokens in front of anything that ends a word. -/
def Prints (text : List Char) (tokens : List (Token α)) : Prop :=
  ∀ rest, Ends rest → ofChars (text ++ rest) = tokens ++ ofChars rest

theorem Prints.nil : Prints [] ([] : List (Token α)) := fun _ _ => rfl

theorem Prints.ofChars_eq {text : List Char} {tokens : List (Token α)} (h : Prints text tokens) :
    ofChars text = tokens := by
  have htext := h [] nofun
  rwa [List.append_nil, show (ofChars [] : List (Token α)) = [] from rfl, List.append_nil] at htext

theorem Prints.word {s : String} (hword : s.toList.all continues = true)
    (hstart : s.toList.head?.any (fun c => !startsNumber c) = true) :
    Prints s.toList [(.word s : Token α)] := by
  intro rest hrest
  cases hs : s.toList with
  | nil => simp [hs] at hstart
  | cons c cs =>
      have hfirst : startsNumber c = false := by simpa [hs] using hstart
      rw [hs, List.all_eq_true] at hword
      rw [ofChars_run hword hrest, ofRun, hfirst, ← hs, String.ofList_toList]
      rfl

theorem Prints.number {x : α} (h : Numeric.Legible x) :
    Prints (Numeric.text x).toList [.number x] := by
  intro rest hrest
  obtain ⟨c, cs, htext, hstart, hplus⟩ := h.starts
  have hcontinues := h.continues
  rw [htext] at hcontinues ⊢
  rw [ofChars_run hcontinues hrest, ofRun, if_pos hstart, beq_eq_false_iff_ne.2 hplus, ← htext]
  simp only [Bool.false_eq_true, if_false, String.ofList_toList, h.readBack]
  rfl

theorem Prints.append {a b : List Char} {d : Char} {ta tb : List (Token α)} (ha : Prints a ta)
    (hd : continues d = false) (hb : Prints (d :: b) tb) : Prints (a ++ d :: b) (ta ++ tb) := by
  intro rest hrest
  have hends : Ends (d :: b ++ rest) := by
    rintro c ⟨⟩
    exact hd
  rw [List.append_assoc, ha _ hends, hb rest hrest, List.append_assoc]

section Marks

variable {cs : List Char} {tokens : List (Token α)} (h : Prints cs tokens)

include h

theorem Prints.space : Prints (' ' :: cs) tokens := by
  intro rest hrest
  rw [List.cons_append, ofChars_space, h rest hrest]

theorem Prints.openBracket : Prints ('(' :: cs) (.openBracket :: tokens) := by
  intro rest hrest
  rw [List.cons_append, ofChars_open, h rest hrest, List.cons_append]

theorem Prints.closeBracket : Prints (')' :: cs) (.closeBracket :: tokens) := by
  intro rest hrest
  rw [List.cons_append, ofChars_close, h rest hrest, List.cons_append]

theorem Prints.comma : Prints (',' :: cs) (.comma :: tokens) := by
  intro rest hrest
  rw [List.cons_append, ofChars_comma, h rest hrest, List.cons_append]

end Marks

/-- The tokens of items between brackets, with commas between them. -/
def bracketed (items : List (List (Token α))) : List (Token α) :=
  .openBracket :: ([.comma].intercalate items ++ [.closeBracket])

/-- The tokens of items between brackets, or the word for none. -/
def bracketedOrEmpty (items : List (List (Token α))) : List (Token α) :=
  if items.isEmpty then [.word "EMPTY"] else bracketed items

def coordTokens (c : Coord α) : List (Token α) := [.number c.x, .number c.y]

def pathTokens (path : Path α) : List (Token α) := bracketed (path.map coordTokens)

def polygonTokens (polygon : Polygon α) : List (Token α) :=
  bracketed (polygon.rings.map pathTokens)

theorem Prints.coord {c : Coord α} (h : c.Legible) :
    Prints (coordText c).toList (coordTokens c) := by
  have htext : (coordText c).toList = (Numeric.text c.x).toList ++ ' ' :: (Numeric.text c.y).toList := by
    simp [coordText]
  rw [htext]
  exact (number h.x).append (by decide) (number h.y).space

theorem toList_bracketed (items : List String) :
    (Wkt.bracketed items).toList = '(' :: ((",".intercalate items).toList ++ [')']) := by
  simp [Wkt.bracketed]

section Items

variable {β : Type} {text : β → String} {tokens : β → List (Token α)} {items : List β}
  (h : ∀ item ∈ items, Prints (text item).toList (tokens item))

include h

/-- Items with commas between them. -/
theorem Prints.separated : Prints (",".intercalate (items.map text)).toList
    ([.comma].intercalate (items.map tokens)) := by
  rw [String.toList_intercalate]
  induction items with
  | nil => exact .nil
  | cons item items ih =>
      obtain ⟨hitem, hitems⟩ := List.forall_mem_cons.1 h
      cases items with
      | nil => simpa using hitem
      | cons next items =>
          simp only [List.map_cons, List.intercalate_cons_cons, List.append_assoc]
          exact hitem.append (by decide) (ih hitems).comma

/-- Items between brackets. -/
theorem Prints.bracketed : Prints (Wkt.bracketed (items.map text)).toList
    (Token.bracketed (items.map tokens)) := by
  rw [toList_bracketed]
  exact ((separated h).append (by decide) Prints.nil.closeBracket).openBracket

/-- Items after a name. -/
theorem Prints.named {name : String} (hword : name.toList.all continues = true)
    (hstart : name.toList.head?.any (fun c => !startsNumber c) = true) :
    Prints (named name (items.map text)).toList
      (.word name :: bracketedOrEmpty (items.map tokens)) := by
  have hname : Prints name.toList [(.word name : Token α)] := .word hword hstart
  cases items with
  | nil =>
      have hempty : Prints "EMPTY".toList [(.word "EMPTY" : Token α)] :=
        .word (by decide) (by decide)
      have htext : (named name []).toList = name.toList ++ ' ' :: "EMPTY".toList := by
        simp [named]
      rw [List.map_nil, htext]
      exact hname.append (by decide) hempty.space
  | cons item items =>
      have hitems := bracketed h
      have htext : (named name ((item :: items).map text)).toList =
          name.toList ++ (Wkt.bracketed ((item :: items).map text)).toList := by
        simp [named]
      rw [toList_bracketed] at hitems htext
      rw [htext]
      exact hname.append (by decide) hitems

end Items

theorem Prints.path {path : Path α} (h : ∀ c ∈ path, c.Legible) :
    Prints (pathText path).toList (pathTokens path) :=
  Prints.bracketed fun c hc => .coord (h c hc)

theorem Prints.polygon {polygon : Polygon α} (h : ∀ ring ∈ polygon.rings, ∀ c ∈ ring, c.Legible) :
    Prints (polygonText polygon).toList (polygonTokens polygon) :=
  Prints.bracketed fun ring hring => .path (h ring hring)

/-! ### The forms that geometries are written in -/

theorem ofText_render_point {c : Coord α} (h : c.Legible) :
    ofText (render (.point c)) = .word "POINT" :: bracketed [coordTokens c] := by
  have hitems : ∀ c' ∈ [c], Prints (coordText c').toList (coordTokens c') := by
    simpa using Prints.coord h
  rw [render_point, ofText_eq, (Prints.named hitems (by decide) (by decide)).ofChars_eq]
  rfl

theorem ofText_render_multiLineString {paths : List (Path α)}
    (h : ∀ path ∈ paths, ∀ c ∈ path, c.Legible) :
    ofText (render (.multiLineString paths)) =
      .word "MULTILINESTRING" :: bracketedOrEmpty (paths.map pathTokens) := by
  rw [render, ofText_eq]
  exact (Prints.named (fun path hpath => .path (h path hpath)) (by decide) (by decide)).ofChars_eq

theorem ofText_render_multiPolygon {polygons : List (Polygon α)}
    (h : ∀ polygon ∈ polygons, ∀ ring ∈ polygon.rings, ∀ c ∈ ring, c.Legible) :
    ofText (render (.multiPolygon polygons)) =
      .word "MULTIPOLYGON" :: bracketedOrEmpty (polygons.map polygonTokens) := by
  rw [render, ofText_eq]
  exact (Prints.named (fun polygon hpolygon => .polygon (h polygon hpolygon)) (by decide)
    (by decide)).ofChars_eq

end Token

end Wkt

end GeoLayers
