import GeoLayers.Proofs.Geometry.Wkt.Scan

/-!
Printed well-known text read back. A reader reads some tokens as a value if it takes just these
tokens from in front of any others; readers of items in brackets do so if the readers of the items
do. The geometries that features are written as are read back from their text.
-/

namespace GeoLayers.Wkt

open Token (coordTokens pathTokens polygonTokens)

namespace Reader

variable {α β : Type}

/-- Whether a reader takes some tokens, in front of any others, for a value. -/
def Reads (read : Reader α β) (tokens : List (Token α)) (value : β) : Prop :=
  ∀ rest, read (tokens ++ rest) = some (value, rest)

theorem reads_coord (c : Coord α) : Reads (coord 0) (coordTokens c) c := fun _ => rfl

section Items

variable {read : Reader α β} {tokens : β → List (Token α)} {values : List β}

theorem itemLoop_eq (hread : ∀ value ∈ values, Reads read (tokens value) value) (hne : values ≠ [])
    {fuel : Nat} (hfuel : values.length ≤ fuel) (rest : List (Token α)) :
    itemLoop read fuel ([.comma].intercalate (values.map tokens) ++ .closeBracket :: rest) =
      some (values, .closeBracket :: rest) := by
  induction values generalizing fuel with
  | nil => exact absurd rfl hne
  | cons value values ih =>
      obtain ⟨hvalue, hvalues⟩ := List.forall_mem_cons.1 hread
      obtain ⟨fuel, rfl⟩ : ∃ n, fuel = n + 1 := ⟨fuel - 1, by simp at hfuel; omega⟩
      cases values with
      | nil =>
          simp only [List.map_cons, List.map_nil, List.intercalate_singleton]
          rw [itemLoop, hvalue]
          rfl
      | cons next values =>
          have hlength : (next :: values).length ≤ fuel := by
            rw [List.length_cons] at hfuel
            omega
          have hrest := ih hvalues (List.cons_ne_nil next values) hlength
          simp only [List.map_cons, List.intercalate_cons_cons, List.append_assoc] at hrest ⊢
          rw [itemLoop, hvalue]
          simp only [Option.bind_eq_bind, Option.bind_some, List.singleton_append, hrest]

theorem length_le_length_intercalate (items : List (List (Token α))) :
    items.length ≤ ([.comma].intercalate items).length + 1 := by
  induction items with
  | nil => simp
  | cons item items ih =>
      cases items with
      | nil => simp
      | cons next items =>
          simp only [List.intercalate_cons_cons, List.length_append, List.length_cons,
            List.length_nil] at ih ⊢
          omega

/-- Items in brackets are read if each of them is. -/
theorem reads_bracketed (hread : ∀ value ∈ values, Reads read (tokens value) value)
    (hne : values ≠ []) (empty : List β) :
    Reads (bracketedOr empty (items read)) (Token.bracketed (values.map tokens)) values := by
  intro rest
  have hlength := length_le_length_intercalate (values.map tokens)
  rw [List.length_map] at hlength
  have hitems : items read ([.comma].intercalate (values.map tokens) ++ .closeBracket :: rest) =
      some (values, .closeBracket :: rest) := by
    apply itemLoop_eq hread hne
    rw [List.length_append]
    omega
  rw [Token.bracketed, List.cons_append, List.append_assoc, List.singleton_append, bracketedOr]
  simp [atEmpty, inBrackets, hitems]

end Items

theorem reads_path {path : Path α} (hne : path ≠ []) : Reads (Reader.path 0) (pathTokens path) path :=
  reads_bracketed (fun c _ => reads_coord c) hne []

theorem dimensions_bracketedOrEmpty (items : List (List (Token α))) :
    dimensions (Token.bracketedOrEmpty items) = some (0, Token.bracketedOrEmpty items) := by
  unfold Token.bracketedOrEmpty
  split <;> rfl

/-- Items in brackets, or the word for none, are read if each of the items is. -/
theorem bracketedOr_bracketedOrEmpty {β : Type} {read : Reader α β} {tokens : β → List (Token α)}
    {values : List β} (hread : ∀ value ∈ values, Reads read (tokens value) value) :
    bracketedOr [] (items read) (Token.bracketedOrEmpty (values.map tokens)) = some (values, []) := by
  cases values with
  | nil => rfl
  | cons value values =>
      have hbracketed := reads_bracketed hread (List.cons_ne_nil _ _) [] []
      rwa [List.append_nil] at hbracketed

/-- A polygon is read as it was if its rings are closed. -/
theorem reads_polygon [Scalar α] {p : Polygon α} (hne : ∀ ring ∈ p.rings, ring ≠ [])
    (hclosed : ∀ ring ∈ p.rings, Ring.close ring = ring) :
    Reads (Reader.polygon 0) (polygonTokens p) p := by
  intro rest
  have hrings : Reads (bracketedOr [] (items (Reader.path 0))) (polygonTokens p) p.rings :=
    reads_bracketed (fun ring hring => reads_path (hne ring hring)) (List.cons_ne_nil _ _) []
  have hpolygon : polygonOf p.rings = p := by
    obtain ⟨hshell, hholes⟩ := List.forall_mem_cons.1 hclosed
    have hmap : p.holes.map Ring.close = p.holes :=
      (List.map_congr_left hholes).trans (List.map_id' p.holes)
    rw [Polygon.rings, polygonOf, hshell, hmap]
  rw [Reader.polygon, hrings, Option.map_some]
  dsimp only
  rw [hpolygon]

end Reader

open Reader

variable {α : Type} [Numeric α] [Scalar α]

theorem read?_render_point {c : Coord α} (h : c.Legible) :
    read? (render (.point c)) = some (.point c) := by
  rw [read?, Token.ofText_render_point h]
  rfl

theorem read?_render_multiLineString {paths : List (Path α)}
    (h : ∀ path ∈ paths, ∀ c ∈ path, c.Legible) (hne : ∀ path ∈ paths, path ≠ []) :
    read? (render (.multiLineString paths)) = some (.multiLineString paths) := by
  have hpaths := bracketedOr_bracketedOrEmpty fun path hpath => reads_path (hne path hpath)
  have hname : name? "MULTILINESTRING" = some (.multiLineString, none) := by rfl
  rw [read?, Token.ofText_render_multiLineString h]
  simp only [geometry, hname, Option.bind_eq_bind, Option.bind_some, dimensions_bracketedOrEmpty,
    hpaths]
  rfl

theorem read?_render_multiPolygon {polygons : List (Polygon α)}
    (h : ∀ polygon ∈ polygons, ∀ ring ∈ polygon.rings, ∀ c ∈ ring, c.Legible)
    (hne : ∀ polygon ∈ polygons, ∀ ring ∈ polygon.rings, ring ≠ [])
    (hclosed : ∀ polygon ∈ polygons, ∀ ring ∈ polygon.rings, Ring.close ring = ring) :
    read? (render (.multiPolygon polygons)) = some (.multiPolygon polygons) := by
  have hpolygons := bracketedOr_bracketedOrEmpty fun polygon hpolygon =>
    reads_polygon (hne polygon hpolygon) (hclosed polygon hpolygon)
  have hname : name? "MULTIPOLYGON" = some (.multiPolygon, none) := by rfl
  rw [read?, Token.ofText_render_multiPolygon h]
  simp only [geometry, hname, Option.bind_eq_bind, Option.bind_some, dimensions_bracketedOrEmpty,
    hpolygons]
  rfl

end GeoLayers.Wkt
