import GeoLayers.Feature
import GeoLayers.Proofs.Geometry.Untagged

/-!
Features as JSON. The decoder gives back the feature that was encoded, whether or not it has a geometry
and related rows, where all its numbers are finite and its reference system has a number of 32 bits.
-/

namespace GeoLayers

open Json

namespace Feature

/-- The attributes of a feature and of its related rows. -/
def rows (feature : Feature) : List Attributes :=
  feature.attributes :: feature.related.entries.flatMap Prod.snd

theorem forall_rows (feature : Feature) (P : Json → Prop) :
    (∀ row ∈ feature.rows, ∀ entry ∈ row.entries, P entry.2) ↔
      (∀ entry ∈ feature.attributes.entries, P entry.2) ∧
        ∀ relation ∈ feature.related.entries, ∀ row ∈ relation.2, ∀ entry ∈ row.entries,
          P entry.2 := by
  rw [rows, List.forall_mem_cons, List.forall_mem_flatMap]

/-- The map of related rows is given back, also if it is empty and left out. -/
theorem gives_related (related : Dictionary (List Attributes))
    (h : ∀ relation ∈ related.entries, ∀ row ∈ relation.2, ∀ entry ∈ row.entries, entry.2.Ordered) :
    Gives (orElse (Decoder.dictionary (Decoder.list Decoder.attributes)) .empty
        (if related.isEmpty then none else some (relatedJson related))) related
      (∀ relation ∈ related.entries, ∀ row ∈ relation.2, ∀ entry ∈ row.entries,
        entry.2.isExpressible = true) := by
  split
  case isTrue hempty =>
    have hentries : related.entries = [] := List.isEmpty_iff.1 hempty
    obtain rfl : related = .empty := Dictionary.ext_entries hentries
    exact (Gives.pure _).congr (iff_of_true trivial (List.forall_mem_nil _))
  case isFalse =>
    exact Decoder.gives_dictionary fun title rows hrelation => Decoder.gives_list fun row hrow =>
      Decoder.gives_attributes (h (title, rows) hrelation row hrow)

/-- The decoder gives back the feature that was encoded. -/
theorem gives_decode (feature : Feature)
    (h : ∀ row ∈ feature.rows, ∀ entry ∈ row.entries, entry.2.Ordered) :
    Gives (decode feature.toJson) feature
      ((∀ row ∈ feature.rows, ∀ entry ∈ row.entries, entry.2.isExpressible = true) ∧
        ∀ geometry ∈ feature.geometry, geometry.InRange) := by
  obtain ⟨hattributes, hrelated⟩ := (forall_rows feature Ordered).1 h
  have hgeometry : Gives (Json.optional Geometry.decode (feature.geometry.map Geometry.toJson))
      feature.geometry (∀ geometry ∈ feature.geometry, geometry.InRange) := by
    refine gives_optional Geometry.gives_decode (fun geometry => ?_) feature.geometry
    rw [Geometry.toJson]
    cases geometry.shape <;> exact nofun
  rw [decode, toJson, ofMembers_eq, fields?, fieldsOfObject_present (by simp)]
  refine ((Decoder.gives_attributes hattributes).bind (hgeometry.bind
    ((gives_related feature.related hrelated).into
      (Feature.mk feature.attributes feature.geometry)))).congr ?_
  rw [forall_rows feature fun v => v.isExpressible = true, and_assoc]
  exact and_congr_right' and_comm

/-- What every feature can rely on: the members of objects in its attributes are sorted, all numbers
are in range, and those of the geometry are finite. -/
structure WellFormed (feature : Feature) : Prop where
  ordered : ∀ row ∈ feature.rows, ∀ entry ∈ row.entries, entry.2.Ordered
  inRange : ∀ row ∈ feature.rows, ∀ entry ∈ row.entries, ∀ leaf ∈ entry.2.leaves, leaf.InRange
  geometry : ∀ geometry ∈ feature.geometry, geometry.InRange

theorem WellFormed.gives_decode {feature : Feature} (h : feature.WellFormed) :
    Gives (decode feature.toJson) feature True := by
  refine (feature.gives_decode h.ordered).congr (iff_of_true ⟨?_, h.geometry⟩ trivial)
  exact fun row hrow entry hentry => isExpressible_of_inRange (h.inRange row hrow entry hentry)

end Feature

/-! ### Numbers in range -/

theorem SpatialReference.inRange_toJson {reference : SpatialReference} (h : reference.InRange) :
    ∀ leaf ∈ reference.toJson.leaves, leaf.InRange := by
  intro leaf hleaf
  obtain rfl : leaf = .integer reference.wkid := List.mem_singleton.1 hleaf
  obtain ⟨hlow, hhigh⟩ := h
  unfold Number.minInt32 at hlow
  unfold Number.maxInt32 at hhigh
  constructor
  · unfold Number.minInt64
    omega
  · unfold Number.maxWord64
    omega

theorem Coord.inRange_toJson {c : Coord Float} (h : c.IsFinite) :
    ∀ leaf ∈ c.toJson.leaves, leaf.InRange := by
  simpa [Coord.toJson, leaves, leavesOfItems, Json.InRange, Coord.IsFinite] using h

theorem Path.inRange_toJson {paths : List (Path Float)}
    (h : ∀ path ∈ paths, ∀ c ∈ path, c.IsFinite) :
    ∀ leaf ∈ (Path.toJson paths).leaves, leaf.InRange := by
  rw [Path.toJson, forall_leaves_array, List.forall_mem_map]
  intro path hpath
  rw [forall_leaves_array, List.forall_mem_map]
  exact fun c hc => Coord.inRange_toJson (h path hpath c hc)

theorem Geometry.inRange_toJson {geometry : Geometry Float} (h : geometry.InRange) :
    ∀ leaf ∈ geometry.toJson.leaves, leaf.InRange := by
  obtain ⟨shape, reference⟩ := geometry
  obtain ⟨hcoords, hreference⟩ := h
  have hmember : ∀ v ∈ reference.map SpatialReference.toJson, ∀ leaf ∈ v.leaves, leaf.InRange := by
    intro v hv
    obtain ⟨r, hr, rfl⟩ := Option.map_eq_some_iff.1 hv
    exact SpatialReference.inRange_toJson (hreference r hr)
  rw [toJson]
  cases shape with
  | point c =>
      obtain ⟨hx, hy⟩ := hcoords c List.mem_cons_self
      simp only [forall_leaves_ofMembers, List.forall_mem_append, List.forall_mem_cons,
        Option.mem_some, forall_eq', leaves, List.mem_singleton, forall_eq]
      exact ⟨⟨hx, hy⟩, hmember⟩
  | polyline paths =>
      simp only [forall_leaves_ofMembers, List.forall_mem_cons, Option.mem_some, forall_eq']
      exact ⟨Path.inRange_toJson (List.forall_mem_flatten.1 hcoords), hmember, List.forall_mem_nil _⟩
  | polygon rings =>
      simp only [forall_leaves_ofMembers, List.forall_mem_cons, Option.mem_some, forall_eq']
      exact ⟨Path.inRange_toJson (List.forall_mem_flatten.1 hcoords), hmember, List.forall_mem_nil _⟩

theorem Feature.WellFormed.inRange_toJson {feature : Feature} (h : feature.WellFormed) :
    ∀ leaf ∈ feature.toJson.leaves, leaf.InRange := by
  obtain ⟨hattributes, hrelated⟩ :=
    (forall_rows feature fun v => ∀ leaf ∈ v.leaves, leaf.InRange).1 h.inRange
  have hrow {row : Attributes} (hentries : ∀ entry ∈ row.entries, ∀ leaf ∈ entry.2.leaves,
      leaf.InRange) : ∀ leaf ∈ row.toJson.leaves, leaf.InRange := forall_leaves_object.2 hentries
  have hgeometry : ∀ v ∈ feature.geometry.map Geometry.toJson, ∀ leaf ∈ v.leaves, leaf.InRange := by
    intro v hv
    obtain ⟨geometry, hmem, rfl⟩ := Option.map_eq_some_iff.1 hv
    exact Geometry.inRange_toJson (h.geometry geometry hmem)
  have hrelations : ∀ leaf ∈ (relatedJson feature.related).leaves, leaf.InRange := by
    rw [relatedJson, forall_leaves_object, List.forall_mem_map]
    intro relation hrelation
    rw [forall_leaves_array, List.forall_mem_map]
    exact fun row hmem => hrow (hrelated relation hrelation row hmem)
  simp only [toJson, forall_leaves_ofMembers, List.forall_mem_cons, Option.mem_some, forall_eq']
  refine ⟨hrow hattributes, hgeometry, ?_, List.forall_mem_nil _⟩
  split
  case isTrue => exact nofun
  case isFalse =>
    intro v hv
    obtain rfl := Option.some.inj hv
    exact hrelations

/-! ### Other numbers -/

section Map

variable {α β : Type} (f : α → β)

def Coord.map (c : Coord α) : Coord β := ⟨f c.x, f c.y⟩

def Shape.map : Shape α → Shape β
  | .point c => .point (c.map f)
  | .polyline paths => .polyline (paths.map (List.map (Coord.map f)))
  | .polygon rings => .polygon (rings.map (List.map (Coord.map f)))

def Geometry.map (geometry : Geometry α) : Geometry β := ⟨geometry.shape.map f, geometry.reference⟩

end Map

/-- A feature with every floating-point number in it replaced. -/
def Feature.mapFloats (f : Float → Float) (feature : Feature) : Feature where
  attributes := feature.attributes.map (Json.mapFloats f)
  geometry := feature.geometry.map (Geometry.map f)
  related := feature.related.map (List.map (Dictionary.map (Json.mapFloats f)))

namespace Json

variable (f : Float → Float)

end Json

end GeoLayers
