import GeoLayers.Geometry.Json
import GeoLayers.Proofs.Geometry.ReadBack
import GeoLayers.Proofs.Json.Decoding

/-!
Geometries as JSON, which have no tag. What is encoded has the members of one kind only, so of the kinds
that are tried in order the others fail, and the geometry is given back where its numbers are finite and
its reference system has a number of 32 bits.
-/

namespace GeoLayers

open Json

/-- Whether both coordinates of a point are finite. -/
def Coord.IsFinite (c : Coord Float) : Prop :=
  Number.isFinite c.x = true ∧ Number.isFinite c.y = true

instance : DecidablePred Coord.IsFinite := fun c =>
  inferInstanceAs (Decidable (Number.isFinite c.x = true ∧ Number.isFinite c.y = true))

/-- Whether the number of a reference system is a word of 32 bits. -/
def SpatialReference.InRange (reference : SpatialReference) : Prop :=
  Number.minInt32 ≤ reference.wkid ∧ reference.wkid ≤ Number.maxInt32

instance : DecidablePred SpatialReference.InRange := fun reference =>
  inferInstanceAs
    (Decidable (Number.minInt32 ≤ reference.wkid ∧ reference.wkid ≤ Number.maxInt32))

theorem SpatialReference.gives_decode (reference : SpatialReference) :
    Gives (decode reference.toJson) reference reference.InRange := by
  have hfields : fields? ["wkid"] reference.toJson = some [some (.integer reference.wkid)] := by
    simp [fields?, SpatialReference.toJson, fieldsOfObject]
  rw [decode, hfields]
  exact (Decoder.gives_int32 reference.wkid).into SpatialReference.mk

theorem Coord.gives_decode (c : Coord Float) : Gives (decode c.toJson) c c.IsFinite :=
  (Decoder.gives_float c.x).bind ((Decoder.gives_float c.y).into (Coord.mk c.x))

theorem Path.gives_decode (paths : List (Path Float)) :
    Gives (decode (toJson paths)) paths (∀ path ∈ paths, ∀ c ∈ path, c.IsFinite) :=
  Decoder.gives_list fun _ _ => Decoder.gives_list fun c _ => c.gives_decode

theorem Path.isExpressible_toJson (paths : List (Path Float)) :
    (toJson paths).isExpressible = true ↔ ∀ path ∈ paths, ∀ c ∈ path, c.IsFinite := by
  have hcoord (c : Coord Float) : c.toJson.isExpressible = true ↔ c.IsFinite := by
    simp [Coord.toJson, isExpressible, areExpressible, Coord.IsFinite]
  simp only [toJson, isExpressible, areExpressible_iff, List.forall_mem_map, hcoord]

namespace Geometry

/-- Whether all coordinates of a geometry are finite and its reference system has a number of 32
bits. -/
def InRange (geometry : Geometry Float) : Prop :=
  (∀ c ∈ geometry.shape.coords, c.IsFinite) ∧ ∀ reference ∈ geometry.reference, reference.InRange

instance : DecidablePred InRange := fun geometry =>
  inferInstanceAs (Decidable ((∀ c ∈ geometry.shape.coords, c.IsFinite) ∧
    ∀ reference ∈ geometry.reference, reference.InRange))

theorem gives_reference (reference : Option SpatialReference) :
    Gives (optional SpatialReference.decode (reference.map SpatialReference.toJson)) reference
      (∀ r ∈ reference, r.InRange) :=
  gives_optional SpatialReference.gives_decode (fun _ => nofun) reference

section Kinds

variable (reference : Option SpatialReference)

/-- The members of an encoded geometry: those of its kind, and the reference system if it is given. -/
def membersWith (kind : List (String × Option Json)) : List (String × Json) :=
  present (kind ++ [("spatialReference", reference.map SpatialReference.toJson)])

variable {reference}

theorem membersExpressible_nil : membersExpressible (membersWith reference []) = true := by
  cases reference <;> rfl

/-- A geometry is given if its kind gives it, the others fail and the members are expressible. -/
theorem gives_of_kind {members : List (String × Json)} {geometry : Geometry Float}
    {admitted : Prop} (hexpressible : admitted → membersExpressible members = true)
    (h : Gives ((decodePoint members).or
      ((decodePaths "paths" .polyline members).or (decodePaths "rings" .polygon members)))
      geometry admitted) :
    Gives (decode (.object members)) geometry admitted := by
  rw [decode]
  simp only [Option.orElse_eq_orElse, Option.orElse_eq_or]
  cases htest : membersExpressible members with
  | true => exact h
  | false =>
      intro y
      refine iff_of_false nofun fun hy => ?_
      rw [hexpressible hy.2] at htest
      cases htest

theorem gives_point (c : Coord Float) :
    Gives (decode (.object
        (membersWith reference [("x", some (.float c.x)), ("y", some (.float c.y))])))
      ⟨.point c, reference⟩ (c.IsFinite ∧ ∀ r ∈ reference, r.InRange) := by
  apply gives_of_kind
  case hexpressible =>
    rintro ⟨⟨hx, hy⟩, -⟩
    change (Number.isFinite c.x && (Number.isFinite c.y && _)) = true
    rw [hx, hy]
    exact membersExpressible_nil
  case h =>
    rw [decodePoint, decodePaths, decodePaths, membersWith, fieldsOfObject_present (by simp),
      fieldsOfObject_present (by simp), fieldsOfObject_present (by simp)]
    change Gives (Option.or _ (Option.or none none)) _ _
    rw [Option.or_none, Option.or_none]
    refine ((Decoder.gives_float c.x).bind ((Decoder.gives_float c.y).bind
      ((gives_reference reference).into (Geometry.mk (.point c))))).congr ?_
    rw [Coord.IsFinite, and_assoc]

/-- Polylines and polygons differ in the name of the member with the paths. -/
theorem gives_paths {name : String} {shape : List (Path Float) → Shape Float}
    (h : name = "paths" ∧ shape = .polyline ∨ name = "rings" ∧ shape = .polygon)
    (paths : List (Path Float)) :
    Gives (decode (.object (membersWith reference [(name, some (Path.toJson paths))])))
      ⟨shape paths, reference⟩
      ((∀ path ∈ paths, ∀ c ∈ path, c.IsFinite) ∧ ∀ r ∈ reference, r.InRange) := by
  apply gives_of_kind
  case hexpressible =>
    rintro ⟨hpaths, -⟩
    change ((Path.toJson paths).isExpressible && _) = true
    rw [(Path.isExpressible_toJson paths).2 hpaths]
    exact membersExpressible_nil
  case h =>
    have hread : Gives (do
          let read ← Path.decode (Path.toJson paths)
          let reference ←
            Json.optional SpatialReference.decode (reference.map SpatialReference.toJson)
          some ⟨shape read, reference⟩) (Geometry.mk (shape paths) reference)
        ((∀ path ∈ paths, ∀ c ∈ path, c.IsFinite) ∧ ∀ r ∈ reference, r.InRange) :=
      (Path.gives_decode paths).bind
        ((gives_reference reference).into (Geometry.mk (shape paths)))
    rw [decodePoint, decodePaths, decodePaths, membersWith]
    rcases h with ⟨rfl, rfl⟩ | ⟨rfl, rfl⟩
    case inl =>
      rw [fieldsOfObject_present (by simp), fieldsOfObject_present (by simp),
        fieldsOfObject_present (by simp)]
      change Gives (Option.or none (Option.or _ none)) _ _
      rw [Option.or_none, Option.none_or]
      exact hread
    case inr =>
      rw [fieldsOfObject_present (by simp), fieldsOfObject_present (by simp),
        fieldsOfObject_present (by simp)]
      exact hread

end Kinds

/-- The decoder gives back the geometry that was encoded, and in particular the kind of its shape. -/
theorem gives_decode (geometry : Geometry Float) :
    Gives (decode geometry.toJson) geometry geometry.InRange := by
  obtain ⟨shape, reference⟩ := geometry
  cases shape with
  | point c => exact (gives_point c).congr (and_congr_left' List.forall_mem_singleton.symm)
  | polyline paths =>
      exact (gives_paths (.inl ⟨rfl, rfl⟩) paths).congr (and_congr_left' List.forall_mem_flatten.symm)
  | polygon rings =>
      exact (gives_paths (.inr ⟨rfl, rfl⟩) rings).congr (and_congr_left' List.forall_mem_flatten.symm)

end Geometry

end GeoLayers
