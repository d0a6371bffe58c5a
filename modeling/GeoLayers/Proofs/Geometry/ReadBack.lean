import GeoLayers.Geometry.Conversion
import GeoLayers.Proofs.Geometry.Closed
import GeoLayers.Proofs.Geometry.Wkt.Reread
import GeoLayers.Proofs.Number.Finite
import GeoLayers.Proofs.Query.Names

/-!
Geometries that are written as text read back. A geometry is written exactly if it has the expected
kind, every path has two points and some ring is left of a polygon; its text is the number of the
reference system and a body, which is read as the same point, the same paths, or the rings of the
grouped polygons one after the other.
-/

namespace GeoLayers

variable {α : Type}

/-- The points of a shape. -/
def Shape.coords : Shape α → List (Coord α)
  | .point c => [c]
  | .polyline paths => paths.flatten
  | .polygon rings => rings.flatten

variable [Scalar α]

/-- Whether a shape can be written. -/
def Shape.Writable (how : Containment α) : Shape α → Prop
  | .point _ => True
  | .polyline paths => ∀ path ∈ paths, 2 ≤ path.length
  | .polygon rings => Polygon.group how rings ≠ []

/-- A shape as it is written: the rings of a polygon are grouped. -/
def Shape.grouped (how : Containment α) : Shape α → Shape α
  | .polygon rings => .polygon ((Polygon.group how rings).flatMap Polygon.rings)
  | shape => shape

/-- A text that neither starts nor ends with a blank is not trimmed. -/
theorem Text.trim_eq_self {s : String} (hstart : ∀ c, s.toList.head? = some c → isBlank c = false)
    (hend : ∀ c, s.toList.getLast? = some c → isBlank c = false) : trim s = s := by
  rw [trim, trimChars_eq_self hstart hend, String.ofList_toList]

/-- Items after a name that starts with a letter are not trimmed: the text ends with a letter or a
bracket. -/
theorem Wkt.trim_named {name : String} (hname : ∃ c, name.toList.head? = some c ∧ Text.isBlank c = false)
    (items : List String) : Text.trim (named name items) = named name items := by
  obtain ⟨first, hfirst, hletter⟩ := hname
  have htext : ∃ middle last, (named name items).toList = name.toList ++ (middle ++ [last]) ∧
      Text.isBlank last = false := by
    unfold named
    split
    · exact ⟨" EMPT".toList, 'Y', by simp, by decide⟩
    · exact ⟨'(' :: (",".intercalate items).toList, ')', by simp [bracketed], by decide⟩
  obtain ⟨middle, last, htext, hlast⟩ := htext
  apply Text.trim_eq_self
  · intro c hc
    rw [htext, List.head?_append, hfirst] at hc
    obtain rfl : first = c := Option.some.inj hc
    exact hletter
  · intro c hc
    rw [htext, ← List.append_assoc, List.getLast?_concat] at hc
    obtain rfl : last = c := Option.some.inj hc
    exact hlast

variable [Numeric α]

namespace Shape

/-- A shape is written exactly if it can be. -/
theorem toText_eq_ok_iff (how : Containment α) (shape : Shape α) :
    (∃ body, shape.toText how = .ok body) ↔ shape.Writable how := by
  cases shape with
  | point c => simp [toText, Writable]
  | polyline paths =>
      rw [toText, Writable]
      split
      case isTrue hshort =>
        obtain ⟨path, hpath, hlength⟩ := List.any_eq_true.1 hshort
        apply iff_of_false
        · rintro ⟨body, hbody⟩
          cases hbody
        · intro hlong
          have htwo := hlong path hpath
          have hone := of_decide_eq_true hlength
          omega
      case isFalse hlong =>
        apply iff_of_true ⟨_, rfl⟩
        intro path hpath
        have htwo : ¬path.length < 2 := fun hlt =>
          hlong (List.any_eq_true.2 ⟨path, hpath, decide_eq_true hlt⟩)
        omega
  | polygon rings =>
      rw [toText, Writable]
      split
      case h_1 hnone => simp [hnone]
      case h_2 polygons hsome => simpa using hsome

/-- What is written of a shape is read as the shape. -/
theorem ofText_toText (hcomm : ∀ a b : α, Scalar.eq a b = Scalar.eq b a) {how : Containment α}
    {shape : Shape α} (hlegible : ∀ c ∈ shape.coords, c.Legible)
    (hself : ∀ c ∈ shape.coords, c.same c = true) {body : String}
    (h : shape.toText how = .ok body) : ofText body = .ok (shape.grouped how) := by
  have hsame (a b : Coord α) : a.same b = b.same a := by
    rw [Coord.same, Coord.same, hcomm a.x, hcomm a.y]
  cases shape with
  | point c =>
      obtain rfl := Except.ok.inj h
      have hc : c.Legible := hlegible c List.mem_cons_self
      rw [ofText, Wkt.render_point, Wkt.trim_named ⟨'P', by decide, by decide⟩,
        ← Wkt.render_point, Wkt.read?_render_point hc]
      rfl
  | polyline paths =>
      rw [toText] at h
      split at h
      case isTrue => cases h
      case isFalse hlong =>
        obtain rfl := Except.ok.inj h
        have hpaths : ∀ path ∈ paths, ∀ c ∈ path, c.Legible := fun path hpath c hc =>
          hlegible c (List.mem_flatten_of_mem hpath hc)
        have hne : ∀ path ∈ paths, path ≠ [] := by
          rintro path hpath rfl
          exact hlong (List.any_eq_true.2 ⟨[], hpath, rfl⟩)
        have htrim : Text.trim (Wkt.render (.multiLineString paths)) =
            Wkt.render (.multiLineString paths) :=
          Wkt.trim_named ⟨'M', by decide, by decide⟩ _
        rw [ofText, htrim, Wkt.read?_render_multiLineString hpaths hne]
        rfl
  | polygon rings =>
      rw [toText] at h
      split at h
      case h_1 => cases h
      case h_2 =>
        obtain rfl := Except.ok.inj h
        have hcoords {holds : Coord α → Prop} (hall : ∀ c ∈ rings.flatten, holds c) :
            ∀ ring ∈ rings, ∀ c ∈ ring, holds c :=
          fun ring hring c hc => hall c (List.mem_flatten_of_mem hring hc)
        have hrings {p : Polygon α} (hp : p ∈ Polygon.group how rings) {ring : Path α}
            (hring : ring ∈ p.rings) : ring ∈ (Polygon.group how rings).flatMap Polygon.rings :=
          List.mem_flatMap_of_mem hp hring
        have hne : ∀ p ∈ Polygon.group how rings, ∀ ring ∈ p.rings, ring ≠ [] := by
          rintro p hp ring hring rfl
          have hlong := Polygon.length_of_mem_group [] (hrings hp hring)
          simp at hlong
        have htrim : Text.trim (Wkt.render (.multiPolygon (Polygon.group how rings))) =
            Wkt.render (.multiPolygon (Polygon.group how rings)) :=
          Wkt.trim_named ⟨'M', by decide, by decide⟩ _
        have hread := Wkt.read?_render_multiPolygon
          (fun p hp ring hring => Polygon.forall_coords_group (hcoords hlegible) ring (hrings hp hring))
          hne
          (fun p hp ring hring =>
            Polygon.close_of_mem_group hsame (hcoords hself) ring (hrings hp hring))
        rw [ofText, htrim, hread]
        rfl

end Shape

/-- The numbers of a shape. -/
def Shape.numbers {α : Type} (shape : Shape α) : List α := shape.coords.flatMap fun c => [c.x, c.y]

namespace Number

theorem InNumeral.startsNumber {c : Char} (h : InNumeral c) : Wkt.Token.startsNumber c = true := by
  rw [Wkt.Token.startsNumber]
  rcases h with hdigit | rfl | rfl
  · rw [hdigit]
    rfl
  · decide
  · decide

theorem InNumeral.ne_plus {c : Char} (h : InNumeral c) : c ≠ '+' := by
  rintro rfl
  rcases h with hdigit | hpoint | hminus
  · exact absurd hdigit (by decide)
  · exact absurd hpoint (by decide)
  · exact absurd hminus (by decide)

/-- A character of a number does not end a word. -/
theorem InNumeral.continues {c : Char} (h : InNumeral c) : Wkt.Token.continues c = true := by
  rcases h with hdigit | rfl | rfl
  · have hne : ∀ d : Char, isDigit d = false → (c == d) = false := by
      intro d hd
      rw [beq_eq_false_iff_ne]
      rintro rfl
      rw [hdigit] at hd
      cases hd
    have hend : Wkt.Token.isEnd c = false := by
      rw [Wkt.Token.isEnd, beq_eq_false_iff_ne]
      intro hzero
      have hcode : c = Char.ofNat 0 := by rw [← hzero, Char.ofNat_toNat]
      rw [hcode] at hdigit
      exact absurd hdigit (by decide)
    rw [Wkt.Token.continues, Wkt.Token.isSpace, hend, hne ' ' (by decide), hne '\n' (by decide),
      hne '\r' (by decide), hne '\t' (by decide), hne '(' (by decide), hne ')' (by decide),
      hne ',' (by decide)]
    rfl
  · decide
  · decide

/-- A finite coordinate that reads back is told by its text. -/
theorem legible_of_isFinite {x : Float} (hfinite : isFinite x = true)
    (hread : float? (Layout.positional.text x) = some x) : Numeric.Legible x := by
  obtain ⟨hne, htext⟩ := text_positional hfinite
  obtain ⟨c, cs, hcs⟩ := List.exists_cons_of_ne_nil hne
  have hc : InNumeral c := htext c (by rw [hcs]; exact List.mem_cons_self)
  constructor
  case starts => exact ⟨c, cs, hcs, hc.startsNumber, hc.ne_plus⟩
  case continues => exact fun d hd => (htext d hd).continues
  case readBack => exact hread

end Number

/-- A geometry with finite coordinates that read back is written exactly if it has the expected kind
and its shape can be written; and then its text is the number of its reference system with a body that
is read as the same shape, or as the rings of the grouped polygons. -/
theorem Geometry.toText_reads_back (how : Containment Float) (expected : GeometryKind)
    (geometry : Geometry Float)
    (hfinite : ∀ x ∈ geometry.shape.numbers, Number.isFinite x = true)
    (hread : ∀ x ∈ geometry.shape.numbers,
      Number.float? (Number.Layout.positional.text x) = some x) :
    ((∃ text, geometry.toText how expected = .ok text) ↔
        geometry.shape.kind = expected ∧ geometry.shape.Writable how) ∧
      ∀ text, geometry.toText how expected = .ok text →
        ∃ body, text = "SRID=" ++ toString (geometry.reference.elim 3857 SpatialReference.wkid) ++ ";" ++
            body ∧
          Shape.ofText body = .ok (geometry.shape.grouped how) := by
  have hnumbers : ∀ c ∈ geometry.shape.coords, c.Legible ∧ c.same c = true := by
    intro c hc
    have hx : c.x ∈ geometry.shape.numbers := List.mem_flatMap.2 ⟨c, hc, by simp⟩
    have hy : c.y ∈ geometry.shape.numbers := List.mem_flatMap.2 ⟨c, hc, by simp⟩
    constructor
    · exact ⟨Number.legible_of_isFinite (hfinite _ hx) (hread _ hx),
        Number.legible_of_isFinite (hfinite _ hy) (hread _ hy)⟩
    · rw [Coord.same, Number.scalarEq_self (hfinite _ hx), Number.scalarEq_self (hfinite _ hy)]
      rfl
  have hwkid : geometry.wkid = geometry.reference.elim 3857 SpatialReference.wkid := by
    rw [Geometry.wkid]
    cases geometry.reference <;> rfl
  rw [← Shape.toText_eq_ok_iff, ← hwkid]
  unfold toText
  by_cases hkind : geometry.shape.kind = expected
  · rw [if_neg (not_not_intro hkind)]
    cases hbody : geometry.shape.toText how with
    | error fault =>
        constructor
        · apply iff_of_false
          · rintro ⟨text, htext⟩
            cases htext
          · rintro ⟨-, body, hok⟩
            cases hok
        · rintro text htext
          cases htext
    | ok body =>
        constructor
        · exact iff_of_true ⟨_, rfl⟩ ⟨hkind, body, rfl⟩
        · intro text htext
          refine ⟨body, (Except.ok.inj htext).symm, ?_⟩
          exact Shape.ofText_toText Number.scalarEq_comm (fun c hc => (hnumbers c hc).1)
            (fun c hc => (hnumbers c hc).2) hbody
  · rw [if_pos hkind]
    constructor
    · apply iff_of_false
      · rintro ⟨text, htext⟩
        cases htext
      · rintro ⟨hsame, -⟩
        exact hkind hsame
    · intro text htext
      cases htext

/-- A plot of land with a yard, and a ring that is too short. -/
def plot : Geometry Float where
  shape := .polygon [
    [⟨0, 0⟩, ⟨0, 10.5⟩, ⟨12.25, 10.5⟩, ⟨12.25, 0⟩],
    [⟨3, 3⟩, ⟨4.5, 3⟩, ⟨4.5, 4.125⟩, ⟨3, 3⟩],
    [⟨-1.5, 2⟩, ⟨0.001, 2⟩]]
  reference := some ⟨4326⟩

theorem Geometry.toText_reads_back_plot : ∃ text body,
    plot.toText .crossings .polygon = .ok text ∧ text = "SRID=4326;" ++ body ∧
      Shape.ofText body = .ok (.polygon [
        [⟨0, 0⟩, ⟨0, 10.5⟩, ⟨12.25, 10.5⟩, ⟨12.25, 0⟩, ⟨0, 0⟩],
        [⟨3, 3⟩, ⟨4.5, 3⟩, ⟨4.5, 4.125⟩, ⟨3, 3⟩]]) := by
  obtain ⟨hwritten, hread⟩ := toText_reads_back .crossings .polygon plot (by decide)
    (by decide)
  obtain ⟨text, htext⟩ := hwritten.2 ⟨rfl, by change _ ≠ _; decide⟩
  obtain ⟨body, hbody, hshape⟩ := hread text htext
  have hgrouped : plot.shape.grouped .crossings = .polygon [
      [⟨0, 0⟩, ⟨0, 10.5⟩, ⟨12.25, 10.5⟩, ⟨12.25, 0⟩, ⟨0, 0⟩],
      [⟨3, 3⟩, ⟨4.5, 3⟩, ⟨4.5, 4.125⟩, ⟨3, 3⟩]] := by decide
  rw [hgrouped] at hshape
  exact ⟨text, body, htext, hbody, hshape⟩

end GeoLayers
