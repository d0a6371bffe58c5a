import GeoLayers.Geometry.Ring
import Mathlib.Algebra.Order.Field.Rat
import Mathlib.Tactic.FieldSimp
import Mathlib.Tactic.Linarith
import Mathlib.Tactic.LinearCombination
import Mathlib.Tactic.Ring

/-!
Edges as sets of points, with exact coordinates. Rings are apart if no point lies on both of them.
The test for meeting edges solves for the point that they have in common, so rings that are apart
do not meet by the test.
-/

namespace GeoLayers

theorem Scalar.zero_rat : (Scalar.zero : ℚ) = 0 := Nat.cast_zero

theorem Scalar.one_rat : (Scalar.one : ℚ) = 1 := Nat.cast_one

/-- An edge, from its start to its end. -/
abbrev Edge := Coord ℚ × Coord ℚ

namespace Edge

/-- The point that is reached after a part of the way along an edge. -/
def along (e : Edge) (t : ℚ) : Coord ℚ :=
  ⟨e.1.x + t * (e.2.x - e.1.x), e.1.y + t * (e.2.y - e.1.y)⟩

/-- Whether a point lies on an edge, its ends included. -/
def Has (e : Edge) (c : Coord ℚ) : Prop := ∃ t, 0 ≤ t ∧ t ≤ 1 ∧ c = e.along t

theorem has_start (a b : Coord ℚ) : Has (a, b) a :=
  ⟨0, le_refl 0, zero_le_one, by simp [along]⟩

theorem has_end (a b : Coord ℚ) : Has (a, b) b :=
  ⟨1, zero_le_one, le_refl 1, by simp [along]⟩

theorem has_swap {e : Edge} {c : Coord ℚ} : Has e.swap c ↔ Has e c := by
  have hswap (e : Edge) (h : Has e c) : Has e.swap c := by
    obtain ⟨t, hlow, hhigh, rfl⟩ := h
    refine ⟨1 - t, by linarith, by linarith, ?_⟩
    simp only [along, Prod.fst_swap, Prod.snd_swap, Coord.mk.injEq]
    constructor <;> ring
  exact ⟨fun h => by simpa using hswap e.swap h, hswap e⟩

/-- The points between two points of an edge lie on the edge. -/
theorem Has.between {e : Edge} {u v c : Coord ℚ} (hu : Has e u) (hv : Has e v)
    (hc : Has (u, v) c) : Has e c := by
  obtain ⟨r, hr0, hr1, rfl⟩ := hu
  obtain ⟨s, hs0, hs1, rfl⟩ := hv
  obtain ⟨t, ht0, ht1, rfl⟩ := hc
  refine ⟨(1 - t) * r + t * s, ?_, ?_, ?_⟩
  · have hfirst := mul_nonneg (sub_nonneg.2 ht1) hr0
    have hsecond := mul_nonneg ht0 hs0
    linarith
  · have hfirst := mul_le_mul_of_nonneg_left hr1 (sub_nonneg.2 ht1)
    have hsecond := mul_le_mul_of_nonneg_left hs1 ht0
    linarith
  · simp only [along, Coord.mk.injEq]
    constructor <;> ring

end Edge

namespace Edge

/-- Whether two edges have the same direction or opposite ones. An edge without length is parallel to
every edge. -/
def Parallel (a b : Edge) : Prop :=
  (b.2.y - b.1.y) * (a.2.x - a.1.x) = (b.2.x - b.1.x) * (a.2.y - a.1.y)

theorem parallel_swap {a b : Edge} : Parallel a b.swap ↔ Parallel a b := by
  have hswap (b : Edge) (h : Parallel a b) : Parallel a b.swap := by
    simp only [Parallel, Prod.fst_swap, Prod.snd_swap] at h ⊢
    linarith
  exact ⟨fun h => by simpa using hswap b.swap h, hswap b⟩

/-- An edge is parallel to the parts of an edge that it is parallel to. -/
theorem Parallel.part {e : Edge} {u v c : Coord ℚ} (h : Parallel e (u, v)) (hc : Has (u, v) c) :
    Parallel e (u, c) := by
  obtain ⟨t, -, -, rfl⟩ := hc
  simp only [Parallel, along] at h ⊢
  linear_combination t * h

end Edge

namespace Ring

/-- Whether a point lies on a ring. -/
def Has (ring : Path ℚ) (c : Coord ℚ) : Prop := ∃ e ∈ edges ring, Edge.Has e c

/-- Two rings without a point in common. -/
def Apart (a b : Path ℚ) : Prop := ∀ c, Has a c → ¬Has b c

theorem Apart.symm {a b : Path ℚ} (h : Apart a b) : Apart b a := fun c hb ha => h c ha hb

instance : Std.Symm Apart := ⟨fun _ _ => Apart.symm⟩

end Ring

theorem edges_concat {α : Type} (path : Path α) (a b : Coord α) :
    edges (path ++ [a, b]) = edges (path ++ [a]) ++ [(a, b)] := by
  induction path with
  | nil => rfl
  | cons c rest ih =>
      cases rest with
      | nil => rfl
      | cons d rest => exact congrArg ((c, d) :: ·) ih

/-- The edges of a path backwards are its edges backwards. -/
theorem edges_reverse {α : Type} (path : Path α) :
    edges path.reverse = ((edges path).map Prod.swap).reverse := by
  induction path with
  | nil => rfl
  | cons a rest ih =>
      cases rest with
      | nil => rfl
      | cons b rest =>
          rw [List.reverse_cons, List.reverse_cons, List.append_assoc, List.singleton_append,
            edges_concat, ← List.reverse_cons, ih, edges, List.map_cons, List.reverse_cons]
          rfl

namespace Ring

theorem has_reverse {ring : Path ℚ} {c : Coord ℚ} : Has ring.reverse c ↔ Has ring c := by
  simp only [Has, edges_reverse, List.mem_reverse, List.mem_map, exists_exists_and_eq_and,
    Edge.has_swap]

theorem apart_reverse {a b : Path ℚ} : Apart a.reverse b ↔ Apart a b := by
  simp only [Apart, has_reverse]

theorem apart_reverse_right {a b : Path ℚ} : Apart a b.reverse ↔ Apart a b := by
  simp only [Apart, has_reverse]

/-- A ring that has an edge has a point, so it is not apart from itself. -/
theorem not_apart_self {ring : Path ℚ} (h : 2 ≤ ring.length) : ¬Apart ring ring := by
  match ring, h with
  | a :: b :: rest, _ =>
    have hstart : Has (a :: b :: rest) a := ⟨(a, b), List.mem_cons_self, Edge.has_start a b⟩
    exact fun hapart => hapart a hstart hstart

theorem isFraction_iff {t : ℚ} : isFraction t = true ↔ 0 ≤ t ∧ t ≤ 1 := by
  simp only [isFraction, Bool.and_eq_true, ← Scalar.zero_rat, ← Scalar.one_rat]
  exact and_congr decide_eq_true_iff decide_eq_true_iff

/-- Edges meet by the test exactly if they are not parallel and have a point in common, which is the
one that the test solves for. -/
theorem edgesMeet_iff {a b : Edge} : edgesMeet a b = true ↔
    ¬Edge.Parallel a b ∧ ∃ c, Edge.Has a c ∧ Edge.Has b c := by
  obtain ⟨⟨ax, ay⟩, ⟨ax', ay'⟩⟩ := a
  obtain ⟨⟨bx, by_⟩, ⟨bx', by'⟩⟩ := b
  have htest : edgesMeet (⟨ax, ay⟩, ⟨ax', ay'⟩) (⟨bx, by_⟩, ⟨bx', by'⟩) = true ↔
      (by' - by_) * (ax' - ax) - (bx' - bx) * (ay' - ay) ≠ 0 ∧
      isFraction (((bx' - bx) * (ay - by_) - (by' - by_) * (ax - bx)) /
        ((by' - by_) * (ax' - ax) - (bx' - bx) * (ay' - ay))) = true ∧
      isFraction (((ax' - ax) * (ay - by_) - (ay' - ay) * (ax - bx)) /
        ((by' - by_) * (ax' - ax) - (bx' - bx) * (ay' - ay))) = true := by
    rw [← Bool.and_eq_true, ← Scalar.zero_rat]
    simp only [edgesMeet, Scalar.eq, Bool.if_false_left, Bool.and_eq_true, Bool.not_eq_true',
      decide_eq_false_iff_not, beq_iff_eq, ne_eq]
  have hparallel : Edge.Parallel (⟨ax, ay⟩, ⟨ax', ay'⟩) (⟨bx, by_⟩, ⟨bx', by'⟩) ↔
      (by' - by_) * (ax' - ax) - (bx' - bx) * (ay' - ay) = 0 := sub_eq_zero.symm
  rw [htest, hparallel, isFraction_iff, isFraction_iff]
  refine and_congr_right fun hne => ⟨?_, ?_⟩
  · rintro ⟨⟨ha0, ha1⟩, hb0, hb1⟩
    refine ⟨_, ⟨_, ha0, ha1, rfl⟩, ⟨_, hb0, hb1, ?_⟩⟩
    simp only [Edge.along, Coord.mk.injEq]
    constructor
    · field_simp
      ring
    · field_simp
      ring
  · rintro ⟨c, ⟨t, ht0, ht1, rfl⟩, ⟨r, hr0, hr1, heq⟩⟩
    simp only [Edge.along, Coord.mk.injEq] at heq
    obtain ⟨hx, hy⟩ := heq
    have ht : ((bx' - bx) * (ay - by_) - (by' - by_) * (ax - bx)) /
        ((by' - by_) * (ax' - ax) - (bx' - bx) * (ay' - ay)) = t := by
      rw [div_eq_iff hne]
      linear_combination (bx' - bx) * hy - (by' - by_) * hx
    have hr : ((ax' - ax) * (ay - by_) - (ay' - ay) * (ax - bx)) /
        ((by' - by_) * (ax' - ax) - (bx' - bx) * (ay' - ay)) = r := by
      rw [div_eq_iff hne]
      linear_combination (ax' - ax) * hy - (ay' - ay) * hx
    rw [ht, hr]
    exact ⟨⟨ht0, ht1⟩, hr0, hr1⟩

theorem edgesMeet_swap {a b : Edge} : edgesMeet a b.swap = edgesMeet a b := by
  rw [Bool.eq_iff_iff, edgesMeet_iff, edgesMeet_iff, Edge.parallel_swap]
  simp only [Edge.has_swap]

/-- An edge that does not meet another one does not meet a part of it. -/
theorem edgesMeet_part {e : Edge} {u v c : Coord ℚ} (h : edgesMeet e (u, v) = false)
    (hc : Edge.Has (u, v) c) : edgesMeet e (u, c) = false := by
  rw [← Bool.not_eq_true, edgesMeet_iff] at h ⊢
  rintro ⟨hparallel, d, hd, hpart⟩
  exact h ⟨fun hwhole => hparallel (hwhole.part hc), d, hd, (Edge.has_start u v).between hc hpart⟩

theorem intersects_eq_false_iff {a b : Path ℚ} : intersects a b = false ↔
    ∀ ea ∈ edges a, ∀ eb ∈ edges b, edgesMeet ea eb = false := by
  simp [intersects]

/-- Rings that are apart do not meet by the test. -/
theorem Apart.intersects {a b : Path ℚ} (h : Apart a b) : Ring.intersects a b = false := by
  rw [intersects_eq_false_iff]
  intro ea hea eb heb
  rw [← Bool.not_eq_true, edgesMeet_iff]
  rintro ⟨-, c, hca, hcb⟩
  exact h c ⟨ea, hea, hca⟩ ⟨eb, heb, hcb⟩

end Ring

end GeoLayers
