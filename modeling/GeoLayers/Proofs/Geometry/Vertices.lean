import GeoLayers.Proofs.Geometry.Parity
import Mathlib.Logic.Function.Iterate

/-!
One vertex of a path decides whether a closed ring contains it. If the two do not meet by the test,
the ring encloses all that the path passes or nothing of it, so that the answer is the same for every
vertex, and for a closed path it is the same wherever the path starts.
-/

namespace GeoLayers.Ring

/-- Whether a path passes a point: in a vertex, or on an edge. -/
def Passes (path : Path ℚ) (c : Coord ℚ) : Prop := c ∈ path ∨ Has path c

/-- The vertices of a path lie on its edges, if it has any. -/
theorem has_of_mem {a b c : Coord ℚ} {rest : Path ℚ} (h : c ∈ a :: b :: rest) :
    Has (a :: b :: rest) c := by
  induction rest generalizing a b with
  | nil =>
      rcases List.mem_cons.1 h with rfl | hlast
      · exact ⟨(c, b), List.mem_cons_self, Edge.has_start c b⟩
      · obtain rfl := List.mem_singleton.1 hlast
        exact ⟨(a, c), List.mem_cons_self, Edge.has_end a c⟩
  | cons d rest ih =>
      rcases List.mem_cons.1 h with rfl | hmore
      · exact ⟨(c, b), List.mem_cons_self, Edge.has_start c b⟩
      · obtain ⟨e, he, hc⟩ := ih hmore
        exact ⟨e, List.mem_cons_of_mem (a, b) he, hc⟩

/-- A closed ring encloses all that a path passes which it does not meet, or nothing of it. -/
theorem encloses_iff_of_passes {outer : Path ℚ} (hclosed : Closed outer) {a c : Coord ℚ}
    {rest : Path ℚ} (hmeet : intersects outer (a :: rest) = false) (hc : Passes (a :: rest) c) :
    Encloses outer c ↔ Encloses outer a := by
  rcases hc with hmem | hhas
  · cases rest with
    | nil => rw [List.mem_singleton.1 hmem]
    | cons b rest => exact encloses_iff_of_has hclosed a (b :: rest) hmeet (has_of_mem hmem)
  · exact encloses_iff_of_has hclosed a rest hmeet hhas

/-- Whatever a path passes may be asked for in place of its first vertex. -/
theorem contains_eq_of_passes {outer inner : Path ℚ} (hclosed : Closed outer) {c : Coord ℚ}
    (hc : Passes inner c) :
    contains outer inner = (!intersects outer inner && containsPoint outer c) := by
  cases inner with
  | nil =>
      rcases hc with hmem | ⟨e, he, -⟩
      · cases hmem
      · cases he
  | cons a rest =>
      rw [contains]
      cases hmeet : intersects outer (a :: rest) with
      | true => rfl
      | false =>
          have hsame := encloses_iff_of_passes hclosed hmeet hc
          rw [← containsPoint_iff hclosed, ← containsPoint_iff hclosed, ← Bool.eq_iff_iff] at hsame
          rw [hsame]

/-! ### Where a closed path starts -/

section Turn

variable {α : Type}

/-- A closed ring gone round from its second vertex on. -/
def turn : Path α → Path α
  | _ :: b :: rest => b :: rest ++ [b]
  | ring => ring

theorem length_turn (ring : Path α) : (turn ring).length = ring.length := by
  match ring with
  | [] | [_] => rfl
  | a :: b :: rest => simp [turn]

theorem getElem?_turn {ring : Path α} {k : Nat} (h : k + 1 < ring.length) :
    (turn ring)[k]? = ring[k + 1]? := by
  match ring, h with
  | a :: b :: rest, h =>
    have hk : k < (b :: rest).length := by simpa using h
    rw [turn, List.getElem?_append_left hk, List.getElem?_cons_succ]

/-- A ring that is turned so often starts at the vertex with this number. -/
theorem getElem?_iterate_turn {ring : Path α} {n k : Nat} (h : n + k < ring.length) :
    (turn^[n] ring)[k]? = ring[n + k]? := by
  induction n generalizing ring with
  | zero => rw [Function.iterate_zero_apply, Nat.zero_add]
  | succ n ih =>
      have hturn : n + k < (turn ring).length := by
        rw [length_turn]
        omega
      have hnext : n + k + 1 < ring.length := by omega
      rw [Function.iterate_succ_apply, ih hturn, getElem?_turn hnext]
      congr 1
      omega

end Turn

theorem Closed.turn {ring : Path ℚ} (h : Closed ring) : Closed (turn ring) := by
  match ring, h with
  | [], h | [_], h => exact h
  | a :: b :: rest, _ =>
    change (b :: (rest ++ [b])).head? = (b :: rest ++ [b]).getLast?
    rw [List.getLast?_concat, List.head?_cons]

/-- Turning a closed ring moves its first edge to the end. -/
theorem edges_turn {a b : Coord ℚ} {rest : Path ℚ} (h : Closed (a :: b :: rest)) :
    edges (Ring.turn (a :: b :: rest)) = edges (b :: rest) ++ [(a, b)] := by
  have hlast : (b :: rest).getLast (List.cons_ne_nil b rest) = a := by
    rw [← h.getLast_eq, List.getLast_cons_cons]
  have hsplit : b :: rest = (b :: rest).dropLast ++ [a] := by
    rw [← hlast, List.dropLast_concat_getLast]
  rw [Ring.turn, hsplit, List.append_assoc, List.singleton_append, edges_concat]

theorem intersects_turn (outer : Path ℚ) {ring : Path ℚ} (h : Closed ring) :
    intersects outer (turn ring) = intersects outer ring := by
  match ring, h with
  | [], _ | [_], _ => rfl
  | a :: b :: rest, h =>
    have hmem (e : Edge) : e ∈ edges (turn (a :: b :: rest)) ↔ e ∈ edges (a :: b :: rest) := by
      rw [edges_turn h, edges, List.mem_append, List.mem_singleton, List.mem_cons, or_comm]
    rw [← Bool.not_inj_iff, Bool.eq_iff_iff, Bool.not_eq_true', Bool.not_eq_true',
      intersects_eq_false_iff, intersects_eq_false_iff]
    simp only [hmem]

theorem contains_turn {outer inner : Path ℚ} (hclosed : Closed outer) (h : Closed inner) :
    contains outer (turn inner) = contains outer inner := by
  match inner, h with
  | [], _ | [_], _ => rfl
  | a :: b :: rest, h =>
    have hstart : Passes (turn (a :: b :: rest)) b := .inl List.mem_cons_self
    have hsecond : Passes (a :: b :: rest) b := .inl (by simp)
    rw [contains_eq_of_passes hclosed hstart, contains_eq_of_passes hclosed hsecond,
      intersects_turn outer h]

theorem contains_iterate_turn {outer inner : Path ℚ} (hclosed : Closed outer) (h : Closed inner)
    (n : Nat) : contains outer (turn^[n] inner) = contains outer inner := by
  induction n generalizing inner with
  | zero => rfl
  | succ n ih => rw [Function.iterate_succ_apply, ih h.turn, contains_turn hclosed h]

/-- One vertex decides. For a path that a closed ring does not meet by the test, the test of a point
gives one answer for all vertices; containment is this answer, for whatever the path passes; and for
a closed path it is the same from whichever vertex the path starts. -/
theorem any_vertex_decides {outer : Path ℚ} (hclosed : Closed outer) (inner : Path ℚ) :
    (intersects outer inner = false →
      ∀ v ∈ inner, ∀ w ∈ inner, containsPoint outer v = containsPoint outer w) ∧
    (∀ c, Passes inner c →
      contains outer inner = (!intersects outer inner && containsPoint outer c)) ∧
    (Closed inner → ∀ n < inner.length, (turn^[n] inner).head? = inner[n]? ∧
      contains outer (turn^[n] inner) = contains outer inner) := by
  refine ⟨?_, fun c hc => contains_eq_of_passes hclosed hc, ?_⟩
  · intro hmeet v hv w hw
    have hfirst := contains_eq_of_passes hclosed (.inl hv)
    have hsecond := contains_eq_of_passes hclosed (.inl hw)
    rw [hmeet, Bool.not_false, Bool.true_and] at hfirst hsecond
    exact hfirst.symm.trans hsecond
  · intro h n hn
    rw [List.head?_eq_getElem?, getElem?_iterate_turn hn]
    exact ⟨rfl, contains_iterate_turn hclosed h n⟩

/-- A path along an edge of the ring does not meet it by the test, as all that it overlaps is
parallel. -/
theorem any_vertex_decides_overlap :
    let outer : Path ℚ := [⟨-5, 0⟩, ⟨5, 0⟩, ⟨5, 5⟩, ⟨-5, 5⟩, ⟨-5, 0⟩]
    let inner : Path ℚ := [⟨1, 0⟩, ⟨2, 0⟩, ⟨3, 0⟩, ⟨1, 0⟩]
    (Closed outer ∧ intersects outer inner = false ∧ Closed inner) ∧
      containsPoint outer ⟨1, 0⟩ = containsPoint outer ⟨3, 0⟩ ∧
      contains outer inner = containsPoint outer ⟨2, 0⟩ ∧
      contains outer (turn^[2] inner) = contains outer inner := by
  intro outer inner
  have hclosed : Closed outer := rfl
  have hmeet : intersects outer inner = false := by decide +kernel
  obtain ⟨hvertices, hpasses, hstarts⟩ := any_vertex_decides hclosed inner
  refine ⟨⟨hclosed, hmeet, rfl⟩, ?_, ?_, ?_⟩
  · exact hvertices hmeet _ List.mem_cons_self _ (by simp [inner])
  · have hsecond := hpasses ⟨2, 0⟩ (.inl (by simp [inner]))
    rwa [hmeet, Bool.not_false, Bool.true_and] at hsecond
  · exact (hstarts rfl 2 (by decide)).2

end GeoLayers.Ring
