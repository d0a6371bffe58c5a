import GeoLayers.Geometry.Conversion
import GeoLayers.Proofs.Geometry.Closed
import GeoLayers.Proofs.Geometry.Square
import Mathlib.Data.List.Forall2
import Mathlib.Data.List.Nodup
import Mathlib.Data.List.Pairwise

/-!
Whether the rings of polygons keep their roles when they are read from a text and written again.
Reading puts all rings into one list; writing has to tell from their orientation and from how they
lie to each other which of them are shells and whose holes the others are.
-/

namespace GeoLayers

/-- Two rings are the same up to the way in which they are gone round. -/
def Ring.Same (a b : Path ℚ) : Prop := b = a ∨ b = a.reverse

namespace Polygon

/-- Two polygons have the same shell, and the same holes in any order. -/
def Same (p q : Polygon ℚ) : Prop :=
  Ring.Same p.shell q.shell ∧ ∃ holes, holes.Perm q.holes ∧ List.Forall₂ Ring.Same p.holes holes

/-- Two lists have the same polygons, in any order. -/
def SameSet (ps qs : List (Polygon ℚ)) : Prop :=
  ∃ polygons, polygons.Perm qs ∧ List.Forall₂ Same ps polygons

/-- Polygons whose rings are closed and long enough and have no point in common, and whose holes lie
inside their shells. -/
structure Arrangement (ps : List (Polygon ℚ)) : Prop where
  closed : ∀ ring ∈ ps.flatMap rings, Ring.Closed ring
  long : ∀ ring ∈ ps.flatMap rings, 4 ≤ ring.length
  apart : (ps.flatMap rings).Pairwise Ring.Apart
  inside : ∀ p ∈ ps, ∀ hole ∈ p.holes, Ring.Inside p.shell hole

/-- Polygons from whose rings alone their roles can be told. -/
structure Recoverable (ps : List (Polygon ℚ)) : Prop where
  /-- No hole is clockwise. -/
  holes : ∀ p ∈ ps, ∀ hole ∈ p.holes, ¬Ring.Clockwise hole
  /-- A shell with a hole is clockwise. -/
  shells : ∀ p ∈ ps, p.holes ≠ [] → Ring.Clockwise p.shell
  /-- No later clockwise shell goes round a hole. -/
  order : ps.Pairwise fun p later =>
    Ring.Clockwise later.shell → ∀ hole ∈ p.holes, ¬Ring.Inside later.shell hole
  /-- No clockwise shell goes round a shell that is not clockwise. -/
  islands : ∀ p ∈ ps, ∀ q ∈ ps, Ring.Clockwise q.shell → ¬Ring.Clockwise p.shell →
    ¬Ring.Inside q.shell p.shell

theorem mem_rings {p : Polygon ℚ} {ring : Path ℚ} :
    ring ∈ p.rings ↔ ring = p.shell ∨ ring ∈ p.holes := List.mem_cons

theorem shell_mem {ps : List (Polygon ℚ)} {p : Polygon ℚ} (hp : p ∈ ps) :
    p.shell ∈ ps.flatMap rings :=
  List.mem_flatMap.2 ⟨p, hp, List.mem_cons_self⟩

theorem hole_mem {ps : List (Polygon ℚ)} {p : Polygon ℚ} {hole : Path ℚ} (hp : p ∈ ps)
    (hhole : hole ∈ p.holes) : hole ∈ ps.flatMap rings :=
  List.mem_flatMap.2 ⟨p, hp, List.mem_cons_of_mem p.shell hhole⟩

/-- The rings that pass a test which no hole passes are shells, in the order of the polygons. -/
theorem filter_rings {test : Path ℚ → Bool} {ps : List (Polygon ℚ)}
    (h : ∀ p ∈ ps, ∀ hole ∈ p.holes, test hole = false) :
    (ps.flatMap rings).filter test = (ps.filter fun p => test p.shell).map Polygon.shell := by
  induction ps with
  | nil => rfl
  | cons p ps ih =>
      obtain ⟨hp, hps⟩ := List.forall_mem_cons.1 h
      have hholes : p.holes.filter test = [] := List.filter_eq_nil_iff.2 (by simpa using hp)
      rw [List.flatMap_cons, List.filter_append, ih hps, rings, List.filter_cons, hholes]
      by_cases hshell : test p.shell = true <;> simp [hshell]

namespace Arrangement

variable {ps : List (Polygon ℚ)} (h : Arrangement ps)
include h

theorem nodup : (ps.flatMap rings).Nodup := by
  refine h.apart.imp_of_mem fun {a b} ha _ hapart => ?_
  rintro rfl
  exact Ring.not_apart_self (le_trans (by decide) (h.long a ha)) hapart

theorem apart_of_ne {a b : Path ℚ} (ha : a ∈ ps.flatMap rings) (hb : b ∈ ps.flatMap rings)
    (hne : a ≠ b) : Ring.Apart a b :=
  h.apart.forall ha hb hne

/-- No ring is another one turned round. -/
theorem eq_of_same {a b : Path ℚ} (ha : a ∈ ps.flatMap rings) (hb : b ∈ ps.flatMap rings)
    (hsame : Ring.Same a b) : a = b := by
  rcases hsame with rfl | rfl
  · rfl
  · by_contra hne
    have hapart := Ring.apart_reverse_right.1 (h.apart_of_ne ha hb hne)
    exact Ring.not_apart_self (le_trans (by decide) (h.long a ha)) hapart

theorem rings_disjoint : ps.Pairwise (Function.onFun List.Disjoint rings) :=
  (List.nodup_flatMap.1 h.nodup).2

theorem polygons_nodup : ps.Nodup := by
  refine h.rings_disjoint.imp fun {p q} hdisjoint => ?_
  rintro rfl
  exact hdisjoint (mem_rings.2 (.inl rfl)) (mem_rings.2 (.inl rfl))

/-- A ring belongs to one polygon only. -/
theorem eq_of_mem_rings {p q : Polygon ℚ} {ring : Path ℚ} (hp : p ∈ ps) (hq : q ∈ ps)
    (hring : ring ∈ p.rings) (hring' : ring ∈ q.rings) : p = q := by
  have hsymm : Std.Symm (Function.onFun List.Disjoint fun p : Polygon ℚ => p.rings) :=
    ⟨fun _ _ hdisjoint => List.disjoint_symm hdisjoint⟩
  by_contra hne
  exact h.rings_disjoint.forall hp hq hne hring hring'

theorem eq_of_shell_eq {p q : Polygon ℚ} (hp : p ∈ ps) (hq : q ∈ ps)
    (hshell : p.shell = q.shell) : p = q :=
  h.eq_of_mem_rings hp hq (mem_rings.2 (.inl rfl)) (mem_rings.2 (.inl hshell))

theorem hole_ne_shell {p q : Polygon ℚ} {hole : Path ℚ} (hp : p ∈ ps) (hhole : hole ∈ p.holes)
    (hq : q ∈ ps) : hole ≠ q.shell := by
  rintro rfl
  obtain rfl := h.eq_of_mem_rings hp hq (mem_rings.2 (.inr hhole)) (mem_rings.2 (.inl rfl))
  exact (List.nodup_cons.1 ((List.nodup_flatMap.1 h.nodup).1 p hp)).1 hhole

theorem properRings_eq : properRings (ps.flatMap rings) = ps.flatMap rings := by
  have hclose : (ps.flatMap rings).map Ring.close = (ps.flatMap rings).map id :=
    List.map_congr_left fun ring hring => Ring.closed_iff.1 (h.closed ring hring)
  rw [properRings, hclose, List.map_id, List.filter_eq_self]
  exact fun ring hring => decide_eq_true (h.long ring hring)

/-- For two rings the test decides whether one lies inside the other. -/
theorem contains_iff {outer inner : Path ℚ} (houter : outer ∈ ps.flatMap rings)
    (hinner : inner ∈ ps.flatMap rings) (hne : outer ≠ inner) :
    Containment.crossings.contains outer inner = true ↔ Ring.Inside outer inner :=
  (h.apart_of_ne houter hinner hne).contains_iff (h.closed outer houter)
    (le_trans (by decide) (h.long inner hinner))

/-- The polygons that the rings form. -/
theorem group_eq : group .crossings (ps.flatMap rings) =
    withHoles (clockwiseRings (ps.flatMap rings))
        (holesOf .crossings (clockwiseRings (ps.flatMap rings)) (otherRings (ps.flatMap rings))) ++
      (strays .crossings (clockwiseRings (ps.flatMap rings)) (otherRings (ps.flatMap rings))).map
        fun hole => ⟨hole.reverse, []⟩ := by
  refine Polygon.group_eq .crossings h.properRings_eq h.nodup ?_ ?_
  · exact fun a ha b hb hne => (h.apart_of_ne ha hb hne).intersects
  · exact h.apart.imp fun hapart => (Ring.apart_reverse.2 hapart).intersects

theorem mem_group {q : Polygon ℚ} (hq : q ∈ group .crossings (ps.flatMap rings)) :
    (q.shell ∈ ps.flatMap rings ∧ Ring.isClockwise q.shell = true ∧
        ∀ hole ∈ q.holes, hole ∈ ps.flatMap rings ∧ Ring.isClockwise hole = false ∧
          owner .crossings (clockwiseRings (ps.flatMap rings)) hole = some q.shell) ∨
      (q.holes = [] ∧ ∃ ring ∈ ps.flatMap rings, q.shell = ring.reverse ∧
        owner .crossings (clockwiseRings (ps.flatMap rings)) ring = none) := by
  rw [h.group_eq] at hq
  rcases List.mem_append.1 hq with hq | hq
  · obtain ⟨shell, hshell, rfl⟩ := List.mem_map.1 hq
    obtain ⟨hshell, hclockwise⟩ := List.mem_filter.1 hshell
    refine .inl ⟨hshell, hclockwise, fun hole hhole => ?_⟩
    obtain ⟨hother, howner⟩ := List.mem_filter.1 (List.mem_reverse.1 hhole)
    obtain ⟨hhole, hcounter⟩ := List.mem_filter.1 hother
    exact ⟨hhole, by simpa using hcounter, by simpa using howner⟩
  · obtain ⟨ring, hring, rfl⟩ := List.mem_map.1 hq
    obtain ⟨hother, howner⟩ := List.mem_filter.1 hring
    exact .inr ⟨rfl, ring, (List.mem_filter.1 hother).1, rfl, by simpa using howner⟩

end Arrangement

/-- Polygons whose holes are all given back to their shells, and whose other shells to none. -/
structure Assigned (ps : List (Polygon ℚ)) : Prop where
  hole : ∀ p ∈ ps, ∀ hole ∈ p.holes,
    Ring.isClockwise hole = false ∧ Ring.isClockwise p.shell = true ∧
      owner .crossings (clockwiseRings (ps.flatMap rings)) hole = some p.shell
  island : ∀ p ∈ ps, Ring.isClockwise p.shell = false →
    owner .crossings (clockwiseRings (ps.flatMap rings)) p.shell = none

/-- The strays are the shells that are not clockwise. -/
theorem Assigned.strays_eq {ps : List (Polygon ℚ)} (hassigned : Assigned ps) :
    strays .crossings (clockwiseRings (ps.flatMap rings)) (otherRings (ps.flatMap rings)) =
      (ps.filter fun p => !Ring.isClockwise p.shell).map Polygon.shell := by
  rw [strays, otherRings, List.filter_filter, filter_rings]
  · refine congrArg (List.map Polygon.shell) (List.filter_congr fun p hp => ?_)
    cases hclockwise : Ring.isClockwise p.shell with
    | true => simp
    | false => simp [hassigned.island p hp hclockwise]
  · intro p hp hole hhole
    simp [(hassigned.hole p hp hole hhole).2.2]

/-- Whether the shell of a polygon is clockwise and contains a ring. -/
def goesRound (ring : Path ℚ) (q : Polygon ℚ) : Bool :=
  Ring.isClockwise q.shell && Containment.crossings.contains q.shell ring

/-- The owner of a ring is the shell of the last polygon that goes round it. -/
theorem owner_eq {ps : List (Polygon ℚ)}
    (hholes : ∀ p ∈ ps, ∀ hole ∈ p.holes, Ring.isClockwise hole = false)
    (ring : Path ℚ) : owner .crossings (clockwiseRings (ps.flatMap rings)) ring =
      (ps.reverse.find? (goesRound ring)).map Polygon.shell := by
  rw [owner, clockwiseRings, filter_rings hholes, ← List.map_reverse, List.find?_map,
    ← List.filter_reverse, List.find?_filter]
  simp only [Function.comp_def, Bool.decide_and, Bool.decide_eq_true]
  rfl

/-- If no hole is clockwise, the clockwise rings are the clockwise shells. -/
theorem withHoles_clockwiseRings {ps : List (Polygon ℚ)}
    (hholes : ∀ p ∈ ps, ∀ hole ∈ p.holes, Ring.isClockwise hole = false)
    (holes : Path ℚ → List (Path ℚ)) : withHoles (clockwiseRings (ps.flatMap rings)) holes =
      (ps.filter fun p => Ring.isClockwise p.shell).map fun p => ⟨p.shell, holes p.shell⟩ := by
  rw [withHoles, clockwiseRings, filter_rings hholes, List.map_map]
  rfl

theorem exists_of_forall₂ {β γ : Type} {R : β → γ → Prop} {as : List β} {bs : List γ}
    (h : List.Forall₂ R as bs) {a : β} (ha : a ∈ as) : ∃ b ∈ bs, R a b := by
  induction h with
  | nil => cases ha
  | cons hfirst _ ih =>
      rcases List.mem_cons.1 ha with rfl | ha
      · exact ⟨_, List.mem_cons_self, hfirst⟩
      · obtain ⟨b, hb, hR⟩ := ih ha
        exact ⟨b, List.mem_cons_of_mem _ hb, hR⟩

namespace Arrangement

variable {ps : List (Polygon ℚ)} (h : Arrangement ps)
include h

theorem assigned_of_sameSet (hsame : SameSet ps (group .crossings (ps.flatMap rings))) :
    Assigned ps := by
  obtain ⟨polygons, hperm, hforall⟩ := hsame
  constructor
  case hole =>
    intro p hp hole hhole
    obtain ⟨q, hq, hshell, holes, hholes, hsame⟩ := exists_of_forall₂ hforall hp
    obtain ⟨other, hother, hring⟩ := exists_of_forall₂ hsame hhole
    rcases h.mem_group (hperm.mem_iff.1 hq) with ⟨hmem, hclockwise, howned⟩ | ⟨hnone, -⟩
    · obtain ⟨hotherMem, hcounter, howner⟩ := howned other (hholes.mem_iff.1 hother)
      obtain rfl := h.eq_of_same (hole_mem hp hhole) hotherMem hring
      rw [h.eq_of_same (shell_mem hp) hmem hshell]
      exact ⟨hcounter, hclockwise, howner⟩
    · rw [hnone, List.perm_nil] at hholes
      rw [hholes] at hother
      cases hother
  case island =>
    intro p hp hcounter
    obtain ⟨q, hq, hshell, -⟩ := exists_of_forall₂ hforall hp
    rcases h.mem_group (hperm.mem_iff.1 hq) with ⟨hmem, hclockwise, -⟩ | ⟨-, ring, hmem, hturned, howner⟩
    · rw [h.eq_of_same (shell_mem hp) hmem hshell, hclockwise] at hcounter
      cases hcounter
    · have hsame : Ring.Same p.shell ring := by
        rcases hshell with heq | heq
        · exact .inr (by rw [← heq, hturned, List.reverse_reverse])
        · exact .inl (List.reverse_inj.1 (hturned.symm.trans heq))
      rwa [h.eq_of_same (shell_mem hp) hmem hsame]

theorem mem_holesOf_iff (hassigned : Assigned ps) {p : Polygon ℚ} (hp : p ∈ ps) {hole : Path ℚ} :
    hole ∈ holesOf .crossings (clockwiseRings (ps.flatMap rings)) (otherRings (ps.flatMap rings))
        p.shell ↔ hole ∈ p.holes := by
  rw [holesOf, List.mem_reverse, List.mem_filter, decide_eq_true_iff]
  constructor
  · rintro ⟨hother, howner⟩
    obtain ⟨hmem, hcounter⟩ := List.mem_filter.1 hother
    obtain ⟨q, hq, hring⟩ := List.mem_flatMap.1 hmem
    rcases mem_rings.1 hring with rfl | hhole
    · rw [hassigned.island q hq (by simpa using hcounter)] at howner
      cases howner
    · obtain ⟨-, -, howner'⟩ := hassigned.hole q hq hole hhole
      rw [howner', Option.some.injEq] at howner
      rwa [← h.eq_of_shell_eq hq hp howner]
  · intro hhole
    obtain ⟨hcounter, -, howner⟩ := hassigned.hole p hp hole hhole
    exact ⟨List.mem_filter.2 ⟨hole_mem hp hhole, by simp [hcounter]⟩, howner⟩

theorem sameSet_of_assigned (hassigned : Assigned ps) :
    SameSet ps (group .crossings (ps.flatMap rings)) := by
  -- what writing makes of a polygon
  let written (p : Polygon ℚ) : Polygon ℚ :=
    if Ring.isClockwise p.shell then
      ⟨p.shell, holesOf .crossings (clockwiseRings (ps.flatMap rings))
        (otherRings (ps.flatMap rings)) p.shell⟩
    else ⟨p.shell.reverse, []⟩
  have hgroup : group .crossings (ps.flatMap rings) =
      (ps.filter fun p => Ring.isClockwise p.shell).map written ++
        (ps.filter fun p => !Ring.isClockwise p.shell).map written := by
    rw [h.group_eq, hassigned.strays_eq, List.map_map,
      withHoles_clockwiseRings fun p hp hole hhole => (hassigned.hole p hp hole hhole).1]
    refine congrArg₂ _ (List.map_congr_left fun p hp => ?_) (List.map_congr_left fun p hp => ?_)
    · simp [written, (List.mem_filter.1 hp).2]
    · have hcounter : Ring.isClockwise p.shell = false := by simpa using (List.mem_filter.1 hp).2
      simp [written, hcounter]
  refine ⟨ps.map written, ?_, List.forall₂_map_right_iff.2 (List.forall₂_same.2 fun p hp => ?_)⟩
  · rw [hgroup, ← List.map_append]
    exact (List.filter_append_perm _ ps).symm.map written
  · cases hclockwise : Ring.isClockwise p.shell with
    | true =>
        have hholes : p.holes.Perm (written p).holes := by
          simp only [written, hclockwise, if_true]
          refine (List.perm_ext_iff_of_nodup ?_ ?_).2 fun hole => (h.mem_holesOf_iff hassigned hp).symm
          · exact (List.nodup_cons.1 ((List.nodup_flatMap.1 h.nodup).1 p hp)).2
          · exact List.nodup_reverse.2 ((h.nodup.filter _).filter _)
        exact ⟨.inl (by simp [written, hclockwise]), p.holes, hholes,
          List.forall₂_same.2 fun _ _ => .inl rfl⟩
    | false =>
        have hnone : p.holes = [] := by
          refine List.eq_nil_iff_forall_not_mem.2 fun hole hhole => ?_
          rw [(hassigned.hole p hp hole hhole).2.1] at hclockwise
          cases hclockwise
        refine ⟨.inr (by simp [written, hclockwise]), [], ?_, by simp [hnone]⟩
        simp [written, hclockwise]

theorem isClockwise_iff {ring : Path ℚ} (hring : ring ∈ ps.flatMap rings) :
    Ring.isClockwise ring = true ↔ Ring.Clockwise ring :=
  Ring.isClockwise_iff (h.closed ring hring)

theorem goesRound_iff {q : Polygon ℚ} {ring : Path ℚ} (hq : q ∈ ps)
    (hring : ring ∈ ps.flatMap rings) (hne : ring ≠ q.shell) :
    goesRound ring q = true ↔ Ring.Clockwise q.shell ∧ Ring.Inside q.shell ring := by
  rw [goesRound, Bool.and_eq_true, h.isClockwise_iff (shell_mem hq),
    h.contains_iff (shell_mem hq) hring hne.symm]

theorem owner_eq_some_iff (hholes : ∀ p ∈ ps, ∀ hole ∈ p.holes, Ring.isClockwise hole = false)
    {p : Polygon ℚ} (hp : p ∈ ps) (ring : Path ℚ) :
    owner .crossings (clockwiseRings (ps.flatMap rings)) ring = some p.shell ↔
      ps.reverse.find? (goesRound ring) = some p := by
  rw [owner_eq hholes, Option.map_eq_some_iff]
  constructor
  · rintro ⟨q, hfound, hshell⟩
    have hq := List.mem_reverse.1 (List.mem_of_find?_eq_some hfound)
    rwa [← h.eq_of_shell_eq hq hp hshell]
  · exact fun hfound => ⟨p, hfound, rfl⟩

/-- Each hole goes to its own shell exactly if no later clockwise shell goes round it. -/
theorem owners_iff_order (hholes : ∀ p ∈ ps, ∀ hole ∈ p.holes, Ring.isClockwise hole = false)
    (hshells : ∀ p ∈ ps, p.holes ≠ [] → Ring.Clockwise p.shell) :
    (∀ p ∈ ps, ∀ hole ∈ p.holes,
        owner .crossings (clockwiseRings (ps.flatMap rings)) hole = some p.shell) ↔
      ps.Pairwise fun p later =>
        Ring.Clockwise later.shell → ∀ hole ∈ p.holes, ¬Ring.Inside later.shell hole := by
  have hown (p : Polygon ℚ) (hp : p ∈ ps) (hole : Path ℚ) (hhole : hole ∈ p.holes) :
      goesRound hole p = true :=
    (h.goesRound_iff hp (hole_mem hp hhole) (h.hole_ne_shell hp hhole hp)).2
      ⟨hshells p hp (List.ne_nil_of_mem hhole), h.inside p hp hole hhole⟩
  have howner : (∀ p ∈ ps, ∀ hole ∈ p.holes,
        owner .crossings (clockwiseRings (ps.flatMap rings)) hole = some p.shell) ↔
      ∀ p ∈ ps, ∀ hole ∈ p.holes, ps.reverse.find? (goesRound hole) = some p :=
    forall₂_congr fun p hp => forall₂_congr fun hole _ => h.owner_eq_some_iff hholes hp hole
  rw [howner, find?_reverse_iff_pairwise h.polygons_nodup hown]
  refine List.Pairwise.iff_of_mem fun {p later} hp hlater => ?_
  have hnot (hole : Path ℚ) (hhole : hole ∈ p.holes) : goesRound hole later = false ↔
      (Ring.Clockwise later.shell → ¬Ring.Inside later.shell hole) := by
    rw [← Bool.not_eq_true, h.goesRound_iff hlater (hole_mem hp hhole)
      (h.hole_ne_shell hp hhole hlater), not_and]
  constructor
  · exact fun hfalse hclockwise hole hhole => (hnot hole hhole).1 (hfalse hole hhole) hclockwise
  · exact fun horder hole hhole => (hnot hole hhole).2 fun hclockwise =>
      horder hclockwise hole hhole

/-- A shell that is not clockwise goes to no other one exactly if no clockwise shell goes round
it. -/
theorem owner_eq_none_iff (hholes : ∀ p ∈ ps, ∀ hole ∈ p.holes, Ring.isClockwise hole = false)
    {p : Polygon ℚ} (hp : p ∈ ps) (hcounter : ¬Ring.Clockwise p.shell) :
    owner .crossings (clockwiseRings (ps.flatMap rings)) p.shell = none ↔
      ∀ q ∈ ps, Ring.Clockwise q.shell → ¬Ring.Inside q.shell p.shell := by
  rw [owner_eq hholes, Option.map_eq_none_iff, List.find?_eq_none]
  simp only [List.mem_reverse]
  refine forall₂_congr fun q hq => ?_
  by_cases hclockwise : Ring.Clockwise q.shell
  · have hne : p.shell ≠ q.shell := fun heq => hcounter (heq ▸ hclockwise)
    rw [h.goesRound_iff hq (shell_mem hp) hne, not_and]
  · simp [goesRound, hclockwise, h.isClockwise_iff (shell_mem hq)]

theorem assigned_iff_recoverable : Assigned ps ↔ Recoverable ps := by
  constructor
  · intro hassigned
    have hholes (p : Polygon ℚ) (hp : p ∈ ps) (hole : Path ℚ) (hhole : hole ∈ p.holes) :=
      (hassigned.hole p hp hole hhole).1
    have hshells (p : Polygon ℚ) (hp : p ∈ ps) (hne : p.holes ≠ []) : Ring.Clockwise p.shell := by
      obtain ⟨hole, hhole⟩ := List.exists_mem_of_ne_nil p.holes hne
      exact (h.isClockwise_iff (shell_mem hp)).1 (hassigned.hole p hp hole hhole).2.1
    refine ⟨fun p hp hole hhole => ?_, hshells, ?_, fun p hp q hq hclockwise hcounter => ?_⟩
    · rw [← h.isClockwise_iff (hole_mem hp hhole), hholes p hp hole hhole]
      exact Bool.false_ne_true
    · exact (h.owners_iff_order hholes hshells).1 fun p hp hole hhole =>
        (hassigned.hole p hp hole hhole).2.2
    · have howner := hassigned.island p hp
        (by rwa [← Bool.not_eq_true, h.isClockwise_iff (shell_mem hp)])
      exact (h.owner_eq_none_iff hholes hp hcounter).1 howner q hq hclockwise
  · intro hrecoverable
    have hholes (p : Polygon ℚ) (hp : p ∈ ps) (hole : Path ℚ) (hhole : hole ∈ p.holes) :
        Ring.isClockwise hole = false := by
      rw [← Bool.not_eq_true, h.isClockwise_iff (hole_mem hp hhole)]
      exact hrecoverable.holes p hp hole hhole
    constructor
    case hole =>
      refine fun p hp hole hhole => ⟨hholes p hp hole hhole, ?_, ?_⟩
      · exact (h.isClockwise_iff (shell_mem hp)).2
          (hrecoverable.shells p hp (List.ne_nil_of_mem hhole))
      · exact (h.owners_iff_order hholes hrecoverable.shells).2 hrecoverable.order p hp hole hhole
    case island =>
      intro p hp hcounter
      have hcounter : ¬Ring.Clockwise p.shell := by
        rw [← h.isClockwise_iff (shell_mem hp), hcounter]
        exact Bool.false_ne_true
      exact (h.owner_eq_none_iff hholes hp hcounter).2 fun q hq hclockwise =>
        hrecoverable.islands p hp q hq hclockwise hcounter

/-- The rings of an arrangement are grouped into its polygons exactly if these can be recovered. -/
theorem sameSet_iff : SameSet ps (group .crossings (ps.flatMap rings)) ↔ Recoverable ps :=
  ⟨fun hsame => h.assigned_iff_recoverable.1 (h.assigned_of_sameSet hsame),
    fun hrecoverable => h.sameSet_of_assigned (h.assigned_iff_recoverable.2 hrecoverable)⟩

theorem group_ne_nil (hne : ps ≠ []) : group .crossings (ps.flatMap rings) ≠ [] := by
  intro hgroup
  obtain ⟨p, hp⟩ := List.exists_mem_of_ne_nil ps hne
  rw [h.group_eq, List.append_eq_nil_iff, withHoles, List.map_eq_nil_iff, List.map_eq_nil_iff,
    strays, List.filter_eq_nil_iff] at hgroup
  obtain ⟨hclockwise, hstrays⟩ := hgroup
  have hcounter : ¬Ring.isClockwise p.shell = true :=
    List.filter_eq_nil_iff.1 hclockwise p.shell (shell_mem hp)
  refine hstrays p.shell (List.mem_filter.2 ⟨shell_mem hp, by simpa using hcounter⟩) ?_
  simp [hclockwise, owner]

end Arrangement

/-- The points that a polygon covers: its shell encloses them, and none of its holes does. -/
def Covers (p : Polygon ℚ) (c : Coord ℚ) : Prop :=
  Ring.Encloses p.shell c ∧ ∀ hole ∈ p.holes, ¬Ring.Encloses hole c

/-- Polygons in an arrangement whose rings all have an area and that cover no point twice. -/
structure Valid (ps : List (Polygon ℚ)) : Prop extends Arrangement ps where
  area : ∀ ring ∈ ps.flatMap rings, Ring.doubleArea ring ≠ 0
  disjoint : ps.Pairwise fun p q => ∀ c, p.Covers c → ¬q.Covers c

end Polygon

/-- The polygons that a text holds. -/
def Wkt.polygons? {α : Type} : Wkt α → Option (List (Polygon α))
  | .polygon p => some [p]
  | .multiPolygon ps => some ps
  | _ => none

/-- A text is read as rings, which are written again as some polygons. -/
def Shape.Rewrites [Numeric ℚ] (text : String) (qs : List (Polygon ℚ)) : Prop :=
  ∃ rings, ofText text = .ok (.polygon rings) ∧ qs = Polygon.group .crossings rings ∧
    (Shape.polygon rings).toText .crossings = .ok (Wkt.render (.multiPolygon qs))

theorem Shape.ofText_polygons [Numeric ℚ] {text : String} {ps : List (Polygon ℚ)}
    (hread : (Wkt.read? (Text.trim text)).bind Wkt.polygons? = some ps) :
    ofText text = .ok (.polygon (ps.flatMap Polygon.rings)) := by
  obtain ⟨g, hg, hps⟩ := Option.bind_eq_some_iff.1 hread
  cases g with
  | polygon p =>
      obtain rfl := Option.some.inj hps
      rw [ofText, hg]
      simp
  | multiPolygon qs =>
      obtain rfl := Option.some.inj hps
      rw [ofText, hg]
  | _ => cases hps

theorem Shape.toText_polygon [Numeric ℚ] {rings : List (Path ℚ)}
    (h : Polygon.group .crossings rings ≠ []) : (Shape.polygon rings).toText .crossings =
      .ok (Wkt.render (.multiPolygon (Polygon.group .crossings rings))) := by
  rw [toText]
  split
  · next hnil => exact absurd hnil h
  · rfl

/-- The polygons of a text keep their rings in their roles, when they are read and written again,
exactly if these can be recovered from the rings alone. -/
theorem Shape.keepsRoles_iff_recoverable [Numeric ℚ] {text : String} {ps : List (Polygon ℚ)}
    (hread : (Wkt.read? (Text.trim text)).bind Wkt.polygons? = some ps) (hne : ps ≠ [])
    (h : Polygon.Arrangement ps) :
    ∃ qs, Rewrites text qs ∧ (Polygon.SameSet ps qs ↔ Polygon.Recoverable ps) :=
  ⟨_, ⟨_, ofText_polygons hread, rfl, toText_polygon (h.group_ne_nil hne)⟩, h.sameSet_iff⟩

/-- Exact numbers, written as fractions where they are not whole. Only whole ones are read. -/
instance : Numeric ℚ where
  text q := if q.den = 1 then toString q.num else toString q.num ++ "/" ++ toString q.den
  read? s := (Number.int64? s).map fun n => (n : ℚ)

namespace Polygon

theorem Same.length_holes {p q : Polygon ℚ} (h : Same p q) : p.holes.length = q.holes.length := by
  obtain ⟨-, holes, hperm, hforall⟩ := h
  rw [hforall.length_eq, hperm.length_eq]

theorem SameSet.perm_holes {ps qs : List (Polygon ℚ)} (h : SameSet ps qs) :
    (ps.map fun p => p.holes.length).Perm (qs.map fun q => q.holes.length) := by
  obtain ⟨polygons, hperm, hforall⟩ := h
  have hlengths : List.Forall₂ Eq (ps.map fun p => p.holes.length)
      (polygons.map fun q => q.holes.length) :=
    List.forall₂_map_left_iff.2 (List.forall₂_map_right_iff.2
      (hforall.imp fun _ _ => Same.length_holes))
  rw [List.forall₂_eq_eq_eq] at hlengths
  rw [hlengths]
  exact hperm.map _

/-- A square frame: a square with a square hole, around the middle of all frames. -/
def frame (a : ℚ) : Polygon ℚ := ⟨Ring.square a (9 - a), [(Ring.square (a + 1) (8 - a)).reverse]⟩

theorem arrangement_frames {a b : ℚ} (hab : a + 1 < b) (hb : b < 3) :
    Arrangement [frame a, frame b] := by
  have hsquare (u v : ℚ) : Ring.Closed (Ring.square u v) ∧ 4 ≤ (Ring.square u v).length :=
    ⟨rfl, by simp [Ring.square]⟩
  have hreverse (u v : ℚ) :
      Ring.Closed (Ring.square u v).reverse ∧ 4 ≤ (Ring.square u v).reverse.length :=
    ⟨rfl, by simp [Ring.square]⟩
  constructor
  case closed => simp [frame, rings, hsquare, hreverse]
  case long => simp [frame, rings, Ring.square]
  case apart =>
    simp only [frame, rings, List.flatMap_cons, List.flatMap_nil, List.append_nil,
      List.cons_append, List.nil_append, List.pairwise_cons, List.mem_cons, List.not_mem_nil,
      or_false, forall_eq_or_imp, forall_eq, Ring.apart_reverse, Ring.apart_reverse_right]
    have hapart {c d u v : ℚ} (huc : u < c) (hcd : c < d) (hdv : d < v) :=
      Ring.apart_square huc hcd hdv
    refine ⟨⟨hapart ?_ ?_ ?_, hapart ?_ ?_ ?_, hapart ?_ ?_ ?_⟩,
      ⟨hapart ?_ ?_ ?_, hapart ?_ ?_ ?_⟩, hapart ?_ ?_ ?_, ?_⟩
    all_goals first | linarith | simp
  case inside =>
    simp only [frame, List.mem_cons, List.not_mem_nil, or_false, forall_eq_or_imp, forall_eq,
      Ring.inside_reverse_right]
    constructor
    · exact Ring.inside_square (by linarith) (by linarith) (by linarith)
    · exact Ring.inside_square (by linarith) (by linarith) (by linarith)

theorem Arrangement.of_perm {ps qs : List (Polygon ℚ)} (hperm : ps.Perm qs)
    (h : Arrangement ps) : Arrangement qs where
  closed ring hring := h.closed ring ((hperm.flatMap_right rings).mem_iff.2 hring)
  long ring hring := h.long ring ((hperm.flatMap_right rings).mem_iff.2 hring)
  apart := ((hperm.flatMap_right rings).pairwise_iff fun hapart => hapart.symm).1 h.apart
  inside p hp := h.inside p (hperm.mem_iff.2 hp)

/-- A frame in the hole of another one. -/
theorem valid_frames : Valid [frame 2, frame 0] where
  toArrangement := (arrangement_frames (a := 0) (b := 2) (by norm_num) (by norm_num)).of_perm
    (.swap _ _ _)
  area := by
    simp only [frame, rings, List.flatMap_cons, List.flatMap_nil, List.append_nil,
      List.cons_append, List.nil_append, List.mem_cons, List.not_mem_nil,
      or_false, forall_eq_or_imp, forall_eq]
    norm_num [Ring.doubleArea, Ring.square, edges]
  disjoint := by
    refine List.pairwise_pair.2 fun c hinner houter => houter.2 _ List.mem_cons_self ?_
    obtain ⟨⟨hx, hx'⟩, hy, hy'⟩ := (Ring.encloses_square (by norm_num)).1 hinner.1
    rw [Ring.encloses_reverse, Ring.encloses_square (by norm_num)]
    norm_num at *
    exact ⟨⟨by linarith, by linarith⟩, by linarith, by linarith⟩

/-- A square with a square hole, gone round the other way. -/
def turnedFrame : Polygon ℚ := ⟨(Ring.square 0 3).reverse, [Ring.square 1 2]⟩

theorem valid_turnedFrame : Valid [turnedFrame] where
  closed := by simp [turnedFrame, rings, Ring.square, Ring.Closed]
  long := by simp [turnedFrame, rings, Ring.square]
  apart := by
    simp only [turnedFrame, rings, List.flatMap_cons, List.flatMap_nil, List.append_nil,
      List.pairwise_pair, Ring.apart_reverse]
    exact Ring.apart_square (by norm_num) (by norm_num) (by norm_num)
  inside := by
    simp only [turnedFrame, List.mem_singleton, forall_eq, Ring.inside_reverse]
    exact Ring.inside_square (by norm_num) (by norm_num) (by norm_num)
  area := by
    simp only [turnedFrame, rings, List.flatMap_cons, List.flatMap_nil, List.append_nil,
      List.mem_cons, List.not_mem_nil, or_false, forall_eq_or_imp, forall_eq]
    norm_num [Ring.doubleArea, Ring.square, edges]
  disjoint := List.pairwise_singleton _ _

end Polygon

/-- A text of a polygon whose shell is counterclockwise and whose hole is clockwise. -/
def Shape.turnedText : String := "POLYGON((0 0,3 0,3 3,0 3,0 0),(1 1,1 2,2 2,2 1,1 1))"

/-- A text of a polygon with a hole that lies in the hole of the polygon after it. -/
def Shape.islandText : String :=
  "MULTIPOLYGON(((2 2,2 7,7 7,7 2,2 2),(3 3,6 3,6 6,3 6,3 3))," ++
    "((0 0,0 9,9 9,9 0,0 0),(1 1,8 1,8 8,1 8,1 1)))"

/-- A text of valid polygons that are other polygons when they are written again. -/
def Shape.LosesRoles (text : String) : Prop :=
  ∃ ps qs : List (Polygon ℚ), (Wkt.read? (Text.trim text)).bind Wkt.polygons? = some ps ∧
    Polygon.Valid ps ∧ Rewrites text qs ∧ ¬Polygon.SameSet ps qs

/-- Polygons lose their roles when their rings go round the other way, and when one in the hole of
another comes first and has a hole itself. -/
theorem Shape.roles_lost : LosesRoles turnedText ∧ LosesRoles islandText := by
  constructor
  · have hread : (Wkt.read? (Text.trim turnedText)).bind Wkt.polygons? =
        some [Polygon.turnedFrame] := by decide +kernel
    refine ⟨_, _, hread, Polygon.valid_turnedFrame,
      ⟨_, ofText_polygons hread, rfl, toText_polygon (by decide +kernel)⟩, fun hsame => ?_⟩
    exact absurd hsame.perm_holes (by decide +kernel)
  · have hread : (Wkt.read? (Text.trim islandText)).bind Wkt.polygons? =
        some [Polygon.frame 2, Polygon.frame 0] := by decide +kernel
    refine ⟨_, _, hread, Polygon.valid_frames,
      ⟨_, ofText_polygons hread, rfl, toText_polygon (by decide +kernel)⟩, fun hsame => ?_⟩
    exact absurd hsame.perm_holes (by decide +kernel)

/-- The same two polygons keep their roles when the outer one comes first. -/
theorem Shape.keepsRoles_iff_recoverable_frames : ∃ qs : List (Polygon ℚ),
    Rewrites ("MULTIPOLYGON(((0 0,0 9,9 9,9 0,0 0),(1 1,8 1,8 8,1 8,1 1))," ++
      "((2 2,2 7,7 7,7 2,2 2),(3 3,6 3,6 6,3 6,3 3)))") qs ∧
      (Polygon.SameSet [Polygon.frame 0, Polygon.frame 2] qs ↔
        Polygon.Recoverable [Polygon.frame 0, Polygon.frame 2]) :=
  keepsRoles_iff_recoverable (by decide +kernel) (List.cons_ne_nil _ _)
    (Polygon.arrangement_frames (by norm_num) (by norm_num))

end GeoLayers
