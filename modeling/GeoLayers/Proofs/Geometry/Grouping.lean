import GeoLayers.Geometry.Grouping

/-!
What grouping makes of a list of rings: every clockwise ring is a shell, every other one is a hole
of the last shell that contains it, and the holes that no shell contains are turned round and stand
at the end, if they meet no shell.
-/

namespace GeoLayers.Polygon

variable {α : Type}

/-- The last of some shells that contains a hole. -/
def owner (how : Containment α) (shells : List (Path α)) (hole : Path α) : Option (Path α) :=
  shells.reverse.find? fun shell => how.contains shell hole

theorem owner_cons (how : Containment α) (shell : Path α) (shells : List (Path α))
    (hole : Path α) : owner how (shell :: shells) hole =
      (owner how shells hole).or (if how.contains shell hole then some shell else none) := by
  simp only [owner, List.reverse_cons, List.find?_append, List.find?_singleton]

theorem owner_mem {how : Containment α} {shells : List (Path α)} {hole shell : Path α}
    (h : owner how shells hole = some shell) : shell ∈ shells :=
  List.mem_reverse.1 (List.mem_of_find?_eq_some h)

/-- A hole is attached to no polygon if none satisfies the test. -/
theorem attachToLast_eq_none {test : Polygon α → Bool} {hole : Path α}
    {polygons : List (Polygon α)} (h : ∀ polygon ∈ polygons, test polygon = false) :
    attachToLast test hole polygons = none := by
  induction polygons with
  | nil => rfl
  | cons polygon rest ih =>
      obtain ⟨hpolygon, hrest⟩ := List.forall_mem_cons.1 h
      simp [attachToLast, ih hrest, hpolygon]

/-- Strays that meet no shell, and not each other turned round, become shells. -/
theorem foldl_placeAcross (how : Containment α) (polygons : List (Polygon α))
    (left : List (Path α))
    (hshells : ∀ polygon ∈ polygons, ∀ hole ∈ left, how.intersects polygon.shell hole = false)
    (hleft : left.Pairwise fun a b => how.intersects a.reverse b = false) :
    left.foldl (placeAcross how) polygons =
      polygons ++ left.map fun hole => ⟨hole.reverse, []⟩ := by
  induction left generalizing polygons with
  | nil => exact (List.append_nil polygons).symm
  | cons hole left ih =>
      obtain ⟨hhole, hleft⟩ := List.pairwise_cons.1 hleft
      have hnone : attachToLast (fun polygon => how.intersects polygon.shell hole) hole polygons =
          none :=
        attachToLast_eq_none fun polygon hpolygon =>
          hshells polygon hpolygon hole List.mem_cons_self
      have hstep : placeAcross how polygons hole = polygons ++ [⟨hole.reverse, []⟩] := by
        rw [placeAcross, hnone]
      rw [List.foldl_cons, hstep, ih _ ?_ hleft, List.append_assoc, List.singleton_append,
        List.map_cons]
      intro polygon hpolygon other hother
      rcases List.mem_append.1 hpolygon with hpolygon | hpolygon
      · exact hshells polygon hpolygon other (List.mem_cons_of_mem hole hother)
      · rw [List.mem_singleton.1 hpolygon]
        exact hhole other hother

/-- The polygons of some shells, each with the holes that a function gives it. -/
def withHoles (shells : List (Path α)) (holes : Path α → List (Path α)) : List (Polygon α) :=
  shells.map fun shell => ⟨shell, holes shell⟩

theorem withHoles_congr {shells : List (Path α)} {holes holes' : Path α → List (Path α)}
    (h : ∀ shell ∈ shells, holes shell = holes' shell) :
    withHoles shells holes = withHoles shells holes' :=
  List.map_congr_left fun shell hshell => by rw [h shell hshell]

/-- A hole is attached to its owner. -/
theorem attachToLast_withHoles [DecidableEq α] (how : Containment α) (hole : Path α) {shells : List (Path α)}
    (hnodup : shells.Nodup) (holes : Path α → List (Path α)) :
    attachToLast (fun polygon => how.contains polygon.shell hole) hole (withHoles shells holes) =
      (owner how shells hole).map fun last => withHoles shells fun shell =>
        if shell = last then holes shell ++ [hole] else holes shell := by
  induction shells with
  | nil => rfl
  | cons first rest ih =>
      obtain ⟨hfirst, hrest⟩ := List.nodup_cons.1 hnodup
      rw [owner_cons]
      simp only [withHoles, List.map_cons, attachToLast] at ih ⊢
      rw [ih hrest]
      cases howner : owner how rest hole with
      | some last =>
          have hne : first ≠ last := fun heq => hfirst (heq ▸ owner_mem howner)
          simp [hne]
      | none =>
          have hkeep (shell : Path α) (hshell : shell ∈ rest) : shell ≠ first :=
            fun heq => hfirst (heq ▸ hshell)
          by_cases hcontains : how.contains first hole = true
          · simpa [hcontains] using hkeep
          · simp [hcontains]

variable [DecidableEq α]

/-- The holes that belong to a shell, from the last to the first. -/
def holesOf (how : Containment α) (shells holes : List (Path α)) (shell : Path α) :
    List (Path α) :=
  (holes.filter fun hole => owner how shells hole = some shell).reverse

/-- The holes that no shell contains. -/
def strays (how : Containment α) (shells holes : List (Path α)) : List (Path α) :=
  holes.filter fun hole => owner how shells hole = none

/-- Placing holes inside gives each one to its owner and leaves the strays over. -/
theorem foldr_placeInside (how : Containment α) {shells : List (Path α)} (hnodup : shells.Nodup)
    (holes : List (Path α)) :
    holes.foldr (placeInside how) (withHoles shells fun _ => [], []) =
      (withHoles shells (holesOf how shells holes), strays how shells holes) := by
  induction holes with
  | nil => rfl
  | cons hole holes ih =>
      rw [List.foldr_cons, ih, placeInside, attachToLast_withHoles how hole hnodup]
      cases howner : owner how shells hole with
      | some last =>
          have hholes : withHoles shells (fun shell =>
                if shell = last then holesOf how shells holes shell ++ [hole]
                else holesOf how shells holes shell) =
              withHoles shells (holesOf how shells (hole :: holes)) := by
            refine withHoles_congr fun shell _ => ?_
            by_cases heq : shell = last
            · simp [holesOf, howner, heq]
            · have hne : ¬last = shell := fun h => heq h.symm
              simp [holesOf, howner, heq, hne]
          simp only [Option.map_some, hholes, strays, List.filter_cons, howner, reduceCtorEq,
            decide_false, Bool.false_eq_true, if_false]
      | none =>
          have hholes : holesOf how shells (hole :: holes) = holesOf how shells holes := by
            funext shell
            simp [holesOf, howner]
          simp [hholes, strays, howner]

/-- The clockwise rings of a list. -/
def clockwiseRings [Scalar α] (rings : List (Path α)) : List (Path α) :=
  rings.filter Ring.isClockwise

/-- The rings of a list that are not clockwise. -/
def otherRings [Scalar α] (rings : List (Path α)) : List (Path α) :=
  rings.filter fun ring => !Ring.isClockwise ring

/-- The polygons that closed and long rings form which are all different and do not meet. -/
theorem group_eq [Scalar α] (how : Containment α) {rings : List (Path α)}
    (hproper : properRings rings = rings) (hnodup : rings.Nodup)
    (hmeets : ∀ a ∈ rings, ∀ b ∈ rings, a ≠ b → how.intersects a b = false)
    (hturned : rings.Pairwise fun a b => how.intersects a.reverse b = false) :
    group how rings =
      withHoles (clockwiseRings rings) (holesOf how (clockwiseRings rings) (otherRings rings)) ++
        (strays how (clockwiseRings rings) (otherRings rings)).map
          fun hole => ⟨hole.reverse, []⟩ := by
  have hplaced := foldr_placeInside how (hnodup.filter Ring.isClockwise) (otherRings rings)
  simp only [group, hproper]
  simp only [withHoles, otherRings] at hplaced
  rw [hplaced, foldl_placeAcross]
  · rfl
  · intro polygon hpolygon hole hhole
    obtain ⟨shell, hshell, rfl⟩ := List.mem_map.1 hpolygon
    obtain ⟨hshell, hclockwise⟩ := List.mem_filter.1 hshell
    obtain ⟨hhole, hcounter⟩ := List.mem_filter.1 (List.mem_filter.1 hhole).1
    refine hmeets shell hshell hole hhole ?_
    rintro rfl
    simp [hclockwise] at hcounter
  · exact (hturned.filter _).filter _

end GeoLayers.Polygon

/-- The last element that passes a test is an item's own one, for all items, exactly if no later
element passes the test of an item. -/
theorem GeoLayers.find?_reverse_iff_pairwise {β γ : Type} {items : β → List γ}
    {test : γ → β → Bool} {list : List β} (hnodup : list.Nodup)
    (hown : ∀ b ∈ list, ∀ c ∈ items b, test c b = true) :
    (∀ b ∈ list, ∀ c ∈ items b, list.reverse.find? (test c) = some b) ↔
      list.Pairwise fun b later => ∀ c ∈ items b, test c later = false := by
  induction list with
  | nil => simp
  | cons first rest ih =>
      obtain ⟨hfirst, hrest⟩ := List.nodup_cons.1 hnodup
      obtain ⟨hownfirst, hownrest⟩ := List.forall_mem_cons.1 hown
      have hfind (c : γ) : (first :: rest).reverse.find? (test c) =
          (rest.reverse.find? (test c)).or (if test c first then some first else none) := by
        simp only [List.reverse_cons, List.find?_append, List.find?_singleton]
      have hnone (c : γ) : rest.reverse.find? (test c) = none ↔
          ∀ later ∈ rest, test c later = false := by
        simp
      rw [List.pairwise_cons, ← ih hrest hownrest, List.forall_mem_cons]
      have hlast (c : γ) (hc : c ∈ items first) :
          (first :: rest).reverse.find? (test c) = some first ↔
            rest.reverse.find? (test c) = none := by
        rw [hfind, hownfirst c hc, if_pos rfl]
        cases hfound : rest.reverse.find? (test c) with
        | none => simp
        | some b =>
            have hne : b ≠ first := by
              rintro rfl
              exact hfirst (List.mem_reverse.1 (List.mem_of_find?_eq_some hfound))
            simp [hne]
      refine and_congr ⟨?_, ?_⟩ (forall₂_congr fun b hb => forall₂_congr fun c _ => ?_)
      · exact fun h later hlater c hc =>
          (hnone c).1 ((hlast c hc).1 (h c hc)) later hlater
      · exact fun h c hc =>
          (hlast c hc).2 ((hnone c).2 fun later hlater => h later hlater c hc)
      · have hne : first ≠ b := fun heq => hfirst (heq ▸ hb)
        rw [hfind]
        cases rest.reverse.find? (test c) with
        | none => simp [hne]
        | some other => simp
