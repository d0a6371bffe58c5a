import GeoLayers.Proofs.Geometry.Grouping

/-!
Where grouping puts every ring. Polygons are told by their places in the list. A ring that is not
clockwise goes to the last clockwise shell that contains it; if none does it waits, and then, in the
order of the list, goes to the last shell that it meets among all that stand by then, or is turned
round and stands behind them. No ring is lost on the way and none is written twice.
-/

namespace GeoLayers.Polygon

variable {α : Type}

/-- Whether a place is that of the last shell which passes a test, or no shell passes it. -/
def IsLastPlace (test : Path α → Bool) (shells : List (Path α)) : Option Nat → Prop
  | none => ∀ shell ∈ shells, test shell = false
  | some place => ∃ shell, shells[place]? = some shell ∧ test shell = true ∧
      ∀ later ∈ shells.drop (place + 1), test later = false

/-- Rings with the places of the polygons whose holes they are. A ring without a place is no hole. -/
abbrev Placement (α : Type) := List (Path α × Option Nat)

namespace Placement

/-- The rings. -/
def rings (placement : Placement α) : List (Path α) := placement.map Prod.fst

/-- The holes of the polygon at a place. -/
def holesAt (placement : Placement α) (place : Nat) : List (Path α) :=
  rings (placement.filter fun entry => entry.2 == some place)

/-- The rings without a place, turned round. -/
def turned (placement : Placement α) : List (Path α) :=
  (rings (placement.filter fun entry => entry.2.isNone)).map List.reverse

/-- The rings as they are written: a hole as it is, a ring without a place turned round. -/
def written (placement : Placement α) : List (Path α) :=
  placement.map fun entry => if entry.2.isNone then entry.1.reverse else entry.1

section Cons

variable (ring : Path α) (place other : Nat) (placement : Placement α)

@[simp] theorem rings_nil : rings ([] : Placement α) = [] := rfl

@[simp] theorem rings_cons (entry : Path α × Option Nat) :
    rings (entry :: placement) = entry.1 :: rings placement := rfl

@[simp] theorem holesAt_nil : holesAt ([] : Placement α) place = [] := rfl

@[simp] theorem holesAt_cons_none :
    holesAt ((ring, none) :: placement) place = holesAt placement place := rfl

@[simp] theorem holesAt_cons_some : holesAt ((ring, some place) :: placement) other =
    if other = place then ring :: holesAt placement other else holesAt placement other := by
  by_cases heq : other = place
  · simp [holesAt, heq]
  · have hne : ¬place = other := fun h => heq h.symm
    simp [holesAt, heq, hne]

@[simp] theorem turned_nil : turned ([] : Placement α) = [] := rfl

@[simp] theorem turned_cons_none :
    turned ((ring, none) :: placement) = ring.reverse :: turned placement := rfl

@[simp] theorem turned_cons_some : turned ((ring, some place) :: placement) = turned placement := rfl

@[simp] theorem written_nil : written ([] : Placement α) = [] := rfl

@[simp] theorem written_cons_none :
    written ((ring, none) :: placement) = ring.reverse :: written placement := rfl

@[simp] theorem written_cons_some :
    written ((ring, some place) :: placement) = ring :: written placement := rfl

end Cons

end Placement

/-- The rings that some of the shells contain. -/
def containedRings (how : Containment α) (shells holes : List (Path α)) : List (Path α) :=
  holes.filter fun hole => shells.any fun shell => how.contains shell hole

/-- The rings that none of the shells contains. -/
def strayRings (how : Containment α) (shells holes : List (Path α)) : List (Path α) :=
  holes.filter fun hole => !shells.any fun shell => how.contains shell hole

/-- The rule of grouping: what polygons a list of rings has to form, given the places of the rings
that a shell contains and of the ones that no shell contains. -/
structure FollowsRule [Scalar α] (how : Containment α) (input : List (Path α))
    (polygons : List (Polygon α)) (inside across : Placement α) : Prop where
  /-- A polygon has a ring at least. -/
  nonempty : ∀ polygon ∈ polygons, polygon.rings ≠ []
  /-- The rings that are dealt with are the closed rings with at least four points. -/
  proper : (properRings input).Perm
    (clockwiseRings (properRings input) ++ (inside.rings ++ across.rings))
  /-- They are all written, each once, and only the ones that become shells are turned round. -/
  kept : (polygons.flatMap rings).Perm
    (clockwiseRings (properRings input) ++ (inside.rings ++ across.written))
  /-- The clockwise rings are the first shells, in their order; the ones turned round follow. -/
  shells : polygons.map Polygon.shell = clockwiseRings (properRings input) ++ across.turned
  inside_rings : inside.rings =
    containedRings how (clockwiseRings (properRings input)) (otherRings (properRings input))
  /-- A ring that a clockwise shell contains has the place of the last such shell. -/
  inside_last : ∀ entry ∈ inside, entry.2.isSome ∧
    IsLastPlace (how.contains · entry.1) (clockwiseRings (properRings input)) entry.2
  across_rings : across.rings =
    strayRings how (clockwiseRings (properRings input)) (otherRings (properRings input))
  /-- Any other ring has the place of the last shell that it meets among those that stand when its
  turn comes: the clockwise ones and the ones turned round before it. -/
  across_last : ∀ before entry after, across = before ++ entry :: after →
    IsLastPlace (how.intersects · entry.1)
      (clockwiseRings (properRings input) ++ Placement.turned before) entry.2
  /-- The holes of a polygon are the rings with its place. -/
  holes : ∀ place polygon, polygons[place]? = some polygon →
    polygon.holes = (inside.holesAt place).reverse ++ across.holesAt place

/-- The place of the last shell that passes a test. -/
def lastPlace? (test : Path α → Bool) : List (Path α) → Option Nat
  | [] => none
  | shell :: shells =>
    match lastPlace? test shells with
    | some place => some (place + 1)
    | none => if test shell then some 0 else none

theorem isLastPlace_lastPlace? (test : Path α → Bool) (shells : List (Path α)) :
    IsLastPlace test shells (lastPlace? test shells) := by
  induction shells with
  | nil => simp [lastPlace?, IsLastPlace]
  | cons shell shells ih =>
      cases hlast : lastPlace? test shells with
      | some place => simpa [lastPlace?, hlast, IsLastPlace] using ih
      | none =>
          rw [hlast] at ih
          have hnone : ∀ later ∈ shells, test later = false := ih
          cases hshell : test shell with
          | true => simpa [lastPlace?, hlast, hshell, IsLastPlace] using hnone
          | false => simpa [lastPlace?, hlast, hshell, IsLastPlace] using hnone

theorem lastPlace?_lt {test : Path α → Bool} {shells : List (Path α)} {place : Nat}
    (h : lastPlace? test shells = some place) : place < shells.length := by
  have hlast := isLastPlace_lastPlace? test shells
  rw [h] at hlast
  obtain ⟨shell, hshell, -⟩ := hlast
  exact (List.getElem?_eq_some_iff.1 hshell).1

theorem lastPlace?_isSome (test : Path α → Bool) (shells : List (Path α)) :
    (lastPlace? test shells).isSome = shells.any test := by
  induction shells with
  | nil => simp [lastPlace?]
  | cons shell shells ih =>
      rw [List.any_cons, ← ih, lastPlace?]
      cases lastPlace? test shells <;> cases test shell <;> simp

/-- The polygons of some shells, each with the holes for its place. -/
def laid (shells : List (Path α)) (holes : Nat → List (Path α)) : List (Polygon α) :=
  shells.mapIdx fun place shell => ⟨shell, holes place⟩

/-- Holes by places with one hole more. -/
def addAt (place : Nat) (hole : Path α) (holes : Nat → List (Path α)) : Nat → List (Path α) :=
  fun other => if other = place then holes other ++ [hole] else holes other

theorem laid_cons (shell : Path α) (shells : List (Path α)) (holes : Nat → List (Path α)) :
    laid (shell :: shells) holes = ⟨shell, holes 0⟩ :: laid shells fun place => holes (place + 1) := by
  simp [laid]

theorem laid_concat (shells : List (Path α)) (shell : Path α) (holes : Nat → List (Path α)) :
    laid (shells ++ [shell]) holes = laid shells holes ++ [⟨shell, holes shells.length⟩] := by
  simp [laid]

theorem map_shell_laid (shells : List (Path α)) (holes : Nat → List (Path α)) :
    (laid shells holes).map Polygon.shell = shells := by
  induction shells generalizing holes with
  | nil => simp [laid]
  | cons shell shells ih => rw [laid_cons, List.map_cons, ih]

theorem laid_nil_holes (shells : List (Path α)) :
    laid shells (fun _ => []) = shells.map fun shell => ⟨shell, []⟩ := by
  induction shells with
  | nil => simp [laid]
  | cons shell shells ih => rw [laid_cons, List.map_cons, ih]

theorem flatMap_rings_laid_nil_holes (shells : List (Path α)) :
    (laid shells fun _ => []).flatMap rings = shells := by
  induction shells with
  | nil => simp [laid]
  | cons shell shells ih => rw [laid_cons, List.flatMap_cons, ih, rings, List.singleton_append]

theorem holes_of_getElem?_laid {shells : List (Path α)} {holes : Nat → List (Path α)} {place : Nat}
    {polygon : Polygon α} (h : (laid shells holes)[place]? = some polygon) :
    polygon.holes = holes place := by
  rw [laid, List.getElem?_mapIdx] at h
  obtain ⟨shell, -, rfl⟩ := Option.map_eq_some_iff.1 h
  rfl

theorem attachToLast_laid (test : Path α → Bool) (hole : Path α) (shells : List (Path α))
    (holes : Nat → List (Path α)) :
    attachToLast (fun polygon => test polygon.shell) hole (laid shells holes) =
      (lastPlace? test shells).map fun place => laid shells (addAt place hole holes) := by
  induction shells generalizing holes with
  | nil => simp [laid, attachToLast, lastPlace?]
  | cons shell shells ih =>
      rw [laid_cons, attachToLast, ih, lastPlace?]
      cases lastPlace? test shells with
      | some place =>
          have hshift : (fun other => addAt (place + 1) hole holes (other + 1)) =
              addAt place hole fun other => holes (other + 1) := by
            funext other
            simp [addAt]
          have hfirst : addAt (place + 1) hole holes 0 = holes 0 := by simp [addAt]
          simp only [Option.map_some, laid_cons, hshift, hfirst]
      | none => cases test shell <;> simp [laid_cons, addAt]

theorem rings_attach (polygon : Polygon α) (hole : Path α) :
    rings { polygon with holes := polygon.holes ++ [hole] } = polygon.rings ++ [hole] := rfl

/-- A hole that is attached is one ring more. -/
theorem perm_attachToLast {test : Polygon α → Bool} {hole : Path α}
    {polygons attached : List (Polygon α)} (h : attachToLast test hole polygons = some attached) :
    (attached.flatMap rings).Perm (hole :: polygons.flatMap rings) := by
  induction polygons generalizing attached with
  | nil => cases h
  | cons polygon rest ih =>
      rw [attachToLast] at h
      cases hrest : attachToLast test hole rest with
      | some more =>
          simp only [hrest, Option.some.injEq] at h
          subst h
          have hmore := (ih hrest).append_left polygon.rings
          exact hmore.trans List.perm_middle
      | none =>
          simp only [hrest] at h
          split at h
          case isFalse => cases h
          case isTrue =>
            obtain rfl := Option.some.inj h
            rw [List.flatMap_cons, List.flatMap_cons, rings_attach, List.append_assoc]
            exact List.perm_middle

section Inside

variable (how : Containment α) (shells : List (Path α))

/-- Rings with the places of the last shells that contain them. -/
def owned (holes : List (Path α)) : Placement α :=
  holes.map fun hole => (hole, lastPlace? (how.contains · hole) shells)

theorem owned_cons (hole : Path α) (holes : List (Path α)) : owned how shells (hole :: holes) =
    (hole, lastPlace? (how.contains · hole) shells) :: owned how shells holes := rfl

/-- Placing holes inside gives each one to the last shell that contains it; the others are left over
in their order. -/
theorem foldr_placeInside_laid (holes : List (Path α)) :
    holes.foldr (placeInside how) (laid shells fun _ => [], []) =
      (laid shells fun place => ((owned how shells holes).holesAt place).reverse,
        strayRings how shells holes) := by
  induction holes with
  | nil => simp [owned, strayRings]
  | cons hole holes ih =>
      rw [List.foldr_cons, ih, placeInside,
        attachToLast_laid (fun shell => how.contains shell hole)]
      have hany := lastPlace?_isSome (fun shell => how.contains shell hole) shells
      cases hplace : lastPlace? (fun shell => how.contains shell hole) shells with
      | some place =>
          have hsome : (shells.any fun shell => how.contains shell hole) = true := by
            rw [← hany, hplace, Option.isSome_some]
          have hholes : addAt place hole
                (fun other => ((owned how shells holes).holesAt other).reverse) =
              fun other => ((owned how shells (hole :: holes)).holesAt other).reverse := by
            funext other
            rw [owned_cons, hplace, Placement.holesAt_cons_some, addAt]
            split
            case isTrue => rw [List.reverse_cons]
            case isFalse => rfl
          simp only [Option.map_some, hholes, strayRings, List.filter_cons, hsome, Bool.not_true,
            Bool.false_eq_true, if_false]
      | none =>
          have hnone : (shells.any fun shell => how.contains shell hole) = false := by
            rw [← hany, hplace, Option.isSome_none]
          have hholes : (fun other => ((owned how shells holes).holesAt other).reverse) =
              fun other => ((owned how shells (hole :: holes)).holesAt other).reverse := by
            funext other
            rw [owned_cons, hplace, Placement.holesAt_cons_none]
          simp only [Option.map_none, hholes, strayRings, List.filter_cons, hnone, Bool.not_false,
            if_true]

/-- Placing holes inside keeps every ring, in a polygon or among the ones left over. -/
theorem perm_foldr_placeInside (holes : List (Path α)) (polygons : List (Polygon α)) :
    ((holes.foldr (placeInside how) (polygons, [])).1.flatMap rings ++
        (holes.foldr (placeInside how) (polygons, [])).2).Perm
      (polygons.flatMap rings ++ holes) := by
  induction holes with
  | nil => simp
  | cons hole holes ih =>
      apply List.Perm.trans ?_ (ih.cons hole |>.trans List.perm_middle.symm)
      rw [List.foldr_cons, placeInside]
      split
      next attached hattached => exact (perm_attachToLast hattached).append_right _
      next => exact List.perm_middle

/-- The rings that some shell contains, with their places. -/
def inside (holes : List (Path α)) : Placement α :=
  (owned how shells holes).filter fun entry => entry.2.isSome

theorem rings_inside (holes : List (Path α)) :
    (inside how shells holes).rings = containedRings how shells holes := by
  induction holes with
  | nil => simp [inside, owned, containedRings, Placement.rings]
  | cons hole holes ih =>
      have hany := lastPlace?_isSome (fun shell => how.contains shell hole) shells
      simp only [inside, owned, containedRings, Placement.rings, List.map_cons,
        List.filter_cons] at ih ⊢
      rw [hany]
      split
      case isTrue => rw [List.map_cons, ih]
      case isFalse => exact ih

theorem holesAt_inside (holes : List (Path α)) (place : Nat) :
    (inside how shells holes).holesAt place = (owned how shells holes).holesAt place := by
  rw [Placement.holesAt, Placement.holesAt, inside, List.filter_filter]
  congr 2
  funext entry
  cases entry.2 <;> simp

theorem isLastPlace_of_mem_inside {holes : List (Path α)} {entry : Path α × Option Nat}
    (h : entry ∈ inside how shells holes) :
    entry.2.isSome ∧ IsLastPlace (how.contains · entry.1) shells entry.2 := by
  obtain ⟨howned, hsome⟩ := List.mem_filter.1 h
  obtain ⟨hole, -, rfl⟩ := List.mem_map.1 howned
  exact ⟨hsome, isLastPlace_lastPlace? _ shells⟩

theorem perm_contained_stray (holes : List (Path α)) :
    holes.Perm (containedRings how shells holes ++ strayRings how shells holes) :=
  (List.filter_append_perm _ holes).symm

end Inside

section Across

variable (how : Containment α)

/-- Strays with the places that they take, one after the other. -/
def settled : List (Path α) → List (Path α) → Placement α
  | _, [] => []
  | shells, hole :: holes =>
    match lastPlace? (how.intersects · hole) shells with
    | some place => (hole, some place) :: settled shells holes
    | none => (hole, none) :: settled (shells ++ [hole.reverse]) holes

theorem rings_settled (shells holes : List (Path α)) : (settled how shells holes).rings = holes := by
  induction holes generalizing shells with
  | nil => rfl
  | cons hole holes ih =>
      rw [settled]
      split
      · rw [Placement.rings_cons, ih]
      · rw [Placement.rings_cons, ih]

/-- Every stray takes the place of the last shell that it meets when its turn comes. -/
theorem isLastPlace_of_settled {shells holes : List (Path α)} {before after : Placement α}
    {entry : Path α × Option Nat} (h : settled how shells holes = before ++ entry :: after) :
    IsLastPlace (how.intersects · entry.1) (shells ++ before.turned) entry.2 := by
  induction holes generalizing shells before with
  | nil => simp [settled] at h
  | cons hole holes ih =>
      have hlast := isLastPlace_lastPlace? (how.intersects · hole) shells
      rw [settled] at h
      cases hplace : lastPlace? (how.intersects · hole) shells with
      | some place =>
          rw [hplace] at h hlast
          cases before with
          | nil =>
              obtain ⟨rfl, -⟩ := List.cons.inj h
              simpa using hlast
          | cons first before =>
              obtain ⟨rfl, hrest⟩ := List.cons.inj h
              simpa using ih hrest
      | none =>
          rw [hplace] at h hlast
          cases before with
          | nil =>
              obtain ⟨rfl, -⟩ := List.cons.inj h
              simpa using hlast
          | cons first before =>
              obtain ⟨rfl, hrest⟩ := List.cons.inj h
              simpa using ih hrest

/-- What one stray does to the polygons. Behind the last shell there are no holes yet. -/
theorem placeAcross_laid {shells : List (Path α)} {holes : Nat → List (Path α)}
    (hbehind : ∀ place, shells.length ≤ place → holes place = []) (hole : Path α) :
    placeAcross how (laid shells holes) hole =
      match lastPlace? (how.intersects · hole) shells with
      | some place => laid shells (addAt place hole holes)
      | none => laid (shells ++ [hole.reverse]) holes := by
  rw [placeAcross, attachToLast_laid (fun shell => how.intersects shell hole)]
  cases lastPlace? (fun shell => how.intersects shell hole) shells with
  | some place => simp
  | none => simp [laid_concat, hbehind]

/-- Placing strays across lays out the shells with the turned strays behind them, and gives every
other stray to the polygon at its place. -/
theorem foldl_placeAcross_laid {shells : List (Path α)} {holes : Nat → List (Path α)}
    (hbehind : ∀ place, shells.length ≤ place → holes place = []) (strays : List (Path α)) :
    strays.foldl (placeAcross how) (laid shells holes) =
        laid (shells ++ (settled how shells strays).turned)
          (fun place => holes place ++ (settled how shells strays).holesAt place) ∧
      ((strays.foldl (placeAcross how) (laid shells holes)).flatMap rings).Perm
        ((laid shells holes).flatMap rings ++ (settled how shells strays).written) := by
  induction strays generalizing shells holes with
  | nil => simp [settled]
  | cons stray strays ih =>
      have hstep := placeAcross_laid how hbehind stray
      rw [List.foldl_cons, settled]
      cases hplace : lastPlace? (how.intersects · stray) shells with
      | some place =>
          simp only [hplace] at hstep ⊢
          have hlt := lastPlace?_lt hplace
          have hbehind' : ∀ other, shells.length ≤ other → addAt place stray holes other = [] := by
            intro other hother
            have hne : other ≠ place := by omega
            simp [addAt, hne, hbehind other hother]
          obtain ⟨hlaid, hperm⟩ := ih hbehind'
          have hattached := attachToLast_laid (how.intersects · stray) stray shells holes
          rw [hplace] at hattached
          rw [hstep]
          constructor
          · rw [hlaid]
            congr 1
            funext other
            rw [Placement.holesAt_cons_some, addAt]
            split
            case isTrue => rw [List.append_assoc, List.singleton_append]
            case isFalse => rfl
          · apply hperm.trans
            have hone := (perm_attachToLast hattached).append_right
              (settled how shells strays).written
            exact hone.trans List.perm_middle.symm
      | none =>
          simp only [hplace] at hstep ⊢
          have hbehind' : ∀ other, (shells ++ [stray.reverse]).length ≤ other →
              holes other = [] := by
            intro other hother
            apply hbehind
            simp at hother
            omega
          obtain ⟨hlaid, hperm⟩ := ih hbehind'
          rw [hstep]
          constructor
          · rw [hlaid, Placement.turned_cons_none, List.append_assoc, List.singleton_append]
            simp only [Placement.holesAt_cons_none]
          · apply hperm.trans
            rw [laid_concat, hbehind _ (Nat.le_refl _)]
            simp [rings]

end Across

/-- Every ring has a place by the rule: grouping loses no ring and adds none, whatever the answers
are to the questions whether rings contain and meet each other. -/
theorem group_follows_rule [Scalar α] (how : Containment α) (input : List (Path α)) :
    ∃ inside across, FollowsRule how input (group how input) inside across := by
  let shells := clockwiseRings (properRings input)
  let holes := otherRings (properRings input)
  let strays := strayRings how shells holes
  have hplaced := foldr_placeInside_laid how shells holes
  have hkept := perm_foldr_placeInside how holes (laid shells fun _ => [])
  rw [hplaced, flatMap_rings_laid_nil_holes] at hkept
  -- The strays that are left over on one side are those that are rings to be placed on the other.
  have hinside : ((laid shells fun place =>
      ((owned how shells holes).holesAt place).reverse).flatMap rings).Perm
        (shells ++ containedRings how shells holes) := by
    apply (List.perm_append_right_iff strays).1
    rw [List.append_assoc]
    exact hkept.trans ((perm_contained_stray how shells holes).append_left shells)
  have hbehind : ∀ place, shells.length ≤ place →
      ((owned how shells holes).holesAt place).reverse = [] := by
    intro place hplace
    simp only [Placement.holesAt, Placement.rings, List.reverse_eq_nil_iff, List.map_eq_nil_iff,
      List.filter_eq_nil_iff, beq_iff_eq]
    intro entry hentry hown
    obtain ⟨hole, -, rfl⟩ := List.mem_map.1 hentry
    have hlt := lastPlace?_lt hown
    omega
  obtain ⟨hlaid, hperm⟩ := foldl_placeAcross_laid how hbehind strays
  have hgroup : group how input = strays.foldl (placeAcross how)
      (laid shells fun place => ((owned how shells holes).holesAt place).reverse) := by
    rw [laid_nil_holes] at hplaced
    simp only [group]
    exact congrArg (fun placed => placed.2.foldl (placeAcross how) placed.1) hplaced
  refine ⟨inside how shells holes, settled how shells strays, ?_⟩
  rw [hgroup]
  constructor
  case nonempty => exact fun polygon _ => List.cons_ne_nil _ _
  case proper =>
    rw [rings_inside, rings_settled]
    apply (List.filter_append_perm Ring.isClockwise (properRings input)).symm.trans
    exact (perm_contained_stray how shells holes).append_left shells
  case kept =>
    rw [rings_inside, ← List.append_assoc]
    exact hperm.trans (hinside.append_right _)
  case shells => rw [hlaid, map_shell_laid]
  case inside_rings => exact rings_inside how shells holes
  case inside_last => exact fun entry hentry => isLastPlace_of_mem_inside how shells hentry
  case across_rings => exact rings_settled how shells strays
  case across_last => exact fun before entry after h => isLastPlace_of_settled how h
  case holes =>
    intro place polygon hpolygon
    rw [hlaid] at hpolygon
    rw [holes_of_getElem?_laid hpolygon, holesAt_inside]

end GeoLayers.Polygon
