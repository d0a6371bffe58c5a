import GeoLayers.Proofs.Dictionary
import GeoLayers.Proofs.Sql.Places
import GeoLayers.Proofs.Where.Acceptance

/-!
What a clause becomes. The condition has the nodes of the expression at the same places, with nothing
but the names changed; the names that are reported are those at its places, and the titles are what
stands before the first period of those with a period.
-/

namespace GeoLayers

/-- What stands before the first separator, if there is one. -/
theorem Text.map_fst_cutFirst (sep : Char) (cs : List Char) :
    (cutFirst sep cs).map Prod.fst = if sep ∈ cs then some (cs.takeWhile (· != sep)) else none := by
  induction cs with
  | nil => rfl
  | cons c cs ih =>
      rw [cutFirst]
      by_cases hc : c = sep
      · simp [hc]
      · have hmem : sep ∈ c :: cs ↔ sep ∈ cs := by simp [Ne.symm hc]
        rw [if_neg (by simpa using hc), Option.map_map]
        have hfst : Prod.fst ∘ (fun cut : List Char × List Char => (c :: cut.1, cut.2)) =
            (c :: ·) ∘ Prod.fst := rfl
        rw [hfst, ← Option.map_map, ih]
        simp only [hmem]
        split <;> simp [hc]

theorem Text.map_fst_cutAt (sep : Char) (s : String) :
    (cutAt sep s).map Prod.fst =
      if sep ∈ s.toList then some (String.ofList (s.toList.takeWhile (· != sep))) else none := by
  have hfst : Prod.fst ∘ (fun cut : List Char × List Char =>
      (String.ofList cut.1, String.ofList cut.2)) = String.ofList ∘ Prod.fst := rfl
  rw [cutAt, Option.map_map, hfst, ← Option.map_map, map_fst_cutFirst]
  split <;> rfl

namespace Where

open Sql (Expr Ident Node)

/-- What becomes of a node in the condition. -/
def qualifyNode : Node → Node
  | .column name => .path [quotedIdent sourceAlias, quotedIdent name.value]
  | .path parts => .path (parts.map fun part => quotedIdent part.value)
  | .form head operands => .form head operands

theorem nodeAt?_qualify (e : Expr) (place : List Nat) :
    (qualify e).nodeAt? place = (e.nodeAt? place).map qualifyNode := by
  have hnode : Node.mapNames (fun name => .path [quotedIdent sourceAlias, quotedIdent name.value])
      (fun parts => .path (parts.map fun part => quotedIdent part.value)) = qualifyNode := by
    funext node
    cases node <;> rfl
  rw [qualify, Expr.nodeAt?_mapNames (fun _ => rfl) (fun _ => rfl), hnode]

theorem mem_namesIn {e : Expr} {name : String} :
    name ∈ namesIn e ↔
      (∃ place ident, e.nodeAt? place = some (.column ident) ∧ name = ident.value) ∨
        ∃ place parts, e.nodeAt? place = some (.path parts) ∧
          name = ".".intercalate (parts.map Ident.value) := by
  rw [namesIn, mem_sortedTexts, List.mem_map]
  simp only [Expr.mem_references]
  constructor
  · rintro ⟨parts, ⟨place, node, hnode, hreference⟩, rfl⟩
    cases node with
    | column ident =>
        obtain rfl := Option.some.inj hreference
        exact .inl ⟨place, ident, hnode, String.intercalate_singleton⟩
    | path path =>
        obtain rfl := Option.some.inj hreference
        exact .inr ⟨place, path, hnode, rfl⟩
    | form head operands => cases hreference
  · rintro (⟨place, ident, hnode, rfl⟩ | ⟨place, path, hnode, rfl⟩)
    · exact ⟨[ident.value], ⟨place, _, hnode, rfl⟩, String.intercalate_singleton⟩
    · exact ⟨path.map Ident.value, ⟨place, _, hnode, rfl⟩, rfl⟩

theorem pairwise_namesIn (e : Expr) : (namesIn e).Pairwise (· < ·) :=
  Dictionary.increasing_keys _

/-- There is a title for each name with a period, in the order of the names. -/
theorem titles_eq (w : Where) :
    w.titles = (w.fields.filter fun name => '.' ∈ name.toList).map fun name =>
      String.ofList (name.toList.takeWhile (· != '.')) := by
  rw [titles, ← List.filterMap_eq_map, List.filterMap_filter]
  congr 1
  funext name
  simp only [Text.map_fst_cutAt, decide_eq_true_eq, Function.comp_apply]

/-- The condition is the one expression with the nodes of the clause at its places, where a column is
the path of it in the layer's table and the parts of a path are in quotes. The names are exactly
those of the columns and paths at its places, each once, and there is a title for each of them that
has a period. -/
theorem rewrites_names_only {catalog : Catalog} {includeRelated : Bool} {text : String} {w : Where}
    (h : check catalog includeRelated text = .ok (some w)) :
    ∃ e, parse text = .ok e ∧
      (∀ e' : Expr,
        e' = w.condition ↔ ∀ place, e'.nodeAt? place = (e.nodeAt? place).map qualifyNode) ∧
      w.fields.Pairwise (· < ·) ∧
      (∀ name, name ∈ w.fields ↔
        (∃ place ident, e.nodeAt? place = some (.column ident) ∧ name = ident.value) ∨
          ∃ place parts, e.nodeAt? place = some (.path parts) ∧
            name = ".".intercalate (parts.map Ident.value)) ∧
      w.titles = (w.fields.filter fun name => '.' ∈ name.toList).map fun name =>
        String.ofList (name.toList.takeWhile (· != '.')) := by
  obtain ⟨e, hparse, -, rfl⟩ := check_eq_some h
  refine ⟨e, hparse, fun e' => ⟨?_, fun hnodes => ?_⟩, pairwise_namesIn e, fun name => mem_namesIn,
    titles_eq _⟩
  · rintro rfl
    exact nodeAt?_qualify e
  · exact Expr.ext_nodeAt? fun place => (hnodes place).trans (nodeAt?_qualify e place).symm

/-- A column inside a call becomes a path of the layer's table, a path of a related table keeps its
parts, and neither the name of the function nor a text is a name of a column. -/
theorem rewrites_names_only_samples : ∃ w e,
    check wells true "lower(name) LIKE 'a%' AND \"depth\" > samples.ph" = .ok (some w) ∧
      parse "lower(name) LIKE 'a%' AND \"depth\" > samples.ph" = .ok e ∧
      e.nodeAt? [0, 0, 0] = some (.column ⟨"name", .bare⟩) ∧
      w.condition.nodeAt? [0, 0, 0] = some (.path [⟨"source", .double⟩, ⟨"name", .double⟩]) ∧
      e.nodeAt? [1, 1] = some (.path [⟨"samples", .bare⟩, ⟨"ph", .bare⟩]) ∧
      w.condition.nodeAt? [1, 1] = some (.path [⟨"samples", .double⟩, ⟨"ph", .double⟩]) ∧
      w.fields = ["depth", "name", "samples.ph"] ∧ w.titles = ["samples"] := by
  obtain ⟨w, hcheck, hfields⟩ := exists_of_passesWith wells true
    "lower(name) LIKE 'a%' AND \"depth\" > samples.ph"
    (·.fields == ["depth", "name", "samples.ph"]) (by decide +kernel)
  rw [beq_iff_eq] at hfields
  obtain ⟨e, hparse, hcondition, -, -, htitles⟩ := rewrites_names_only hcheck
  have hnodes := (hcondition w.condition).1 rfl
  have hexpr : (parse "lower(name) LIKE 'a%' AND \"depth\" > samples.ph").toOption.map (fun e =>
      (e.nodeAt? [0, 0, 0], e.nodeAt? [1, 1])) = some (some (.column ⟨"name", .bare⟩),
        some (.path [⟨"samples", .bare⟩, ⟨"ph", .bare⟩])) := by decide +kernel
  rw [hparse] at hexpr
  obtain ⟨hname, hph⟩ := Prod.mk.inj (Option.some.inj hexpr)
  refine ⟨w, e, hcheck, hparse, hname, ?_, hph, ?_, hfields, ?_⟩
  · rw [hnodes, hname]
    rfl
  · rw [hnodes, hph]
    rfl
  · rw [htitles, hfields]
    decide +kernel

end Where

end GeoLayers
