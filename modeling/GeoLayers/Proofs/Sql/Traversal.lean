import GeoLayers.Sql.Printer

/-!
Traversals of expressions. What is defined for an expression and for a list of expressions together
is on lists the library's own operation, so facts about a traversal need only one induction, whose
step assumes them of all operands.
-/

namespace GeoLayers.Sql.Expr

mutual

theorem induction_of_operands {P : Expr → Prop} (hcolumn : ∀ name, P (.column name))
    (hpath : ∀ parts, P (.path parts))
    (hform : ∀ head operands, (∀ e ∈ operands, P e) → P (.form head operands)) : ∀ e, P e
  | .column name => hcolumn name
  | .path parts => hpath parts
  | .form head operands => hform head operands (forall_of_operands hcolumn hpath hform operands)

theorem forall_of_operands {P : Expr → Prop} (hcolumn : ∀ name, P (.column name))
    (hpath : ∀ parts, P (.path parts))
    (hform : ∀ head operands, (∀ e ∈ operands, P e) → P (.form head operands)) :
    ∀ es : List Expr, ∀ e ∈ es, P e
  | [] => List.forall_mem_nil P
  | e :: es => List.forall_mem_cons.2
      ⟨induction_of_operands hcolumn hpath hform e, forall_of_operands hcolumn hpath hform es⟩

end

theorem anyFormIn_eq_any (test : Form → Bool) (es : List Expr) :
    anyFormIn test es = es.any (anyForm test) := by
  induction es with
  | nil => rfl
  | cons e es ih => simp only [anyFormIn, List.any_cons, ih]

theorem mapNamesAll_eq_map (onColumn : Ident → Expr) (onPath : List Ident → Expr)
    (es : List Expr) : mapNamesAll onColumn onPath es = es.map (mapNames onColumn onPath) := by
  induction es with
  | nil => rfl
  | cons e es ih => simp only [mapNamesAll, List.map_cons, ih]

theorem referencesAll_eq_flatMap (es : List Expr) : referencesAll es = es.flatMap references := by
  induction es with
  | nil => rfl
  | cons e es ih => simp only [referencesAll, List.flatMap_cons, ih]

theorem renderAll_eq_map (es : List Expr) : renderAll es = es.map render := by
  induction es with
  | nil => rfl
  | cons e es ih => simp only [renderAll, List.map_cons, ih]

/-- A form that satisfies one of two tests satisfies the first or the second. -/
theorem anyForm_or (test test' : Form → Bool) (e : Expr) :
    e.anyForm (fun head => test head || test' head) = (e.anyForm test || e.anyForm test') := by
  induction e using induction_of_operands with
  | hcolumn => rfl
  | hpath => rfl
  | hform head operands ih =>
      have hany : operands.any (anyForm fun head => test head || test' head) =
          (operands.any (anyForm test) || operands.any (anyForm test')) := by
        rw [Bool.eq_iff_iff]
        simp only [Bool.or_eq_true, List.any_eq_true]
        constructor
        · rintro ⟨e, he, h⟩
          rw [ih e he, Bool.or_eq_true] at h
          exact h.imp (fun h => ⟨e, he, h⟩) fun h => ⟨e, he, h⟩
        · rintro (⟨e, he, h⟩ | ⟨e, he, h⟩)
          · exact ⟨e, he, by simp [ih e he, h]⟩
          · exact ⟨e, he, by simp [ih e he, h]⟩
      simp only [anyForm, anyFormIn_eq_any, hany]
      cases test head <;> cases test' head <;> simp

/-- Names that are replaced by names leave the forms of an expression as they are. -/
theorem anyForm_mapNames {test : Form → Bool} {onColumn : Ident → Expr} {onPath : List Ident → Expr}
    (hcolumn : ∀ name, (onColumn name).anyForm test = false)
    (hpath : ∀ parts, (onPath parts).anyForm test = false) (e : Expr) :
    (e.mapNames onColumn onPath).anyForm test = e.anyForm test := by
  induction e using induction_of_operands with
  | hcolumn name => exact hcolumn name
  | hpath parts => exact hpath parts
  | hform head operands ih =>
      have hany : (operands.map (mapNames onColumn onPath)).any (anyForm test) =
          operands.any (anyForm test) := by
        rw [List.any_map, Bool.eq_iff_iff]
        simp only [List.any_eq_true, Function.comp_apply]
        exact ⟨fun ⟨e, he, h⟩ => ⟨e, he, ih e he ▸ h⟩, fun ⟨e, he, h⟩ => ⟨e, he, (ih e he).symm ▸ h⟩⟩
      simp only [mapNames, anyForm, anyFormIn_eq_any, mapNamesAll_eq_map, hany]

end GeoLayers.Sql.Expr
