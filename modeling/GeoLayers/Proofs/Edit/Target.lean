import GeoLayers.Edit.Apply
import GeoLayers.Proofs.Query.Plan
import GeoLayers.Proofs.Statement

/-!
Which row the statements of an edit are about. A change of attributes, a change of a geometry and a
removal all end with the condition that picks the row with the object id of the edit, and the id is
their last parameter.
-/

namespace GeoLayers.Edit

open Statement (Piece)

variable {layer : Layer} {catalog : Catalog} {feature : Feature} {id : Int} {statement : Statement}

/-- A statement on the layer's table that is restricted to the row with an object id. -/
def Picks (verb : String) (layer : Layer) (id : Int) (statement : Statement) : Prop :=
  ∃ content binds,
    statement.sql = verb ++ quoteName layer.table ++ content ++ " WHERE " ++
      quoteName layer.objectIdField ++ " = $" ++ toString (binds.length + 1) ∧
    statement.binds = binds ++ [.bigInt id]

/-- A statement that changes the row with an object id or removes it. -/
def Restricted (layer : Layer) (id : Int) (statement : Statement) : Prop :=
  Picks "UPDATE " layer id statement ∨ Picks "DELETE FROM " layer id statement

/-- A statement on the layer's table that ends with the condition on the object id is restricted to
its row. -/
theorem picks_ofPieces {verb text content : String} (pieces : List Piece)
    (htext : text = verb ++ quoteName layer.table ++ content) :
    Picks verb layer id (Statement.ofPieces (.text text :: pieces ++ wherePieces layer id)) := by
  refine ⟨content ++ Statement.textFrom 0 pieces, Statement.bindsOf pieces, ?_, ?_⟩
  · have hmark : " = $" = " = " ++ "$" := rfl
    rw [Statement.ofPieces_eq, List.cons_append, Statement.textFrom, Statement.textFrom_append,
      htext, hmark]
    simp only [wherePieces, Statement.textFrom, Statement.placeholder, Nat.zero_add,
      String.append_assoc, String.append_empty]
  · rw [Statement.ofPieces_eq, List.cons_append, Statement.bindsOf, Statement.bindsOf_append]
    rfl

/-- A change of attributes is a statement on the row of the feature, if there is any attribute to
change. -/
theorem of_updateStatement {attributes : Attributes} {update : Option Statement}
    (h : updateStatement layer catalog attributes = .ok (id, update)) :
    (update = none ↔ changed layer attributes = []) ∧
      ∀ statement ∈ update, Picks "UPDATE " layer id statement := by
  obtain ⟨objectId, -, hnext⟩ := exists_ok_of_bind h
  dsimp only at hnext
  split at hnext
  case isTrue => cases hnext
  case isFalse =>
    split at hnext
    case isTrue hempty =>
      obtain ⟨rfl, rfl⟩ := Prod.mk.inj (Except.ok.inj hnext)
      exact ⟨iff_of_true rfl (List.isEmpty_iff.1 hempty), by simp⟩
    case isFalse hempty =>
      obtain ⟨assignments, -, hpure⟩ := exists_ok_of_bind hnext
      obtain ⟨rfl, rfl⟩ := Prod.mk.inj (Except.ok.inj hpure)
      refine ⟨iff_of_false nofun fun hnil => hempty (List.isEmpty_iff.2 hnil), ?_⟩
      rintro statement ⟨⟩
      exact picks_ofPieces _ rfl

theorem picks_geometryStatement {geometry : Geometry Float}
    (h : geometryStatement layer geometry id = .ok statement) :
    Picks "UPDATE " layer id statement := by
  unfold geometryStatement at h
  split at h
  · cases h
  · obtain rfl := Except.ok.inj h
    have htext : "UPDATE " ++ quoteName layer.table ++ " SET " ++ quoteName layer.geometryField ++
          " = ST_Transform(ST_GeomFromEWKT(" =
        "UPDATE " ++ quoteName layer.table ++
          (" SET " ++ quoteName layer.geometryField ++ " = ST_Transform(ST_GeomFromEWKT(") := by
      simp only [String.append_assoc]
    exact picks_ofPieces _ htext

theorem picks_deleteStatement : Picks "DELETE FROM " layer id (deleteStatement layer id) :=
  picks_ofPieces [] String.append_empty.symm

/-- The statement that sets the geometry of a feature, if it has one. -/
def geometryStatements (layer : Layer) (feature : Feature) (id : Int) :
    Except Error (List Statement) :=
  match feature.geometry with
  | none => .ok []
  | some geometry => (geometryStatement layer geometry id).map ([·])

theorem picks_geometryStatements {statements : List Statement}
    (h : geometryStatements layer feature id = .ok statements) :
    ∀ statement ∈ statements, Picks "UPDATE " layer id statement := by
  unfold geometryStatements at h
  cases hfeature : feature.geometry with
  | none =>
      rw [hfeature] at h
      obtain rfl := Except.ok.inj h
      simp
  | some geometry =>
      simp only [hfeature] at h
      cases hgeometry : geometryStatement layer geometry id with
      | error e =>
          rw [hgeometry] at h
          cases h
      | ok statement =>
          rw [hgeometry] at h
          obtain rfl := Except.ok.inj h
          simpa using picks_geometryStatement hgeometry

/-- The statements of a change are the one for the attributes, if there are any to change, and the
one for the geometry, if there is one. -/
theorem updateStatements_eq : updateStatements layer catalog feature =
    updateStatement layer catalog feature.attributes >>= fun prepared =>
      (geometryStatements layer feature prepared.1).map fun geometry =>
        (prepared.1, prepared.2.toList ++ geometry) := by
  unfold updateStatements geometryStatements
  congr 1
  funext prepared
  cases feature.geometry with
  | none => simp [Except.map]; rfl
  | some geometry =>
      dsimp only
      cases geometryStatement layer geometry prepared.1 <;> rfl

theorem updateStatements_eq_ok {statements : List Statement}
    (h : updateStatements layer catalog feature = .ok (id, statements)) :
    ∃ update geometry, updateStatement layer catalog feature.attributes = .ok (id, update) ∧
      geometryStatements layer feature id = .ok geometry ∧
      statements = update.toList ++ geometry := by
  rw [updateStatements_eq] at h
  obtain ⟨⟨objectId, update⟩, hupdate, hmap⟩ := exists_ok_of_bind h
  cases hgeometry : geometryStatements layer feature objectId with
  | error e =>
      rw [hgeometry] at hmap
      cases hmap
  | ok geometry =>
      rw [hgeometry] at hmap
      obtain ⟨rfl, rfl⟩ := Prod.mk.inj (Except.ok.inj hmap)
      exact ⟨update, geometry, hupdate, hgeometry, rfl⟩

/-- Every statement of a change is restricted to the row with the object id of the feature. -/
theorem picks_updateStatements {statements : List Statement}
    (h : updateStatements layer catalog feature = .ok (id, statements)) :
    ∀ statement ∈ statements, Picks "UPDATE " layer id statement := by
  obtain ⟨update, geometry, hupdate, hgeometry, rfl⟩ := updateStatements_eq_ok h
  intro statement hmem
  rcases List.mem_append.1 hmem with hmem | hmem
  · exact (of_updateStatement hupdate).2 statement (Option.mem_toList.1 hmem)
  · exact picks_geometryStatements hgeometry statement hmem

end GeoLayers.Edit
