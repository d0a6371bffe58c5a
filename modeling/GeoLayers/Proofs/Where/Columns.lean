import GeoLayers.Proofs.Catalog.Names
import GeoLayers.Proofs.Dictionary
import GeoLayers.Proofs.Where.Acceptance

/-!
Which accepted clauses refer to real columns only. The check looks at the joined name of every
column and path, without the blanks around it and without any double quotes, while the condition
refers to what stands in the expression. A name that passes the check is the name of a column
unless it is misread in one of seven ways, and a clause refers to real columns only exactly if none
of its names is misread.
-/

namespace GeoLayers

namespace Sql

/-- A place in an expression where it refers to columns. -/
inductive Mention where
  | column (name : Ident)
  | path (parts : List Ident)
  /-- All columns of a table, `name.*`. -/
  | star (qualifier : List Ident)
  deriving DecidableEq, Repr

def ArgValue.stars : ArgValue → List (List Ident)
  | .wildcard qualifier => [qualifier]
  | _ => []

def ArgForm.stars : ArgForm → List (List Ident)
  | .unnamed value => value.stars
  | .named _ value => value.stars

/-- The qualifiers of the stars that stand in a construct besides its operands. -/
def Form.stars : Form → List (List Ident)
  | .wildcard qualifier => [qualifier]
  | .call c => (c.arguments.map fun list => list.args.flatMap ArgForm.stars).getD []
  | _ => []

namespace Expr

mutual

/-- Everything in an expression that refers to columns. The fixed text of a nested query is not
looked at. -/
def mentions : Expr → List Mention
  | .column name => [.column name]
  | .path parts => [.path parts]
  | .form head operands => head.stars.map .star ++ mentionsAll operands

def mentionsAll : List Expr → List Mention
  | [] => []
  | e :: es => mentions e ++ mentionsAll es

end

theorem mentionsAll_eq_flatMap (es : List Expr) : mentionsAll es = es.flatMap mentions := by
  induction es with
  | nil => rfl
  | cons e es ih => simp only [mentionsAll, List.flatMap_cons, ih]

end Expr

namespace Mention

/-- The parts of the name of a column; a star names no single column. -/
def parts? : Mention → Option (List String)
  | .column name => some [name.value]
  | .path parts => some (parts.map Ident.value)
  | .star _ => none

/-- What becomes of a mention in the condition. -/
def qualified : Mention → Mention
  | .column name => .path [Where.quotedIdent sourceAlias, Where.quotedIdent name.value]
  | .path parts => .path (parts.map fun part => Where.quotedIdent part.value)
  | .star qualifier => .star qualifier

end Mention

theorem references_eq_filterMap (e : Expr) : e.references = e.mentions.filterMap Mention.parts? := by
  induction e using Expr.induction_of_operands with
  | hcolumn name => rfl
  | hpath parts => rfl
  | hform head operands ih =>
      have hstars : (head.stars.map Mention.star).filterMap Mention.parts? = [] :=
        List.filterMap_eq_nil_iff.2 (List.forall_mem_map.2 fun _ _ => rfl)
      rw [Expr.references, Expr.referencesAll_eq_flatMap, Expr.mentions, Expr.mentionsAll_eq_flatMap,
        List.filterMap_append, hstars, List.nil_append, List.filterMap_flatMap]
      rw [List.flatMap_def, List.flatMap_def, List.map_congr_left ih]

/-- Qualifying the names of an expression qualifies each of its mentions. -/
theorem mentions_qualify (e : Expr) :
    (Where.qualify e).mentions = e.mentions.map Mention.qualified := by
  induction e using Expr.induction_of_operands with
  | hcolumn name => rfl
  | hpath parts => rfl
  | hform head operands ih =>
      have hoperands : (operands.map Where.qualify).flatMap Expr.mentions =
          operands.flatMap fun e => e.mentions.map Mention.qualified := by
        rw [List.flatMap_map]
        rw [List.flatMap_def, List.flatMap_def, List.map_congr_left ih]
      have hqualify : Where.qualify (.form head operands) =
          .form head (operands.map Where.qualify) := by
        rw [Where.qualify, Expr.mapNames, Expr.mapNamesAll_eq_map]
        rfl
      rw [hqualify, Expr.mentions, Expr.mentionsAll_eq_flatMap, hoperands, Expr.mentions,
        Expr.mentionsAll_eq_flatMap, List.map_append, List.map_map, List.map_flatMap]
      rfl

end Sql

/-- Dropping blanks at the end of a list keeps how often any other character is in it. -/
theorem Text.count_dropWhile_isBlank {c : Char} (hc : isBlank c = false) (cs : List Char) :
    (cs.dropWhile isBlank).count c = cs.count c := by
  induction cs with
  | nil => rfl
  | cons d cs ih =>
      rw [List.dropWhile_cons]
      split
      case isTrue hd =>
        have hne : d ≠ c := fun heq => by simp [heq, hc] at hd
        rw [ih, List.count_cons_of_ne hne]
      case isFalse => rfl

/-- A name as it is looked up has every character as often as the name, but blanks and quotes. -/
theorem count_bareName {c : Char} (hblank : Text.isBlank c = false) (hquote : c ≠ '"')
    (name : String) : (bareName name).toList.count c = name.toList.count c := by
  rw [bareName, String.toList_ofList, List.count_filter (by simpa using hquote), Text.trimChars,
    Text.trimEnd, List.count_reverse, Text.count_dropWhile_isBlank hblank, List.count_reverse,
    Text.trimStart, Text.count_dropWhile_isBlank hblank]

theorem Catalog.passes_of_checkNames {catalog : Catalog} {names : List String} {includeRelated : Bool}
    (h : catalog.checkNames names includeRelated = .ok ()) {name : String} (hname : name ∈ names) :
    catalog.Passes includeRelated name :=
  checkNames_eq_ok_iff.1 h name hname

/-- A name of a related column is cut at its first period into a title and a column. -/
theorem Catalog.isRelatedName_eq_true {catalog : Catalog} {name : String}
    (h : catalog.isRelatedName name = true) :
    ∃ title column related, Text.cutAt '.' name = some (title, column) ∧
      catalog.related? title = some related ∧ (column = "*" ∨ name ∈ related.names) := by
  obtain ⟨title, column, related, hname, htitle, hfound, hcolumn⟩ := isRelatedName_iff.1 h
  exact ⟨title, column, related, cutAt_period_eq_some_iff.2 ⟨hname, htitle⟩, hfound, hcolumn⟩

/-- Whether parts are the title of a relation and a column of its table. -/
def Catalog.HasRelated (catalog : Catalog) (parts : List String) : Prop :=
  ∃ related ∈ catalog.related, ∃ column, parts = [related.relation.title, column] ∧
    related.relation.qualify column ∈ related.names

namespace Sql.Mention

/-- The name that a mention is checked by, before blanks and quotes are dropped from it. -/
def name (m : Mention) : String := ".".intercalate (m.parts?.getD [])

/-- A mention refers to a column that there is, by the name that was checked: a column of the layer
in the layer's own table, or one of a related table if these may be used. -/
def Genuine (catalog : Catalog) (includeRelated : Bool) (m : Mention) : Prop :=
  ∃ parts, m.qualified.parts? = some parts ∧
    ((∃ column, parts = [sourceAlias, column] ∧ column = bareName m.name ∧
        catalog.hasField column = true) ∨
      includeRelated = true ∧ ∃ related ∈ catalog.related, ∃ column,
        parts = [related.relation.title, column] ∧
          related.relation.qualify column = bareName m.name ∧ bareName m.name ∈ related.names)

/-- The ways in which a mention refers to something else than its check was about. -/
inductive Misread (catalog : Catalog) (includeRelated : Bool) : Mention → Prop
  /-- A star with a qualifier is not checked at all. -/
  | unchecked (qualifier : List Ident) : Misread catalog includeRelated (.star qualifier)
  /-- Blanks around a name and quotes inside it do not count for the check. -/
  | respelled {m : Mention} (h : bareName m.name ≠ m.name) : Misread catalog includeRelated m
  /-- No name and a star are columns of every table for the check. -/
  | waived {m : Mention} (h : m.name = "" ∨ m.name = "*") (hfield : catalog.hasField m.name = false) :
      Misread catalog includeRelated m
  /-- A name with a period inside is checked as that of a related column, and refers to a column of
  the layer's own table. -/
  | undivided {name : Ident} (h : catalog.isRelatedName name.value = true)
      (hfield : catalog.hasField name.value = false) : Misread catalog includeRelated (.column name)
  /-- A path is checked as the name of a column of the layer's own table, and refers to another
  table. -/
  | owned {parts : List Ident} (hfield : catalog.hasField (Mention.path parts).name = true)
      (h : ¬(includeRelated = true ∧ catalog.HasRelated (parts.map Ident.value))) :
      Misread catalog includeRelated (.path parts)
  /-- A star in the place of a related column is every column for the check. -/
  | starred {parts : List Ident} {title : String}
      (hcut : Text.cutAt '.' (Mention.path parts).name = some (title, "*"))
      (h : ¬catalog.HasRelated (parts.map Ident.value)) : Misread catalog includeRelated (.path parts)
  /-- A path is cut at its first period for the check, wherever its parts end. -/
  | divided {parts : List Ident} {title column : String}
      (hcut : Text.cutAt '.' (Mention.path parts).name = some (title, column))
      (hparts : parts.map Ident.value ≠ [title, column])
      (h : ¬catalog.HasRelated (parts.map Ident.value)) : Misread catalog includeRelated (.path parts)

@[simp] theorem name_column (name : Ident) : (Mention.column name).name = name.value :=
  String.intercalate_singleton

/-- No name is looked up as itself with the alias of the layer's table in front. -/
theorem bareName_ne_alias (name : String) : bareName name ≠ sourceAlias ++ "." ++ name := by
  intro h
  have hcount := count_bareName (c := 's') (by decide) (by decide) name
  rw [h, String.toList_append, String.toList_append, List.count_append, List.count_append] at hcount
  have halias : sourceAlias.toList.count 's' = 1 := by decide
  omega

theorem ne_bareName_alias (name : String) : name ≠ bareName (sourceAlias ++ "." ++ name) := by
  intro h
  have hcount := count_bareName (c := 's') (by decide) (by decide) (sourceAlias ++ "." ++ name)
  rw [← h, String.toList_append, String.toList_append, List.count_append, List.count_append] at hcount
  have halias : sourceAlias.toList.count 's' = 1 := by decide
  omega

theorem name_path_pair {parts : List Ident} {title column : String}
    (h : parts.map Ident.value = [title, column]) :
    (Mention.path parts).name = title ++ "." ++ column := by
  simp [name, parts?, h, String.intercalate_cons_cons, String.intercalate_singleton]

theorem genuine_column_iff {catalog : Catalog} {includeRelated : Bool} {name : Ident} :
    (Mention.column name).Genuine catalog includeRelated ↔
      bareName name.value = name.value ∧ catalog.hasField name.value = true := by
  constructor
  · rintro ⟨parts, hparts, ⟨column, rfl, rfl, hfield⟩ | ⟨-, related, -, column, rfl, hchecked, -⟩⟩
    · have hvalue : name.value = bareName (Mention.column name).name := by
        simpa [qualified, parts?, Where.quotedIdent] using hparts
      rw [name_column] at hvalue hfield
      rw [← hvalue] at hfield ⊢
      exact ⟨rfl, hfield⟩
    · have hpair : sourceAlias = related.relation.title ∧ name.value = column := by
        simpa [qualified, parts?, Where.quotedIdent] using hparts
      rw [name_column, Relation.qualify, ← hpair.1, ← hpair.2] at hchecked
      exact absurd hchecked.symm (bareName_ne_alias name.value)
  · rintro ⟨hspelled, hfield⟩
    exact ⟨_, rfl, .inl ⟨name.value, rfl, by rw [name_column, hspelled], hfield⟩⟩

theorem genuine_path_iff {catalog : Catalog} {includeRelated : Bool} {parts : List Ident} :
    (Mention.path parts).Genuine catalog includeRelated ↔
      bareName (Mention.path parts).name = (Mention.path parts).name ∧
        includeRelated = true ∧ catalog.HasRelated (parts.map Ident.value) := by
  have hqualified : (Mention.path parts).qualified.parts? = some (parts.map Ident.value) := by
    simp [qualified, parts?, Where.quotedIdent, Function.comp_def]
  constructor
  · rintro ⟨ps, hparts, ⟨column, rfl, hchecked, -⟩ |
      ⟨hincluded, related, hrelated, column, rfl, hchecked, hmem⟩⟩
    · have hpair := Option.some.inj (hqualified.symm.trans hparts)
      rw [name_path_pair hpair] at hchecked
      exact absurd hchecked (ne_bareName_alias column)
    · have hpair := Option.some.inj (hqualified.symm.trans hparts)
      have hname := name_path_pair hpair
      rw [← hchecked] at hmem
      exact ⟨hchecked.symm.trans hname.symm, hincluded, related, hrelated, column, hpair, hmem⟩
  · rintro ⟨hspelled, hincluded, related, hrelated, column, hpair, hmem⟩
    have hchecked : related.relation.qualify column = bareName (Mention.path parts).name := by
      rw [hspelled, name_path_pair hpair, Relation.qualify]
    exact ⟨_, hqualified, .inr ⟨hincluded, related, hrelated, column, hpair, hchecked,
      hchecked ▸ hmem⟩⟩

/-- The name of a related column has a period. -/
theorem name_path_ne {catalog : Catalog} {parts : List Ident}
    (h : catalog.HasRelated (parts.map Ident.value)) :
    (Mention.path parts).name ≠ "" ∧ (Mention.path parts).name ≠ "*" := by
  obtain ⟨related, -, column, hpair, -⟩ := h
  have hperiod : '.' ∈ (Mention.path parts).name.toList := by
    rw [name_path_pair hpair]
    simp
  constructor <;> intro hname <;> rw [hname] at hperiod <;> revert hperiod <;> decide

theorem not_genuine_of_misread {catalog : Catalog} {includeRelated : Bool} {m : Mention}
    (h : m.Misread catalog includeRelated) : ¬m.Genuine catalog includeRelated := by
  intro hgenuine
  cases m with
  | star qualifier =>
      obtain ⟨parts, hparts, -⟩ := hgenuine
      cases hparts
  | column name =>
      obtain ⟨hspelled, hfield⟩ := genuine_column_iff.1 hgenuine
      cases h with
      | respelled hne => exact hne (by rw [name_column, hspelled])
      | waived _ hnone => rw [name_column, hfield] at hnone; cases hnone
      | undivided _ hnone => rw [hfield] at hnone; cases hnone
  | path parts =>
      obtain ⟨hspelled, hincluded, hrelated⟩ := genuine_path_iff.1 hgenuine
      cases h with
      | respelled hne => exact hne hspelled
      | waived hname _ =>
          rcases hname with hempty | hstar
          · exact (name_path_ne hrelated).1 hempty
          · exact (name_path_ne hrelated).2 hstar
      | owned _ hnot => exact hnot ⟨hincluded, hrelated⟩
      | starred _ hnot => exact hnot hrelated
      | divided _ _ hnot => exact hnot hrelated

/-- What passes the check of names and is not misread is a column that there is. -/
theorem genuine_of_not_misread {catalog : Catalog} {includeRelated : Bool} {m : Mention}
    (hpasses : m.parts?.isSome = true → catalog.Passes includeRelated m.name)
    (h : ¬m.Misread catalog includeRelated) : m.Genuine catalog includeRelated := by
  have hspelled : bareName m.name = m.name := Decidable.byContradiction fun hne => h (.respelled hne)
  cases m with
  | star qualifier => exact absurd (.unchecked qualifier) h
  | column name =>
      have hpasses := hpasses rfl
      rw [Catalog.Passes, hspelled] at hpasses
      rw [name_column] at hspelled hpasses
      refine genuine_column_iff.2 ⟨hspelled, ?_⟩
      by_cases hfield : catalog.hasField name.value = true
      · exact hfield
      · have hnone : catalog.hasField name.value = false := by simpa using hfield
        rcases hpasses with hempty | hstar | hfield | ⟨-, hrelated⟩
        · exact absurd (.waived (.inl (by rwa [name_column])) (by rwa [name_column])) h
        · exact absurd (.waived (.inr (by rwa [name_column])) (by rwa [name_column])) h
        · exact hfield
        · exact absurd (.undivided hrelated hnone) h
  | path parts =>
      have hpasses := hpasses rfl
      rw [Catalog.Passes, hspelled] at hpasses
      refine genuine_path_iff.2 ⟨hspelled, Classical.byContradiction fun hnot => ?_⟩
      by_cases hfield : catalog.hasField (Mention.path parts).name = true
      · exact h (.owned hfield hnot)
      · have hnone : catalog.hasField (Mention.path parts).name = false := by simpa using hfield
        rcases hpasses with hempty | hstar | hfield' | ⟨hincluded, hrelated⟩
        · exact h (.waived (.inl hempty) hnone)
        · exact h (.waived (.inr hstar) hnone)
        · exact hfield hfield'
        · have hnot : ¬catalog.HasRelated (parts.map Ident.value) := fun hhas =>
            hnot ⟨hincluded, hhas⟩
          obtain ⟨title, column, related, hcut, hfound, hcolumn⟩ :=
            Catalog.isRelatedName_eq_true hrelated
          rcases hcolumn with rfl | hmem
          · exact h (.starred hcut hnot)
          · refine h (.divided hcut (fun hpair => hnot ?_) hnot)
            have htitle : related.relation.title = title := by
              simpa using List.find?_some hfound
            refine ⟨related, List.mem_of_find?_eq_some hfound, column, by rw [htitle, hpair], ?_⟩
            rwa [Relation.qualify, htitle, ← name_path_pair hpair]

end Sql.Mention

/-- The mentions of the condition are those of the clause, qualified, and all of them are columns
that there are exactly if none is misread. -/
theorem Where.genuine_iff_not_misread {catalog : Catalog} {includeRelated : Bool} {text : String}
    {w : Where} (h : check catalog includeRelated text = .ok (some w)) :
    ∃ e, parse text = .ok e ∧ w.condition.mentions = e.mentions.map Sql.Mention.qualified ∧
      ((∀ m ∈ e.mentions, m.Genuine catalog includeRelated) ↔
        ∀ m ∈ e.mentions, ¬m.Misread catalog includeRelated) := by
  obtain ⟨e, hparse, hnames, rfl⟩ := check_eq_some h
  refine ⟨e, hparse, Sql.mentions_qualify e, ?_, ?_⟩
  · exact fun hgenuine m hm hmisread => Sql.Mention.not_genuine_of_misread hmisread (hgenuine m hm)
  · intro hmisread m hm
    refine Sql.Mention.genuine_of_not_misread (fun hparts => ?_) (hmisread m hm)
    obtain ⟨parts, hparts⟩ := Option.isSome_iff_exists.1 hparts
    have hmem : parts ∈ e.references := by
      rw [Sql.references_eq_filterMap]
      exact List.mem_filterMap.2 ⟨m, hm, hparts⟩
    refine Catalog.passes_of_checkNames hnames (mem_sortedTexts.2 (List.mem_map.2 ⟨parts, hmem, ?_⟩))
    rw [Sql.Mention.name, hparts, Option.getD_some]

/-- A name with a quote inside is checked without it, and stands in the condition with it. -/
theorem Where.quoted_depth_passes : ∃ w,
    check wells false "\"de\"\"pth\" > 10.5" = .ok (some w) ∧
      (∃ m ∈ w.condition.mentions, m.parts? = some [sourceAlias, "de\"pth"]) ∧
      wells.hasField "de\"pth" = false ∧ w.text = "\"source\".\"de\"\"pth\" > 10.5" := by
  obtain ⟨w, hcheck, htest⟩ := exists_of_passesWith wells false "\"de\"\"pth\" > 10.5"
    (fun w => w.condition.mentions.any (·.parts? == some [sourceAlias, "de\"pth"]) &&
      w.text == "\"source\".\"de\"\"pth\" > 10.5") (by decide +kernel)
  simp only [Bool.and_eq_true, beq_iff_eq, List.any_eq_true] at htest
  exact ⟨w, hcheck, htest.1, by decide +kernel, htest.2⟩

theorem Where.genuine_iff_not_misread_samples : ∃ w e,
    check wells true "depth > 10.5 AND samples.ph < 7" = .ok (some w) ∧
      parse "depth > 10.5 AND samples.ph < 7" = .ok e ∧
      w.condition.mentions = e.mentions.map Sql.Mention.qualified ∧
      ((∀ m ∈ e.mentions, m.Genuine wells true) ↔ ∀ m ∈ e.mentions, ¬m.Misread wells true) := by
  obtain ⟨w, hcheck, -⟩ := exists_of_passesWith wells true "depth > 10.5 AND samples.ph < 7"
    (fun _ => true) (by decide +kernel)
  obtain ⟨e, hparse, hmentions, hgenuine⟩ := genuine_iff_not_misread hcheck
  exact ⟨w, e, hcheck, hparse, hmentions, hgenuine⟩

end GeoLayers
