import GeoLayers.Proofs.Query.Layout

/-!
The placeholders of a query's statement. Outside of quoted names and of the client's condition the
text holds the numbers from one to the number of parameters, each once and in their order. Names
may hold any character, a dollar sign too; this does no harm, as a name stands between quotes.
-/

namespace GeoLayers

/-- The numbers after the dollar signs of a text that are not between double quotes, from a place
that is between quotes or not. -/
def placeholdersFrom (quoted : Bool) : List Char → List (List Char)
  | [] => []
  | c :: cs =>
    if c = '"' then placeholdersFrom (!quoted) cs
    else if c = '$' && !quoted then cs.takeWhile Char.isDigit :: placeholdersFrom quoted cs
    else placeholdersFrom quoted cs

/-- The numbers of the placeholders of a text. -/
def placeholders (text : String) : List String :=
  (placeholdersFrom false text.toList).map String.ofList

/-- The text of a part without what the client wrote. -/
def Part.outside (values : List BoundValue) : Part → String
  | .clause _ => " AND ()"
  | part => part.render values

/-! ### Texts without placeholders -/

/-- A text that has no placeholder and ends outside of quotes, so that it changes nothing for what
comes after it. -/
def Silent (cs : List Char) : Prop :=
  ∀ rest, placeholdersFrom false (cs ++ rest) = placeholdersFrom false rest

namespace Silent

theorem append {cs ds : List Char} (hcs : Silent cs) (hds : Silent ds) : Silent (cs ++ ds) := by
  intro rest
  rw [List.append_assoc, hcs, hds]

theorem of_plain {cs : List Char} (h : ∀ c ∈ cs, c ≠ '"' ∧ c ≠ '$') : Silent cs := by
  intro rest
  induction cs with
  | nil => rfl
  | cons c cs ih =>
      obtain ⟨⟨hquote, hdollar⟩, hcs⟩ := List.forall_mem_cons.1 h
      rw [List.cons_append, placeholdersFrom, if_neg hquote, if_neg (by simp [hdollar]), ih hcs]

/-- Between the quotes nothing is looked for, and a doubled quote ends nothing. -/
theorem of_doubledQuotes (cs rest : List Char) :
    placeholdersFrom true (doubledQuotes cs ++ '"' :: rest) = placeholdersFrom false rest := by
  induction cs with
  | nil => rfl
  | cons c cs ih =>
      rw [doubledQuotes]
      by_cases hquote : c = '"'
      · rw [if_pos hquote]
        exact ih
      · rw [if_neg hquote, List.cons_append, placeholdersFrom, if_neg hquote, if_neg (by simp), ih]

theorem quoteName (name : String) : Silent (quoteName name).toList := by
  intro rest
  have hname := of_doubledQuotes name.toList rest
  rw [GeoLayers.quoteName, String.toList_ofList]
  simpa [placeholdersFrom] using hname

end Silent

/-- Whether a text has no quotes and no dollar signs, and does not start with a digit. -/
def isPlainText (text : String) : Bool :=
  text.toList.all (fun c => c != '"' && c != '$') && text.toList.head?.all (!·.isDigit)

/-- A text without placeholders that does not go on with the number of a placeholder in front. -/
structure Quiet (text : String) : Prop where
  silent : Silent text.toList
  start : ∀ c, text.toList.head? = some c → c.isDigit = false

namespace Quiet

theorem of_plain {text : String} (h : isPlainText text = true) : Quiet text := by
  rw [isPlainText, Bool.and_eq_true, List.all_eq_true] at h
  obtain ⟨hplain, hstart⟩ := h
  refine ⟨Silent.of_plain fun c hc => by simpa using hplain c hc, fun c hc => ?_⟩
  rw [hc] at hstart
  simpa using hstart

theorem append {text more : String} (h : Quiet text) (hmore : Quiet more) :
    Quiet (text ++ more) := by
  constructor
  · rw [String.toList_append]
    exact h.silent.append hmore.silent
  · intro c hc
    rw [String.toList_append, List.head?_append, Option.or_eq_some_iff] at hc
    rcases hc with hc | ⟨-, hc⟩
    · exact h.start c hc
    · exact hmore.start c hc

theorem intercalate {sep : String} (hsep : Quiet sep) {items : List String}
    (h : ∀ item ∈ items, Quiet item) : Quiet (sep.intercalate items) := by
  induction items with
  | nil =>
      rw [String.intercalate_nil]
      exact of_plain (by decide)
  | cons item items ih =>
      obtain ⟨hitem, hmore⟩ := List.forall_mem_cons.1 h
      cases items with
      | nil => rwa [String.intercalate_singleton]
      | cons next items =>
          rw [String.intercalate_cons_cons]
          exact (hitem.append hsep).append (ih hmore)

theorem quoteName (name : String) : Quiet (quoteName name) := by
  refine ⟨Silent.quoteName name, fun c hc => ?_⟩
  obtain rfl : '"' = c := by simpa [GeoLayers.quoteName] using hc
  rfl

theorem columnOf (table column : String) : Quiet (columnOf table column) :=
  ((quoteName table).append (of_plain (by decide))).append (quoteName column)

theorem fieldText (name : String) : Quiet (fieldText name) := by
  unfold GeoLayers.fieldText
  split
  · exact columnOf _ _
  · exact columnOf _ _

theorem sortText (field : SortField) : Quiet (Plan.sortText field) := by
  unfold Plan.sortText
  split
  · exact (fieldText field.name).append (of_plain (by decide))
  · exact (fieldText field.name).append (of_plain (by decide))
  · exact fieldText field.name

theorem joinText (relation : Relation) : Quiet (Plan.joinText relation) := by
  have hstart : Quiet "LEFT OUTER JOIN " := of_plain (by decide)
  have has : Quiet " AS " := of_plain (by decide)
  have hon : Quiet " ON " := of_plain (by decide)
  have hequal : Quiet " = " := of_plain (by decide)
  exact (((((((hstart.append (quoteName _)).append has).append (quoteName _)).append hon).append
    (columnOf _ _)).append hequal).append (columnOf _ _))

theorem orderText (layer : Layer) (plan : Plan) : Quiet (plan.orderText layer) := by
  have hstart : Quiet "ORDER BY " := of_plain (by decide)
  unfold Plan.orderText
  dsimp only
  split
  · exact of_plain (by decide)
  · refine hstart.append (intercalate (of_plain (by decide)) ?_)
    intro item hitem
    obtain ⟨field, -, rfl⟩ := List.mem_map.1 hitem
    exact sortText field

end Quiet

/-! ### The numbers of a layout -/

/-- The text of some parts without what the client wrote. -/
def outsideText (values : List BoundValue) (parts : List Part) : List Char :=
  parts.flatMap fun part => (part.outside values).toList

/-- Parts whose texts are quiet. -/
def QuietParts (parts : List Part) : Prop := ∀ text, .text text ∈ parts → Quiet text

variable {values : List BoundValue}

theorem quiet_outside_clause (s : String) : Quiet ((Part.clause s).outside values) := by
  have hempty : Quiet " AND ()" := .of_plain (by decide)
  exact hempty

/-- No number of a placeholder goes on with what comes after it. -/
theorem head_outsideText {parts : List Part} (h : QuietParts parts) {c : Char}
    (hc : (outsideText values parts).head? = some c) : c.isDigit = false := by
  induction parts with
  | nil => cases hc
  | cons part parts ih =>
      have hparts : QuietParts parts := fun text hmem => h text (List.mem_cons_of_mem part hmem)
      rw [outsideText, List.flatMap_cons, List.head?_append, Option.or_eq_some_iff] at hc
      rcases hc with hc | ⟨-, hc⟩
      · cases part with
        | text text => exact (h text List.mem_cons_self).start c hc
        | clause s => exact (quiet_outside_clause s).start c hc
        | value v =>
            obtain rfl : '$' = c := by simpa [Part.outside, Part.render] using hc
            rfl
      · exact ih hparts hc

/-- A placeholder is found with its whole number, and nothing else is found in it. -/
theorem placeholdersFrom_number (n : Nat) (rest : List Char)
    (hrest : ∀ c, rest.head? = some c → c.isDigit = false) :
    placeholdersFrom false (("$" ++ toString n).toList ++ rest) =
      (toString n).toList :: placeholdersFrom false rest := by
  have hdigits : ∀ c ∈ (toString n).toList, c.isDigit = true := by
    intro c hc
    rw [toString, instToStringNat] at hc
    exact Nat.isDigit_of_mem_toDigits (b := 10) (by decide) (by decide) (by simpa using hc)
  have hsilent : Silent (toString n).toList := by
    apply Silent.of_plain
    intro c hc
    constructor <;> rintro rfl <;> exact absurd (hdigits _ hc) (by decide)
  have hend : rest.takeWhile Char.isDigit = [] := by
    cases rest with
    | nil => rfl
    | cons c rest => exact List.takeWhile_cons_of_neg (by simpa using hrest c rfl)
  rw [String.toList_append, List.append_assoc]
  change ((toString n).toList ++ rest).takeWhile Char.isDigit ::
    placeholdersFrom false ((toString n).toList ++ rest) = _
  rw [List.takeWhile_append_of_pos hdigits, hend, List.append_nil, hsilent]

theorem placeholdersFrom_outsideText {parts : List Part} (h : QuietParts parts) :
    placeholdersFrom false (outsideText values parts) =
      (valuesIn parts).map fun v => (toString (values.idxOf v + 1)).toList := by
  induction parts with
  | nil => rfl
  | cons part parts ih =>
      have hparts : QuietParts parts := fun text hmem => h text (List.mem_cons_of_mem part hmem)
      have hmore := ih hparts
      rw [outsideText, List.flatMap_cons]
      cases part with
      | text text => exact ((h text List.mem_cons_self).silent _).trans hmore
      | clause s => exact ((quiet_outside_clause s).silent _).trans hmore
      | value v =>
          have hnumber := placeholdersFrom_number (values.idxOf v + 1)
            (outsideText values parts) fun c hc => head_outsideText hparts hc
          rw [hmore] at hnumber
          exact hnumber

/-- The places of the values of a list without repetitions are counted up from the first. -/
theorem map_idxOf_self {values : List BoundValue} (h : values.Nodup) :
    values.map (fun v => values.idxOf v + 1) = List.range' 1 values.length := by
  apply List.ext_getElem (by simp)
  intro i hleft hright
  have hi : i < values.length := by simpa using hleft
  rw [List.getElem_map, h.idxOf_getElem i hi, List.getElem_range', Nat.add_comm, Nat.one_mul]

theorem placeholders_outside {parts : List Part} (h : QuietParts parts)
    (hnodup : (valuesIn parts).Nodup) :
    placeholders (String.join (parts.map (Part.outside (valuesIn parts)))) =
      (List.range' 1 (valuesIn parts).length).map toString := by
  have htext : (String.join (parts.map (Part.outside (valuesIn parts)))).toList =
      outsideText (valuesIn parts) parts := by
    rw [String.toList_join, List.flatMap_map]
    rfl
  rw [placeholders, htext, placeholdersFrom_outsideText h, List.map_map, ← map_idxOf_self hnodup,
    List.map_map]
  apply List.map_congr_left
  intro v _
  exact String.ofList_toList

/-! ### The texts of a query's layout -/

namespace QuietParts

theorem nil : QuietParts [] := nofun

theorem append {parts more : List Part} (h : QuietParts parts) (hmore : QuietParts more) :
    QuietParts (parts ++ more) := by
  intro text hmem
  exact (List.mem_append.1 hmem).elim (h text) (hmore text)

theorem text {text : String} {parts : List Part} (h : Quiet text) (hparts : QuietParts parts) :
    QuietParts (.text text :: parts) := by
  intro other hmem
  rcases List.mem_cons.1 hmem with heq | hmem
  · rwa [Part.text.inj heq]
  · exact hparts other hmem

theorem clause {s : String} {parts : List Part} (h : QuietParts parts) :
    QuietParts (.clause s :: parts) := by
  intro other hmem
  exact h other ((List.mem_cons.1 hmem).resolve_left (by simp))

theorem value {v : BoundValue} {parts : List Part} (h : QuietParts parts) :
    QuietParts (.value v :: parts) := by
  intro other hmem
  exact h other ((List.mem_cons.1 hmem).resolve_left (by simp))

theorem intercalate {sep : List Part} (hsep : QuietParts sep) {items : List (List Part)}
    (h : ∀ item ∈ items, QuietParts item) : QuietParts (sep.intercalate items) := by
  induction items with
  | nil => exact nil
  | cons item items ih =>
      obtain ⟨hitem, hmore⟩ := List.forall_mem_cons.1 h
      cases items with
      | nil => simpa [List.intercalate] using hitem
      | cons next items =>
          rw [List.intercalate_cons_cons]
          exact (hitem.append hsep).append (ih hmore)

theorem selectionLayout (layer : Layer) (projection : Projection) :
    QuietParts (Plan.selectionLayout layer projection) := by
  have hcomma : Quiet ", " := .of_plain (by decide)
  have has : Quiet " AS " := .of_plain (by decide)
  cases projection with
  | count =>
      have hcount : Quiet "COUNT(0) AS " := .of_plain (by decide)
      exact nil.text (hcount.append (.quoteName "count"))
  | ids =>
      have hdistinct : Quiet "DISTINCT " := .of_plain (by decide)
      exact nil.text (hdistinct.append (.columnOf _ _))
  | fields names geometry =>
      apply intercalate (nil.text hcomma)
      intro item hitem
      rcases List.mem_append.1 hitem with hitem | hitem
      · obtain ⟨name, -, rfl⟩ := List.mem_map.1 hitem
        exact nil.text (((Quiet.fieldText name).append has).append (.quoteName name))
      · cases geometry with
        | false => cases hitem
        | true =>
            obtain rfl := List.mem_singleton.1 hitem
            have hopen : Quiet "ST_AsText(ST_Transform(" := .of_plain (by decide)
            have hclose : Quiet ")) AS " := .of_plain (by decide)
            exact ((nil.text (hclose.append (.quoteName _))).value).text
              ((hopen.append (.columnOf _ _)).append hcomma)

theorem conjunct (layer : Layer) (request : QueryRequest) (conjunct : Conjunct) :
    QuietParts (conjunct.layout layer request) := by
  have hand : Quiet " AND " := .of_plain (by decide)
  have hequal : Quiet " = " := .of_plain (by decide)
  have hdate : Quiet "::date" := .of_plain (by decide)
  have hclose : Quiet ")" := .of_plain (by decide)
  cases conjunct with
  | clause condition => exact nil.clause
  | instant field =>
      exact ((nil.text hdate).value).text ((hand.append (.columnOf _ _)).append hequal)
  | period field =>
      have hbetween : Quiet " BETWEEN " := .of_plain (by decide)
      have hdateAnd : Quiet "::date AND " := .of_plain (by decide)
      exact ((((nil.text hdate).value).text hdateAnd).value).text
        ((hand.append (.columnOf _ _)).append hbetween)
  | firstStep field =>
      have hselect : Quiet " = (SELECT MIN(" := .of_plain (by decide)
      have hfrom : Quiet ") FROM " := .of_plain (by decide)
      exact nil.text ((((((hand.append (.columnOf _ _)).append hselect).append
        (.quoteName _)).append hfrom).append (.quoteName _)).append hclose)
  | objectIds =>
      have hin : Quiet " IN (" := .of_plain (by decide)
      refine ((text ((hand.append (.columnOf _ _)).append hin) ?_).append (nil.text hclose))
      apply intercalate (nil.text (.of_plain (by decide)))
      intro item hitem
      obtain ⟨place, -, rfl⟩ := List.mem_map.1 hitem
      exact nil.value
  | extent =>
      have hopen : Quiet " AND ST_Intersects(" := .of_plain (by decide)
      have hgeometry : Quiet ", ST_GeomFromText(" := .of_plain (by decide)
      have hend : Quiet (", " ++ toString webMercator ++ "))") := .of_plain (by decide)
      exact ((nil.text hend).value).text ((hopen.append (.columnOf _ _)).append hgeometry)

theorem layout (layer : Layer) (request : QueryRequest) (plan : Plan) :
    QuietParts (plan.layout layer request) := by
  have hblank : Quiet " " := .of_plain (by decide)
  have hfrom : Quiet " FROM " := .of_plain (by decide)
  have has : Quiet " AS " := .of_plain (by decide)
  have hjoins : Quiet (" ".intercalate ((plan.relations layer).map Plan.joinText)) := by
    apply Quiet.intercalate hblank
    intro item hitem
    obtain ⟨relation, -, rfl⟩ := List.mem_map.1 hitem
    exact .joinText relation
  have htables : QuietParts [.text (" FROM " ++ quoteName layer.table ++ " AS " ++
        quoteName sourceAlias ++ " "),
      .text (" ".intercalate ((plan.relations layer).map Plan.joinText)), .text " "] :=
    ((nil.text hblank).text hjoins).text
      ((((hfrom.append (.quoteName _)).append has).append (.quoteName _)).append hblank)
  have hconditions : QuietParts (.text "WHERE 1=1" ::
      (request.conjuncts layer plan.condition).flatMap (Conjunct.layout layer request)) := by
    apply text (.of_plain (by decide))
    intro t ht
    obtain ⟨item, -, hitem⟩ := List.mem_flatMap.1 ht
    exact conjunct layer request item t hitem
  have horder : QuietParts [.text (" " ++ plan.orderText layer ++ " ")] :=
    nil.text ((hblank.append (.orderText layer plan)).append hblank)
  have hlimit : QuietParts
      (if request.pageLimit?.isSome then [.text "LIMIT ", .value .limit] else []) := by
    split
    · exact nil.value.text (.of_plain (by decide))
    · exact nil
  have hoffset : QuietParts
      (if request.isPaged && 0 < request.offset then [.text "OFFSET ", .value .offset] else []) := by
    split
    · exact nil.value.text (.of_plain (by decide))
    · exact nil
  have hselect : QuietParts [.text "SELECT "] := nil.text (.of_plain (by decide))
  unfold Plan.layout Plan.front
  exact (((((((hselect.append (selectionLayout layer plan.projection)).append htables).append
    hconditions).append horder).append hlimit).append (nil.text hblank)).append hoffset)

end QuietParts

/-! ### The statement of a query -/

variable {layer : Layer} {catalog : Catalog} {request : QueryRequest} {plan : Plan}
  {s : Statement}

/-- The conditions come in the order of their places, and there is at most one for each. -/
theorem conjuncts_ordered (layer : Layer) (request : QueryRequest) (condition : Option Where) :
    (request.conjuncts layer condition).Pairwise (·.rank < ·.rank) := by
  have htime : ((request.timeConjunct layer condition.isSome).map Conjunct.rank).Sublist [1] := by
    unfold QueryRequest.timeConjunct
    split
    · simp
    · split <;> exact .refl _
    · split
      · simp
      · exact .refl _
  have hall : ((request.conjuncts layer condition).map Conjunct.rank).Sublist
      ([0] ++ [1] ++ [2] ++ [3]) := by
    unfold QueryRequest.conjuncts
    rw [List.map_append, List.map_append, List.map_append]
    refine .append (.append (.append ?_ htime) ?_) ?_
    · cases condition with
      | none => exact List.nil_sublist _
      | some condition => exact .refl _
    · split
      · exact List.nil_sublist _
      · exact .refl _
    · split
      · exact .refl _
      · exact List.nil_sublist _
  have hranks : ((request.conjuncts layer condition).map Conjunct.rank).Pairwise (· < ·) :=
    List.Pairwise.sublist hall (by decide)
  exact List.pairwise_map.1 hranks

theorem firstStep_mem_conjuncts {condition : Option Where} {field : String} :
    .firstStep field ∈ request.conjuncts layer condition ↔
      layer.timeField? = some field ∧ request.time = none ∧ condition = none ∧
        ¬ (request.countOnly = true ∧ request.idsOnly = false) := by
  have htime : .firstStep field ∈ request.conjuncts layer condition ↔
      .firstStep field ∈ request.timeConjunct layer condition.isSome := by
    unfold QueryRequest.conjuncts
    simp
  rw [htime]
  unfold QueryRequest.timeConjunct
  cases layer.timeField? with
  | none => simp
  | some name =>
      cases request.time with
      | some range => by_cases hinstant : range.isInstant = true <;> simp [hinstant]
      | none =>
          cases condition <;> cases request.countOnly <;> cases request.idsOnly <;>
            simp [eq_comm]

theorem clause_mem_conjuncts {condition : Option Where} {w : Where} :
    .clause w ∈ request.conjuncts layer condition ↔ condition = some w := by
  have htime : .clause w ∉ request.timeConjunct layer condition.isSome := by
    unfold QueryRequest.timeConjunct
    intro hmem
    split at hmem
    · cases hmem
    · split at hmem <;> simp at hmem
    · split at hmem <;> simp at hmem
  unfold QueryRequest.conjuncts
  simp [htime]

/-- The statement of a query, with every parameter where it belongs. -/
structure Numbered (layer : Layer) (catalog : Catalog) (request : QueryRequest) (plan : Plan)
    (s : Statement) : Prop where
  /-- The parameters are the values of the request, in the order of their numbers. -/
  binds : s.binds = (request.boundValues layer).map request.bindOf
  /-- The limit's parameter is one more than the limit, unless the limit is the highest word. -/
  limit : 0 < request.limit → request.limit < Number.maxInt64 →
    request.bindOf .limit = .bigInt (request.limit + 1)
  /-- The text is that of the layout, each value numbered by its place among the parameters. -/
  sql : s.sql =
    String.join ((plan.layout layer request).map (Part.render (request.boundValues layer)))
  /-- Outside of names and of the client's condition every number stands once, in order. -/
  numbers : placeholders (String.join
      ((plan.layout layer request).map (Part.outside (request.boundValues layer)))) =
    (List.range' 1 s.binds.length).map toString
  ordered : (request.conjuncts layer plan.condition).Pairwise (·.rank < ·.rank)
  clause : ∀ condition, .clause condition ∈ request.conjuncts layer plan.condition ↔
    ∃ text, request.clause = some text ∧
      Where.check catalog request.includesRelated text = .ok (some condition)
  firstStep : ∀ field, .firstStep field ∈ request.conjuncts layer plan.condition ↔
    layer.timeField? = some field ∧ request.time = none ∧
      (∀ text, request.clause = some text → Text.isBlankText text) ∧
      ¬ (request.countOnly = true ∧ request.idsOnly = false)

/-- Whatever a query asks for, its parameters are its values in their order, and the placeholder
with a number stands where the value with this number belongs. -/
theorem compile_numbered (h : compile layer catalog request = .ok s) :
    ∃ plan, Plan.make layer catalog request = .ok plan ∧
      Numbered layer catalog request plan s := by
  obtain ⟨plan, hplan, hanswers, rfl⟩ := compile_layout h
  have hvalues := valuesIn_layout layer hanswers
  have hnumbers := placeholders_outside (QuietParts.layout layer request plan)
    (by rw [hvalues]; exact boundValues_nodup layer request)
  rw [hvalues] at hnumbers
  refine ⟨plan, hplan, rfl, ?_, rfl, ?_, conjuncts_ordered layer request plan.condition, ?_, ?_⟩
  · exact QueryRequest.bindOf_limit
  · rw [hnumbers, List.length_map]
  · intro condition
    rw [clause_mem_conjuncts, hanswers.condition_eq_some_iff]
  · intro field
    rw [firstStep_mem_conjuncts, hanswers.condition_eq_none_iff]

theorem compile_numbered_wells :
    let request := deepWells ⟨⟨0, 0⟩, ⟨86400, 0⟩⟩ "POINT(1 2)" 4326 10 20
    request.boundValues wellsLayer = [.outSrid, .timeStart, .timeStop, .extent, .limit, .offset] ∧
      ∃ s, compile wellsLayer Where.wells request = .ok s ∧
        ∃ plan, Plan.make wellsLayer Where.wells request = .ok plan ∧
          Numbered wellsLayer Where.wells request plan s := by
  intro request
  have hok : (compile wellsLayer Where.wells request).isOk = true := by decide +kernel
  obtain ⟨s, hcompile⟩ := exists_ok_of_isOk hok
  exact ⟨by decide +kernel, s, hcompile, compile_numbered hcompile⟩

end GeoLayers
