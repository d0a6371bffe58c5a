import GeoLayers.Proofs.Sql.Reread.Conditions

/-!
The text of a plain condition is the text of its pieces.
-/

namespace GeoLayers.Sql

/-- The text of some pieces. -/
def textOf (ps : List Piece) : String := String.ofList (printedAll ps)

/-- Whether pieces start with a token that has no blank in front. -/
def StartsTight (ps : List Piece) : Prop := ∃ t rest, ps = ⟨false, t⟩ :: rest

@[simp] theorem printedAll_nil : printedAll [] = [] := rfl

@[simp] theorem printedAll_append (ps qs : List Piece) :
    printedAll (ps ++ qs) = printedAll ps ++ printedAll qs :=
  List.flatMap_append

@[simp] theorem printedAll_tight (t : Token) (ps : List Piece) :
    printedAll (⟨false, t⟩ :: ps) = t.printed ++ printedAll ps := rfl

@[simp] theorem printedAll_loose (t : Token) (ps : List Piece) :
    printedAll (⟨true, t⟩ :: ps) = ' ' :: (t.printed ++ printedAll ps) := rfl

theorem printedAll_spaced {ps : List Piece} (h : StartsTight ps) :
    printedAll (spaced ps) = ' ' :: printedAll ps := by
  obtain ⟨t, rest, rfl⟩ := h
  rfl

theorem StartsTight.append {ps : List Piece} (h : StartsTight ps) (qs : List Piece) :
    StartsTight (ps ++ qs) := by
  obtain ⟨t, rest, rfl⟩ := h
  exact ⟨t, rest ++ qs, rfl⟩

theorem startsTight_commaPieces {pss : List (List Piece)} (hne : pss ≠ [])
    (h : ∀ ps ∈ pss, StartsTight ps) : StartsTight (commaPieces pss) := by
  cases pss with
  | nil => exact absurd rfl hne
  | cons ps pss =>
      cases pss with
      | nil => exact h ps (by simp)
      | cons qs pss => exact (h ps (by simp)).append _

theorem commas_cons_cons (t t' : String) (ts : List String) :
    commas (t :: t' :: ts) = t ++ ", " ++ commas (t' :: ts) := String.intercalate_cons_cons

/-- Groups of pieces with commas between them are written as items. -/
theorem toList_commas {pss : List (List Piece)} (h : ∀ ps ∈ pss, StartsTight ps) :
    (commas (pss.map textOf)).toList = printedAll (commaPieces pss) := by
  induction pss with
  | nil => rfl
  | cons ps pss ih =>
      obtain ⟨hps, hpss⟩ := List.forall_mem_cons.1 h
      cases pss with
      | nil => simp [commas, textOf, commaPieces]
      | cons qs pss =>
          have htight := startsTight_commaPieces (List.cons_ne_nil qs pss) hpss
          have hpieces : commaPieces (ps :: qs :: pss) =
              ps ++ ⟨false, .symbol .comma⟩ :: spaced (commaPieces (qs :: pss)) := rfl
          rw [List.map_cons, List.map_cons, commas_cons_cons, String.toList_append,
            String.toList_append, ← List.map_cons, ih hpss, hpieces, printedAll_append,
            printedAll_tight, printedAll_spaced htight, textOf, String.toList_ofList]
          simp only [List.append_assoc]
          rfl

theorem toList_textOf (ps : List Piece) : (textOf ps).toList = printedAll ps :=
  String.toList_ofList

theorem printedAll_bracketPieces (inside : List Piece) :
    printedAll (bracketPieces inside) = '(' :: (printedAll inside ++ [')']) := by
  rw [bracketPieces, printedAll_tight, printedAll_append]
  rfl

theorem startsTight_bracketPieces (inside : List Piece) : StartsTight (bracketPieces inside) :=
  ⟨_, _, rfl⟩

theorem render_test (negated : Bool) (what : Test) (e : List Piece) :
    ((Form.test negated what).render [textOf e]).toList =
      printedAll ((Form.test negated what).pieces [e]) := by
  change (textOf e ++ " IS " ++ (if negated then "NOT " else "") ++ what.render).toList =
    printedAll (e ++ keywordPieces (.IS :: (notKeyword negated ++ what.keywords)))
  simp only [String.toList_append, toList_textOf, printedAll_append, List.append_assoc]
  cases negated <;> cases what with
    | normalized form =>
        cases form with
        | none => rfl
        | some form => cases form <;> rfl
    | _ => rfl

theorem render_binary {op : BinaryOp} (hop : op.isPlain = true) {l r : List Piece}
    (hr : StartsTight r) :
    ((Form.binary op).render [textOf l, textOf r]).toList =
      printedAll ((Form.binary op).pieces [l, r]) := by
  change (textOf l ++ " " ++ op.render ++ " " ++ textOf r).toList =
    printedAll (l ++ ⟨true, op.token⟩ :: spaced r)
  have hop : op.render.toList = op.token.printed := by
    cases op <;> first | rfl | cases hop
  simp only [String.toList_append, toList_textOf, printedAll_append, printedAll_loose,
    printedAll_spaced hr, ← hop, List.append_assoc]
  rfl

theorem render_distinctFrom (negated : Bool) (l : List Piece) {r : List Piece}
    (hr : StartsTight r) :
    ((Form.distinctFrom negated).render [textOf l, textOf r]).toList =
      printedAll ((Form.distinctFrom negated).pieces [l, r]) := by
  change (textOf l ++ " IS " ++ (if negated then "NOT " else "") ++ "DISTINCT FROM " ++
    textOf r).toList = printedAll (l ++ (keywordPieces (.IS :: (notKeyword negated ++
      [.DISTINCT, .FROM])) ++ spaced r))
  simp only [String.toList_append, toList_textOf, printedAll_append, printedAll_spaced hr,
    List.append_assoc]
  cases negated <;> rfl

theorem render_inList (negated : Bool) (e : List Piece) {items : List (List Piece)}
    (hitems : ∀ ps ∈ items, StartsTight ps) :
    ((Form.inList negated).render (textOf e :: items.map textOf)).toList =
      printedAll ((Form.inList negated).pieces (e :: items)) := by
  change (textOf e ++ " " ++ (if negated then "NOT " else "") ++ "IN (" ++
    commas (items.map textOf) ++ ")").toList = printedAll (e ++ (keywordPieces
      (notKeyword negated ++ [.IN]) ++ spaced (bracketPieces (commaPieces items))))
  simp only [String.toList_append, toList_textOf, toList_commas hitems, printedAll_append,
    printedAll_spaced (startsTight_bracketPieces _), printedAll_bracketPieces, List.append_assoc]
  cases negated <;> rfl

theorem render_between (negated : Bool) (e : List Piece) {low high : List Piece}
    (hlow : StartsTight low) (hhigh : StartsTight high) :
    ((Form.between negated).render [textOf e, textOf low, textOf high]).toList =
      printedAll ((Form.between negated).pieces [e, low, high]) := by
  change (textOf e ++ " " ++ (if negated then "NOT " else "") ++ "BETWEEN " ++ textOf low ++
    " AND " ++ textOf high).toList = printedAll (e ++ (keywordPieces
      (notKeyword negated ++ [.BETWEEN]) ++ spaced low ++ (keywordPieces [.AND] ++ spaced high)))
  simp only [String.toList_append, toList_textOf, printedAll_append, printedAll_spaced hlow,
    printedAll_spaced hhigh, List.append_assoc]
  cases negated <;> rfl

theorem render_like (kind : LikeKind) (negated any : Bool) (e : List Piece) {pattern : List Piece}
    (hpattern : StartsTight pattern) :
    ((Form.like kind negated any none).render [textOf e, textOf pattern]).toList =
      printedAll ((Form.like kind negated any none).pieces [e, pattern]) := by
  change (textOf e ++ " " ++ (if negated then "NOT " else "") ++ kind.render ++ " " ++
    (if any then "ANY " else "") ++ textOf pattern ++ "").toList = printedAll (e ++
      (keywordPieces (notKeyword negated ++ kind.keywords ++ if any then [.ANY] else []) ++
        spaced pattern))
  simp only [String.toList_append, toList_textOf, printedAll_append, printedAll_spaced hpattern,
    List.append_assoc, List.append_nil, String.toList_empty]
  cases negated <;> cases kind <;> cases any <;> rfl

theorem render_regexp (negated rlike : Bool) (e : List Piece) {pattern : List Piece}
    (hpattern : StartsTight pattern) :
    ((Form.regexp negated rlike).render [textOf e, textOf pattern]).toList =
      printedAll ((Form.regexp negated rlike).pieces [e, pattern]) := by
  change (textOf e ++ " " ++ (if negated then "NOT " else "") ++
    (if rlike then "RLIKE " else "REGEXP ") ++ textOf pattern).toList = printedAll (e ++
      (keywordPieces (notKeyword negated ++ [if rlike then .RLIKE else .REGEXP]) ++
        spaced pattern))
  simp only [String.toList_append, toList_textOf, printedAll_append, printedAll_spaced hpattern,
    List.append_assoc]
  cases negated <;> cases rlike <;> rfl

theorem render_atTimeZone (e : List Piece) {zone : List Piece} (hzone : StartsTight zone) :
    (Form.atTimeZone.render [textOf e, textOf zone]).toList =
      printedAll (Form.atTimeZone.pieces [e, zone]) := by
  change (textOf e ++ " AT TIME ZONE " ++ textOf zone).toList = printedAll (e ++
    (keywordPieces [.AT, .TIME, .ZONE] ++ spaced zone))
  simp only [String.toList_append, toList_textOf, printedAll_append, printedAll_spaced hzone,
    List.append_assoc]
  rfl

theorem render_tuple {items : List (List Piece)} (hitems : ∀ ps ∈ items, StartsTight ps) :
    (Form.tuple.render (items.map textOf)).toList = printedAll (Form.tuple.enclosed items) := by
  change ("(" ++ commas (items.map textOf) ++ ")").toList =
    printedAll (bracketPieces (commaPieces items))
  rw [String.toList_append, String.toList_append, toList_commas hitems, printedAll_bracketPieces]
  generalize printedAll (commaPieces items) = inside
  rfl

theorem toList_render_literal {value : Literal} (h : value.isPlain = true) :
    value.render.toList = value.token.printed := by
  cases value with
  | boolean value => cases value <;> rfl
  | number _ _ | text _ _ | null => rfl
  | dollarText _ _ | doubleQuoted _ | placeholder _ => cases h

/-- The text of a plain construct is made of its operands' texts as its pieces are of theirs. -/
theorem render_form {head : Form} {pss : List (List Piece)} (hplain : head.PlainWith pss)
    (htight : ∀ ps ∈ pss, StartsTight ps) :
    (head.render (pss.map textOf)).toList = printedAll (head.pieces pss) := by
  cases hplain with
  | @literal value h =>
      change value.render.toList = value.token.printed ++ []
      rw [List.append_nil, toList_render_literal h]
  | plus e =>
      change ("+" ++ textOf e).toList = '+' :: printedAll e
      rw [String.toList_append, toList_textOf]
      rfl
  | minus e =>
      change ("-" ++ textOf e).toList = '-' :: printedAll e
      rw [String.toList_append, toList_textOf]
      rfl
  | not e =>
      change ("NOT " ++ textOf e).toList = "NOT".toList ++ printedAll (spaced e)
      rw [String.toList_append, toList_textOf, printedAll_spaced (htight e (by simp))]
      rfl
  | binary h l r => exact render_binary h (htight r (by simp))
  | test negated what e => exact render_test negated what e
  | distinctFrom negated l r => exact render_distinctFrom negated l (htight r (by simp))
  | inList negated e item items =>
      exact render_inList negated e fun ps hps => htight ps (List.mem_cons_of_mem e hps)
  | between negated e low high =>
      exact render_between negated e (htight low (by simp)) (htight high (by simp))
  | like kind negated any e pattern =>
      exact render_like kind negated any e (htight pattern (by simp))
  | regexp negated rlike e pattern => exact render_regexp negated rlike e (htight pattern (by simp))
  | atTimeZone e zone => exact render_atTimeZone e (htight zone (by simp))
  | nested e =>
      change ("(" ++ textOf e ++ ")").toList = printedAll (bracketPieces e)
      rw [String.toList_append, String.toList_append, toList_textOf, printedAll_bracketPieces]
      rfl
  | tuple e e' es => exact render_tuple htight

theorem startsTight_form {head : Form} {pss : List (List Piece)} (hplain : head.PlainWith pss)
    (htight : ∀ ps ∈ pss, StartsTight ps) : StartsTight (head.pieces pss) := by
  cases hplain with
  | literal _ | plus _ | minus _ | not _ | nested _ | tuple _ _ _ => exact ⟨_, _, rfl⟩
  | binary _ e | test _ _ e | distinctFrom _ e | inList _ e | between _ e
  | like _ _ _ e | regexp _ _ e | atTimeZone e => exact (htight e (by simp)).append _

theorem startsTight_pathPieces {parts : List Ident} (h : parts ≠ []) :
    StartsTight (pathPieces parts) := by
  match parts with
  | [] => exact absurd rfl h
  | [name] => exact ⟨_, _, rfl⟩
  | name :: name' :: names => exact ⟨_, _, rfl⟩

/-- A path of names between double quotes is written as its pieces are. -/
theorem toList_renderPath {parts : List Ident} (h : ∀ name ∈ parts, name.quote = .double) :
    (renderPath parts).toList = printedAll (pathPieces parts) := by
  have hname (name : Ident) (hname : name.quote = .double) :
      name.render.toList = name.token.printed := by
    rw [Ident.render, hname]
    rfl
  induction parts with
  | nil => rfl
  | cons name names ih =>
      obtain ⟨hquote, hquotes⟩ := List.forall_mem_cons.1 h
      cases names with
      | nil => simp [renderPath, pathPieces, hname name hquote]
      | cons name' names =>
          have hpath : renderPath (name :: name' :: names) =
              name.render ++ "." ++ renderPath (name' :: names) := String.intercalate_cons_cons
          have hpieces : pathPieces (name :: name' :: names) =
              ⟨false, name.token⟩ :: ⟨false, .symbol .period⟩ :: pathPieces (name' :: names) := rfl
          rw [hpath, hpieces, String.toList_append, String.toList_append, ih hquotes,
            hname name hquote, printedAll_tight, printedAll_tight, List.append_assoc]
          rfl

namespace Expr

theorem plainWith_pieces {head : Form} {operands : List Expr}
    (h : (form head operands).isPlain = true) :
    head.PlainWith (operands.map pieces) ∧ ∀ e ∈ operands, e.isPlain = true := by
  obtain ⟨hhead, hoperands⟩ := isPlain_form.1 h
  exact ⟨Form.plainWith_of_isPlain (by simpa using hhead), hoperands⟩

theorem startsTight_pieces {e : Expr} (h : e.isPlain = true) : StartsTight e.pieces := by
  induction e using induction_of_operands with
  | hcolumn name => exact ⟨_, _, rfl⟩
  | hpath parts => exact startsTight_pathPieces (by simpa [isPlain] using h)
  | hform head operands ih =>
      obtain ⟨hplain, hoperands⟩ := plainWith_pieces h
      rw [pieces, piecesAll_eq_map]
      refine startsTight_form hplain fun ps hps => ?_
      obtain ⟨e, he, rfl⟩ := List.mem_map.1 hps
      exact ih e he (hoperands e he)

/-- The text of a plain condition whose names are between double quotes is that of its pieces. -/
theorem toList_render {e : Expr} (hplain : e.isPlain = true)
    (hnames : ∀ name ∈ e.names, name.quote = .double) :
    e.render.toList = printedAll e.pieces := by
  induction e using induction_of_operands with
  | hcolumn name => exact toList_renderPath hnames
  | hpath parts => exact toList_renderPath hnames
  | hform head operands ih =>
      obtain ⟨hform, hoperands⟩ := plainWith_pieces hplain
      simp only [names, namesIn_eq_flatMap, List.mem_flatMap] at hnames
      have hrender : operands.map render = (operands.map pieces).map textOf := by
        rw [List.map_map]
        refine List.map_congr_left fun e he => ?_
        rw [← String.toList_inj, ih e he (hoperands e he) fun name hname =>
          hnames name ⟨e, he, hname⟩, Function.comp_apply, toList_textOf]
      rw [render, renderAll_eq_map, hrender, pieces, piecesAll_eq_map]
      refine render_form hform fun ps hps => ?_
      obtain ⟨e, he, rfl⟩ := List.mem_map.1 hps
      exact startsTight_pieces (hoperands e he)

end Expr

end GeoLayers.Sql
