import GeoLayers.Proofs.Sql.Reread.Marks
import GeoLayers.Proofs.Sql.Reread.InfixRuns

/-!
A plain condition that was read by the rules is read again from the tokens of the qualified condition,
wherever what follows binds no more strongly than what followed then. The induction is on the
derivation: a condition by itself does not tell which of its operators were read first.
-/

namespace GeoLayers.Sql

open Where (qualify)

theorem qualify_form (head : Form) (operands : List Expr) :
    qualify (.form head operands) = .form head (operands.map qualify) := by
  change Expr.form head (Expr.mapNamesAll _ _ operands) = _
  rw [Expr.mapNamesAll_eq_map]
  rfl

theorem qualify_path (parts : List Ident) :
    qualify (.path parts) = .path ((parts.map Ident.value).map Where.quotedIdent) := by
  rw [List.map_map]
  rfl

theorem isPlain_qualify (e : Expr) : (qualify e).isPlain = e.isPlain := by
  induction e using Expr.induction_of_operands with
  | hcolumn name => rfl
  | hpath parts => simp [qualify, Expr.mapNames, Expr.isPlain]
  | hform head operands ih =>
      have hall : (operands.map qualify).all Expr.isPlain = operands.all Expr.isPlain := by
        rw [Bool.eq_iff_iff, List.all_map, List.all_eq_true, List.all_eq_true]
        exact forall₂_congr fun e he => by rw [Function.comp_apply, ih e he]
      rw [qualify_form, Expr.isPlain, Expr.isPlain, Expr.arePlain_eq_all, Expr.arePlain_eq_all,
        List.length_map, hall]

/-- The names of a qualified condition are between double quotes. -/
theorem names_qualify (e : Expr) : ∀ name ∈ (qualify e).names, name.quote = .double := by
  induction e using Expr.induction_of_operands with
  | hcolumn name => simp [qualify, Expr.mapNames, Expr.names, Where.quotedIdent]
  | hpath parts => simp [qualify, Expr.mapNames, Expr.names, Where.quotedIdent]
  | hform head operands ih =>
      rw [qualify_form]
      simp only [Expr.names, Expr.namesIn_eq_flatMap, List.mem_flatMap, List.mem_map]
      rintro name ⟨-, ⟨e, he, rfl⟩, hname⟩
      exact ih e he name hname

namespace Parser

/-- A reading whose results are plain and read again after they are qualified. -/
structure Reading.Replays (R : Reading) : Prop where
  plain : ∀ {least ts x rest}, R least ts x rest → x.isPlain = true
  run : ∀ {least ts x rest}, R least ts x rest → ∀ {level rest'}, (qualify x).depth ≤ level →
    Trails rest' → edge rest' ≤ edge rest →
      (grammar level).expr least ((qualify x).tokens ++ rest') = .ok (qualify x, rest')

theorem square_append {ts rest : List Token} (hcalm : ts.all Token.isCalm = true)
    (h : .symbol .lBracket ∉ rest) : .symbol .lBracket ∉ ts ++ rest :=
  List.not_mem_append (square_of_calm hcalm) h

theorem trails_cons {t : Token} {ts : List Token} (ht : t.ends = true)
    (h : .symbol .lBracket ∉ ts) : Trails (t :: ts) := by
  refine ⟨by simpa using ht, ?_⟩
  rw [List.mem_cons, not_or]
  refine ⟨?_, h⟩
  rintro rfl
  cases ht

theorem calm_qualify {e : Expr} (h : e.isPlain = true) :
    (qualify e).tokens.all Token.isCalm = true :=
  Expr.tokens_calm ((isPlain_qualify e).trans h)

theorem calm_items {es : List Expr} (h : ∀ e ∈ es, e.isPlain = true) :
    (commaTokens ((es.map qualify).map Expr.tokens)).all Token.isCalm = true := by
  refine isCalm_commaTokens fun ts hts => ?_
  rw [List.map_map] at hts
  obtain ⟨e, he, rfl⟩ := List.mem_map.1 hts
  exact calm_qualify (h e he)

theorem startsOpen_append {ts : List Token} (h : StartsOpen ts) (rest : List Token) :
    StartsOpen (ts ++ rest) := by
  obtain ⟨t, more, rfl, ht⟩ := h
  exact ⟨t, more ++ rest, rfl, ht⟩

theorem startsOpen_qualify {e : Expr} (h : e.isPlain = true) (rest : List Token) :
    StartsOpen ((qualify e).tokens ++ rest) :=
  startsOpen_append (Expr.tokens_opens ((isPlain_qualify e).trans h)) rest

theorem startsOpen_items {es : List Expr} (hne : es ≠ []) (h : ∀ e ∈ es, e.isPlain = true)
    (rest : List Token) :
    StartsOpen (commaTokens ((es.map qualify).map Expr.tokens) ++ rest) := by
  match es, hne with
  | [e], _ => exact startsOpen_qualify (h e (by simp)) rest
  | e :: e' :: es, _ =>
      simp only [List.map_cons, commaTokens, List.append_assoc]
      exact startsOpen_qualify (h e (by simp)) _

theorem depth_quoted (names : List String) :
    (Expr.path (names.map Where.quotedIdent)).depth = names.length := by
  have hall : ∀ name ∈ names.map Where.quotedIdent, (name.quote != .single) = true := by
    simp [Where.quotedIdent]
  rw [Expr.depth, List.countP_eq_length.2 hall, List.length_map]

/-- Names between double quotes are read on as many levels as there are names. -/
theorem quoted_run {level : Nat} {rest : List Token} (name : String) (names : List String)
    (hdepth : (Expr.path ((name :: names).map Where.quotedIdent)).depth ≤ level + 1)
    (hrest : Trails rest) : operandWhole (grammar level)
      ((Expr.path ((name :: names).map Where.quotedIdent)).tokens ++ rest) =
        .ok (named ((name :: names).map Where.quotedIdent), rest) := by
  rw [depth_quoted, List.length_cons] at hdepth
  refine path_run ?_ (by simp [Where.quotedIdent]) hrest
  rw [List.length_map]
  omega

/-- A constant is read from its token. -/
theorem constant_run {value : Literal} (h : value.isPlain = true) (g : Grammar)
    {rest : List Token} (hrest : Trails rest) :
    operandWhole g (value.token :: rest) = .ok (leaf (.literal value), rest) := by
  have hrun (p : Parser Expr) :
      tokenOperand g p value.token rest = .ok ((leaf (.literal value), true), rest) := by
    cases value with
    | number digits long | text kind body | null => rfl
    | boolean value => cases value <;> rfl
    | _ => cases h
  have hcalm : [value.token].all Token.isCalm = true := by simp [Literal.isCalm_token h]
  have hsquare : .symbol .lBracket ∉ value.token :: rest := square_append hcalm hrest.square
  exact operandWhole_run (Literal.opens_token h) hsquare hrun hrest

section

variable {R : Reading} (hR : R.Replays)

include hR

theorem items_plain {ts rest : List Token} {es : List Expr} (h : Items R ts es rest) :
    ∀ e ∈ es, e.isPlain = true := by
  induction h with
  | one h => simpa using hR.plain h
  | more h hmore ih => exact List.forall_mem_cons.2 ⟨hR.plain h, ih⟩

theorem items_run {ts rest rest' : List Token} {es : List Expr} {level fuel : Nat}
    (h : Items R ts es rest) (hfuel : es.length ≤ fuel)
    (hdepth : ∀ e ∈ es, (qualify e).depth ≤ level) (hrest : Trails rest')
    (hcomma : rest'.head? ≠ some (.symbol .comma)) (hedge : edge rest' ≤ edge rest) :
    commaLoop ((grammar level).expr 0) fuel
      (commaTokens ((es.map qualify).map Expr.tokens) ++ rest') = .ok (es.map qualify, rest') := by
  induction h generalizing fuel with
  | @one ts rest e h =>
      cases fuel with
      | zero => cases hfuel
      | succ fuel =>
          have hrun := hR.run h (hdepth _ (by simp)) hrest hedge
          change commaLoop _ (fuel + 1) ((qualify e).tokens ++ rest') = _
          rw [commaLoop, bind_run hrun]
          exact bind_run (symbol?_missing hcomma) _
  | @more ts mid rest e es h hmore ih =>
      cases fuel with
      | zero => cases hfuel
      | succ fuel =>
          obtain ⟨he, hes⟩ := List.forall_mem_cons.1 hdepth
          have htail := ih (Nat.le_of_succ_le_succ hfuel) hes hedge
          have htokens : commaTokens (((e :: es).map qualify).map Expr.tokens) ++ rest' =
              (qualify e).tokens ++ .symbol .comma ::
                (commaTokens ((es.map qualify).map Expr.tokens) ++ rest') := by
            cases es with
            | nil => cases hmore
            | cons e' es => simp [commaTokens]
          have htrails : Trails (.symbol .comma ::
              (commaTokens ((es.map qualify).map Expr.tokens) ++ rest')) :=
            trails_cons rfl (square_append (calm_items (items_plain hR hmore)) hrest.square)
          have hrun := hR.run h he htrails (Nat.zero_le _)
          rw [htokens, commaLoop, bind_run hrun, bind_run (symbol?_there _ _), if_pos rfl,
            bind_run htail]
          rfl

/-- Items in brackets with fuel for all tokens. -/
theorem commaSeparated_run {ts rest rest' : List Token} {es : List Expr} {level : Nat}
    (h : Items R ts es (.symbol .rParen :: rest)) (hdepth : ∀ e ∈ es, (qualify e).depth ≤ level)
    (hsquare : .symbol .lBracket ∉ rest') :
    commaSeparated ((grammar level).expr 0)
      (commaTokens ((es.map qualify).map Expr.tokens) ++ .symbol .rParen :: rest') =
        .ok (es.map qualify, .symbol .rParen :: rest') := by
  have hlength : ∀ es : List Expr, (∀ e ∈ es, e.isPlain = true) →
      es.length ≤ (commaTokens ((es.map qualify).map Expr.tokens)).length := by
    intro es
    induction es with
    | nil => simp
    | cons e es ih =>
        intro hplain
        obtain ⟨he, hes⟩ := List.forall_mem_cons.1 hplain
        obtain ⟨t, more, htokens, -⟩ := Expr.tokens_opens ((isPlain_qualify e).trans he)
        have htail := ih hes
        cases es with
        | nil => simp [commaTokens, htokens]
        | cons e' es =>
            simp only [List.map_cons, commaTokens, List.length_append, List.length_cons,
              htokens] at htail ⊢
            omega
  have hes := hlength es (items_plain hR h)
  unfold commaSeparated
  apply items_run hR h _ hdepth (trails_cons rfl hsquare) (by simp) (Nat.zero_le _)
  simp only [List.length_append, List.length_cons]
  omega

theorem starts_plain {ts rest : List Token} {e : Expr} (h : Starts R ts e rest) :
    e.isPlain = true := by
  cases h with
  | column w rest => rfl
  | path w h hne => rfl
  | @constant t value h rest =>
      have hvalue : value.isPlain = true := by
        cases t with
        | word w =>
            simp only [constant?] at h
            split at h
            all_goals first
              | exact Option.some.inj h ▸ rfl
              | cases h
        | number digits long | text kind body => exact Option.some.inj h ▸ rfl
        | _ => cases h
      exact (Expr.isPlain_literal value).trans hvalue
  | plus h => exact Expr.isPlain_form.2 ⟨rfl, by simpa using hR.plain h⟩
  | minus h => exact Expr.isPlain_form.2 ⟨rfl, by simpa using hR.plain h⟩
  | not ht h => exact Expr.isPlain_form.2 ⟨rfl, by simpa using hR.plain h⟩
  | nested h => exact Expr.isPlain_form.2 ⟨rfl, by simpa using hR.plain h⟩
  | tuple h => exact Expr.isPlain_form.2 ⟨by simp [Form.isPlain], items_plain hR h⟩

theorem signed_run {op : UnaryOp} {ts rest rest' : List Token} {e : Expr} {level strength : Nat}
    (h : R strength ts e rest) (hdepth : (qualify e).depth ≤ level) (hrest : Trails rest')
    (hedge : edge rest' ≤ edge rest) :
    signed (grammar level) op strength ((qualify e).tokens ++ rest') =
      .ok (.form (.unary op) [qualify e], rest') :=
  bind_run (hR.run h hdepth hrest hedge) _

theorem notExpr_run {ts rest rest' : List Token} {e : Expr} {level : Nat}
    (h : R notStrength ts e rest) (hdepth : (qualify e).depth ≤ level) (hrest : Trails rest')
    (hedge : edge rest' ≤ edge rest) :
    notExpr (grammar level) ((qualify e).tokens ++ rest') =
      .ok (.form (.unary .not) [qualify e], rest') := by
  have hopen := startsOpen_qualify (hR.plain h) rest'
  rw [notExpr, bind_run (keyword?_operand hopen (by decide)), if_neg (by simp)]
  exact bind_run (hR.run h hdepth hrest hedge) _

/-- One expression in brackets is nested, several are a tuple. -/
theorem bracketOperand_run {ts rest rest' : List Token} {es : List Expr} {x : Expr} {level : Nat}
    (h : Items R ts es (.symbol .rParen :: rest)) (hdepth : ∀ e ∈ es, (qualify e).depth ≤ level)
    (hsquare : .symbol .lBracket ∉ rest')
    (hx : (∃ e, es = [e] ∧ x = .form .nested [qualify e]) ∨
      2 ≤ es.length ∧ x = .form .tuple (es.map qualify)) :
    bracketOperand (grammar level)
      (commaTokens ((es.map qualify).map Expr.tokens) ++ .symbol .rParen :: rest') =
        .ok (x, rest') := by
  have hitems := commaSeparated_run hR h hdepth hsquare
  have hne : es ≠ [] := by
    rintro rfl
    cases h
  have hopen := startsOpen_items hne (items_plain hR h) (.symbol .rParen :: rest')
  rw [bracketOperand, bind_run (atQuery_run hopen), if_neg (by simp), bind_run hitems,
    bind_run (symbol_there _ _)]
  obtain ⟨e, rfl, rfl⟩ | ⟨htwo, rfl⟩ := hx
  · rfl
  · obtain ⟨first, second, others, rfl⟩ := exists_cons_cons htwo
    rfl

theorem starts_run {ts rest rest' : List Token} {e : Expr} {level : Nat} (h : Starts R ts e rest)
    (hdepth : (qualify e).depth ≤ level + 1) (hrest : Trails rest')
    (hedge : edge rest' ≤ edge rest) :
    operandWhole (grammar level) ((qualify e).tokens ++ rest') = .ok (qualify e, rest') := by
  have hplain := (isPlain_qualify e).trans (starts_plain hR h)
  have hsquare := square_append (Expr.tokens_calm hplain) hrest.square
  cases h with
  | column w rest => exact quoted_run _ [w.ident.value] hdepth hrest
  | @path w mid rest names h hne =>
      obtain ⟨name, names, rfl⟩ := List.exists_cons_of_ne_nil hne
      rw [qualify_path] at hdepth ⊢
      exact quoted_run _ (name.value :: names.map Ident.value) hdepth hrest
  | @constant t value h rest =>
      have hvalue : value.isPlain = true := by
        rwa [leaf, qualify_form, List.map_nil, Expr.isPlain_literal] at hplain
      exact constant_run hvalue _ hrest
  | @plus ts rest e h =>
      rw [qualify_form] at hdepth hplain hsquare ⊢
      rw [List.map_singleton, Expr.tokens_plus] at hsquare ⊢
      have he : (qualify e).depth ≤ level := (Expr.depth_enclosed rfl _).1 hdepth _ (by simp)
      exact operandWhole_run rfl hsquare (fun value => map_run (signed_run hR h he hrest hedge) _)
        hrest
  | @minus ts rest e h =>
      rw [qualify_form] at hdepth hplain hsquare ⊢
      rw [List.map_singleton, Expr.tokens_minus] at hsquare ⊢
      have he : (qualify e).depth ≤ level := (Expr.depth_enclosed rfl _).1 hdepth _ (by simp)
      exact operandWhole_run rfl hsquare (fun value => map_run (signed_run hR h he hrest hedge) _)
        hrest
  | @not t ts rest e ht h =>
      rw [qualify_form] at hdepth hplain hsquare ⊢
      rw [List.map_singleton, Expr.tokens_not] at hsquare ⊢
      have he : (qualify e).depth ≤ level := (Expr.depth_enclosed rfl _).1 hdepth _ (by simp)
      have hnot := notExpr_run hR h he hrest hedge
      have hrun (value : Parser Expr) : tokenOperand (grammar level) value Keyword.NOT.token
          ((qualify e).tokens ++ rest') = .ok ((.form (.unary .not) [qualify e], true), rest') := by
        have hspecial : special? (grammar level) value ⟨Keyword.NOT.spelling, false, some .NOT⟩
            ((qualify e).tokens ++ rest') = .ok (some (.form (.unary .not) [qualify e]), rest') :=
          map_run hnot _
        change wordOperand (grammar level) value ⟨Keyword.NOT.spelling, false, some .NOT⟩ _ = _
        rw [wordOperand, hspecial]
      exact operandWhole_run rfl hsquare hrun hrest
  | @nested ts rest e h =>
      rw [qualify_form] at hdepth hplain hsquare ⊢
      rw [List.map_singleton, Expr.tokens_nested, List.cons_append, List.append_assoc] at hsquare ⊢
      have he : (qualify e).depth ≤ level := (Expr.depth_enclosed rfl _).1 hdepth _ (by simp)
      have hrun := bracketOperand_run hR (.one h) (by simpa using he) hrest.square
        (.inl ⟨e, rfl, rfl⟩)
      exact operandWhole_run rfl hsquare (fun value => map_run hrun _) hrest
  | @tuple ts rest e e' es h =>
      rw [qualify_form] at hdepth hplain hsquare ⊢
      rw [Expr.tokens_tuple, List.cons_append, List.append_assoc] at hsquare ⊢
      have hes := List.forall_mem_map.1 ((Expr.depth_enclosed rfl _).1 hdepth)
      have hrun := bracketOperand_run hR h hes hrest.square (.inr ⟨by simp, rfl⟩)
      exact operandWhole_run rfl hsquare (fun value => map_run hrun _) hrest

theorem extends_plain {ts rest : List Token} {e x : Expr} (h : Extends R e ts x rest)
    (he : e.isPlain = true) : x.isPlain = true := by
  cases h with
  | binary ht hop h =>
      have hhead : (Form.binary _).isPlain 2 = true := (Bool.and_true _).trans hop
      exact Expr.isPlain_form.2 ⟨hhead, by simpa using ⟨he, hR.plain h⟩⟩
  | test hs hks negated what => exact Expr.isPlain_form.2 ⟨rfl, by simpa using he⟩
  | distinctFrom hs hks negated h =>
      exact Expr.isPlain_form.2 ⟨rfl, by simpa using ⟨he, hR.plain h⟩⟩
  | inList hs hks negated h =>
      exact Expr.isPlain_form.2
        ⟨by simp [Form.isPlain], List.forall_mem_cons.2 ⟨he, items_plain hR h⟩⟩
  | between hs hks negated hlow hand hhigh =>
      exact Expr.isPlain_form.2 ⟨rfl, by simpa using ⟨he, hR.plain hlow, hR.plain hhigh⟩⟩
  | like hs hks kind negated any hany h =>
      exact Expr.isPlain_form.2 ⟨rfl, by simpa using ⟨he, hR.plain h⟩⟩
  | regexp hs hks negated rlike h =>
      exact Expr.isPlain_form.2 ⟨rfl, by simpa using ⟨he, hR.plain h⟩⟩
  | atTimeZone hs hks h => exact Expr.isPlain_form.2 ⟨rfl, by simpa using ⟨he, hR.plain h⟩⟩

end

end Parser

end GeoLayers.Sql
