import GeoLayers.Proofs.Sql.Reread.Derivation
import GeoLayers.Proofs.Sql.Reread.Runs
import GeoLayers.Proofs.Sql.Reread.Tokens

/-!
What the grammar reads from the tokens of a plain operand. No attempt to read a type succeeds in front
of such an operand, and names between double quotes are read as a path.
-/

namespace GeoLayers.Sql

/-- Whether a token may follow a plain operand. -/
def Token.ends : Token → Bool
  | .symbol s => !([.lParen, .lBracket, .period] : List Symbol).contains s
  | .word w => w.keyword.any fun k => k != .COLLATE && k != .ESCAPE
  | _ => false

namespace Parser

/-- What may follow a plain operand, up to the last token. -/
structure Trails (ts : List Token) : Prop where
  ends : ∀ t ∈ ts.head?, t.ends = true
  square : .symbol .lBracket ∉ ts

/-- A parser that never runs out of nesting and leaves only tokens that it was given. -/
def Tame {α : Type} (p : Parser α) : Prop :=
  ∀ ts, p ts = .error .unexpected ∨ ∃ x rest, p ts = .ok (x, rest) ∧ rest ⊆ ts

namespace Tame

variable {α β : Type} {p : Parser α} {f : α → Parser β}

theorem fail : Tame (Parser.fail : Parser α) := fun _ => .inl rfl

theorem pure (x : α) : Tame (Pure.pure x : Parser α) :=
  fun ts => .inr ⟨x, ts, rfl, List.Subset.refl ts⟩

theorem bind (hp : Tame p) (hf : ∀ x, Tame (f x)) : Tame (p >>= f) := by
  intro ts
  obtain hfails | ⟨x, mid, hrun, hmid⟩ := hp ts
  · exact .inl (bind_fails hfails f)
  · rw [bind_run hrun]
    obtain hfails | ⟨y, rest, hrest, hsubset⟩ := hf x mid
    · exact .inl hfails
    · exact .inr ⟨y, rest, hrest, List.Subset.trans hsubset hmid⟩

theorem map {f : α → β} (hp : Tame p) : Tame (f <$> p) := bind hp fun x => pure (f x)

theorem next : Tame Parser.next := by
  intro ts
  cases ts with
  | nil => exact .inl rfl
  | cons t ts => exact .inr ⟨t, ts, rfl, List.subset_cons_self t ts⟩

theorem symbol? (s : Symbol) : Tame (Parser.symbol? s) := by
  intro ts
  right
  unfold Parser.symbol?
  split
  · next s' ts =>
    split
    · exact ⟨true, ts, rfl, List.subset_cons_self _ ts⟩
    · exact ⟨false, _, rfl, List.Subset.refl _⟩
  · exact ⟨false, ts, rfl, List.Subset.refl ts⟩

theorem ite {c : Prop} [Decidable c] {q : Parser α} (hp : Tame p) (hq : Tame q) :
    Tame (if c then p else q) := by
  split
  · exact hp
  · exact hq

theorem ident : Tame Parser.ident := by
  refine bind next fun t => ?_
  split
  · exact pure _
  · exact pure _
  · exact fail

theorem path : Tame Parser.path := by
  have hloop (fuel : Nat) : Tame (pathLoop fuel) := by
    induction fuel with
    | zero => exact fail
    | succ fuel ih =>
        exact bind ident fun name => bind (symbol? .period) fun more =>
          ite (bind ih fun names => pure _) (pure _)
  exact fun ts => hloop (ts.length + 1) ts

theorem customType : Tame Parser.customType := by
  have hmodifiers (fuel : Nat) : Tame (modifiers fuel) := by
    induction fuel with
    | zero => exact fail
    | succ fuel ih =>
        refine bind next fun t => ?_
        split
        · exact map ih
        · exact map ih
        · exact map ih
        · exact ih
        · exact pure _
        · exact fail
  refine bind path fun name => bind (symbol? .lParen) fun more => ite ?_ (pure _)
  exact bind (fun ts => hmodifiers (ts.length + 1) ts) fun found => pure _

end Tame

/-- A custom type, if there is one, is followed by no square bracket where there is none. -/
theorem customType_run {ts : List Token} (hsquare : .symbol .lBracket ∉ ts) :
    customType ts = .error .unexpected ∨ ∃ name found rest,
      customType ts = .ok (.custom name found, rest) ∧ .symbol .lBracket ∉ rest := by
  obtain hfails | ⟨type, rest, hrun, hsubset⟩ := Tame.customType ts
  · exact .inl hfails
  · obtain ⟨name, mid, -, hmid⟩ := bind_eq_ok hrun
    obtain ⟨more, mid', -, hmore⟩ := bind_eq_ok hmid
    split at hmore
    · obtain ⟨found, last, -, hlast⟩ := bind_eq_ok hmore
      obtain ⟨rfl, rfl⟩ := pure_eq_ok hlast
      exact .inr ⟨name, found, _, hrun, fun hmem => hsquare (hsubset hmem)⟩
    · obtain ⟨rfl, rfl⟩ := pure_eq_ok hmore
      exact .inr ⟨name, [], _, hrun, fun hmem => hsquare (hsubset hmem)⟩

theorem arrayTail_run (type : DataType) {ts : List Token} (hsquare : .symbol .lBracket ∉ ts) :
    arrayTail (ts.length + 1) type ts = .ok (type, ts) := by
  have hmissing : symbol? .lBracket ts = .ok (false, ts) :=
    symbol?_missing fun hhead => hsquare (List.mem_of_head? hhead)
  exact bind_run hmissing _

/-- The first token of a plain operand spells no name of a type. -/
theorem keyword_of_opens {t : Token} {k : Keyword} (ht : t.opens = true)
    (hk : t.keyword? = some k) : k ∈ [.NOT, .TRUE, .FALSE, .NULL] := by
  cases t with
  | word w =>
      have hkeyword : w.keyword = some k := hk
      simpa [Token.opens, hkeyword] using ht
  | _ => cases hk

/-- No type but a custom one is in front of a plain operand. -/
theorem typeBefore_run {t : Token} {ts : List Token} (fuel : Nat) (ht : t.opens = true)
    (hsquare : .symbol .lBracket ∉ t :: ts) :
    typeBefore (fuel + 1) (t :: ts) = .error .unexpected ∨ ∃ name found rest,
      typeBefore (fuel + 1) (t :: ts) = .ok ((.custom name found, false), rest) := by
  have hcustom {f : DataType × Bool → Parser (DataType × Bool)}
      (hf : ∀ name found rest, .symbol .lBracket ∉ rest →
        f (.custom name found, false) rest = .ok ((.custom name found, false), rest)) :
      (((·, false) <$> customType) >>= f) (t :: ts) = .error .unexpected ∨ ∃ name found rest,
        (((·, false) <$> customType) >>= f) (t :: ts) =
          .ok ((.custom name found, false), rest) := by
    obtain hfails | ⟨name, found, rest, hrun, hrest⟩ := customType_run hsquare
    · exact .inl (bind_fails (map_fails hfails _) f)
    · refine .inr ⟨name, found, rest, ?_⟩
      rw [bind_run (map_run hrun _)]
      exact hf name found rest hrest
  have htail (name : List Ident) (found : List String) (rest : List Token)
      (hrest : .symbol .lBracket ∉ rest) :
      (do
        let type ← fun ts : List Token => arrayTail (ts.length + 1) (.custom name found) ts
        pure (type, false) : Parser (DataType × Bool)) rest =
          .ok ((.custom name found, false), rest) :=
    bind_run (p := fun ts => arrayTail (ts.length + 1) (.custom name found) ts)
      (arrayTail_run _ hrest) _
  cases t with
  | word w =>
      have hkeyword : peekKeyword? (.word w :: ts) = .ok (w.keyword, .word w :: ts) := rfl
      have hword : peek? (.word w :: ts) = .ok (some (.word w), .word w :: ts) := rfl
      rw [typeBefore, bind_run hkeyword]
      cases hk : w.keyword with
      | none =>
          dsimp only
          rw [bind_run hword]
          exact hcustom htail
      | some k =>
          have hmem := keyword_of_opens ht (t := .word w) hk
          simp only [List.mem_cons, List.not_mem_nil, or_false] at hmem
          obtain rfl | rfl | rfl | rfl := hmem
          all_goals exact hcustom htail
  | number digits long | text kind body | symbol s => exact .inl rfl
  | _ => cases ht

/-- No attempt to read a constant with its type succeeds in front of a plain operand. -/
theorem typedText_run (value : Parser Expr) {t : Token} {ts : List Token} (ht : t.opens = true)
    (hsquare : .symbol .lBracket ∉ t :: ts) :
    typedText value (t :: ts) = .error .unexpected := by
  obtain hfails | ⟨name, found, rest, hrun⟩ := typeBefore_run (ts.length + 1) ht hsquare
  · have htype : dataType (t :: ts) = .error .unexpected :=
      bind_fails (p := fun ts => typeBefore (ts.length + 1) ts) hfails _
    exact bind_fails htype _
  · have htype : dataType (t :: ts) = .ok (.custom name found, rest) :=
      bind_run (p := fun ts => typeBefore (ts.length + 1) ts) hrun _
    exact bind_run htype _

/-- An operand with what follows it after periods. -/
def operandWhole (g : Grammar) : Parser Expr := operand g >>= accessed g

section

variable {g : Grammar} {ts rest : List Token}

theorem keyword_of_trails (h : Trails ts) :
    ts.head?.bind Token.keyword? ≠ some .COLLATE ∧
      ts.head?.bind Token.keyword? ≠ some .ESCAPE := by
  cases ts with
  | nil => exact ⟨by simp, by simp⟩
  | cons t ts =>
      have hends := h.ends t rfl
      cases t with
      | word w =>
          obtain ⟨k, hk, hne⟩ : ∃ k, w.keyword = some k ∧ k ≠ .COLLATE ∧ k ≠ .ESCAPE := by
            simpa [Token.ends, Option.any_eq_true] using hends
          change w.keyword ≠ some .COLLATE ∧ w.keyword ≠ some .ESCAPE
          rw [hk]
          simpa using hne
      | _ => exact ⟨nofun, nofun⟩

theorem head_of_trails (h : Trails ts) {s : Symbol} (hs : s ∈ [.lParen, .lBracket, .period]) :
    ts.head? ≠ some (.symbol s) := by
  intro hhead
  have hends := h.ends _ hhead
  simp only [Token.ends, Bool.not_eq_true', List.contains_eq_mem, decide_eq_false_iff_not] at hends
  exact hends hs

/-- An operand is what its first token makes of it. -/
theorem operand_run {t : Token} {e : Expr} {flag : Bool} (ht : t.opens = true)
    (hsquare : .symbol .lBracket ∉ t :: ts)
    (hrun : ∀ value, tokenOperand g value t ts = .ok ((e, flag), rest))
    (hcollate : rest.head?.bind Token.keyword? ≠ some .COLLATE) :
    operand g (t :: ts) = .ok (e, rest) := by
  change operandWith g (ts.length + 1 + 1) (t :: ts) = _
  rw [operandWith, bind_run (attempt_unexpected (typedText_run _ ht hsquare))]
  dsimp only
  have hnext : next (t :: ts) = .ok (t, ts) := rfl
  rw [bind_run hnext, bind_run (hrun _)]
  cases flag with
  | false => rfl
  | true => exact bind_run (keyword?_missing hcollate) _

/-- Where neither a period nor a square bracket follows, a chain ends. -/
theorem chain_run (fuel : Nat) (hperiod : ts.head? ≠ some (.symbol .period))
    (hsquare : ts.head? ≠ some (.symbol .lBracket)) :
    chain g (fuel + 1) ts = .ok (([], false), ts) := by
  rw [chain, bind_run (symbol?_missing hperiod)]
  exact bind_run (symbol?_missing hsquare) _

theorem accessed_run (root : Expr) (hperiod : ts.head? ≠ some (.symbol .period))
    (hsquare : ts.head? ≠ some (.symbol .lBracket)) : accessed g root ts = .ok (root, ts) :=
  bind_run (p := fun ts => chain g (ts.length + 1) ts) (chain_run _ hperiod hsquare) _

theorem operandWhole_run {t : Token} {e : Expr} {flag : Bool} (ht : t.opens = true)
    (hsquare : .symbol .lBracket ∉ t :: ts)
    (hrun : ∀ value, tokenOperand g value t ts = .ok ((e, flag), rest)) (hrest : Trails rest) :
    operandWhole g (t :: ts) = .ok (e, rest) := by
  unfold operandWhole
  rw [bind_run (operand_run ht hsquare hrun (keyword_of_trails hrest).1)]
  exact accessed_run e (head_of_trails hrest (by simp)) (head_of_trails hrest (by simp))

/-- A name between double quotes is a column by itself. -/
theorem name_run {name : Ident} (hname : name.quote = .double) (hsquare : .symbol .lBracket ∉ ts)
    (hends : ∀ t ∈ ts.head?, t.ends = true ∨ t = .symbol .period) :
    operand g (name.token :: ts) = .ok (.column name, ts) := by
  obtain ⟨text, quote⟩ := name
  obtain rfl : quote = .double := hname
  have hspecial (value : Parser Expr) :
      special? g value ⟨text, true, none⟩ ts = .ok (none, ts) := rfl
  have hplain (value : Parser Expr) :
      plainWord g value ⟨text, true, none⟩ ts = .ok (.column ⟨text, .double⟩, ts) := by
    have hpeek : peek? ts = .ok (ts.head?, ts) := rfl
    rw [plainWord, bind_run hpeek]
    cases ts with
    | nil => rfl
    | cons t ts =>
        have ht := hends t rfl
        cases t with
        | symbol s =>
            cases s with
            | lParen => cases ht <;> contradiction
            | _ => rfl
        | text kind body => cases ht <;> contradiction
        | _ => rfl
  have hrun (value : Parser Expr) : tokenOperand g value (Ident.token ⟨text, .double⟩) ts =
      .ok ((.column ⟨text, .double⟩, true), ts) := by
    change wordOperand g value ⟨text, true, none⟩ ts = _
    simp only [wordOperand, hspecial, hplain, Except.map]
  refine operand_run rfl (by simpa [Ident.token] using hsquare) hrun ?_
  cases ts with
  | nil => simp
  | cons t ts =>
      cases t with
      | word w =>
          have hword := hends _ rfl
          change w.keyword ≠ some .COLLATE
          intro hk
          simp [Token.ends, hk] at hword
      | _ => exact nofun

end

/-- The expression that some names are. -/
def named : List Ident → Expr
  | [name] => .column name
  | names => .path names

theorem linksAfterPeriod_named (name : Ident) (names : List Ident) :
    linksAfterPeriod (named (name :: names)) =
      (name :: names).map fun name => (.dot, [.column name]) := by
  cases names <;> rfl

theorem mapM_name_columns (names : List Ident) :
    (names.map fun name => ((.dot, [.column name]) : Link)).mapM Link.name? = some names := by
  induction names with
  | nil => rfl
  | cons name names ih =>
      rw [List.map_cons, List.mapM_cons, ih]
      rfl

/-- An expression is an operand with what it goes on to. -/
theorem expr_run {level : Nat} {ts mid : List Token} {e : Expr} (least : Nat)
    (h : operandWhole (grammar level) ts = .ok (e, mid)) : (grammar (level + 1)).expr least ts =
      extendedLoop (grammar level) least (mid.length + 1) e mid := by
  obtain ⟨root, mid', hroot, he⟩ := bind_eq_ok h
  change exprAbove (grammar level) least ts = _
  unfold exprAbove
  rw [bind_run hroot, bind_run he]

/-- Names that are read after a period are links. -/
theorem chain_path {g : Grammar} {name : Ident} {names : List Ident} {ts rest : List Token}
    (fuel : Nat) (hrest : Trails rest) (hhead : ts.head? = some name.token)
    (h : g.expr periodStrength ts = .ok (named (name :: names), rest)) :
    chain g (fuel + 2) (.symbol .period :: ts) =
      .ok (((name :: names).map fun name => (.dot, [.column name]), false), rest) := by
  have hstop : chain g (fuel + 1) rest = .ok (([], false), rest) :=
    chain_run fuel (head_of_trails hrest (by simp)) (head_of_trails hrest (by simp))
  have hstar : symbol? .mul ts = .ok (false, ts) := symbol?_missing (by simp [hhead, Ident.token])
  have hpeek : peek? ts = .ok (some name.token, ts) := by
    rw [← hhead]
    rfl
  rw [chain, bind_run (symbol?_there _ _), if_pos rfl, bind_run hstar, if_neg (by simp),
    bind_run hpeek]
  change (linksAfterPeriod <$> g.expr periodStrength >>= fun links =>
    chain g (fuel + 1) >>= fun r => pure (links ++ r.1, r.2)) _ = _
  rw [bind_run (map_run h _), bind_run hstop, linksAfterPeriod_named, List.append_nil]
  rfl

theorem accessed_path {g : Grammar} {name name' : Ident} {names : List Ident}
    {ts rest : List Token} (hrest : Trails rest) (hhead : ts.head? = some name'.token)
    (h : g.expr periodStrength ts = .ok (named (name' :: names), rest)) :
    accessed g (.column name) (.symbol .period :: ts) =
      .ok (.path (name :: name' :: names), rest) := by
  have hjoined : joined (.column name)
      ((name' :: names).map fun name => (.dot, [.column name])) = .path (name :: name' :: names) := by
    simp only [joined, names?, mapM_name_columns]
    rfl
  have hchain : chain g ((.symbol .period :: ts : List Token).length + 1) (.symbol .period :: ts) =
      .ok (((name' :: names).map fun name => (.dot, [.column name]), false), rest) :=
    chain_path ts.length hrest hhead h
  unfold accessed
  rw [bind_run (p := fun ts => chain g (ts.length + 1) ts) hchain]
  dsimp only
  rw [if_neg (by simp), hjoined]
  rfl

theorem square_of_calm {ts : List Token} (h : ts.all Token.isCalm = true) :
    .symbol .lBracket ∉ ts := by
  intro hmem
  have hcalm := List.all_eq_true.1 h _ hmem
  cases hcalm

/-- Names between double quotes with periods between them are a path. Each but the first is read on a
level of its own. -/
theorem path_run {level : Nat} {name : Ident} {names : List Ident} {rest : List Token}
    (hlevel : names.length ≤ level) (hnames : ∀ n ∈ name :: names, n.quote = .double)
    (hrest : Trails rest) : operandWhole (grammar level)
      ((Expr.path (name :: names)).tokens ++ rest) = .ok (named (name :: names), rest) := by
  induction names generalizing level name with
  | nil =>
      have hrun : operand (grammar level) (name.token :: rest) = .ok (.column name, rest) :=
        name_run (hnames name (by simp)) hrest.square fun t ht => .inl (hrest.ends t ht)
      change operandWhole (grammar level) (name.token :: rest) = _
      unfold operandWhole
      rw [bind_run hrun]
      exact accessed_run _ (head_of_trails hrest (by simp)) (head_of_trails hrest (by simp))
  | cons name' names ih =>
      cases level with
      | zero => cases hlevel
      | succ level =>
          obtain ⟨hname, hothers⟩ := List.forall_mem_cons.1 hnames
          have hexpr : (grammar (level + 1)).expr periodStrength
              ((Expr.path (name' :: names)).tokens ++ rest) =
                .ok (named (name' :: names), rest) := by
            rw [expr_run _ (ih (Nat.le_of_succ_le_succ hlevel) hothers)]
            exact extendedLoop_stops _ (edge_le_period rest) _
          have hsquare : .symbol .lBracket ∉
              .symbol .period :: ((Expr.path (name' :: names)).tokens ++ rest) := by
            have hcalm := square_of_calm (Expr.tokens_calm (e := .path (name' :: names)) rfl)
            simpa using ⟨hcalm, hrest.square⟩
          have hroot : operand (grammar (level + 1)) (name.token :: .symbol .period ::
              ((Expr.path (name' :: names)).tokens ++ rest)) = .ok (.column name, _) :=
            name_run hname hsquare (by simp)
          change operandWhole (grammar (level + 1)) (name.token :: .symbol .period ::
            ((Expr.path (name' :: names)).tokens ++ rest)) = _
          unfold operandWhole
          rw [bind_run hroot]
          exact accessed_path hrest (by cases names <;> rfl) hexpr

end Parser

end GeoLayers.Sql
