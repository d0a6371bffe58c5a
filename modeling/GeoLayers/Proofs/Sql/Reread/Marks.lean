import GeoLayers.Proofs.Sql.Reread.Derivation

/-!
What a plain condition keeps of the tokens that it is read from: its constants and quoted names are
those of the tokens, in their order, and it is nested no deeper than the levels that it was read
with.
-/

namespace GeoLayers.Sql

/-- Whether a token can come out of the scanner: a quoted word spells no keyword. -/
def Token.isGenuine : Token → Bool
  | .word w => !w.quoted || w.keyword.isNone
  | _ => true

/-- The constants and quoted names among tokens. -/
def marksOf (ts : List Token) : List Token := ts.filter Token.isMark

/-- The token that a name is, unless it stands without quotes. -/
def Ident.marks (name : Ident) : List Token :=
  match name.quote with
  | .bare => []
  | .double => [name.token]
  | .single => [.text .plain name.value]

def Form.marks : Form → List Token
  | .literal value => marksOf [value.token]
  | _ => []

/-- How deep a construct is nested whose operands are nested as given. An operand in front of an
operator is read on the same level as the construct. -/
def Form.depth (head : Form) (depths : List Nat) : Nat :=
  match head.startsWithOperand, depths with
  | true, first :: others => max first (others.foldr max 0 + 1)
  | _, depths => depths.foldr max 0 + 1

namespace Expr

mutual

/-- The constants and quoted names of a condition, from left to right. -/
def marks : Expr → List Token
  | .column name => name.marks
  | .path parts => parts.flatMap Ident.marks
  | .form head operands => head.marks ++ marksIn operands

def marksIn : List Expr → List Token
  | [] => []
  | e :: es => e.marks ++ marksIn es

end

mutual

/-- How many levels of nesting a plain condition takes. Each part of a path takes one, but a part
between single quotes. -/
def depth : Expr → Nat
  | .column _ => 1
  | .path parts => parts.countP fun name => name.quote != .single
  | .form head operands => head.depth (depths operands)

def depths : List Expr → List Nat
  | [] => []
  | e :: es => e.depth :: depths es

end

theorem foldr_max_le {n : Nat} (es : List Expr) :
    (depths es).foldr max 0 ≤ n ↔ ∀ e ∈ es, e.depth ≤ n := by
  induction es with
  | nil => simp [depths]
  | cons e es ih => rw [depths, List.foldr_cons, Nat.max_le, ih, List.forall_mem_cons]

/-- How deep a construct is nested that does not start with an operand. -/
theorem depth_enclosed {head : Form} {n : Nat} (h : head.startsWithOperand = false)
    (operands : List Expr) :
    (form head operands).depth ≤ n + 1 ↔ ∀ e ∈ operands, e.depth ≤ n := by
  rw [← foldr_max_le]
  simp only [depth, Form.depth, h]
  omega

/-- How deep a construct is nested that starts with an operand. -/
theorem depth_extended {head : Form} {n : Nat} (h : head.startsWithOperand = true) (e : Expr)
    (others : List Expr) : (form head (e :: others)).depth ≤ n + 1 ↔
      e.depth ≤ n + 1 ∧ ∀ e ∈ others, e.depth ≤ n := by
  rw [← foldr_max_le]
  simp only [depth, depths, Form.depth, h]
  omega

end Expr

namespace Parser

open Sql.Expr (depth_enclosed depth_extended)

theorem marksOf_word {w : Word} (h : (Token.word w).isGenuine = true) :
    marksOf [.word w] = w.ident.marks := by
  obtain ⟨value, quoted, keyword⟩ := w
  cases quoted with
  | false => rfl
  | true =>
      have hkeyword : keyword = none := by simpa [Token.isGenuine] using h
      rw [hkeyword]
      rfl

theorem marksOf_cons (t : Token) (ts : List Token) : marksOf (t :: ts) = marksOf [t] ++ marksOf ts :=
  List.filter_append [t] ts

@[simp] theorem marksOf_symbol (s : Symbol) (ts : List Token) :
    marksOf (.symbol s :: ts) = marksOf ts := rfl

/-- A keyword is no constant and no quoted name. -/
theorem marksOf_keyword {t : Token} {k : Keyword} (hk : t.keyword? = some k)
    (ht : t.isGenuine = true) (ts : List Token) : marksOf (t :: ts) = marksOf ts := by
  cases t with
  | word w =>
      have hquoted : w.quoted = false := by
        have hkeyword : w.keyword = some k := hk
        simpa [Token.isGenuine, hkeyword] using ht
      simp [marksOf, Token.isMark, hquoted]
  | _ => cases hk

theorem marksOf_afterKeywords {ks : List Keyword} : ∀ {ts rest : List Token},
    afterKeywords ks ts = some rest → (∀ t ∈ ts, t.isGenuine = true) →
      marksOf ts = marksOf rest ∧ ∀ t ∈ rest, t.isGenuine = true := by
  induction ks with
  | nil =>
      intro ts rest h hgenuine
      obtain rfl := Option.some.inj h
      exact ⟨rfl, hgenuine⟩
  | cons k ks ih =>
      intro ts rest h hgenuine
      cases ts with
      | nil => cases h
      | cons t ts =>
          obtain ⟨ht, hts⟩ := List.forall_mem_cons.1 hgenuine
          rw [afterKeywords] at h
          split at h
          · next hk =>
            rw [marksOf_keyword hk ht]
            exact ih h hts
          · cases h

theorem marksOf_operator {t : Token} {op : BinaryOp} (h : infix? t = some op)
    (ht : t.isGenuine = true) (ts : List Token) : marksOf (t :: ts) = marksOf ts := by
  cases t with
  | word w =>
      have hkeyword : ∃ k, w.keyword = some k := by
        simp only [infix?] at h
        split at h
        all_goals first
          | exact ⟨_, by assumption⟩
          | cases h
      obtain ⟨k, hk⟩ := hkeyword
      exact marksOf_keyword (t := .word w) hk ht ts
  | symbol s => rfl
  | _ => cases h

/-- The token of a constant is kept, unless it is a keyword. -/
theorem marksOf_constant {t : Token} {value : Literal} (h : constant? t = some value)
    (ht : t.isGenuine = true) : marksOf [t] = marksOf [value.token] := by
  cases t with
  | word w =>
      have hkeyword : ∃ k, w.keyword = some k ∧ marksOf [value.token] = [] := by
        simp only [constant?] at h
        split at h
        all_goals first
          | exact ⟨_, by assumption, Option.some.inj h ▸ rfl⟩
          | cases h
      obtain ⟨k, hk, hmarks⟩ := hkeyword
      rw [marksOf_keyword (t := .word w) hk ht, hmarks]
      rfl
  | number digits long =>
      obtain rfl := Option.some.inj h
      rfl
  | text kind body =>
      obtain rfl := Option.some.inj h
      rfl
  | _ => cases h

/-- What reading a condition keeps. -/
structure Faithful (level : Nat) (ts : List Token) (e : Expr) (rest : List Token) : Prop where
  marks : marksOf ts = e.marks ++ marksOf rest
  depth : e.depth ≤ level
  genuine : ∀ t ∈ rest, t.isGenuine = true

/-- A reading that keeps what there is to keep, and reads a path to its end. -/
structure Reading.IsFaithful (R : Reading) (level : Nat) : Prop where
  faithful : ∀ {least ts x rest}, R least ts x rest → (∀ t ∈ ts, t.isGenuine = true) →
    Faithful level ts x rest
  stops : ∀ {least ts x rest}, R least ts x rest → x.isName = true →
    rest.head? ≠ some (.symbol .period)

/-- Names follow no name that was read to its end. -/
theorem dots_eq_stop {R : Reading} {mid rest : List Token} {names : List Ident}
    (hmid : mid.head? ≠ some (.symbol .period)) (h : Dots R mid names rest) :
    names = [] ∧ mid = rest := by
  cases h with
  | stop _ => exact ⟨rfl, rfl⟩
  | text _ | column _ _ | path _ _ => simp at hmid

section

variable {R : Reading} {level : Nat} (hR : R.IsFaithful level)

include hR

theorem items_faithful {ts rest : List Token} {es : List Expr} (h : Items R ts es rest)
    (hgenuine : ∀ t ∈ ts, t.isGenuine = true) :
    marksOf ts = Expr.marksIn es ++ marksOf rest ∧ (∀ e ∈ es, e.depth ≤ level) ∧
      ∀ t ∈ rest, t.isGenuine = true := by
  induction h with
  | one h =>
      have he := hR.faithful h hgenuine
      exact ⟨by simpa [Expr.marksIn] using he.marks, by simpa using he.depth, he.genuine⟩
  | more h hmore ih =>
      have he := hR.faithful h hgenuine
      obtain ⟨hcomma, hmid⟩ := List.forall_mem_cons.1 he.genuine
      obtain ⟨hmarks, hdepth, hrest⟩ := ih hmid
      refine ⟨?_, List.forall_mem_cons.2 ⟨he.depth, hdepth⟩, hrest⟩
      rw [he.marks, marksOf_cons, hmarks, Expr.marksIn, List.append_assoc]
      rfl

theorem dots_faithful {ts rest : List Token} {names : List Ident} (h : Dots R ts names rest)
    (hgenuine : ∀ t ∈ ts, t.isGenuine = true) :
    marksOf ts = names.flatMap Ident.marks ++ marksOf rest ∧
      names.countP (fun name => name.quote != .single) ≤ level ∧
      (∀ t ∈ rest, t.isGenuine = true) := by
  induction h with
  | stop h => exact ⟨rfl, Nat.zero_le _, hgenuine⟩
  | text h ih =>
      obtain ⟨-, -, hmid⟩ := by simpa only [List.forall_mem_cons] using hgenuine
      obtain ⟨hmarks, hcount, hrest⟩ := ih hmid
      refine ⟨?_, by simpa using hcount, hrest⟩
      change _ :: marksOf _ = _
      rw [hmarks]
      rfl
  | column h hmore =>
      have hname := hR.faithful h (List.forall_mem_cons.1 hgenuine).2
      obtain ⟨rfl, rfl⟩ := dots_eq_stop (hR.stops h rfl) hmore
      refine ⟨?_, ?_, hname.genuine⟩
      · rw [marksOf_symbol, hname.marks]
        simp [Expr.marks]
      · exact Nat.le_trans List.countP_le_length hname.depth
  | path h hmore =>
      have hname := hR.faithful h (List.forall_mem_cons.1 hgenuine).2
      obtain ⟨rfl, rfl⟩ := dots_eq_stop (hR.stops h rfl) hmore
      refine ⟨?_, ?_, hname.genuine⟩
      · rw [marksOf_symbol, hname.marks]
        simp [Expr.marks]
      · rw [List.append_nil]
        exact hname.depth

theorem starts_faithful {ts rest : List Token} {e : Expr} (h : Starts R ts e rest)
    (hgenuine : ∀ t ∈ ts, t.isGenuine = true) : Faithful (level + 1) ts e rest := by
  cases h with
  | column w rest =>
      obtain ⟨hw, hrest⟩ := List.forall_mem_cons.1 hgenuine
      refine ⟨?_, Nat.le_add_left 1 level, hrest⟩
      rw [marksOf_cons, marksOf_word hw]
      rfl
  | path w h hne =>
      obtain ⟨hw, hmid⟩ := List.forall_mem_cons.1 hgenuine
      obtain ⟨hmarks, hcount, hrest⟩ := dots_faithful hR h hmid
      refine ⟨?_, ?_, hrest⟩
      · rw [marksOf_cons, marksOf_word hw, hmarks, ← List.append_assoc]
        rfl
      · rw [Expr.depth, List.countP_cons]
        split <;> omega
  | @constant t value h rest =>
      obtain ⟨ht, hrest⟩ := List.forall_mem_cons.1 hgenuine
      refine ⟨?_, Nat.le_add_left 1 level, hrest⟩
      have hleaf : (leaf (.literal value)).marks = marksOf [value.token] := List.append_nil _
      rw [hleaf, marksOf_cons, marksOf_constant h ht]
  | plus h =>
      have he := hR.faithful h (List.forall_mem_cons.1 hgenuine).2
      refine ⟨?_, (depth_enclosed rfl _).2 (by simpa using he.depth), he.genuine⟩
      rw [marksOf_symbol, he.marks]
      simp [Expr.marks, Expr.marksIn, Form.marks]
  | minus h =>
      have he := hR.faithful h (List.forall_mem_cons.1 hgenuine).2
      refine ⟨?_, (depth_enclosed rfl _).2 (by simpa using he.depth), he.genuine⟩
      rw [marksOf_symbol, he.marks]
      simp [Expr.marks, Expr.marksIn, Form.marks]
  | not ht h =>
      obtain ⟨hgen, hts⟩ := List.forall_mem_cons.1 hgenuine
      have he := hR.faithful h hts
      refine ⟨?_, (depth_enclosed rfl _).2 (by simpa using he.depth), he.genuine⟩
      rw [marksOf_keyword ht hgen, he.marks]
      simp [Expr.marks, Expr.marksIn, Form.marks]
  | nested h =>
      have he := hR.faithful h (List.forall_mem_cons.1 hgenuine).2
      refine ⟨?_, (depth_enclosed rfl _).2 (by simpa using he.depth),
        (List.forall_mem_cons.1 he.genuine).2⟩
      rw [marksOf_symbol, he.marks, marksOf_symbol]
      simp [Expr.marks, Expr.marksIn, Form.marks]
  | tuple h =>
      obtain ⟨hmarks, hdepth, hrest⟩ := items_faithful hR h (List.forall_mem_cons.1 hgenuine).2
      refine ⟨?_, (depth_enclosed rfl _).2 hdepth, (List.forall_mem_cons.1 hrest).2⟩
      rw [marksOf_symbol, hmarks, marksOf_symbol]
      rfl

omit hR in
theorem marks_extended {head : Form} (hhead : head.marks = []) (e : Expr) (others : List Expr) :
    (Expr.form head (e :: others)).marks = e.marks ++ Expr.marksIn others := by
  rw [Expr.marks, hhead]
  rfl

/-- Keywords with one operand behind them. -/
theorem right_faithful {head : Form} (hhead : head.marks = [])
    (hstart : head.startsWithOperand = true) {e r : Expr} {ts mid rest : List Token}
    {ks : List Keyword} {least : Nat} (hks : afterKeywords ks ts = some mid) (h : R least mid r rest)
    (hdepth : e.depth ≤ level + 1) (hgenuine : ∀ t ∈ ts, t.isGenuine = true) :
    e.marks ++ marksOf ts = (Expr.form head [e, r]).marks ++ marksOf rest ∧
      (Expr.form head [e, r]).depth ≤ level + 1 ∧ ∀ t ∈ rest, t.isGenuine = true := by
  obtain ⟨hkeywords, hmid⟩ := marksOf_afterKeywords hks hgenuine
  have hr := hR.faithful h hmid
  refine ⟨?_, (depth_extended hstart _ _).2 ⟨hdepth, by simpa using hr.depth⟩, hr.genuine⟩
  rw [hkeywords, hr.marks, marks_extended hhead]
  simp [Expr.marksIn]

theorem extends_faithful {e x : Expr} {ts rest : List Token} (h : Extends R e ts x rest)
    (hdepth : e.depth ≤ level + 1) (hgenuine : ∀ t ∈ ts, t.isGenuine = true) :
    e.marks ++ marksOf ts = x.marks ++ marksOf rest ∧ x.depth ≤ level + 1 ∧
      ∀ t ∈ rest, t.isGenuine = true := by
  cases h with
  | binary ht hop h =>
      obtain ⟨hgen, hts⟩ := List.forall_mem_cons.1 hgenuine
      have hr := hR.faithful h hts
      refine ⟨?_, (depth_extended rfl _ _).2 ⟨hdepth, by simpa using hr.depth⟩, hr.genuine⟩
      rw [marksOf_operator ht hgen, hr.marks, marks_extended rfl]
      simp [Expr.marksIn]
  | test hs hks negated what =>
      obtain ⟨hkeywords, hrest⟩ := marksOf_afterKeywords hks hgenuine
      refine ⟨?_, (depth_extended rfl _ _).2 ⟨hdepth, by simp⟩, hrest⟩
      rw [hkeywords, marks_extended rfl]
      simp [Expr.marksIn]
  | distinctFrom hs hks negated h => exact right_faithful hR rfl rfl hks h hdepth hgenuine
  | inList hs hks negated h =>
      obtain ⟨hkeywords, hmid⟩ := marksOf_afterKeywords hks hgenuine
      obtain ⟨hitems, hdepths, hrest⟩ := items_faithful hR h (List.forall_mem_cons.1 hmid).2
      refine ⟨?_, (depth_extended rfl _ _).2 ⟨hdepth, hdepths⟩, (List.forall_mem_cons.1 hrest).2⟩
      rw [hkeywords, marksOf_symbol, hitems, marksOf_symbol, marks_extended rfl, List.append_assoc]
  | between hs hks negated hlow hand hhigh =>
      obtain ⟨hkeywords, hmid⟩ := marksOf_afterKeywords hks hgenuine
      have hl := hR.faithful hlow hmid
      obtain ⟨hword, hlast⟩ := marksOf_afterKeywords hand hl.genuine
      have hh := hR.faithful hhigh hlast
      refine ⟨?_, (depth_extended rfl _ _).2 ⟨hdepth, ?_⟩, hh.genuine⟩
      · rw [hkeywords, hl.marks, hword, hh.marks, marks_extended rfl]
        simp [Expr.marksIn]
      · simpa using ⟨hl.depth, hh.depth⟩
  | like hs hks kind negated any hany h => exact right_faithful hR rfl rfl hks h hdepth hgenuine
  | regexp hs hks negated rlike h => exact right_faithful hR rfl rfl hks h hdepth hgenuine
  | atTimeZone hs hks h => exact right_faithful hR rfl rfl hks h hdepth hgenuine

theorem goes_faithful {least : Nat} {e x : Expr} {ts rest : List Token}
    (h : Goes R least e ts x rest) (hdepth : e.depth ≤ level + 1)
    (hgenuine : ∀ t ∈ ts, t.isGenuine = true) :
    e.marks ++ marksOf ts = x.marks ++ marksOf rest ∧ x.depth ≤ level + 1 ∧
      ∀ t ∈ rest, t.isGenuine = true := by
  induction h with
  | stop h => exact ⟨rfl, hdepth, hgenuine⟩
  | step hleast h hmore ih =>
      obtain ⟨hmarks, hdepth', hmid⟩ := extends_faithful hR h hdepth hgenuine
      obtain ⟨hmarks', hrest⟩ := ih hdepth' hmid
      exact ⟨hmarks.trans hmarks', hrest⟩

end

theorem isName_of_extends {R : Reading} {e x : Expr} {ts rest : List Token}
    (h : Extends R e ts x rest) : x.isName = false := by
  cases h <;> rfl

/-- Only what does not go on is a name. -/
theorem goes_name {R : Reading} {least : Nat} {e x : Expr} {ts rest : List Token}
    (h : Goes R least e ts x rest) (hx : x.isName = true) : x = e ∧ rest = ts := by
  induction h with
  | stop h => exact ⟨rfl, rfl⟩
  | step hleast h hmore ih =>
      obtain ⟨rfl, -⟩ := ih hx
      rw [isName_of_extends h] at hx
      cases hx

/-- A plain condition keeps the constants and the quoted names that it is read from. -/
theorem derives_faithful (level : Nat) : (Derives level).IsFaithful level := by
  induction level with
  | zero => exact ⟨fun h => h.elim, fun h => h.elim⟩
  | succ level ih =>
      constructor
      · rintro least ts x rest ⟨e, mid, hstarts, -, hgoes⟩ hgenuine
        have he := starts_faithful ih hstarts hgenuine
        obtain ⟨hmarks, hdepth, hrest⟩ := goes_faithful ih hgoes he.depth he.genuine
        exact ⟨he.marks.trans hmarks, hdepth, hrest⟩
      · rintro least ts x rest ⟨e, mid, -, hmid, hgoes⟩ hx
        obtain ⟨-, rfl⟩ := goes_name hgoes hx
        exact hmid

end Parser

end GeoLayers.Sql
