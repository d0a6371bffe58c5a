import GeoLayers.Proofs.Sql.Reread.Pieces
import GeoLayers.Statement.Quote
import Mathlib.Logic.Function.Defs

/-!
Names between quotes read back. Whatever a name holds, its quotes are written twice, so that the first
quote that stands alone is the closing one: what is read in front of any text that does not begin with
a quote is the name, all of it and nothing else. Names are therefore told apart by how they stand in a
statement, and columns by their tables and their own names.
-/

namespace GeoLayers

namespace Sql.Scan

/-- A body is read up to the first quote that is not one of a pair. -/
theorem quotedBody_eq_some_iff {quote : Char} {cs body rest : List Char} :
    quotedBody quote cs = some (body, rest) ↔
      cs = doubled quote body ++ quote :: rest ∧ rest.head? ≠ some quote := by
  constructor
  · intro h
    fun_induction quotedBody quote cs generalizing body with
    | case1 => cases h
    | case2 c hc c' rest' hc' ih =>
        obtain rfl := beq_iff_eq.1 hc
        obtain rfl := beq_iff_eq.1 hc'
        obtain ⟨⟨inner, after⟩, hread, heq⟩ := Option.map_eq_some_iff.1 h
        obtain ⟨rfl, rfl⟩ := Prod.mk.inj heq
        obtain ⟨rfl, hrest⟩ := ih hread
        exact ⟨by rw [doubled_quote]; rfl, hrest⟩
    | case3 c hc c' rest' hc' =>
        obtain rfl := beq_iff_eq.1 hc
        obtain ⟨rfl, rfl⟩ := Prod.mk.inj (Option.some.inj h)
        exact ⟨rfl, by simpa using hc'⟩
    | case4 c hc =>
        obtain rfl := beq_iff_eq.1 hc
        obtain ⟨rfl, rfl⟩ := Prod.mk.inj (Option.some.inj h)
        exact ⟨rfl, nofun⟩
    | case5 c rest' hc ih =>
        have hne : c ≠ quote := by simpa using hc
        obtain ⟨⟨inner, after⟩, hread, heq⟩ := Option.map_eq_some_iff.1 h
        obtain ⟨rfl, rfl⟩ := Prod.mk.inj heq
        obtain ⟨rfl, hrest⟩ := ih hread
        exact ⟨by rw [doubled_of_ne inner hne]; rfl, hrest⟩
  · rintro ⟨rfl, hrest⟩
    exact quotedBody_doubled hrest body

/-- A quoted name in front of a text that does not begin with a quote is one token. -/
theorem step_doubled (afterWord : Bool) {body rest : List Char} (hrest : rest.head? ≠ some '"') :
    step afterWord ('"' :: (doubled '"' body ++ '"' :: rest)) =
      .ok (some (.word ⟨String.ofList body, true, none⟩), rest) := by
  simp only [step, next, quotedBody_doubled hrest]

/-- A period in front of a quoted name is one token. -/
theorem step_period_quote (afterWord : Bool) (rest : List Char) :
    step afterWord ('.' :: '"' :: rest) = .ok (some (.symbol .period), '"' :: rest) := rfl

end Sql.Scan

open Sql (doubled tokenize)

theorem doubledQuotes_eq_doubled (cs : List Char) : doubledQuotes cs = doubled '"' cs := by
  induction cs with
  | nil => rfl
  | cons c cs ih =>
      rw [doubledQuotes]
      split
      case isTrue hc => rw [hc, Sql.doubled_quote, ih]
      case isFalse hc => rw [Sql.doubled_of_ne cs hc, ih]

theorem toList_quoteName_append (name : String) (rest : List Char) :
    (quoteName name).toList ++ rest = '"' :: (doubled '"' name.toList ++ '"' :: rest) := by
  rw [quoteName, String.toList_ofList, doubledQuotes_eq_doubled, List.cons_append, List.cons_append,
    List.append_assoc, List.singleton_append]

theorem toList_columnOf_append (table column : String) (rest : List Char) :
    (columnOf table column).toList ++ rest =
      (quoteName table).toList ++ '.' :: ((quoteName column).toList ++ rest) := by
  rw [columnOf, String.toList_append, String.toList_append, List.append_assoc, List.append_assoc]
  rfl

namespace QuotedName

/-- Reads a name between double quotes in front of a text, as a database does: two quotes in a row are
one quote of the name, a quote that stands alone ends it, and no name has the character zero. That an
empty name is refused and a long one is cut off is decided after it has been read. -/
def read? : List Char → Option (String × List Char)
  | '"' :: cs =>
    match Sql.Scan.quotedBody '"' cs with
    | some (body, rest) => if Char.ofNat 0 ∈ body then none else some (String.ofList body, rest)
    | none => none
  | _ => none

/-- Reads two names with a period between them. -/
def readPair? (cs : List Char) : Option ((String × String) × List Char) :=
  match read? cs with
  | some (table, '.' :: cs) => (read? cs).map fun (column, rest) => ((table, column), rest)
  | _ => none

variable {cs rest : List Char}

theorem read?_eq_some_iff {name : String} : read? cs = some (name, rest) ↔
    cs = (quoteName name).toList ++ rest ∧ Char.ofNat 0 ∉ name.toList ∧ rest.head? ≠ some '"' := by
  rw [toList_quoteName_append]
  constructor
  · intro h
    unfold read? at h
    split at h
    case h_2 => cases h
    case h_1 cs =>
      split at h
      case h_2 => cases h
      case h_1 body after hread =>
        obtain ⟨hnul, heq⟩ := Option.ite_none_left_eq_some.1 h
        obtain ⟨rfl, rfl⟩ := Prod.mk.inj (Option.some.inj heq)
        obtain ⟨rfl, hafter⟩ := Sql.Scan.quotedBody_eq_some_iff.1 hread
        rw [String.toList_ofList]
        exact ⟨rfl, hnul, hafter⟩
  · rintro ⟨rfl, hnul, hrest⟩
    simp only [read?, Sql.Scan.quotedBody_doubled hrest, if_neg hnul, String.ofList_toList]

theorem readPair?_eq_some_iff {table column : String} :
    readPair? cs = some ((table, column), rest) ↔
      cs = (columnOf table column).toList ++ rest ∧ Char.ofNat 0 ∉ table.toList ∧
        Char.ofNat 0 ∉ column.toList ∧ rest.head? ≠ some '"' := by
  rw [toList_columnOf_append]
  constructor
  · intro h
    unfold readPair? at h
    split at h
    case h_2 => cases h
    case h_1 table' cs' htable =>
      obtain ⟨⟨column', after⟩, hcolumn, heq⟩ := Option.map_eq_some_iff.1 h
      obtain ⟨hpair, rfl⟩ := Prod.mk.inj heq
      obtain ⟨rfl, rfl⟩ := Prod.mk.inj hpair
      obtain ⟨rfl, hcolumn, hrest⟩ := read?_eq_some_iff.1 hcolumn
      obtain ⟨rfl, htable, -⟩ := read?_eq_some_iff.1 htable
      exact ⟨rfl, htable, hcolumn, hrest⟩
  · rintro ⟨rfl, htable, hcolumn, hrest⟩
    have hpoint : ('.' :: ((quoteName column).toList ++ rest)).head? ≠ some '"' := by simp
    have hfirst := read?_eq_some_iff.2 ⟨rfl, htable, hpoint⟩
    have hsecond := read?_eq_some_iff.2 ⟨rfl, hcolumn, hrest⟩
    simp only [readPair?, hfirst, hsecond, Option.map_some]

end QuotedName

/-- A column is three tokens wherever it stands. -/
theorem tokenize_columnOf (table column : String) : tokenize (columnOf table column) =
    .ok [.word ⟨table, true, none⟩, .symbol .period, .word ⟨column, true, none⟩] := by
  have hchars := toList_columnOf_append table column []
  rw [List.append_nil, toList_quoteName_append, toList_quoteName_append] at hchars
  obtain ⟨fuel, hfuel⟩ : ∃ fuel, (columnOf table column).length = fuel + 3 := by
    refine ⟨(columnOf table column).length - 3, ?_⟩
    rw [← String.length_toList, hchars]
    simp
    omega
  have hpoint (rest : List Char) : ('.' :: rest).head? ≠ some '"' := by simp
  have hend : ([] : List Char).head? ≠ some '"' := nofun
  obtain ⟨afterTable, htable⟩ := Sql.Scan.all_of_step (fuel + 2)
    (Sql.Scan.step_doubled false (hpoint _))
  obtain ⟨afterPeriod, hperiod⟩ := Sql.Scan.all_of_step (fuel + 1)
    (Sql.Scan.step_period_quote afterTable _)
  obtain ⟨afterColumn, hcolumn⟩ := Sql.Scan.all_of_step fuel
    (Sql.Scan.step_doubled afterPeriod hend)
  rw [tokenize, hchars, hfuel, htable, hperiod, hcolumn, String.ofList_toList, String.ofList_toList,
    Sql.Scan.all]
  rfl

theorem quoteName_injective : Function.Injective quoteName := by
  intro name other h
  have hname := toList_quoteName_append name []
  rw [h, toList_quoteName_append, List.cons.injEq] at hname
  have hend : ([] : List Char).head? ≠ some '"' := nofun
  have hread := Sql.Scan.quotedBody_doubled hend name.toList
  rw [← hname.2, Sql.Scan.quotedBody_doubled hend] at hread
  exact String.toList_inj.1 (Prod.mk.inj (Option.some.inj hread)).1.symm

theorem columnOf_injective {table column table' column' : String}
    (h : columnOf table column = columnOf table' column') : (table, column) = (table', column') := by
  have htokens := tokenize_columnOf table column
  rw [h, tokenize_columnOf] at htokens
  simpa [eq_comm] using htokens

/-- Quoting cannot be escaped from: what is read as a quoted name in front of a text is the name that
was quoted, all of it and nothing else, and different names and columns are written differently. -/
theorem quoted_names_read_back :
    (∀ cs name rest, QuotedName.read? cs = some (name, rest) ↔
      cs = (quoteName name).toList ++ rest ∧ Char.ofNat 0 ∉ name.toList ∧ rest.head? ≠ some '"') ∧
    Function.Injective quoteName ∧
    (∀ table column table' column', (table, column) ≠ (table', column') →
      columnOf table column ≠ columnOf table' column') ∧
    (∀ cs table column rest, QuotedName.readPair? cs = some ((table, column), rest) ↔
      cs = (columnOf table column).toList ++ rest ∧ Char.ofNat 0 ∉ table.toList ∧
        Char.ofNat 0 ∉ column.toList ∧ rest.head? ≠ some '"') ∧
    ∀ table column, tokenize (columnOf table column) =
      .ok [.word ⟨table, true, none⟩, .symbol .period, .word ⟨column, true, none⟩] := by
  refine ⟨fun _ _ _ => QuotedName.read?_eq_some_iff, quoteName_injective, ?_,
    fun _ _ _ _ => QuotedName.readPair?_eq_some_iff, tokenize_columnOf⟩
  intro table column table' column' hne h
  exact hne (columnOf_injective h)

end GeoLayers
