import GeoLayers.Proofs.Sql.Reread.Runs
import GeoLayers.Proofs.Sql.Yields
import GeoLayers.Sql.Parser.Query

/-!
What may stand behind a condition: clauses for rows, differences and locks. Each of them starts with a
keyword of its own. Without the keyword it leaves the tokens as they are and adds nothing to the
query; with it, it adds a text.
-/

namespace GeoLayers.Sql.Parser

/-- The pieces of something that is there: they start with a text. -/
def Piece.Marked (pieces : List Piece) : Prop := ∃ s more, pieces = .text s :: more ∧ s ≠ ""

/-- The keyword in front of some tokens. -/
def frontKeyword? (ts : List Token) : Option Keyword := ts.head?.bind Token.keyword?

theorem Piece.Marked.append {pieces : List Piece} (h : Piece.Marked pieces) (more : List Piece) :
    Piece.Marked (pieces ++ more) := by
  obtain ⟨s, rest, rfl, hs⟩ := h
  exact ⟨s, rest ++ more, rfl, hs⟩

/-- A text that starts with one that is not empty is not empty. -/
theorem append_ne_empty {s : String} (h : s ≠ "") (t : String) : s ++ t ≠ "" := by
  intro heq
  rw [← String.toList_inj, String.toList_append] at heq
  exact h (String.toList_inj.1 (List.append_eq_nil_iff.1 heq).1)

/-- What is there can be told from what is not by the texts of the query alone. -/
theorem Piece.texts_ne_of_marked {pieces : List Piece} (h : Piece.Marked pieces) :
    Piece.texts pieces ≠ [""] := by
  obtain ⟨s, more, rfl, hs⟩ := h
  rw [Piece.texts]
  split
  · simpa using hs
  · next t ts _ =>
    intro heq
    exact append_ne_empty hs t (List.cons.inj heq).1

theorem frontKeyword?_of_after {k : Keyword} {ks : List Keyword} {ts rest : List Token}
    (h : afterKeywords (k :: ks) ts = some rest) : frontKeyword? ts = some k := by
  cases ts with
  | nil => cases h
  | cons t ts =>
      rw [afterKeywords] at h
      split at h
      · next hk => exact hk
      · cases h

section Clauses

variable {g : Grammar} {ts rest : List Token}

theorem listClause_eq_ok {k : Keyword} {ks : List Keyword} {text : String} {pieces : List Piece}
    (htext : text ≠ "") (h : listClause g (k :: ks) text ts = .ok (pieces, rest)) :
    (pieces = [] ∧ rest = ts) ∨ (Piece.Marked pieces ∧ frontKeyword? ts = some k) := by
  obtain ⟨there, mid, hrun, hrest⟩ := bind_eq_ok h
  obtain ⟨rfl, hafter⟩ | ⟨rfl, rfl⟩ := keywords?_eq_ok hrun
  · obtain ⟨es, mid', -, hpure⟩ := bind_eq_ok hrest
    obtain ⟨rfl, -⟩ := pure_eq_ok hpure
    exact .inr ⟨⟨text, es, rfl, htext⟩, frontKeyword?_of_after hafter⟩
  · obtain ⟨rfl, rfl⟩ := pure_eq_ok hrest
    exact .inl ⟨rfl, rfl⟩

/-- The keywords of the clauses for rows and their windows. -/
def rowKeywords : List Keyword := [.CLUSTER, .DISTRIBUTE, .SORT, .QUALIFY]

theorem rowClauses_eq_ok {pieces : List Piece} (h : rowClauses g ts = .ok (pieces, rest)) :
    (pieces = [] ∧ rest = ts) ∨
      (Piece.Marked pieces ∧ ∃ k ∈ rowKeywords, frontKeyword? ts = some k) := by
  obtain ⟨cluster, mid₁, hcluster, h₁⟩ := bind_eq_ok h
  obtain ⟨distribute, mid₂, hdistribute, h₂⟩ := bind_eq_ok h₁
  obtain ⟨sort, mid₃, hsort, h₃⟩ := bind_eq_ok h₂
  obtain ⟨there, mid₄, hthere, h₄⟩ := bind_eq_ok h₃
  have hqualify : ∃ qualify, pieces = cluster ++ distribute ++ sort ++ qualify ∧
      ((qualify = [] ∧ rest = mid₃) ∨
        (Piece.Marked qualify ∧ frontKeyword? mid₃ = some .QUALIFY)) := by
    obtain ⟨rfl, hafter⟩ | ⟨rfl, rfl, -⟩ := keyword?_eq_ok hthere
    · obtain ⟨e, mid₅, -, h₅⟩ := bind_eq_ok h₄
      obtain ⟨rfl, -⟩ := pure_eq_ok h₅
      exact ⟨_, rfl, .inr ⟨⟨_, _, rfl, by decide⟩, frontKeyword?_of_after hafter⟩⟩
    · obtain ⟨rfl, rfl⟩ := pure_eq_ok h₄
      exact ⟨[], rfl, .inl ⟨rfl, rfl⟩⟩
  obtain ⟨qualify, rfl, hqualify⟩ := hqualify
  -- The first clause that is there starts the pieces and has its keyword in front.
  rcases listClause_eq_ok (by decide) hcluster with ⟨rfl, rfl⟩ | ⟨hmarked, hfront⟩
  · rcases listClause_eq_ok (by decide) hdistribute with ⟨rfl, rfl⟩ | ⟨hmarked, hfront⟩
    · rcases listClause_eq_ok (by decide) hsort with ⟨rfl, rfl⟩ | ⟨hmarked, hfront⟩
      · rcases hqualify with ⟨rfl, rfl⟩ | ⟨hmarked, hfront⟩
        · exact .inl ⟨rfl, rfl⟩
        · exact .inr ⟨hmarked, .QUALIFY, by decide, hfront⟩
      · exact .inr ⟨hmarked.append _, .SORT, by decide, hfront⟩
    · exact .inr ⟨(hmarked.append _).append _, .DISTRIBUTE, by decide, hfront⟩
  · exact .inr ⟨((hmarked.append _).append _).append _, .CLUSTER, by decide, hfront⟩

/-- Without a difference the tokens stay. -/
theorem differences_eq_nil {fuel : Nat} (h : differences g fuel ts = .ok ([], rest)) : rest = ts := by
  cases fuel with
  | zero => cases h
  | succ fuel =>
      obtain ⟨there, mid, hthere, h₁⟩ := bind_eq_ok h
      obtain ⟨rfl, -⟩ | ⟨rfl, rfl, -⟩ := keyword?_eq_ok hthere
      · obtain ⟨mark, mid₂, -, h₂⟩ := bind_eq_ok h₁
        obtain ⟨right, mid₃, -, h₃⟩ := bind_eq_ok h₂
        obtain ⟨more, mid₄, -, h₄⟩ := bind_eq_ok h₃
        cases (pure_eq_ok h₄).1
      · exact (pure_eq_ok h₁).2.symm

end Clauses

/-- A format leaves a text. -/
theorem rowFormat?_marked : Yields rowFormat? fun format => ∀ s ∈ format, s ≠ "" := by
  refine .step fun kind => ?_
  split
  · refine .step fun shape => .step fun options => .pure ?_
    rintro _ ⟨⟩
    exact append_ne_empty (append_ne_empty (by decide) _) _
  · refine .step fun shape => .step fun options => .pure ?_
    rintro _ ⟨⟩
    exact append_ne_empty (append_ne_empty (by decide) _) _
  · exact .pure (by decide)
  · exact .pure (by simp)

/-- A lock leaves a text. -/
theorem lock_marked : Yields lock (· ≠ "") := by
  refine .step fun update => ?_
  extract_lets strong
  have hstrong (strength : String) (hstrength : strength ≠ "") : Yields (strong strength) (· ≠ "") := by
    refine .step fun of => ?_
    extract_lets located
    have hlocated (table : String) : Yields (located table) (· ≠ "") := by
      refine .step fun nowait => ?_
      extract_lets waited
      have hwaited (wait : String) : Yields (waited wait) (· ≠ "") :=
        .pure (append_ne_empty (append_ne_empty hstrength table) wait)
      refine .ite (fun _ => .step hwaited) fun _ => .step fun skips => ?_
      exact .ite (fun _ => .step hwaited) fun _ => .step hwaited
    exact .ite (fun _ => .step fun path => .step hlocated) fun _ => .step hlocated
  refine .ite (fun _ => .bind (.pure ?_) hstrong) fun _ => .step fun _ => .bind (.pure ?_) hstrong
  all_goals decide

/-- The end of a query is empty or starts with `FOR`. -/
theorem lockClauses_eq_ok {ts rest : List Token} {tail : String}
    (h : lockClauses ts = .ok (tail, rest)) :
    (tail = "" ∧ rest = ts) ∨ (tail ≠ "" ∧ frontKeyword? ts = some .FOR) := by
  obtain ⟨there, mid, hthere, h₁⟩ := bind_eq_ok (p := keyword? .FOR) h
  obtain ⟨rfl, hafter⟩ | ⟨rfl, rfl, -⟩ := keyword?_eq_ok hthere
  · refine .inr ⟨?_, frontKeyword?_of_after hafter⟩
    obtain ⟨format, mid₂, hformat, h₂⟩ := bind_eq_ok h₁
    cases format with
    | some format =>
        obtain ⟨rfl, -⟩ := pure_eq_ok h₂
        exact rowFormat?_marked _ _ _ hformat _ rfl
    | none =>
        obtain ⟨first, mid₃, hfirst, h₃⟩ := bind_eq_ok h₂
        obtain ⟨more, mid₄, -, h₄⟩ := bind_eq_ok h₃
        obtain ⟨rfl, -⟩ := pure_eq_ok h₄
        exact append_ne_empty (lock_marked _ _ _ hfirst) more
  · obtain ⟨rfl, rfl⟩ := pure_eq_ok h₁
    exact .inl ⟨rfl, rfl⟩

end GeoLayers.Sql.Parser
