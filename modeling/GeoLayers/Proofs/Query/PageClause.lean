import GeoLayers.Proofs.Query.Layout

/-!
The size and the start of a page, read back from the end of a statement. The words `LIMIT` and
`OFFSET` stand there with a placeholder each, and the numbers are the parameters that the
placeholders stand for.
-/

namespace GeoLayers

namespace Text

theorem splitWhen_append {stop : Char → Bool} {c : Char} (hc : stop c = true) {after : List Char}
    (hafter : ∀ d ∈ after, stop d = false) (before : List Char) :
    splitWhen stop (before ++ c :: after) = splitWhen stop before ++ [after] := by
  have hrest : splitWhen stop after = [after] := by
    induction after with
    | nil => rfl
    | cons d after ih =>
        obtain ⟨hd, hmore⟩ := List.forall_mem_cons.1 hafter
        rw [splitWhen, hd, ih hmore]
        rfl
  induction before with
  | nil => simp [splitWhen, hc, hrest]
  | cons d before ih =>
      rw [List.cons_append, splitWhen, splitWhen, ih]
      cases stop d with
      | true => rfl
      | false =>
          cases hsplit : splitWhen stop before with
          | nil => exact absurd hsplit (splitWhen_ne_nil stop before)
          | cons part parts => rfl

/-- A word at the end of a text is the last of its parts. -/
theorem splitAt_append (before : String) {word : String} (h : ' ' ∉ word.toList) :
    splitAt ' ' (before ++ " " ++ word) = splitAt ' ' before ++ [word] := by
  have hword : ∀ d ∈ word.toList, (d == ' ') = false := by
    intro d hd
    rw [beq_eq_false_iff_ne]
    rintro rfl
    exact h hd
  have htext : (before ++ " " ++ word).toList = before.toList ++ ' ' :: word.toList := by
    simp [String.toList_append]
  rw [splitAt, splitAt, htext, splitWhen_append (by decide) hword, List.map_append, List.map_singleton,
    String.ofList_toList]

/-- Two words at the end of a text, if they are there, are the last of its parts. -/
theorem splitAt_append_pair (before : String) {first second : String} (hfirst : ' ' ∉ first.toList)
    (hsecond : ' ' ∉ second.toList) (there : Bool) :
    splitAt ' ' (before ++ " " ++ if there then first ++ " " ++ second else "") =
      splitAt ' ' before ++ if there then [first, second] else [""] := by
  cases there with
  | false =>
      have hempty : ' ' ∉ ("" : String).toList := by decide
      exact splitAt_append before hempty
  | true =>
      rw [if_pos rfl, if_pos rfl, ← String.append_assoc, ← String.append_assoc,
        splitAt_append _ hsecond, splitAt_append _ hfirst, List.append_assoc]
      rfl

end Text

namespace Statement

/-- The number that a placeholder stands for. -/
def number? (s : Statement) (placeholder : String) : Option Nat :=
  ((List.range s.binds.length).find? fun i => placeholder == "$" ++ toString (i + 1)).bind fun i =>
    match s.binds[i]? with
    | some (.bigInt n) => n.toNat?
    | _ => none

/-- The size of the page that a statement asks for, and its start, if its text ends with them. -/
def page? (s : Statement) : Option (Nat × Nat) :=
  match (Text.splitAt ' ' s.sql).reverse with
  | "" :: size :: "LIMIT" :: _ => (s.number? size).map (·, 0)
  | start :: "OFFSET" :: size :: "LIMIT" :: _ => do
    let size ← s.number? size
    let start ← s.number? start
    pure (size, start)
  | _ => none

/-- The number that a placeholder stands for, with its sign. -/
def bigInt? (s : Statement) (placeholder : String) : Option Int :=
  ((List.range s.binds.length).find? fun i => placeholder == "$" ++ toString (i + 1)).bind fun i =>
    match s.binds[i]? with
    | some (.bigInt n) => some n
    | _ => none

/-- The last word of a text, from whose end the words are told, if a keyword stands before it. -/
def lastAfter? (keyword : String) : List String → Option String
  | value :: word :: _ => if word = keyword then some value else none
  | _ => none

/-- How many rows a statement passes over, if its text ends with that. -/
def offset? (s : Statement) : Option Int :=
  (lastAfter? "OFFSET" (Text.splitAt ' ' s.sql).reverse).bind s.bigInt?

/-- How many rows a statement asks for at most, if its text ends with that and perhaps with how many
it passes over. -/
def limit? (s : Statement) : Option Int :=
  let words := (Text.splitAt ' ' s.sql).reverse
  let before := if (lastAfter? "OFFSET" words).isSome then words.drop 2 else words.drop 1
  (lastAfter? "LIMIT" before).bind s.bigInt?

variable {s : Statement}

theorem number?_eq (placeholder : String) :
    s.number? placeholder = (s.bigInt? placeholder).bind Int.toNat? := by
  rw [number?, bigInt?, Option.bind_assoc]
  congr 1
  funext i
  cases s.binds[i]? with
  | none => rfl
  | some bind => cases bind <;> rfl

theorem bigInt?_placeholder {i : Nat} {n : Int} (h : s.binds[i]? = some (.bigInt n)) :
    s.bigInt? ("$" ++ toString (i + 1)) = some n := by
  have hi : i < s.binds.length := (List.getElem?_eq_some_iff.1 h).1
  have hfind : (List.range s.binds.length).find?
      (fun j => "$" ++ toString (i + 1) == "$" ++ toString (j + 1)) = some i := by
    rw [List.find?_range_eq_some]
    refine ⟨by simp, by simpa using hi, ?_⟩
    intro j hj
    have hne : i ≠ j := by omega
    rw [Bool.not_eq_true', beq_eq_false_iff_ne]
    intro heq
    have hnumber := toString_injective ((String.append_right_inj _).1 heq)
    omega
  rw [bigInt?, hfind, Option.bind_some, h]

/-- No text but a dollar sign with a number is a placeholder. -/
theorem bigInt?_empty : s.bigInt? "" = none := by
  have hfind : (List.range s.binds.length).find? (fun i => "" == "$" ++ toString (i + 1)) = none := by
    rw [List.find?_eq_none]
    simp
  rw [bigInt?, hfind]
  rfl

theorem notMem_placeholder (n : Nat) : ' ' ∉ ("$" ++ toString n).toList := by
  intro hmem
  rw [String.toList_append, List.mem_append] at hmem
  rcases hmem with hmem | hmem
  · revert hmem
    decide
  · have hdigit : (' ').isDigit = true := by
      apply Nat.isDigit_of_mem_toDigits (b := 10) (n := n) (by decide) (by decide)
      simpa [toString] using hmem
    revert hdigit
    decide

theorem bind_lastAfter?_empty (keyword : String) (words : List String) :
    (lastAfter? keyword ("" :: words)).bind s.bigInt? = none := by
  cases words with
  | nil => rfl
  | cons word words =>
      rw [lastAfter?]
      split
      · exact bigInt?_empty
      · rfl

theorem placeholder_ne_offset (n : Nat) : "$" ++ toString n ≠ "OFFSET" := by
  intro heq
  have hlist := congrArg String.toList heq
  rw [String.toList_append] at hlist
  exact absurd (List.cons.inj hlist).1 (by decide)

end Statement

variable {layer : Layer} {catalog : Catalog} {request : QueryRequest} {s : Statement}

theorem getElem?_boundValues {v : BoundValue} (hmem : v ∈ request.boundValues layer) :
    ((request.boundValues layer).map request.bindOf)[(request.boundValues layer).idxOf v]? =
      some (request.bindOf v) := by
  rw [List.getElem?_map, List.getElem?_idxOf hmem]
  rfl

/-- A statement ends with the fields that the rows are sorted by, the size of the page and the start
of the page, where there are such. -/
theorem sql_end (layer : Layer) (plan : Plan) (request : QueryRequest) (values : List BoundValue) :
    ∃ before, String.join ((plan.layout layer request).map (Part.render values)) =
      before ++ " " ++ plan.orderText layer ++ " " ++
        (if request.pageLimit?.isSome then
          "LIMIT" ++ " " ++ ("$" ++ toString (values.idxOf .limit + 1)) else "") ++ " " ++
        (if request.isPaged && 0 < request.offset then
          "OFFSET" ++ " " ++ ("$" ++ toString (values.idxOf .offset + 1)) else "") := by
  refine ⟨String.join ((plan.front layer request).map (Part.render values)), ?_⟩
  have hlimit : String.join ((if request.pageLimit?.isSome then
      [Part.text "LIMIT ", .value .limit] else []).map (Part.render values)) =
      if request.pageLimit?.isSome then
        "LIMIT" ++ " " ++ ("$" ++ toString (values.idxOf .limit + 1)) else "" := by
    have hword : "LIMIT " = "LIMIT" ++ " " := by decide
    split
    · simp [Part.render, hword]
    · rfl
  have hoffset : String.join ((if request.isPaged && 0 < request.offset then
      [Part.text "OFFSET ", .value .offset] else []).map (Part.render values)) =
      if request.isPaged && 0 < request.offset then
        "OFFSET" ++ " " ++ ("$" ++ toString (values.idxOf .offset + 1)) else "" := by
    have hword : "OFFSET " = "OFFSET" ++ " " := by decide
    split
    · simp [Part.render, hword]
    · rfl
  simp only [-String.reduceAppend, Plan.layout, List.map_append, String.join_append, hlimit, hoffset,
    List.map_cons, List.map_nil, String.join_cons, String.join_nil, Part.render, String.append_assoc,
    String.append_empty]

/-- The placeholder of a value in the statement of a request. -/
def QueryRequest.placeholder (layer : Layer) (request : QueryRequest) (v : BoundValue) : String :=
  "$" ++ toString ((request.boundValues layer).idxOf v + 1)

/-- The last words of a statement are those of its page. -/
theorem words_of_compile (h : compile layer catalog request = .ok s) :
    ∃ words, Text.splitAt ' ' s.sql = words ++
      (if request.pageLimit?.isSome then ["LIMIT", request.placeholder layer .limit] else [""]) ++
      (if request.isPaged && 0 < request.offset then
        ["OFFSET", request.placeholder layer .offset] else [""]) := by
  obtain ⟨plan, -, -, rfl⟩ := compile_layout h
  obtain ⟨before, hsql⟩ := sql_end layer plan request (request.boundValues layer)
  refine ⟨Text.splitAt ' ' (before ++ " " ++ plan.orderText layer), ?_⟩
  have hword (v : BoundValue) : ' ' ∉ (request.placeholder layer v).toList :=
    Statement.notMem_placeholder _
  rw [hsql, ← Text.splitAt_append_pair _ (by decide) (hword .limit),
    ← Text.splitAt_append_pair _ (by decide) (hword .offset)]
  rfl

theorem QueryRequest.limit_mem_boundValues (layer : Layer)
    (h : request.pageLimit?.isSome = true) : .limit ∈ request.boundValues layer := by
  simp [boundValues, h]

theorem QueryRequest.offset_mem_boundValues (layer : Layer)
    (h : (request.isPaged && decide (0 < request.offset)) = true) :
    .offset ∈ request.boundValues layer := by
  simp only [boundValues, h]
  simp

theorem QueryRequest.pageLimit?_eq_some {limit : Int} :
    request.pageLimit? = some limit ↔
      request.isPaged = true ∧ 0 < limit ∧ request.limit = limit := by
  unfold pageLimit?
  split
  case isTrue hlimited =>
    rw [Bool.and_eq_true, decide_eq_true_iff] at hlimited
    rw [Option.some.injEq]
    exact ⟨fun heq => ⟨hlimited.1, heq ▸ hlimited.2, heq⟩, fun h => h.2.2⟩
  case isFalse hnone =>
    refine ⟨nofun, fun ⟨hpaged, hpos, heq⟩ => absurd ?_ hnone⟩
    simp [hpaged, heq, hpos]

theorem bigInt?_of_compile (h : compile layer catalog request = .ok s) {v : BoundValue}
    (hmem : v ∈ request.boundValues layer) {n : Int} (hbind : request.bindOf v = .bigInt n) :
    s.bigInt? (request.placeholder layer v) = some n := by
  obtain ⟨plan, -, -, rfl⟩ := compile_layout h
  exact Statement.bigInt?_placeholder (hbind ▸ getElem?_boundValues hmem)

/-- A statement passes over the rows before its page. -/
theorem offset?_of_compile (h : compile layer catalog request = .ok s) :
    s.offset? = if request.isPaged && 0 < request.offset then some request.offset else none := by
  obtain ⟨words, hwords⟩ := words_of_compile h
  rw [Statement.offset?, hwords]
  cases hstarted : request.isPaged && decide (0 < request.offset) with
  | true =>
      simpa [Statement.lastAfter?] using
        bigInt?_of_compile h (request.offset_mem_boundValues layer hstarted) rfl
  | false =>
      simp [Statement.bind_lastAfter?_empty]

/-- A statement asks for one row more than a page holds, as a word of 64 bits. -/
theorem limit?_of_compile (h : compile layer catalog request = .ok s) :
    s.limit? = request.pageLimit?.map fun limit => Number.wrapInt64 (limit + 1) := by
  obtain ⟨words, hwords⟩ := words_of_compile h
  -- The words before those of the start are told from the end, whether there is a start or not.
  have hbefore : s.limit? = (Statement.lastAfter? "LIMIT"
      ((if request.pageLimit?.isSome then [request.placeholder layer .limit, "LIMIT"] else [""]) ++
        words.reverse)).bind s.bigInt? := by
    have hplaceholder : request.placeholder layer .limit ≠ "OFFSET" :=
      Statement.placeholder_ne_offset _
    rw [Statement.limit?, hwords]
    cases request.isPaged && decide (0 < request.offset) <;>
      cases request.pageLimit?.isSome <;>
        simp [Statement.lastAfter?, hplaceholder]
  rw [hbefore]
  cases hlimited : request.pageLimit? with
  | none => exact Statement.bind_lastAfter?_empty "LIMIT" words.reverse
  | some limit =>
      have hmem := request.limit_mem_boundValues layer (by rw [hlimited]; rfl)
      have hbound : request.bindOf .limit = .bigInt (Number.wrapInt64 (limit + 1)) := by
        rw [QueryRequest.bindOf, (QueryRequest.pageLimit?_eq_some.1 hlimited).2.2]
      simpa [Statement.lastAfter?] using bigInt?_of_compile h hmem hbound

/-- The statement of a page asks for one row more than the page holds, from its start on. -/
theorem page?_of_compile (h : compile layer catalog request = .ok s) {size start : Nat}
    (hpaged : request.isPaged = true) (hlimit : request.limit = size) (hsize : 0 < size)
    (hword : (size : Int) < Number.maxInt64) (hoffset : request.offset = start) :
    s.page? = some (size + 1, start) := by
  obtain ⟨words, hwords⟩ := words_of_compile h
  have hlimited : request.pageLimit?.isSome = true := by
    simp [QueryRequest.pageLimit?, hpaged, hlimit, hsize]
  have hsizeNumber : s.number? (request.placeholder layer .limit) = some (size + 1) := by
    have hbound : request.bindOf .limit = .bigInt ((size + 1 : Nat) : Int) := by
      rw [QueryRequest.bindOf_limit (by omega) (by omega), hlimit]
      rfl
    rw [Statement.number?_eq,
      bigInt?_of_compile h (request.limit_mem_boundValues layer hlimited) hbound]
    rfl
  rw [Statement.page?, hwords, if_pos hlimited]
  by_cases hstart : 0 < start
  · have hstarted : (request.isPaged && decide (0 < request.offset)) = true := by
      simp [hpaged, hoffset, hstart]
    have hstartNumber : s.number? (request.placeholder layer .offset) = some start := by
      have hbound : request.bindOf .offset = .bigInt start := by
        rw [QueryRequest.bindOf, hoffset]
      rw [Statement.number?_eq,
        bigInt?_of_compile h (request.offset_mem_boundValues layer hstarted) hbound]
      rfl
    have hne : request.placeholder layer .offset ≠ "" := by simp [QueryRequest.placeholder]
    rw [if_pos hstarted]
    simp [hne, hsizeNumber, hstartNumber]
  · have hfirst : ¬ (request.isPaged && decide (0 < request.offset)) = true := by
      simp [hoffset, hstart]
    rw [if_neg hfirst, Nat.eq_zero_of_not_pos hstart]
    simp [hsizeNumber]

end GeoLayers
