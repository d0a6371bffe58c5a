import GeoLayers.Database.Session

/-!
What can be said in a session, whoever replies. A trace is the commands of a session with replies to
them and the value that the session then ends with; every run is one. A trace of two sessions in a
row falls apart into a trace of each, and work that fails says nothing more after its error.
-/

namespace GeoLayers.Database

variable {α β σ : Type}

/-- The statement that a command sends, if it sends one. -/
def Command.statement? : Command → Option Statement
  | .run statement _ => some statement
  | _ => none

/-- The statements that were sent, in order. -/
def Record.statements (record : Record α σ) : List Statement :=
  record.exchanges.filterMap fun exchange => exchange.1.statement?

namespace Session

/-- The commands of a session with some replies to them, and the value that they lead to. -/
inductive Trace : Session α → List (Command × Reply) → α → Prop where
  | done (value : α) : Trace (.done value) [] value
  | connect {next : Bool → Session α} {exchanges : List (Command × Reply)} {value : α}
      (connected : Bool) (h : Trace (next connected) exchanges value) :
      Trace (.connect next) exchanges value
  | send {command : Command} {next : Reply → Session α} {exchanges : List (Command × Reply)}
      {value : α} (reply : Reply) (h : Trace (next reply) exchanges value) :
      Trace (.send command next) ((command, reply) :: exchanges) value

/-- Every run of a session is a trace of it. -/
theorem trace_run (responder : Responder σ) (session : Session α) (state : σ) :
    session.Trace (session.run responder state).exchanges (session.run responder state).value := by
  induction session generalizing state with
  | done value => exact .done value
  | connect next ih => exact .connect _ (ih _ _)
  | send command next ih => exact .send _ (ih _ _)

theorem trace_bind {session : Session α} {f : α → Session β} {exchanges : List (Command × Reply)}
    {value : β} (h : (session.bind f).Trace exchanges value) :
    ∃ first before after, session.Trace before first ∧ (f first).Trace after value ∧
      exchanges = before ++ after := by
  induction session generalizing exchanges with
  | done first => exact ⟨first, [], exchanges, .done first, h, rfl⟩
  | connect next ih =>
      cases h with
      | connect connected h =>
          obtain ⟨first, before, after, hbefore, hafter, rfl⟩ := ih connected h
          exact ⟨first, before, after, .connect connected hbefore, hafter, rfl⟩
  | send command next ih =>
      cases h with
      | send reply h =>
          obtain ⟨first, before, after, hbefore, hafter, rfl⟩ := ih reply h
          exact ⟨first, (command, reply) :: before, after, .send reply hbefore, hafter, rfl⟩

/-- A run of two sessions in a row ends as the second does from where the first ended. -/
theorem value_run_bind (responder : Responder σ) (session : Session α) (f : α → Session β)
    (state : σ) :
    ((session.bind f).run responder state).value =
      ((f (session.run responder state).value).run responder
        (session.run responder state).state).value := by
  induction session generalizing state with
  | done value => rfl
  | connect next ih => exact ih _ _
  | send command next ih => exact ih _ _

end Session

namespace Work

/-- The traces of work that may fail. -/
def Trace (work : Work α) (exchanges : List (Command × Reply)) (result : Except Error α) : Prop :=
  Session.Trace (ExceptT.run work) exchanges result

variable {exchanges : List (Command × Reply)}

theorem trace_run (responder : Responder σ) (work : Work α) (state : σ) :
    work.Trace (Session.run responder (ExceptT.run work) state).exchanges
      (Session.run responder (ExceptT.run work) state).value :=
  Session.trace_run responder (ExceptT.run work) state

theorem trace_pure {value : α} {result : Except Error α}
    (h : (pure value : Work α).Trace exchanges result) : exchanges = [] ∧ result = .ok value := by
  cases h
  exact ⟨rfl, rfl⟩

theorem trace_throw {e : Error} {result : Except Error α}
    (h : (throw e : Work α).Trace exchanges result) : exchanges = [] ∧ result = .error e := by
  cases h
  exact ⟨rfl, rfl⟩

/-- What is decided without the database says nothing. -/
theorem trace_check {check : Except Error α} {f : α → Work β} {result : Except Error β}
    (h : (liftM check >>= f : Work β).Trace exchanges result) :
    (∃ e, check = .error e ∧ exchanges = [] ∧ result = .error e) ∨
      ∃ value, check = .ok value ∧ (f value).Trace exchanges result := by
  cases check with
  | error e =>
      obtain ⟨rfl, rfl⟩ := trace_throw h
      exact .inl ⟨e, rfl, rfl, rfl⟩
  | ok value => exact .inr ⟨value, rfl, h⟩

/-- Work that goes on after other work has either failed with it or heard its value. -/
theorem trace_bind {work : Work α} {f : α → Work β} {result : Except Error β}
    (h : (work >>= f).Trace exchanges result) :
    (∃ e, work.Trace exchanges (.error e) ∧ result = .error e) ∨
      ∃ value before after, work.Trace before (.ok value) ∧ (f value).Trace after result ∧
        exchanges = before ++ after := by
  obtain ⟨first, before, after, hbefore, hafter, rfl⟩ := Session.trace_bind h
  cases first with
  | error e =>
      obtain ⟨rfl, rfl⟩ := trace_throw hafter
      rw [List.append_nil]
      exact .inl ⟨e, hbefore, rfl⟩
  | ok value => exact .inr ⟨value, before, after, hbefore, hafter, rfl⟩

theorem value_run_bind {responder : Responder σ} {work : Work α} {f : α → Work β} {state : σ}
    {value : α} (h : (Session.run responder (ExceptT.run work) state).value = .ok value) :
    (Session.run responder (ExceptT.run (work >>= f)) state).value =
      (Session.run responder (ExceptT.run (f value))
        (Session.run responder (ExceptT.run work) state).state).value := by
  refine (Session.value_run_bind responder (ExceptT.run work) _ state).trans ?_
  rw [h]
  rfl

/-- A statement that is answered succeeds with the answer. -/
theorem value_run {responder : Responder σ} {statement : Statement} {columns : List ColumnType}
    {state : σ} {answer : Answer}
    (h : (responder.reply (.run statement columns) state).1 = .ok answer) :
    (Session.run responder (ExceptT.run (run statement columns)) state).value = .ok answer := by
  have hasked : (Session.run responder (ExceptT.run (ask (.run statement columns))) state).value =
      .ok (.ok answer) := congrArg Except.ok h
  unfold run
  rw [value_run_bind hasked]
  rfl

theorem value_runPlain {responder : Responder σ} {statement : Statement} {columns : List ColumnType}
    {state : σ} {answer : Answer}
    (h : (responder.reply (.run statement columns) state).1 = .ok answer) :
    (Session.run responder (ExceptT.run (runPlain statement columns)) state).value =
      .ok answer := by
  have hasked : (Session.run responder (ExceptT.run (ask (.run statement columns))) state).value =
      .ok (.ok answer) := congrArg Except.ok h
  unfold runPlain
  rw [value_run_bind hasked]
  rfl

theorem trace_ask {command : Command} {result : Except Error Reply}
    (h : (ask command).Trace exchanges result) :
    ∃ reply, exchanges = [(command, reply)] ∧ result = .ok reply := by
  cases h with
  | send reply h =>
      cases h
      exact ⟨reply, rfl, rfl⟩

theorem trace_runStatement {statement : Statement} {columns : List ColumnType}
    {result : Except Error Answer} (h : (run statement columns).Trace exchanges result) :
    (∃ answer, exchanges = [(.run statement columns, .ok answer)] ∧ result = .ok answer) ∨
      ∃ report, exchanges = [(.run statement columns, .error report)] ∧
        result = .error (.query (report.fault statement.sql)) := by
  rcases trace_bind h with ⟨e, hask, -⟩ | ⟨reply, before, after, hask, hafter, rfl⟩
  · obtain ⟨reply, -, hreply⟩ := trace_ask hask
    cases hreply
  · obtain ⟨reply', rfl, hreply⟩ := trace_ask hask
    obtain rfl := Except.ok.inj hreply
    cases reply with
    | ok answer =>
        obtain ⟨rfl, rfl⟩ := trace_pure hafter
        exact .inl ⟨answer, rfl, rfl⟩
    | error report =>
        obtain ⟨rfl, rfl⟩ := trace_throw hafter
        exact .inr ⟨report, rfl, rfl⟩

theorem trace_runPlain {statement : Statement} {columns : List ColumnType}
    {result : Except Error Answer} (h : (runPlain statement columns).Trace exchanges result) :
    (∃ answer, exchanges = [(.run statement columns, .ok answer)] ∧ result = .ok answer) ∨
      ∃ report, exchanges = [(.run statement columns, .error report)] ∧
        result = .error (.query (.ofMessage report.message)) := by
  rcases trace_bind h with ⟨e, hask, -⟩ | ⟨reply, before, after, hask, hafter, rfl⟩
  · obtain ⟨reply, -, hreply⟩ := trace_ask hask
    cases hreply
  · obtain ⟨reply', rfl, hreply⟩ := trace_ask hask
    obtain rfl := Except.ok.inj hreply
    cases reply with
    | ok answer =>
        obtain ⟨rfl, rfl⟩ := trace_pure hafter
        exact .inl ⟨answer, rfl, rfl⟩
    | error report =>
        obtain ⟨rfl, rfl⟩ := trace_throw hafter
        exact .inr ⟨report, rfl, rfl⟩

/-- Rows are read without the database. -/
theorem trace_readRows {read? : List Cell → Option α} {answer : Answer}
    {result : Except Error (List α)} (h : (readRows read? answer).Trace exchanges result) :
    exchanges = [] ∧
      ((∃ values, answer.rows.mapM read? = some values ∧ result = .ok values) ∨
        answer.rows.mapM read? = none ∧ result = .error .internal) := by
  unfold readRows at h
  cases hvalues : answer.rows.mapM read? with
  | some values =>
      rw [hvalues] at h
      obtain ⟨rfl, rfl⟩ := trace_pure h
      exact ⟨rfl, .inl ⟨values, rfl, rfl⟩⟩
  | none =>
      rw [hvalues] at h
      obtain ⟨rfl, rfl⟩ := trace_throw h
      exact ⟨rfl, .inr ⟨rfl, rfl⟩⟩

end Work

end GeoLayers.Database
