import GeoLayers.Proofs.Database.Trace

/-!
What a session says depends on nothing but the replies to it. A session that asks for no connection
can be played again from the replies alone: every trace of it says and ends with what the replay of
its replies does. A transaction is started once and ended once, whatever its body says.
-/

namespace GeoLayers.Database

variable {α β : Type} {exchanges : List (Command × Reply)}

namespace Session

/-- Whether a session asks for no connection and sends only commands of a kind. -/
def Sends (allowed : Command → Prop) : Session α → Prop
  | .done _ => True
  | .connect _ => False
  | .send command next => allowed command ∧ ∀ reply, (next reply).Sends allowed

theorem Sends.mono {allowed allowed' : Command → Prop} {session : Session α}
    (h : session.Sends allowed) (hmono : ∀ command, allowed command → allowed' command) :
    session.Sends allowed' := by
  induction session with
  | done value => trivial
  | connect next ih => exact h.elim
  | send command next ih => exact ⟨hmono command h.1, fun reply => ih reply (h.2 reply)⟩

theorem Sends.bind {allowed : Command → Prop} {session : Session α} {f : α → Session β}
    (h : session.Sends allowed) (hf : ∀ value, (f value).Sends allowed) :
    (session.bind f).Sends allowed := by
  induction session with
  | done value => exact hf value
  | connect next ih => exact h.elim
  | send command next ih => exact ⟨h.1, fun reply => ih reply (h.2 reply)⟩

/-- The commands of a trace are those that its session sends. -/
theorem Sends.of_trace {allowed : Command → Prop} {session : Session α} {value : α}
    (h : session.Sends allowed) (htrace : session.Trace exchanges value) :
    ∀ exchange ∈ exchanges, allowed exchange.1 := by
  induction htrace with
  | done value => simp
  | connect connected htrace ih => exact h.elim
  | send reply htrace ih =>
      rw [List.forall_mem_cons]
      exact ⟨h.1, ih (h.2 reply)⟩

end Session

namespace Work

/-- Work that asks for no connection and sends only commands of a kind. -/
def Sends (allowed : Command → Prop) (work : Work α) : Prop :=
  Session.Sends allowed (ExceptT.run work)

variable {allowed : Command → Prop}

theorem sends_pure (value : α) : (pure value : Work α).Sends allowed := trivial

theorem sends_throw (e : Error) : (throw e : Work α).Sends allowed := trivial

theorem sends_liftExcept (result : Except Error α) : (liftM result : Work α).Sends allowed := by
  cases result <;> trivial

theorem sends_bind {work : Work α} {f : α → Work β} (h : work.Sends allowed)
    (hf : ∀ value, (f value).Sends allowed) : (work >>= f).Sends allowed := by
  apply Session.Sends.bind h
  intro result
  cases result with
  | error e => trivial
  | ok value => exact hf value

theorem sends_ask {command : Command} (h : allowed command) : (ask command).Sends allowed :=
  ⟨h, fun _ => trivial⟩

theorem sends_run {statement : Statement} {columns : List ColumnType}
    (h : allowed (.run statement columns)) : (run statement columns).Sends allowed := by
  apply sends_bind (sends_ask h)
  intro reply
  cases reply <;> trivial

theorem sends_runPlain {statement : Statement} {columns : List ColumnType}
    (h : allowed (.run statement columns)) : (runPlain statement columns).Sends allowed := by
  apply sends_bind (sends_ask h)
  intro reply
  cases reply <;> trivial

theorem sends_control {command : Command} (h : allowed command) : (control command).Sends allowed := by
  apply sends_bind (sends_ask h)
  intro reply
  cases reply <;> trivial

theorem sends_transaction {body : Work α} (h : body.Sends allowed) (hstart : allowed .start)
    (hcommit : allowed .commit) (hrollback : allowed .rollback) :
    (transaction body).Sends allowed := by
  apply sends_bind (sends_control hstart)
  intro _
  refine sends_bind (Session.Sends.bind h fun _ => trivial) ?_
  intro outcome
  cases outcome with
  | ok value => exact sends_bind (sends_control hcommit) fun _ => sends_pure value
  | error e => exact sends_bind (sends_control hrollback) fun _ => sends_throw e

theorem trace_control {command : Command} {result : Except Error Unit}
    (h : (control command).Trace exchanges result) :
    (∃ answer, exchanges = [(command, .ok answer)] ∧ result = .ok ()) ∨
      ∃ report, exchanges = [(command, .error report)] ∧
        result = .error (.query (.ofMessage report.message)) := by
  rcases trace_bind h with ⟨e, hask, -⟩ | ⟨reply, before, after, hask, hafter, rfl⟩
  · obtain ⟨reply, -, hreply⟩ := trace_ask hask
    cases hreply
  · obtain ⟨reply', rfl, hreply⟩ := trace_ask hask
    obtain rfl := Except.ok.inj hreply
    cases reply with
    | ok answer =>
        obtain ⟨rfl, rfl⟩ := trace_pure hafter
        exact .inl ⟨answer, rfl, rfl⟩
    | error report =>
        obtain ⟨rfl, rfl⟩ := trace_throw hafter
        exact .inr ⟨report, rfl, rfl⟩

/-- What work ends with after a last command: what it would end with, unless the command is
refused. -/
def concluded (reply : Reply) (outcome : Except Error α) : Except Error α :=
  match reply with
  | .ok _ => outcome
  | .error report => .error (.query (.ofMessage report.message))

/-- A command before work that says nothing. -/
theorem trace_controlled {command : Command} {work : Work α} {outcome result : Except Error α}
    (hwork : ∀ {exchanges result}, work.Trace exchanges result → exchanges = [] ∧ result = outcome)
    (h : (control command >>= fun _ => work).Trace exchanges result) :
    ∃ reply, exchanges = [(command, reply)] ∧ result = concluded reply outcome := by
  rcases trace_bind h with ⟨e, hcontrol, rfl⟩ | ⟨_, before, after, hcontrol, hrest, rfl⟩
  · rcases trace_control hcontrol with ⟨_, -, hnone⟩ | ⟨report, rfl, hreport⟩
    · cases hnone
    · obtain rfl := Except.error.inj hreport
      exact ⟨.error report, rfl, rfl⟩
  · obtain ⟨rfl, rfl⟩ := hwork hrest
    rcases trace_control hcontrol with ⟨answer, rfl, -⟩ | ⟨_, -, hnone⟩
    · exact ⟨.ok answer, rfl, rfl⟩
    · cases hnone

/-- Work that is caught ends with how it went. -/
theorem trace_caught {work : Work α} {result : Except Error (Except Error α)}
    (h : (ExceptT.lift (ExceptT.run work) : Work (Except Error α)).Trace exchanges result) :
    ∃ outcome, result = .ok outcome ∧ work.Trace exchanges outcome := by
  obtain ⟨outcome, before, after, hbefore, hafter, rfl⟩ := Session.trace_bind h
  cases hafter
  rw [List.append_nil]
  exact ⟨outcome, rfl, hbefore⟩

/-- The command that ends a transaction. -/
def ending : Except Error α → Command
  | .ok _ => .commit
  | .error _ => .rollback

/-- A transaction that cannot be started says nothing more. One that is started is ended by one
command after its body, which keeps what the body did only if the body ended well. -/
theorem trace_transaction {body : Work α} {result : Except Error α}
    (h : (transaction body).Trace exchanges result) :
    (∃ report, exchanges = [(.start, .error report)] ∧
        result = .error (.query (.ofMessage report.message))) ∨
      ∃ answer inner outcome reply, body.Trace inner outcome ∧
        exchanges = (.start, .ok answer) :: (inner ++ [(ending outcome, reply)]) ∧
        result = concluded reply outcome := by
  rcases trace_bind h with ⟨e, hstart, rfl⟩ | ⟨_, before, _, hstart, hrest, rfl⟩
  · rcases trace_control hstart with ⟨answer, -, hanswer⟩ | ⟨report, rfl, hreport⟩
    · cases hanswer
    · obtain rfl := Except.error.inj hreport
      exact .inl ⟨report, rfl, rfl⟩
  rcases trace_control hstart with ⟨answer, rfl, -⟩ | ⟨report, -, hreport⟩
  case inr => cases hreport
  rcases trace_bind hrest with ⟨e, hbody, -⟩ | ⟨outcome, inner, last, hbody, hlast, rfl⟩
  · obtain ⟨outcome, houtcome, -⟩ := trace_caught hbody
    cases houtcome
  obtain ⟨outcome', houtcome, hbody⟩ := trace_caught hbody
  obtain rfl := Except.ok.inj houtcome
  have hended : ∃ reply, last = [(ending outcome, reply)] ∧ result = concluded reply outcome := by
    cases outcome with
    | ok value => exact trace_controlled trace_pure hlast
    | error e => exact trace_controlled trace_throw hlast
  obtain ⟨reply, rfl, hresult⟩ := hended
  exact .inr ⟨answer, inner, outcome, reply, hbody, rfl, hresult⟩

/-- The exchanges of a transaction that is started, says something and is ended. -/
def Enclosed (last : Command) (inner exchanges : List (Command × Reply)) : Prop :=
  ∃ opened closed : Answer, exchanges = (.start, .ok opened) :: (inner ++ [(last, .ok closed)])

/-- A transaction that ends well was committed. -/
theorem enclosed_of_ok {body : Work α} {value : α}
    (h : (transaction body).Trace exchanges (.ok value)) :
    ∃ inner, body.Trace inner (.ok value) ∧ Enclosed .commit inner exchanges := by
  rcases trace_transaction h with
    ⟨report, -, hnone⟩ | ⟨answer, inner, outcome, reply, hinner, rfl, hresult⟩
  · cases hnone
  · cases reply with
    | error report => cases hresult
    | ok closed =>
        obtain rfl : .ok value = outcome := hresult
        exact ⟨inner, hinner, answer, closed, rfl⟩

end Work

end GeoLayers.Database
