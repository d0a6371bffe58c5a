import GeoLayers.Proofs.Database.Replay

/-!
What a session may send. A session has permission for the commands of a kind if it sends no others,
whether it is connected and whatever is replied. Permission goes from the parts of a session to the
whole, and no run of the session says more.
-/

namespace GeoLayers.Database

variable {α β ε σ : Type} {allowed : Command → Prop}

namespace Session

/-- Whether a session sends only commands of a kind. It may ask for connections. -/
def Permitted (allowed : Command → Prop) : Session α → Prop
  | .done _ => True
  | .connect next => ∀ connected, (next connected).Permitted allowed
  | .send command next => allowed command ∧ ∀ reply, (next reply).Permitted allowed

theorem Permitted.bind {session : Session α} {f : α → Session β} (h : session.Permitted allowed)
    (hf : ∀ value, (f value).Permitted allowed) : (session.bind f).Permitted allowed := by
  induction session with
  | done value => exact hf value
  | connect next ih => exact fun connected => ih connected (h connected)
  | send command next ih => exact ⟨h.1, fun reply => ih reply (h.2 reply)⟩

theorem Sends.permitted {session : Session α} (h : session.Sends allowed) :
    session.Permitted allowed := by
  induction session with
  | done value => trivial
  | connect next ih => exact h.elim
  | send command next ih => exact ⟨h.1, fun reply => ih reply (h.2 reply)⟩

/-- A run sends nothing that its session has no permission for. -/
theorem Permitted.of_mem_exchanges {session : Session α} (h : session.Permitted allowed)
    (responder : Responder σ) (state : σ) :
    ∀ exchange ∈ (session.run responder state).exchanges, allowed exchange.1 := by
  induction session generalizing state with
  | done value => simp [run]
  | connect next ih => exact ih _ (h _) _
  | send command next ih =>
      intro exchange hexchange
      rcases List.mem_cons.1 hexchange with rfl | hrest
      · exact h.1
      · exact ih _ (h.2 _) _ exchange hrest

/-- A run of two sessions in a row says what the first says and then what the second says. -/
theorem exchanges_run_bind (responder : Responder σ) (session : Session α) (f : α → Session β)
    (state : σ) :
    ((session.bind f).run responder state).exchanges =
      (session.run responder state).exchanges ++
        ((f (session.run responder state).value).run responder
          (session.run responder state).state).exchanges := by
  induction session generalizing state with
  | done value => rfl
  | connect next ih => exact ih _ _
  | send command next ih => exact congrArg (List.cons _) (ih _ _)

end Session

/-- Work that sends only commands of a kind. It may ask for connections and fail in any way. -/
def Permitted (allowed : Command → Prop) (work : ExceptT ε Session α) : Prop :=
  Session.Permitted allowed (ExceptT.run work)

theorem permitted_pure (value : α) : Permitted allowed (pure value : ExceptT ε Session α) := trivial

theorem permitted_throw (e : ε) : Permitted allowed (throw e : ExceptT ε Session α) := trivial

theorem permitted_bind {work : ExceptT ε Session α} {f : α → ExceptT ε Session β}
    (h : Permitted allowed work) (hf : ∀ value, Permitted allowed (f value)) :
    Permitted allowed (work >>= f) := by
  apply Session.Permitted.bind h
  intro result
  cases result with
  | error e => trivial
  | ok value => exact hf value

theorem permitted_mapM {f : α → ExceptT ε Session β} (hf : ∀ item, Permitted allowed (f item))
    (items : List α) : Permitted allowed (items.mapM f) := by
  have hloop : ∀ items done, Permitted allowed (List.mapM.loop f items done) := by
    intro items
    induction items with
    | nil => exact fun done => permitted_pure _
    | cons item items ih => exact fun done => permitted_bind (hf item) fun value => ih (value :: done)
  exact hloop items []

namespace Work

theorem Sends.permitted {work : Work α} (h : work.Sends allowed) : Permitted allowed work :=
  Session.Sends.permitted h

theorem permitted_check (result : Except Error α) : Permitted allowed (liftM result : Work α) :=
  (sends_liftExcept result).permitted

theorem permitted_checkout : Permitted allowed checkout := by
  intro connected
  cases connected <;> trivial

theorem permitted_readRows {read? : List Cell → Option α} (answer : Answer) :
    Permitted allowed (readRows read? answer) := by
  unfold readRows
  split
  · exact permitted_pure _
  · exact permitted_throw _

end Work

section Runs

variable (responder : Responder σ) (state : σ)

/-- What is said by work that goes on after other work. -/
theorem exchanges_run_bind {work : ExceptT ε Session α} {f : α → ExceptT ε Session β} :
    (Session.run responder (ExceptT.run (work >>= f)) state).exchanges =
      (Session.run responder (ExceptT.run work) state).exchanges ++
        match (Session.run responder (ExceptT.run work) state).value with
        | .error _ => []
        | .ok value => (Session.run responder (ExceptT.run (f value))
            (Session.run responder (ExceptT.run work) state).state).exchanges := by
  apply (Session.exchanges_run_bind responder (ExceptT.run work) _ state).trans
  cases (Session.run responder (ExceptT.run work) state).value <;> rfl

theorem exchanges_run_lift (session : Session α) :
    (Session.run responder (ExceptT.run (ExceptT.lift session : ExceptT ε Session α))
      state).exchanges = (session.run responder state).exchanges := by
  apply (Session.exchanges_run_bind responder session _ state).trans
  exact List.append_nil _

/-- Work that goes on after a check that needs no database. -/
theorem Work.run_check_bind {check : Except Error α} {f : α → Work β} :
    Session.run responder (ExceptT.run (liftM check >>= f : Work β)) state =
      match check with
      | .error e => ⟨.error e, state, []⟩
      | .ok value => Session.run responder (ExceptT.run (f value)) state := by
  cases check <;> rfl

/-- Work that needs a connection. -/
theorem Work.run_checkout_bind {f : Unit → Work β} :
    Session.run responder (ExceptT.run (checkout >>= f)) state =
      if (responder.connect state).1 then
        Session.run responder (ExceptT.run (f ())) (responder.connect state).2
      else ⟨.error .internal, (responder.connect state).2, []⟩ := by
  have hrun : Session.run responder (ExceptT.run (checkout >>= f)) state =
      Session.run responder (ExceptT.run
        ((ExceptT.mk (.done (if (responder.connect state).1 then .ok () else .error .internal)) :
          Work Unit) >>= f)) (responder.connect state).2 := rfl
  rw [hrun]
  cases (responder.connect state).1 <;> rfl

end Runs

end GeoLayers.Database
