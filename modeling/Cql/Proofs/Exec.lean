import Cql.Model

/-!
How operations on a connection run: what each step answers and which connection it leaves behind.
-/

namespace Cql

namespace Exec

variable {α β : Type} (c : Connection)

@[simp] theorem run_pure (a : α) : (pure a : Exec α).run c = (.ok a, c) := rfl

@[simp] theorem run_throw (e : Error) : (throw e : Exec α).run c = (.error e, c) := rfl

@[simp] theorem run_mk (f : StateM Connection (Except Error α)) :
    ExceptT.run (ExceptT.mk f) c = f c := rfl

@[simp] theorem run_ofExcept (outcome : Except Error α) :
    (ofExcept outcome).run c = (outcome, c) := rfl

@[simp] theorem run_trace (entry : TraceEntry) : (trace entry).run c = (.ok (), c.note entry) := rfl

@[simp] theorem run_within (span : TraceEntry) (x : Exec α) :
    (within span x).run c = ((x.run (c.note span)).1, (x.run (c.note span)).2.leave) := rfl

@[simp] theorem run_execute (cql : String) (options : StatementOptions) :
    (execute cql options).run c = c.execute cql options := rfl

/-- The second step runs on the connection that the first one leaves, unless the first one fails. -/
theorem run_bind (x : Exec α) (f : α → Exec β) :
    (x >>= f).run c =
      match x.run c with
      | (.ok a, later) => (f a).run later
      | (.error e, later) => (.error e, later) := by
  rw [ExceptT.run_bind]
  change StateT.run (x.run >>= _) c = _
  rw [StateT.run_bind]
  have hrun : StateT.run x.run c = x.run c := rfl
  rw [hrun]
  rcases x.run c with ⟨outcome, later⟩
  cases outcome with
  | error e => rfl
  | ok a => rfl

variable {c}

theorem run_bind_ok {x : Exec α} {f : α → Exec β} {a : α} {later : Connection}
    (h : x.run c = (.ok a, later)) : (x >>= f).run c = (f a).run later := by
  rw [run_bind, h]

theorem run_bind_error {x : Exec α} {f : α → Exec β} {e : Error} {later : Connection}
    (h : x.run c = (.error e, later)) : (x >>= f).run c = (.error e, later) := by
  rw [run_bind, h]

theorem run_discard (x : Exec α) (c : Connection) :
    (discard x).run c = ((x.run c).1.map fun _ => (), (x.run c).2) := by
  have hdiscard : discard x = x >>= fun _ => pure () := rfl
  rw [hdiscard, run_bind]
  rcases x.run c with ⟨outcome, later⟩
  cases outcome with
  | error e => rfl
  | ok a => rfl

end Exec

end Cql
