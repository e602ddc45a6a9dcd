import Cql.Proofs.Call
import Cql.Proofs.Exec

/-!
Operations that ask the connection once. Such an operation makes its checks and sends one statement,
and what it comes to is up to the reply; a check that fails leaves the connection without a
statement.
-/

namespace Cql

namespace Exec

variable {α β : Type} {c : Connection}

/-- The operation is refused with nothing sent, or it sends one statement and comes to one of the
answers that the reply allows. -/
def Asks (x : Exec α) (c : Connection) (allows : Except Error Page → Except Error α → Prop) :
    Except Error Sent → Prop
  | .error e =>
    (x.run c).1 = .error e ∧ (x.run c).2.sent = c.sent ∧ (x.run c).2.script = c.script
  | .ok statement =>
    allows c.reply.outcome (x.run c).1 ∧ (x.run c).2.sent = c.sent ++ [statement] ∧
      (x.run c).2.script = c.script.tail

/-- The answer is the error of the reply, or something that was made of its page. -/
def Relayed (reply : Except Error Page) (answer : Except Error α) : Prop :=
  answer.map (fun _ => ()) = reply.map fun _ => ()

/-- The answer is the reply, whatever it is, for whoever asks. -/
def Deferred (reply : Except Error Page) (answer : Except Error (Except Error Page)) : Prop :=
  answer = .ok reply

theorem relayed_error_iff {reply : Except Error Page} {answer : Except Error α}
    (h : Relayed reply answer) (e : Error) : answer = .error e ↔ reply = .error e := by
  unfold Relayed at h
  cases reply with
  | error late =>
    cases answer with
    | error other => rw [Except.error.inj h, Except.error.injEq, Except.error.injEq]
    | ok a => cases h
  | ok page =>
    cases answer with
    | error other => cases h
    | ok a => exact iff_of_false nofun nofun

theorem relayed_bind {reply : Except Error Page} {answer : Except Error α}
    (h : Relayed reply answer) (k : α → β) : Relayed reply (answer >>= fun a => .ok (k a)) := by
  rw [Relayed, ← h]
  cases answer with
  | error e => rfl
  | ok a => rfl

variable {opening : Except Error Sent} {allows : Except Error Page → Except Error α → Prop}
  {allows' : Except Error Page → Except Error β → Prop}

/-- What happens behind the reply may fail, but leaves the connection alone. -/
theorem asks_bind {x : Exec α} {f : α → Exec β} {k : α → Except Error β}
    (h : x.Asks c allows opening) (hf : ∀ a d, (f a).run d = (k a, d))
    (hallows : ∀ reply answer, allows reply answer → allows' reply (answer >>= k)) :
    (x >>= f).Asks c allows' opening := by
  have hrun : (x >>= f).run c = ((x.run c).1 >>= k, (x.run c).2) := by
    rw [run_bind]
    split
    · rename_i a later hx
      rw [hf, hx]
      rfl
    · rename_i e later hx
      rw [hx]
      rfl
  cases opening with
  | error e =>
    obtain ⟨houtcome, hsame⟩ := h
    rw [Asks, hrun, houtcome]
    exact ⟨rfl, hsame⟩
  | ok statement =>
    obtain ⟨houtcome, hsame⟩ := h
    rw [Asks, hrun]
    exact ⟨hallows _ _ houtcome, hsame⟩

/-- What is made of the page. -/
theorem asks_map {x : Exec α} {f : α → Exec β} {k : α → β} (h : x.Asks c Relayed opening)
    (hf : ∀ a d, (f a).run d = (.ok (k a), d)) : (x >>= f).Asks c Relayed opening :=
  asks_bind h hf fun _ _ hanswer => relayed_bind hanswer k

theorem asks_discard {x : Exec α} (h : x.Asks c Relayed opening) :
    (discard x).Asks c Relayed opening :=
  asks_map h fun _ _ => rfl

/-- Steps behind a check. -/
theorem asks_ofExcept {check : Except Error α} {x : α → Exec β} {g : α → Except Error Sent}
    (h : ∀ a, check = .ok a → (x a).Asks c allows' (g a)) :
    (ofExcept check >>= x).Asks c allows' (check >>= g) := by
  cases hcheck : check with
  | error e => exact ⟨rfl, rfl, rfl⟩
  | ok a => exact h a hcheck

end Exec

namespace Query

variable {q ready : Query} {columns : List String} {c : Connection} {α : Type}
  {allows : Except Error Page → Except Error α → Prop}

theorem asks_send (q : Query) (s : Statement) (c : Connection) :
    (q.send s).Asks c Exec.Relayed (.ok ⟨s.cql, q.statementOptions s.arguments, false⟩) :=
  ⟨rfl, c.sent_execute _ _, rfl⟩

theorem asks_dispatch (q : Query) (s : Statement) (c : Connection) :
    (q.dispatch s).Asks c Exec.Deferred
      (.ok ⟨s.cql, q.statementOptions s.arguments, c.deferring⟩) :=
  ⟨rfl, c.sent_dispatch _ _, rfl⟩

/-- To complete the projection leaves everything else alone. -/
theorem selectDefault_eq_ok (h : q.selectDefault columns = .ok ready) :
    ready = { q with columns := ready.columns } := by
  unfold selectDefault at h
  split at h
  · rw [← Except.ok.inj h]
  · obtain ⟨_, _, hready⟩ := Outcome.bind_eq_ok_iff.mp h
    rw [← Except.ok.inj hready]

theorem statementOptions_of_selectDefault (h : q.selectDefault columns = .ok ready) :
    ready.statementOptions = q.statementOptions := by
  rw [selectDefault_eq_ok h]
  rfl

theorem selectDefault_withLimit (q : Query) (columns : List String) (limit : UInt32) :
    (q.withLimit limit).selectDefault columns =
      q.selectDefault columns >>= fun ready => .ok (ready.withLimit limit) := by
  have hcolumns : (q.withLimit limit).columns = q.columns := rfl
  rw [selectDefault, selectDefault, hcolumns]
  split
  · rfl
  · rw [select, select, bind_assoc]
    rfl

/-- Steps behind the checks of a select. -/
theorem asks_ready {x : Query → Exec α} {g : Query → Except Error Sent}
    (h : ∀ ready, q.selectDefault columns = .ok ready → (x ready).Asks c allows (g ready)) :
    (Exec.ofExcept (q.ready columns) >>= x).Asks c allows
      (q.requireTable >>= fun _ => q.selectDefault columns >>= g) := by
  have hready : (q.ready columns >>= g) =
      q.requireTable >>= fun _ => q.selectDefault columns >>= g := by
    rw [ready, bind_assoc]
  rw [← hready]
  refine Exec.asks_ofExcept fun ready haccepted => ?_
  obtain ⟨_, _, hselect⟩ := Outcome.bind_eq_ok_iff.mp haccepted
  exact h ready hselect

/-- Steps behind the checks of any other statement. -/
theorem asks_required {statement : Except Error Statement} {x : Statement → Exec α}
    {g : Statement → Sent} (h : ∀ s, (x s).Asks c allows (.ok (g s))) :
    (Exec.ofExcept q.requireTable >>= fun _ => Exec.ofExcept statement >>= x).Asks c allows
      (q.requireTable >>= fun _ => statement >>= fun s => .ok (g s)) :=
  Exec.asks_ofExcept fun _ _ => Exec.asks_ofExcept fun s _ => h s

theorem asks_openRows (q : Query) (columns : List String) (c : Connection) :
    (q.openRows columns).Asks c Exec.Relayed (q.requireTable >>= fun _ =>
      q.selectDefault columns >>= fun ready => .ok ⟨ready.selectStatement.cql,
        q.statementOptions ready.selectStatement.arguments, false⟩) := by
  unfold openRows
  refine asks_ready fun ready hready => ?_
  rw [← statementOptions_of_selectDefault hready]
  exact Exec.asks_map (asks_send ready _ c) fun _ _ => rfl

theorem asks_get (q : Query) (columns : List String) (c : Connection) :
    (q.get columns).Asks c Exec.Relayed (q.requireTable >>= fun _ =>
      q.selectDefault columns >>= fun ready => .ok ⟨ready.selectStatement.cql,
        q.statementOptions ready.selectStatement.arguments, false⟩) :=
  Exec.asks_map (asks_openRows q columns c) fun _ _ => rfl

end Query

end Cql
