import Cql.Proofs.Paging.Walk

/-!
Any number of calls on a cursor, with failures in between. A call that fails leaves the cursor
where it is, so the next call asks for the same page again; the rows handed out are those of the
pages that arrived, in order and each once.
-/

namespace Cql

namespace Connection

/-- The replies to the next statements, as many as asked for. -/
def replies (c : Connection) (count : Nat) : List Reply :=
  (List.range count).map fun k => c.script[k]?.getD ⟨.ok ∅, 0⟩

/-- The rows of the pages among the next replies. -/
def replied (c : Connection) (count : Nat) : List Row :=
  ((c.replies count).filterMap fun reply => reply.outcome.toOption).flatMap Page.rows

variable {c later : Connection} {count : Nat}

theorem reply_of_drop (h : later.script = c.script.drop count) :
    later.reply = c.script[count]?.getD ⟨.ok ∅, 0⟩ := by
  rw [reply, h, List.head?_drop]

theorem replied_succ (h : later.script = c.script.drop count) :
    c.replied (count + 1) =
      c.replied count ++ (later.reply.outcome.toOption.toList.flatMap Page.rows) := by
  rw [replied, replied, replies, replies, List.range_succ, List.map_append, List.filterMap_append,
    List.flatMap_append, reply_of_drop h]
  cases houtcome : (c.script[count]?.getD ⟨.ok ∅, 0⟩).outcome with
  | error e => simp [houtcome, Except.toOption]
  | ok page => simp [houtcome, Except.toOption]

end Connection

namespace Cursor

/-- What calls on a cursor answered, and the cursor and the connection after them. -/
structure Calls where
  answers : List (Except Error (Option (List Row)))
  cursor : Cursor
  connection : Connection

/-- The rows that come with an answer. -/
def answered : Except Error (Option (List Row)) → List Row
  | .ok (some rows) => rows
  | _ => []

/-- The rows that were handed out, call by call. -/
def Calls.rows (calls : Calls) : List Row :=
  calls.answers.flatMap answered

/-- One more call. -/
def Calls.next (calls : Calls) : Calls :=
  let step := calls.cursor.next calls.connection
  ⟨calls.answers ++ [step.1.1], step.1.2, step.2⟩

/-- Calls a cursor so many times, whatever the answers. -/
def call (cursor : Cursor) (c : Connection) : Nat → Calls
  | 0 => ⟨[], cursor, c⟩
  | n + 1 => (cursor.call c n).next

variable {cursor later : Cursor} {c after : Connection} {h : Handle}

theorem hasNext_iff : cursor.hasNext = true ↔ (cursor.next c).1.1 ≠ .ok none := by
  cases cursor with
  | here h => simp [hasNext, next]
  | done => simp [hasNext, next]
  | after h =>
    simp only [hasNext, next, true_iff]
    rcases h.next c with ⟨outcome, c'⟩
    cases outcome with
    | error e =>
      intro heq
      cases heq
    | ok next =>
      intro heq
      cases heq

theorem eq_done_of_hasNext (hnext : cursor.hasNext = false) : cursor = done := by
  cases cursor with
  | here h => cases hnext
  | after h => cases hnext
  | done => rfl

theorem call_of_done {n : Nat} (hdone : (cursor.call c n).cursor = done) (m : Nat) :
    (cursor.call c (n + m)).cursor = done := by
  induction m with
  | zero => exact hdone
  | succ m ih =>
    rw [← Nat.add_assoc, call, Calls.next, ih]
    rfl

/-- What holds after the first call on the cursor of a page, and after each later one. -/
structure Reached (h : Handle) (c : Connection) (calls : Calls) : Prop where
  cursor : ∃ last, calls.cursor = past last
  requests : ∃ requests, calls.connection.sent = c.sent ++ requests ∧
    calls.connection.script = c.script.drop requests.length ∧
    calls.rows = h.page.rows ++ c.replied requests.length

theorem reached_first (h : Handle) (c : Connection) : Reached h c ((here h).call c 1) := by
  exact ⟨⟨h, rfl⟩, [], (List.append_nil c.sent).symm, rfl, rfl⟩

theorem rows_next (calls : Calls) :
    calls.next.rows = calls.rows ++ answered (calls.cursor.next calls.connection).1.1 := by
  simp [Calls.rows, Calls.next]

theorem reached_of_step {calls : Calls} {answer : Except Error (Option (List Row))} {last : Handle}
    {requests : List Sent}
    (hstep : calls.cursor.next calls.connection = ((answer, past last), after))
    (hsent : after.sent = c.sent ++ requests)
    (hscript : after.script = c.script.drop requests.length)
    (hrows : calls.rows ++ answered answer = h.page.rows ++ c.replied requests.length) :
    Reached h c calls.next := by
  have hanswered := rows_next calls
  rw [hstep] at hanswered
  refine ⟨⟨last, ?_⟩, requests, ?_, ?_, hanswered.trans hrows⟩
  · rw [Calls.next, hstep]
  · rw [Calls.next, hstep]
    exact hsent
  · rw [Calls.next, hstep]
    exact hscript

/-- One more call takes at most one more reply, and hands out the rows of its page if it has one. -/
theorem reached_next {calls : Calls} (hcalls : Reached h c calls) : Reached h c calls.next := by
  obtain ⟨⟨last, hcursor⟩, requests, hsent, hscript, hrows⟩ := hcalls
  cases hnext : last.page.next with
  | none =>
    have hstep : calls.cursor.next calls.connection =
        ((.ok none, past last), calls.connection) := by
      rw [hcursor, past_of_last hnext]
      rfl
    refine reached_of_step hstep hsent hscript ?_
    rw [hrows]
    exact List.append_nil _
  | some state =>
    have hlength : (requests ++ [last.request state]).length = requests.length + 1 := by simp
    have hreplied := Connection.replied_succ hscript
    have hsentAsked : (last.asked state calls.connection).sent =
        c.sent ++ (requests ++ [last.request state]) := by
      rw [← List.append_assoc, ← hsent, Handle.sent_asked]
    have hscriptAsked : (last.asked state calls.connection).script =
        c.script.drop (requests ++ [last.request state]).length := by
      rw [hlength, ← List.tail_drop, ← hscript]
      rfl
    cases hreply : calls.connection.reply.outcome with
    | error e =>
      have hstep : calls.cursor.next calls.connection =
          ((.error e, past last), last.asked state calls.connection) := by
        rw [hcursor, past_of_some hnext]
        exact next_failed hnext hreply
      refine reached_of_step hstep hsentAsked hscriptAsked ?_
      rw [hlength, hreplied, hreply, hrows, List.append_assoc]
      rfl
    | ok page =>
      have hstep : calls.cursor.next calls.connection = ((.ok (some page.rows),
          past (last.turned state page)), last.asked state calls.connection) := by
        rw [hcursor, past_of_some hnext]
        exact next_turned hnext hreply
      refine reached_of_step hstep hsentAsked hscriptAsked ?_
      rw [hlength, hreplied, hreply, hrows, List.append_assoc]
      simp [answered, Except.toOption]

theorem reached_call (h : Handle) (c : Connection) (n : Nat) :
    Reached h c ((here h).call c (n + 1)) := by
  induction n with
  | zero => exact reached_first h c
  | succ n ih => exact reached_next ih

/-- On the way from page to page a call sends one statement as long as there is a next page. Where
it fails, the cursor stays, and the next call sends the statement again. -/
theorem sent_next_past (last : Handle) (c : Connection) :
    ((past last).hasNext = true →
      ∃ s, ((past last).next c).2.sent = c.sent ++ [s] ∧
        ∀ e, ((past last).next c).1.1 = .error e →
          ((past last).next c).1.2 = past last ∧
            ∀ d, ((past last).next d).2.sent = d.sent ++ [s]) ∧
    ((past last).hasNext = false → ((past last).next c).2 = c) := by
  cases hnext : last.page.next with
  | none =>
    rw [past_of_last hnext]
    exact ⟨nofun, fun _ => rfl⟩
  | some state =>
    have hsent : ∀ d : Connection,
        ((after last).next d).2.sent = d.sent ++ [last.request state] := by
      intro d
      cases hreply : d.reply.outcome with
      | error e =>
        rw [next_failed hnext hreply]
        exact last.sent_asked state d
      | ok page =>
        rw [next_turned hnext hreply]
        exact last.sent_asked state d
    rw [past_of_some hnext]
    refine ⟨fun _ => ⟨last.request state, hsent c, ?_⟩, nofun⟩
    intro e herror
    cases hreply : c.reply.outcome with
    | error other =>
      rw [next_failed hnext hreply]
      exact ⟨rfl, hsent⟩
    | ok page =>
      rw [next_turned hnext hreply] at herror
      cases herror

/-- Whatever the answers to `n` calls on the cursor of a page were: their rows are those of the page
and of the pages that arrived since, and what the next call does depends on the place of the cursor
alone. -/
theorem call_retries (h : Handle) (c : Connection) (n : Nat) :
    let calls := (here h).call c n
    let step := calls.cursor.next calls.connection
    (n = 0 → step.1.1 = .ok (some h.page.rows) ∧ step.2 = c) ∧
    (0 < n →
      (∃ requests, calls.connection.sent = c.sent ++ requests ∧
        calls.rows = h.page.rows ++ c.replied requests.length) ∧
      (calls.cursor.hasNext = true →
        ∃ s, step.2.sent = calls.connection.sent ++ [s] ∧
          ∀ e, step.1.1 = .error e →
            step.1.2 = calls.cursor ∧ (step.1.2.next step.2).2.sent = step.2.sent ++ [s]) ∧
      (calls.cursor.hasNext = false → step.2 = calls.connection)) ∧
    (calls.cursor.hasNext = true ↔ step.1.1 ≠ .ok none) ∧
    (calls.cursor.hasNext = false → ∀ m, ((here h).call c (n + m)).cursor.hasNext = false) := by
  refine ⟨?_, ?_, hasNext_iff, ?_⟩
  · rintro rfl
    exact ⟨rfl, rfl⟩
  · intro hn
    obtain ⟨k, rfl⟩ : ∃ k, n = k + 1 := ⟨n - 1, by omega⟩
    obtain ⟨⟨last, hcursor⟩, requests, hsent, _, hrows⟩ := reached_call h c k
    obtain ⟨hmore, hdone⟩ := sent_next_past last ((here h).call c (k + 1)).connection
    rw [hcursor]
    refine ⟨⟨requests, hsent, hrows⟩, ?_, hdone⟩
    intro hnext
    obtain ⟨s, hs, hretry⟩ := hmore hnext
    refine ⟨s, hs, ?_⟩
    intro e herror
    obtain ⟨hsame, hagain⟩ := hretry e herror
    refine ⟨hsame, ?_⟩
    rw [hsame]
    exact hagain _
  · intro hnext m
    rw [call_of_done (eq_done_of_hasNext hnext) m]
    rfl

/-- A page that fails to arrive once is asked for twice, and its row comes once. -/
theorem call_retries_after_failure :
    ∃ (h : Handle) (c : Connection) (s : Sent),
      ((here h).call c 2).answers = [.ok (some []), .error (.raised .transport "gone")] ∧
      ((here h).call c 2).connection.sent = [s] ∧ ((here h).call c 3).connection.sent = [s, s] ∧
      ((here h).call c 3).rows = [∅] := by
  let h : Handle := ⟨"select * from users", { arguments := [] }, ⟨[], some ⟨[1]⟩⟩⟩
  let c : Connection :=
    { script := [⟨.error (.raised .transport "gone"), 0⟩, ⟨.ok ⟨[∅], none⟩, 0⟩]
      settings := {} }
  obtain ⟨_, hlater, _⟩ := call_retries h c 1
  obtain ⟨_, hmore, _⟩ := hlater (by omega)
  obtain ⟨s, hs, hretry⟩ := hmore rfl
  obtain ⟨_, hagain⟩ := hretry (.raised .transport "gone") rfl
  refine ⟨h, c, s, rfl, hs, ?_, rfl⟩
  exact hagain.trans (congrArg (· ++ [s]) hs)

end Cursor

end Cql
