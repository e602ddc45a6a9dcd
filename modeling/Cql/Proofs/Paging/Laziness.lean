import Cql.Proofs.Paging.Agreement

/-!
When a stream of rows fetches its pages. Each item of the stream has a number of requests that it
takes to reach it: none for the rows of the first page, and one more for each page after it, empty
pages included. A pull sends what is missing for its item and nothing ahead of it; behind the last
item nothing is sent at all.
-/

namespace Cql

namespace Walk

/-- The items of a walk, each with the number of requests that it takes to reach it. -/
def schedule (first : List Row) : Walk → List (Nat × Except Error Row)
  | [] => first.map fun row => (0, .ok row)
  | ⟨_, .error e⟩ :: _ => first.map (fun row => (0, .ok row)) ++ [(1, .error e)]
  | ⟨_, .ok page⟩ :: walk =>
    first.map (fun row => (0, .ok row)) ++
      (schedule page.rows walk).map fun item => (item.1 + 1, item.2)

/-- The rows of so many pages, counted from the one where the walk began. -/
def rowsUpTo (first : List Row) (walk : Walk) (count : Nat) : List Row :=
  ((first :: walk.pages.map Page.rows).take count).flatten

variable {state : PagingState} {page : Page} {e : Error} {walk : Walk} {first : List Row}

theorem map_snd_schedule_ok :
    (schedule first (⟨state, .ok page⟩ :: walk)).map Prod.snd =
      first.map .ok ++ (schedule page.rows walk).map Prod.snd := by
  simp [schedule, Function.comp_def]

theorem rowsUpTo_one : rowsUpTo first walk 1 = first := by
  simp [rowsUpTo]

theorem rowsUpTo_ok (count : Nat) :
    rowsUpTo first (⟨state, .ok page⟩ :: walk) (count + 1) =
      first ++ rowsUpTo page.rows walk count := rfl

/-- A row at hand is on the first page. -/
theorem place_of_first {i k : Nat} {row : Row}
    (h : (first.map fun row => ((0, .ok row) : Nat × Except Error Row))[i]? = some (k, .ok row)) :
    k = 0 ∧ i < first.length := by
  rw [List.getElem?_map, Option.map_eq_some_iff] at h
  obtain ⟨found, hfound, heq⟩ := h
  obtain ⟨hlt, _⟩ := List.getElem?_eq_some_iff.mp hfound
  exact ⟨(congrArg Prod.fst heq).symm, hlt⟩

/-- A row that takes `k` requests is on the page that the last of them fetches. -/
theorem place_of_schedule {i k : Nat} {row : Row}
    (h : (schedule first walk)[i]? = some (k, .ok row)) :
    k ≤ walk.length ∧ (rowsUpTo first walk k).length ≤ i ∧
      i < (rowsUpTo first walk (k + 1)).length := by
  induction walk generalizing first i k with
  | nil =>
    obtain ⟨rfl, hlt⟩ := place_of_first h
    rw [rowsUpTo_one]
    exact ⟨Nat.le_refl 0, Nat.zero_le i, hlt⟩
  | cons x walk ih =>
    obtain ⟨state, outcome⟩ := x
    by_cases hfirst : i < first.length
    · have hplace : (first.map fun row => ((0, .ok row) : Nat × Except Error Row))[i]? =
          some (k, .ok row) := by
        cases outcome with
        | error e => rwa [schedule, List.getElem?_append_left (by simpa using hfirst)] at h
        | ok page => rwa [schedule, List.getElem?_append_left (by simpa using hfirst)] at h
      obtain ⟨rfl, hlt⟩ := place_of_first hplace
      rw [rowsUpTo_one]
      exact ⟨Nat.zero_le _, Nat.zero_le i, hlt⟩
    · have hlater : (first.map fun row => ((0, .ok row) : Nat × Except Error Row)).length ≤ i := by
        simpa using hfirst
      cases outcome with
      | error e =>
        rw [schedule, List.getElem?_append_right hlater] at h
        obtain ⟨_, hitem⟩ := List.getElem?_eq_some_iff.mp h
        simp at hitem
      | ok page =>
        rw [schedule, List.getElem?_append_right hlater, List.getElem?_map,
          Option.map_eq_some_iff, List.length_map] at h
        obtain ⟨⟨j, item⟩, hitem, heq⟩ := h
        obtain ⟨rfl, rfl⟩ : j + 1 = k ∧ item = .ok row := by simpa using heq
        obtain ⟨hwalk, hbefore, hupTo⟩ := ih hitem
        rw [rowsUpTo_ok, rowsUpTo_ok, List.length_append, List.length_append, List.length_cons]
        omega

end Walk

namespace Handle

/-- The items of a walk in their order, whatever it takes to reach them. -/
theorem map_snd_schedule (h : Handle) (c : Connection) (first : List Row) :
    ((h.walk c).schedule first).map Prod.snd = (h.walk c).items first := by
  induction h, c using walk_induction generalizing first with
  | last h c hlast => simp [walk_of_last hlast, Walk.items, Walk.schedule, Function.comp_def]
  | failed h c state e hstate hreply =>
    simp [walk_failed hstate hreply, Walk.items, Walk.schedule, Function.comp_def]
  | turned h c state page hstate hreply ih =>
    rw [walk_turned hstate hreply, Walk.items_ok, Walk.items_append, ← ih,
      Walk.map_snd_schedule_ok]

end Handle

namespace RowStream

/-- What pulls on a stream answered, and the stream and the connection after them. -/
structure Pulls where
  answers : List (Option (Except Error Row))
  stream : RowStream
  connection : Connection

/-- Pulls a stream so many times, whatever the answers. -/
def pull (s : RowStream) (c : Connection) : Nat → Pulls
  | 0 => ⟨[], s, c⟩
  | n + 1 =>
    let step := s.next c
    let rest := step.1.2.pull step.2 n
    ⟨step.1.1 :: rest.answers, rest.stream, rest.connection⟩

/-- The stream hands out the items of a schedule and after them the end. With each item it has sent
the requests that the item takes. -/
structure Serves (s : RowStream) (c : Connection) (requests : List Sent)
    (schedule : List (Nat × Except Error Row)) (after : Connection) : Prop where
  answers : ∀ n, (s.pull c n).answers =
    ((schedule.map Prod.snd).take n).map some ++ List.replicate (n - schedule.length) none
  sent : ∀ n k item, schedule[n]? = some (k, item) →
    (s.pull c (n + 1)).connection.sent = c.sent ++ requests.take k
  failed : ∀ n k e, schedule[n]? = some (k, .error e) → (s.pull c (n + 1)).connection = after
  ended : ∀ n, schedule.length < n → (s.pull c n).connection = after

variable {pages later : Cursor} {rows : List Row} {requests : List Sent}
  {schedule : List (Nat × Except Error Row)} {c middle after : Connection} {e : Error}

theorem pull_ready (row : Row) (rest : List Row) (pages : Cursor) (c : Connection) (n : Nat) :
    (⟨row :: rest, pages⟩ : RowStream).pull c (n + 1) =
      ⟨some (.ok row) :: ((⟨rest, pages⟩ : RowStream).pull c n).answers,
        ((⟨rest, pages⟩ : RowStream).pull c n).stream,
        ((⟨rest, pages⟩ : RowStream).pull c n).connection⟩ := by
  rw [pull, next_ready]

theorem pull_refill (hnext : pages.next c = ((.ok (some rows), later), middle)) (n : Nat) :
    (⟨[], pages⟩ : RowStream).pull c (n + 1) = (⟨rows, later⟩ : RowStream).pull middle (n + 1) := by
  rw [pull, next_refill hnext, ← pull]

theorem pull_done (c : Connection) (n : Nat) :
    (⟨[], .done⟩ : RowStream).pull c n = ⟨List.replicate n none, ⟨[], .done⟩, c⟩ := by
  induction n with
  | zero => rfl
  | succ n ih => rw [pull, next_done, ih, List.replicate_succ]

theorem pull_failed (hnext : pages.next c = ((.error e, later), after)) (n : Nat) :
    (⟨[], pages⟩ : RowStream).pull c (n + 1) =
      ⟨some (.error e) :: List.replicate n none, ⟨[], .done⟩, after⟩ := by
  rw [pull, next_failed hnext, pull_done]

theorem serves_done (c : Connection) : (⟨[], .done⟩ : RowStream).Serves c [] [] c := by
  refine ⟨?_, ?_, ?_, ?_⟩
  · intro n
    rw [pull_done]
    simp
  · intro n k item hitem
    simp at hitem
  · intro n k e hitem
    simp at hitem
  · intro n _
    rw [pull_done]

theorem serves_failed {request : Sent} (hnext : pages.next c = ((.error e, later), after))
    (hsent : after.sent = c.sent ++ [request]) :
    (⟨[], pages⟩ : RowStream).Serves c [request] [(1, .error e)] after := by
  have hconnection : ∀ n, ((⟨[], pages⟩ : RowStream).pull c (n + 1)).connection = after := by
    intro n
    rw [pull_failed hnext]
  refine ⟨?_, ?_, fun n _ _ _ => hconnection n, ?_⟩
  · intro n
    cases n with
    | zero => rfl
    | succ n =>
      rw [pull_failed hnext]
      simp
  · intro n k item hitem
    obtain ⟨rfl, rfl⟩ : n = 0 ∧ 1 = k := by
      cases n with
      | zero => simpa using congrArg (Option.map Prod.fst) hitem
      | succ n => simp at hitem
    rw [hconnection, hsent]
    rfl
  · intro n hn
    cases n with
    | zero => cases hn
    | succ n => exact hconnection n

/-- A row at hand comes before all that takes a request. -/
theorem serves_cons (row : Row) {rest : List Row}
    (h : (⟨rest, pages⟩ : RowStream).Serves c requests schedule after) :
    (⟨row :: rest, pages⟩ : RowStream).Serves c requests ((0, .ok row) :: schedule) after := by
  refine ⟨?_, ?_, ?_, ?_⟩
  · intro n
    cases n with
    | zero => simp [pull]
    | succ n =>
      rw [pull_ready, h.answers n]
      simp
  · intro n k item hitem
    rw [pull_ready]
    cases n with
    | zero =>
      obtain ⟨rfl, _⟩ : 0 = k ∧ .ok row = item := by simpa using hitem
      simp [pull]
    | succ n => exact h.sent n k item hitem
  · intro n k e hitem
    rw [pull_ready]
    cases n with
    | zero => simp at hitem
    | succ n => exact h.failed n k e hitem
  · intro n hn
    cases n with
    | zero => cases hn
    | succ n =>
      rw [pull_ready]
      exact h.ended n (by simpa using hn)

theorem serves_ready (h : (⟨[], pages⟩ : RowStream).Serves c requests schedule after)
    (ready : List Row) :
    (⟨ready, pages⟩ : RowStream).Serves c requests
      (ready.map (fun row => (0, .ok row)) ++ schedule) after := by
  induction ready with
  | nil => exact h
  | cons row rest ih => exact serves_cons row ih

/-- Behind requests for a page each item takes as many more as there were. -/
theorem serves_refill {fetched : List Sent}
    (hnext : pages.next c = ((.ok (some rows), later), middle))
    (hsent : middle.sent = c.sent ++ fetched)
    (h : (⟨rows, later⟩ : RowStream).Serves middle requests schedule after) :
    (⟨[], pages⟩ : RowStream).Serves c (fetched ++ requests)
      (schedule.map fun item => (item.1 + fetched.length, item.2)) after := by
  refine ⟨?_, ?_, ?_, ?_⟩
  · intro n
    cases n with
    | zero => simp [pull]
    | succ n =>
      rw [pull_refill hnext, h.answers (n + 1)]
      simp [Function.comp_def]
  · intro n k item hitem
    rw [List.getElem?_map, Option.map_eq_some_iff] at hitem
    obtain ⟨⟨j, found⟩, hfound, heq⟩ := hitem
    obtain ⟨rfl, rfl⟩ : j + fetched.length = k ∧ found = item := by simpa using heq
    rw [pull_refill hnext, h.sent n j found hfound, hsent, List.append_assoc, Nat.add_comm,
      List.take_length_add_append]
  · intro n k e hitem
    rw [List.getElem?_map, Option.map_eq_some_iff] at hitem
    obtain ⟨⟨j, found⟩, hfound, heq⟩ := hitem
    obtain ⟨rfl, rfl⟩ : j + fetched.length = k ∧ found = .error e := by simpa using heq
    rw [pull_refill hnext]
    exact h.failed n j e hfound
  · intro n hn
    rw [List.length_map] at hn
    cases n with
    | zero => cases hn
    | succ n =>
      rw [pull_refill hnext]
      exact h.ended (n + 1) hn

theorem serves_past (h : Handle) (c : Connection) (ready : List Row) :
    (⟨ready, .past h⟩ : RowStream).Serves c ((h.walk c).map fun x => h.request x.state)
      ((h.walk c).schedule ready) (h.afterWalk c) := by
  induction h, c using Handle.walk_induction generalizing ready with
  | last h c hlast =>
    have hready := serves_ready (serves_done c) ready
    rw [List.append_nil] at hready
    rw [Cursor.past_of_last hlast, Handle.walk_of_last hlast, Handle.afterWalk_of_last hlast]
    exact hready
  | failed h c state e hstate hreply =>
    rw [Cursor.past_of_some hstate, Handle.walk_failed hstate hreply,
      Handle.afterWalk_failed hstate hreply]
    exact serves_ready
      (serves_failed (Cursor.next_failed hstate hreply) (h.sent_asked state c)) ready
  | turned h c state page hstate hreply ih =>
    rw [Cursor.past_of_some hstate, Handle.walk_turned hstate hreply,
      Handle.afterWalk_turned hstate hreply]
    exact serves_ready (serves_refill (Cursor.next_turned hstate hreply) (h.sent_asked state c)
      (ih page.rows)) ready

theorem serves_ofHandle (h : Handle) (c : Connection) :
    (ofHandle h).Serves c ((h.walk c).map fun x => h.request x.state)
      ((h.walk c).schedule h.page.rows) (h.afterWalk c) := by
  have hnext : (Cursor.here h).next c = ((.ok (some h.page.rows), .past h), c) := rfl
  have hserves := serves_refill hnext (List.append_nil c.sent).symm (serves_past h c h.page.rows)
  simp only [List.nil_append, List.length_nil, Nat.add_zero, List.map_id'] at hserves
  exact hserves

theorem Serves.answer {s : RowStream} (h : s.Serves c requests schedule after) {i n : Nat}
    (hi : i < n) : (s.pull c n).answers[i]? = some (schedule[i]?.map Prod.snd) := by
  rw [h.answers n]
  by_cases hitem : i < schedule.length
  · have htaken : i < (((schedule.map Prod.snd).take n).map some).length := by
      simp only [List.length_map, List.length_take]
      omega
    rw [List.getElem?_append_left htaken, List.getElem?_map, List.getElem?_take_of_lt hi,
      List.getElem?_map, List.getElem?_eq_getElem hitem]
    rfl
  · have htaken : (((schedule.map Prod.snd).take n).map some).length = schedule.length := by
      simp only [List.length_map, List.length_take]
      omega
    rw [List.getElem?_append_right (by omega), htaken, List.getElem?_replicate,
      if_pos (by omega), List.getElem?_eq_none (by omega)]
    rfl

theorem length_schedule (h : Handle) (c : Connection) :
    ((h.walk c).schedule h.page.rows).length = ((h.walk c).items h.page.rows).length := by
  rw [← h.map_snd_schedule c, List.length_map]

theorem answers_pull (h : Handle) (c : Connection) (n : Nat) :
    ((ofHandle h).pull c n).answers = (((h.walk c).items h.page.rows).take n).map some ++
      List.replicate (n - ((h.walk c).items h.page.rows).length) none := by
  rw [(serves_ofHandle h c).answers n, h.map_snd_schedule c, length_schedule]

/-- Where the last pull answered with a row, the pulls have sent the requests up to its page. -/
theorem sent_pull {h : Handle} {c : Connection} {n : Nat} {got : List Row} (hpos : 0 < n)
    (hgot : ((ofHandle h).pull c n).answers = got.map fun row => some (.ok row)) :
    ∃ k ≤ (h.walk c).length,
      ((h.walk c).rowsUpTo h.page.rows k).length < n ∧
      n ≤ ((h.walk c).rowsUpTo h.page.rows (k + 1)).length ∧
      ((ofHandle h).pull c n).connection.sent =
        c.sent ++ ((h.walk c).take k).map fun x => h.request x.state := by
  have hserves := serves_ofHandle h c
  obtain ⟨m, rfl⟩ : ∃ m, n = m + 1 := ⟨n - 1, by omega⟩
  have hlast := hserves.answer (Nat.lt_succ_self m)
  rw [hgot, List.getElem?_map, Option.map_eq_some_iff] at hlast
  obtain ⟨row, _, hrow⟩ := hlast
  obtain ⟨⟨k, item⟩, hitem, rfl⟩ := Option.map_eq_some_iff.mp hrow.symm
  obtain ⟨hk, hbefore, hupTo⟩ := Walk.place_of_schedule hitem
  refine ⟨k, hk, Nat.lt_succ_of_le hbefore, hupTo, ?_⟩
  rw [List.map_take]
  exact hserves.sent m k _ hitem

/-- Where a request fails, its error comes once and behind all rows, and then the end. -/
theorem pull_failure {h : Handle} {c : Connection} {e : Error}
    (hfailure : (h.walk c).failure? = some e) (m : Nat) :
    let rows := h.page.rows ++ (h.walk c).rows
    let pulls := (ofHandle h).pull c (rows.length + 1 + m)
    pulls.answers =
      rows.map (fun row => some (.ok row)) ++ some (.error e) :: List.replicate m none ∧
    pulls.connection = h.afterWalk c := by
  intro rows pulls
  have hserves := serves_ofHandle h c
  have hitems : (h.walk c).items h.page.rows = rows.map .ok ++ [.error e] := by
    rw [Walk.items, hfailure]
    rfl
  have hcount : ((h.walk c).items h.page.rows).length = rows.length + 1 := by
    rw [hitems]
    simp
  refine ⟨?_, ?_⟩
  · change ((ofHandle h).pull c (rows.length + 1 + m)).answers = _
    rw [answers_pull, List.take_of_length_le (by omega), hcount, Nat.add_sub_cancel_left, hitems]
    simp [Function.comp_def]
  · cases m with
    | zero =>
      have herror : ((h.walk c).schedule h.page.rows)[rows.length]?.map Prod.snd =
          some (.error e) := by
        rw [← List.getElem?_map, h.map_snd_schedule c, hitems]
        simp
      obtain ⟨⟨k, item⟩, hitem, rfl⟩ := Option.map_eq_some_iff.mp herror
      exact hserves.failed rows.length k e hitem
    | succ m =>
      refine hserves.ended _ ?_
      rw [length_schedule, hcount]
      omega

/-- A stream fetches no page before the rows of all earlier pages were pulled: after `n` rows there
were as many requests as there are pages before the one that holds the last of them. Where a request
fails, all rows before it were handed out, its error comes once, and that is the end. -/
theorem pull_lazy (h : Handle) (c : Connection) (n : Nat) :
    let pulls := (ofHandle h).pull c n
    let walk := h.walk c
    let rows := h.page.rows ++ walk.rows
    let items := walk.items h.page.rows
    pulls.answers = (items.take n).map some ++ List.replicate (n - items.length) none ∧
    (n = 0 → pulls.connection = c) ∧
    (∀ got : List Row, 0 < n → pulls.answers = got.map (fun row => some (.ok row)) →
      ∃ k ≤ walk.length,
        (walk.rowsUpTo h.page.rows k).length < n ∧
        n ≤ (walk.rowsUpTo h.page.rows (k + 1)).length ∧
        pulls.connection.sent = c.sent ++ (walk.take k).map fun x => h.request x.state) ∧
    ∀ e m, walk.failure? = some e → n = rows.length + 1 + m →
      pulls.answers =
        rows.map (fun row => some (.ok row)) ++ some (.error e) :: List.replicate m none ∧
      pulls.connection = h.afterWalk c := by
  intro pulls walk rows items
  refine ⟨answers_pull h c n, ?_, ?_, ?_⟩
  · intro hzero
    subst hzero
    rfl
  · intro got hpos hgot
    exact sent_pull hpos hgot
  · intro e m hfailure hn
    subst hn
    exact pull_failure hfailure m

/-- Two pulls, one for a row at hand and one for a row behind an empty page, and a third one that
fails. -/
theorem pull_lazy_over_empty_page :
    ∃ (h : Handle) (c : Connection),
      ((ofHandle h).pull c 1).answers = [some (.ok ∅)] ∧
      ((ofHandle h).pull c 1).connection.sent = c.sent ∧
      ((ofHandle h).pull c 2).answers = [some (.ok ∅), some (.ok ∅)] ∧
      ((ofHandle h).pull c 2).connection.sent =
        c.sent ++ [h.request ⟨[1]⟩, h.request ⟨[2]⟩] ∧
      ((ofHandle h).pull c 4).answers =
        [some (.ok ∅), some (.ok ∅), some (.error (.raised .transport "gone")), none] ∧
      ((ofHandle h).pull c 4).connection = h.afterWalk c := by
  let h : Handle := ⟨"select * from users", { arguments := [] }, ⟨[∅], some ⟨[1]⟩⟩⟩
  let c : Connection :=
    { script := [⟨.ok ⟨[], some ⟨[2]⟩⟩, 0⟩, ⟨.ok ⟨[∅], some ⟨[3]⟩⟩, 0⟩,
        ⟨.error (.raised .transport "gone"), 0⟩]
      settings := {} }
  obtain ⟨hone, _, hfirst, _⟩ := pull_lazy h c 1
  obtain ⟨htwo, _, hsecond, _⟩ := pull_lazy h c 2
  obtain ⟨_, _, _, hfailed⟩ := pull_lazy h c 4
  have hfirstSent : ((ofHandle h).pull c 1).connection.sent = c.sent := by
    obtain ⟨k, -, hbefore, -, hsent⟩ := hfirst [∅] (by omega) hone
    rcases k with _ | k
    · exact hsent
    · exact absurd hbefore (Nat.not_lt_of_le (Nat.le_add_left 1 _))
  have hsecondSent : ((ofHandle h).pull c 2).connection.sent =
      c.sent ++ [h.request ⟨[1]⟩, h.request ⟨[2]⟩] := by
    obtain ⟨k, -, hbefore, hupTo, hsent⟩ := hsecond [∅, ∅] (by omega) htwo
    rcases k with _ | _ | _ | k
    · exact absurd hupTo (by decide)
    · exact absurd hupTo (by decide)
    · exact hsent
    · have hpages : (h.walk c).pages.map Page.rows = [[], [∅]] := rfl
      simp [Walk.rowsUpTo, hpages, h] at hbefore
  obtain ⟨hanswers, hconnection⟩ := hfailed (.raised .transport "gone") 1 rfl rfl
  exact ⟨h, c, hone, hfirstSent, htwo, hsecondSent, hanswers, hconnection⟩

end RowStream

end Cql
