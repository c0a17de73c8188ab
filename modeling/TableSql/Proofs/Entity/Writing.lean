import TableSql.Entity.Operations
import TableSql.Proofs.Client.Session

/-! Rows written chunk by chunk: which statements a client is sent, and what stops them. -/

namespace TableSql

variable {σ : Type}

def Client.answers (client : Client σ) : List Statement → σ → List (Except Error Reply)
  | [], _ => []
  | statement :: rest, state =>
    (client.query statement state).1 :: client.answers rest (client.query statement state).2

theorem Client.answers_singleton {client : Client σ} {statement : Statement} {state after : σ}
    {answer : Except Error Reply} (h : client.query statement state = (answer, after)) :
    client.answers [statement] state = [answer] := by
  rw [answers, answers, h]

theorem Client.length_answers (client : Client σ) (statements : List Statement) (state : σ) :
    (client.answers statements state).length = statements.length := by
  induction statements generalizing state with
  | nil => rfl
  | cons statement rest ih => rw [answers, List.length_cons, List.length_cons, ih]

theorem Client.answers_take (client : Client σ) (statements : List Statement) (state : σ)
    (n : Nat) :
    client.answers (statements.take n) state = (client.answers statements state).take n := by
  induction statements generalizing state n with
  | nil => rw [List.take_nil, answers, List.take_nil]
  | cons statement rest ih =>
    cases n with
    | zero => rfl
    | succ n => rw [List.take_succ_cons, answers, answers, List.take_succ_cons, ih]

theorem Client.query_recorded {client : Client σ} {statement : Statement}
    {state : σ × List Statement} {answer : Except Error Reply} {after : σ}
    (h : client.query statement state.1 = (answer, after)) :
    client.recorded.query statement state = (answer, after, state.2 ++ [statement]) := by
  simp only [recorded, h]

/-- How chunks of rows are written: the statement of a chunk, why it may not be sent, and why a
reply to it may not do. -/
structure Writing where
  statement : List Record → Statement
  refusal : List Record → Option Error
  rejection : List Record → Reply → Option Error

namespace Writing

/-- What was sent, what came of it, and where that leaves the client. -/
structure Course (σ : Type) where
  sent : List Statement
  outcome : Except Error (List Reply)
  after : σ

def course (w : Writing) (client : Client σ) : List (List Record) → σ → Course σ
  | [], state => ⟨[], .ok [], state⟩
  | chunk :: rest, state =>
    match w.refusal chunk with
    | some error => ⟨[], .error error, state⟩
    | none =>
      match client.query (w.statement chunk) state with
      | (.error fault, after) => ⟨[w.statement chunk], .error (.backend fault), after⟩
      | (.ok reply, after) =>
        match w.rejection chunk reply with
        | some error => ⟨[w.statement chunk], .error error, after⟩
        | none =>
          let others := w.course client rest after
          ⟨w.statement chunk :: others.sent, others.outcome.map (reply :: ·), others.after⟩

section Course

variable {w : Writing} {client : Client σ} {chunk : List Record} {rest : List (List Record)}
  {state after : σ}

theorem course_refused {error : Error} (h : w.refusal chunk = some error) :
    w.course client (chunk :: rest) state = ⟨[], .error error, state⟩ := by
  rw [course, h]

theorem course_failed {fault : Error} (h : w.refusal chunk = none)
    (hquery : client.query (w.statement chunk) state = (.error fault, after)) :
    w.course client (chunk :: rest) state =
      ⟨[w.statement chunk], .error (.backend fault), after⟩ := by
  simp only [course, h, hquery]

theorem course_rejected {reply : Reply} {error : Error} (h : w.refusal chunk = none)
    (hquery : client.query (w.statement chunk) state = (.ok reply, after))
    (hreply : w.rejection chunk reply = some error) :
    w.course client (chunk :: rest) state = ⟨[w.statement chunk], .error error, after⟩ := by
  simp only [course, h, hquery, hreply]

theorem course_sent {reply : Reply} (h : w.refusal chunk = none)
    (hquery : client.query (w.statement chunk) state = (.ok reply, after))
    (hreply : w.rejection chunk reply = none) :
    w.course client (chunk :: rest) state =
      ⟨w.statement chunk :: (w.course client rest after).sent,
        (w.course client rest after).outcome.map (reply :: ·),
        (w.course client rest after).after⟩ := by
  simp only [course, h, hquery, hreply]

end Course

/-- Why the writing stops at a chunk, if it does, given the answer to its statement. -/
def stop? (w : Writing) (chunk : List Record) (answer : Except Error Reply) : Option Error :=
  match w.refusal chunk, answer with
  | some error, _ => some error
  | none, .error fault => some (.backend fault)
  | none, .ok reply => w.rejection chunk reply

/-- Why the writing stops at a chunk by its number, once all before it have been sent. -/
def stopAt (w : Writing) (client : Client σ) (chunks : List (List Record)) (state : σ) (n : Nat) :
    Option Error := do
  w.stop? (← chunks[n]?) (← (client.answers (chunks.map w.statement) state)[n]?)

/-- The statements up to a chunk at which the writing stops: one that is refused is not sent. -/
def sentUpTo (w : Writing) (chunks : List (List Record)) (n : Nat) : List Statement :=
  (chunks.take n).map w.statement ++
    match chunks[n]? with
    | some chunk => if (w.refusal chunk).isSome then [] else [w.statement chunk]
    | none => []

section Stops

variable (w : Writing) (client : Client σ) (chunk : List Record) (rest : List (List Record))
  (state : σ)

theorem stopAt_zero : w.stopAt client (chunk :: rest) state 0 =
    w.stop? chunk (client.query (w.statement chunk) state).1 := rfl

theorem stopAt_succ (n : Nat) : w.stopAt client (chunk :: rest) state (n + 1) =
    w.stopAt client rest (client.query (w.statement chunk) state).2 n := rfl

end Stops

/-- The first chunk stops the writing, or it is sent and the others follow. -/
theorem course_cons (w : Writing) (client : Client σ) (chunk : List Record)
    (rest : List (List Record)) (state : σ) :
    (∃ error, w.stop? chunk (client.query (w.statement chunk) state).1 = some error ∧
      (w.course client (chunk :: rest) state).outcome = .error error ∧
      (w.course client (chunk :: rest) state).sent = w.sentUpTo (chunk :: rest) 0) ∨
    ∃ reply after, w.stop? chunk (.ok reply) = none ∧
      client.query (w.statement chunk) state = (.ok reply, after) ∧
      w.course client (chunk :: rest) state =
        ⟨w.statement chunk :: (w.course client rest after).sent,
          (w.course client rest after).outcome.map (reply :: ·),
          (w.course client rest after).after⟩ := by
  cases hrefusal : w.refusal chunk with
  | some error =>
    rw [course_refused hrefusal]
    exact .inl ⟨error, by simp [stop?, hrefusal], rfl, by simp [sentUpTo, hrefusal]⟩
  | none =>
    have hsent : w.sentUpTo (chunk :: rest) 0 = [w.statement chunk] := by
      simp [sentUpTo, hrefusal]
    rcases hquery : client.query (w.statement chunk) state with ⟨fault | reply, after⟩
    · rw [course_failed hrefusal hquery, hsent]
      exact .inl ⟨.backend fault, by simp [stop?, hrefusal], rfl, rfl⟩
    · cases hreply : w.rejection chunk reply with
      | some error =>
        rw [course_rejected hrefusal hquery hreply, hsent]
        exact .inl ⟨error, by simp [stop?, hrefusal, hreply], rfl, rfl⟩
      | none =>
        exact .inr ⟨reply, after, by simp [stop?, hrefusal, hreply], rfl,
          course_sent hrefusal hquery hreply⟩

theorem course_ok {w : Writing} {client : Client σ} {chunks : List (List Record)} {state : σ}
    {replies : List Reply} (h : (w.course client chunks state).outcome = .ok replies) :
    (∀ n, w.stopAt client chunks state n = none) ∧
      (w.course client chunks state).sent = chunks.map w.statement ∧
      client.answers (chunks.map w.statement) state = replies.map .ok := by
  induction chunks generalizing state replies with
  | nil =>
    obtain rfl := Except.ok.inj h
    exact ⟨fun _ => rfl, rfl, rfl⟩
  | cons chunk rest ih =>
    rcases w.course_cons client chunk rest state with ⟨error, -, herror, -⟩ |
      ⟨reply, after, hstop, hquery, hcourse⟩
    · rw [herror] at h
      cases h
    · rw [hcourse] at h ⊢
      cases houtcome : (w.course client rest after).outcome with
      | error error =>
        rw [houtcome] at h
        cases h
      | ok others =>
        rw [houtcome] at h
        obtain rfl := Except.ok.inj h
        obtain ⟨hrest, hsent, hanswers⟩ := ih houtcome
        refine ⟨fun n => ?_, congrArg _ hsent, ?_⟩
        · cases n with
          | zero => rw [stopAt_zero, hquery, hstop]
          | succ n => rw [stopAt_succ, hquery, hrest]
        · rw [List.map_cons, Client.answers, hquery, hanswers, List.map_cons]

/-- Where the writing fails, it does so at the first chunk that stops it, and nothing is sent
after it. -/
theorem course_error {w : Writing} {client : Client σ} {chunks : List (List Record)} {state : σ}
    {error : Error} (h : (w.course client chunks state).outcome = .error error) :
    ∃ n, w.stopAt client chunks state n = some error ∧
      (∀ i < n, w.stopAt client chunks state i = none) ∧
      (w.course client chunks state).sent = w.sentUpTo chunks n := by
  induction chunks generalizing state with
  | nil => cases h
  | cons chunk rest ih =>
    rcases w.course_cons client chunk rest state with ⟨fault, hstop, hfault, hsent⟩ |
      ⟨reply, after, hstop, hquery, hcourse⟩
    · obtain rfl := Except.error.inj (hfault.symm.trans h)
      exact ⟨0, hstop, fun i hi => absurd hi (Nat.not_lt_zero i), hsent⟩
    · rw [hcourse] at h ⊢
      cases houtcome : (w.course client rest after).outcome with
      | ok others =>
        rw [houtcome] at h
        cases h
      | error fault =>
        rw [houtcome] at h
        obtain rfl := Except.error.inj h
        obtain ⟨n, hn, hbefore, hsent⟩ := ih houtcome
        refine ⟨n + 1, ?_, fun i hi => ?_, congrArg _ hsent⟩
        · rw [stopAt_succ, hquery, hn]
        · cases i with
          | zero => rw [stopAt_zero, hquery, hstop]
          | succ i => rw [stopAt_succ, hquery, hbefore i (Nat.lt_of_succ_lt_succ hi)]

section Outcome

variable {w : Writing} {client : Client σ} {chunks : List (List Record)} {state : σ}

/-- The first chunk that stops the writing says how it fails and how far it comes. -/
theorem course_of_stopAt {n : Nat} {error : Error}
    (hn : w.stopAt client chunks state n = some error)
    (hbefore : ∀ i < n, w.stopAt client chunks state i = none) :
    (w.course client chunks state).outcome = .error error ∧
      (w.course client chunks state).sent = w.sentUpTo chunks n := by
  cases houtcome : (w.course client chunks state).outcome with
  | ok replies =>
    obtain ⟨hstop, -⟩ := course_ok houtcome
    rw [hstop n] at hn
    cases hn
  | error fault =>
    obtain ⟨m, hm, hearlier, hsent⟩ := course_error houtcome
    rcases Nat.lt_trichotomy m n with hlt | rfl | hlt
    · rw [hbefore m hlt] at hm
      cases hm
    · exact ⟨congrArg _ (Option.some.inj (hm.symm.trans hn)), hsent⟩
    · rw [hearlier n hlt] at hn
      cases hn

theorem exists_answer (w : Writing) (client : Client σ) (state : σ) {n : Nat}
    {chunk : List Record} (hchunk : chunks[n]? = some chunk) :
    ∃ answer, (client.answers (chunks.map w.statement) state)[n]? = some answer ∧
      w.stopAt client chunks state n = w.stop? chunk answer := by
  have hlength : n < (client.answers (chunks.map w.statement) state).length := by
    rw [Client.length_answers, List.length_map]
    exact (List.getElem?_eq_some_iff.mp hchunk).1
  refine ⟨_, List.getElem?_eq_getElem hlength, ?_⟩
  rw [stopAt, hchunk, List.getElem?_eq_getElem hlength]
  rfl

theorem after_of_sent_nil (h : (w.course client chunks state).sent = []) :
    (w.course client chunks state).after = state := by
  cases chunks with
  | nil => rfl
  | cons chunk rest =>
    cases hrefusal : w.refusal chunk with
    | some error => rw [course_refused hrefusal]
    | none =>
      rcases hquery : client.query (w.statement chunk) state with ⟨fault | reply, after⟩
      · rw [course_failed hrefusal hquery] at h
        cases h
      · cases hreply : w.rejection chunk reply with
        | some error =>
          rw [course_rejected hrefusal hquery hreply] at h
          cases h
        | none =>
          rw [course_sent hrefusal hquery hreply] at h
          cases h

end Outcome

end Writing

/-- An operation that writes chunks in order, one statement each, until one stops it: which
statements it has sent, and when it fails. -/
structure Writing.Writes {α : Type} (w : Writing) (client : Client σ) (chunks : List (List Record))
    (before : σ × List Statement) (outcome : Except Error α) (after : σ × List Statement) :
    Prop where
  ok_iff : (∃ a, outcome = .ok a) ↔ ∀ n, w.stopAt client chunks before.1 n = none
  sent_of_ok : (∃ a, outcome = .ok a) → after.2 = before.2 ++ chunks.map w.statement
  stopped_of_error : ∀ error, outcome = .error error →
    ∃ n, w.stopAt client chunks before.1 n = some error ∧
      (∀ i < n, w.stopAt client chunks before.1 i = none) ∧
      after.2 = before.2 ++ w.sentUpTo chunks n

theorem Writing.writes_course {α : Type} (w : Writing) (client : Client σ)
    (chunks : List (List Record)) (before : σ × List Statement) (result : List Reply → α) :
    w.Writes client chunks before ((w.course client chunks before.1).outcome.map result)
      ((w.course client chunks before.1).after,
        before.2 ++ (w.course client chunks before.1).sent) := by
  cases h : (w.course client chunks before.1).outcome with
  | ok replies =>
    obtain ⟨hstop, hsent, -⟩ := course_ok h
    refine ⟨⟨fun _ => hstop, fun _ => ⟨result replies, rfl⟩⟩, fun _ => ?_, fun error herror => ?_⟩
    · rw [hsent]
    · cases herror
  | error error =>
    obtain ⟨n, hn, hbefore, hsent⟩ := course_error h
    refine ⟨⟨?_, fun hstop => ?_⟩, ?_, fun fault hfault => ?_⟩
    · rintro ⟨a, ha⟩
      cases ha
    · rw [hstop n] at hn
      cases hn
    · rintro ⟨a, ha⟩
      cases ha
    · obtain rfl := Except.error.inj hfault
      exact ⟨n, hn, hbefore, by rw [hsent]⟩

end TableSql
