import SqlClient.Proofs.LostTransaction
import SqlClient.Script

/-!
# Bodies of transactions

A transaction opens a level of its own for its body. When the body returns with that level open, the
level is finished by one text: committed when the body succeeds, rolled back when it fails. Only a
body that reports a lost transaction finds its level as it left it, although the transaction that was
lost may be another one.
-/

namespace SqlClient

namespace Session

variable {σ : Type}

/-- The text that finishes the level above a depth. -/
def Finish.levelText (way : Finish) (depth : Nat) : String :=
  match way with
  | .commit =>
      if depth = 0 then "COMMIT" else "RELEASE SAVEPOINT trans" ++ toString (depth + 1)
  | .rollback =>
      if depth = 0 then "ROLLBACK" else "ROLLBACK TO SAVEPOINT trans" ++ toString (depth + 1)

theorem Finish.text?_eq (way : Finish) (depth : Nat) :
    way.text? (depth + 1) true = some (way.levelText depth) := by
  cases way <;> by_cases outermost : depth = 0 <;>
    simp [text?, levelText, savepoint, outermost, ← String.append_assoc]

/-! ## Depths -/

theorem depth_reconnectUntil (server : Server σ) (session : Session σ) :
    (reconnectUntil server session).depth = 0 := by
  fun_induction reconnectUntil server session with
  | case1 => rfl
  | case2 _ _ _ _ ih => exact ih

/-- A text run inside a transaction leaves the depth as it is or loses the transaction. -/
theorem depth_persist (server : Server σ) (text : String) (values : List Scalar)
    (session : Session σ) :
    (persist server text values true session).2.depth = session.depth ∨
      (∃ reason source,
        (persist server text values true session).1 = .error (.transactionLost reason source)) ∧
      (persist server text values true session).2.depth = 0 := by
  generalize executed : server.execute session.connection text values session.state = answered
  obtain ⟨answer, state⟩ := answered
  cases answer with
  | ok answer =>
      rw [persist_of_answer true executed]
      exact Or.inl rfl
  | error error =>
      cases kind : error.failure session.dialect with
      | other =>
          rw [persist_of_other true executed kind]
          exact Or.inl rfl
      | lockContention =>
          rw [persist_of_contention executed kind]
          exact Or.inr ⟨⟨_, _, rfl⟩, rfl⟩
      | connectionLost =>
          cases policy : session.policy with
          | disabled =>
              rw [persist_of_loss_disabled true executed kind policy]
              exact Or.inl rfl
          | unbounded pause =>
              rw [persist_of_loss_unbounded executed kind policy]
              exact Or.inr ⟨⟨_, _, rfl⟩, depth_reconnectUntil server _⟩

/-- Finishing a level comes to one run of its text at the depth below. -/
theorem finish_of_depth (server : Server σ) (way : Finish) {session : Session σ} {depth : Nat}
    (level : session.depth = depth + 1) :
    let ran := persist server (way.levelText depth) [] true { session with depth }
    finish server way true session = (ran.1.map fun _ => true, ran.2) := by
  intro ran
  simp only [finish, level, way.text?_eq, runAs, Params.bind]
  rcases same : ran with ⟨error | answer, after⟩
  all_goals
    rw [show persist server (way.levelText depth) [] true { session with depth } = _ from same]
    rfl

/-- A level above a depth was finished. Its text was sent once, and the session is at that depth,
unless the text lost the transaction. -/
structure FinishedOnce (server : Server σ) (way : Finish) (depth : Nat)
    (session : Session (σ × List Exchange)) (result : Except SessionError Unit)
    (after : Session (σ × List Exchange)) : Prop where
  sent : SentOnce server session (way.levelText depth) [] result after
  depth_eq : after.depth = depth ∨
    (∃ reason source, result = .error (.transactionLost reason source)) ∧ after.depth = 0

theorem finishedOnce_finish (server : Server σ) (way : Finish)
    {session : Session (σ × List Exchange)} {depth : Nat} (level : session.depth = depth + 1) :
    FinishedOnce server way depth session
      ((finish server.logged way true session).1.map fun _ => ())
      (finish server.logged way true session).2 := by
  have sent := sentOnce_persist server { session with depth } (way.levelText depth) []
  have moved := depth_persist server.logged (way.levelText depth) [] { session with depth }
  rw [finish_of_depth server.logged way level]
  generalize persist server.logged (way.levelText depth) [] true { session with depth } = ran
    at sent moved
  obtain ⟨error | answer, after⟩ := ran
  · refine ⟨sent, moved.imp_right fun lost => ⟨?_, lost.2⟩⟩
    obtain ⟨⟨reason, source, same⟩, -⟩ := lost
    exact ⟨reason, source, congrArg (Except.map fun _ => ()) same⟩
  · refine ⟨sent, Or.inl (moved.resolve_right ?_)⟩
    rintro ⟨⟨reason, source, same⟩, -⟩
    simp at same

/-- A session that was left as it is has finished no level. -/
theorem not_finishedOnce_self {server : Server σ} {way : Finish} {depth : Nat}
    {session : Session (σ × List Exchange)} {result : Except SessionError Unit} :
    ¬FinishedOnce server way depth session result session := by
  rintro ⟨⟨later, noted, -⟩, -⟩
  exact List.cons_ne_nil _ _ (List.self_eq_append_right.1 noted)

/-- Finishing a level succeeds exactly when its text is answered. -/
theorem FinishedOnce.ok_iff {server : Server σ} {way : Finish} {depth : Nat}
    {session after : Session (σ × List Exchange)} {result : Except SessionError Unit}
    (finished : FinishedOnce server way depth session result after) :
    result = .ok () ↔ ∃ answer,
      (server.execute session.connection (way.levelText depth) [] session.state.1).1 =
        .ok answer := by
  obtain ⟨later, -, ending⟩ := finished.sent
  generalize (server.execute session.connection (way.levelText depth) [] session.state.1).1 =
    answer at ending
  generalize after.depth = lowered at ending
  cases ending <;> simp

/-! ## Transactions -/

section Transactions

variable {α : Type} {server : Server σ} {body : Action σ α} {session entered left : Session σ}
  {issued : Bool}

/-- A body that fails at its own level is rolled back, unless it reports a lost transaction. -/
theorem transaction_of_error {error : SessionError}
    (opened : begin server true session = (.ok issued, entered))
    (returned : body entered = (.error error, left)) (inside : 0 < left.depth)
    (kept : error.isTransactionLost = false) :
    transaction server body session = (.error error, (finish server .rollback true left).2) := by
  simp only [transaction, opened, returned]
  rw [if_pos ⟨inside, by simp [kept]⟩]
  rfl

/-- A body that reports a lost transaction has its level left as it is. -/
theorem transaction_of_lost {error : SessionError}
    (opened : begin server true session = (.ok issued, entered))
    (returned : body entered = (.error error, left)) (lost : error.isTransactionLost = true) :
    transaction server body session = (.error error, left) := by
  simp only [transaction, opened, returned]
  rw [if_neg (by simp [lost])]

/-- A body that succeeds is committed. -/
theorem transaction_of_ok {value : α} (opened : begin server true session = (.ok issued, entered))
    (returned : body entered = (.ok value, left)) :
    transaction server body session =
      ((finish server .commit true left).1.map fun _ => value,
        (finish server .commit true left).2) := by
  simp only [transaction, opened, returned, commit]
  rcases finish server .commit true left with ⟨error | issued, after⟩ <;> rfl

end Transactions

/-- A body that returns at its own level, whatever it did before, has it finished once. If it fails,
its error stands, and the level is rolled back just if the error reports no lost transaction;
otherwise the level stays open. If it succeeds, the level is committed and the value stands exactly
if the commit is answered. -/
theorem transaction_finishes_level {α : Type} {server : Server σ}
    {body : Action (σ × List Exchange) α} {session entered left : Session (σ × List Exchange)}
    {issued : Bool} {outcome : Except SessionError α}
    (opened : begin server.logged true session = (.ok issued, entered))
    (returned : body entered = (outcome, left)) (level : left.depth = session.depth + 1) :
    let finished := transaction server.logged body session
    (∀ error, outcome = .error error → finished.1 = .error error ∧
      ((∃ result, FinishedOnce server .rollback session.depth left result finished.2) ↔
        error.isTransactionLost = false) ∧
      (error.isTransactionLost = true → finished.2 = left)) ∧
    ∀ value, outcome = .ok value →
      (∃ result, FinishedOnce server .commit session.depth left result finished.2) ∧
        (finished.1 = .ok value ↔ ∃ answer,
          (server.execute left.connection (Finish.commit.levelText session.depth) []
            left.state.1).1 = .ok answer) := by
  intro finished
  constructor
  · rintro error rfl
    cases lost : error.isTransactionLost with
    | false =>
        have done := transaction_of_error opened returned (by omega) lost
        have once := finishedOnce_finish server .rollback level
        rw [show finished = _ from done]
        exact ⟨rfl, ⟨fun _ => rfl, fun _ => ⟨_, once⟩⟩, nofun⟩
    | true =>
        have done := transaction_of_lost opened returned lost
        rw [show finished = _ from done]
        refine ⟨rfl, ⟨?_, nofun⟩, fun _ => rfl⟩
        rintro ⟨result, once⟩
        exact absurd once not_finishedOnce_self
  · rintro value rfl
    have done := transaction_of_ok opened returned
    have once := finishedOnce_finish server .commit level
    rw [show finished = _ from done]
    refine ⟨⟨_, once⟩, ?_⟩
    rw [← once.ok_iff]
    rcases finish server.logged .commit true left with ⟨error | issued, after⟩ <;> simp [Except.map]

/-- A body inside a level that fails, with a rollback that finds its connection gone. -/
theorem transaction_finishes_level_of_loss :
    let gone : ServerError := .ofTransport "gone"
    let tape : Tape := ⟨[.error gone, .ok 8], [.ok (.affected 0 none), .error gone]⟩
    let session : Session (Tape × List Exchange) :=
      { settings := { driver := "mysql" }, dialect := .mysql, state := (tape, []), connection := 7,
        depth := 1, policy := .unbounded 3, insertId? := none, journal? := none }
    let body : Action (Tape × List Exchange) Unit :=
      fun session => (.error (.invalidFetch "abort"), session)
    let entered := (begin Tape.server.logged true session).2
    let finished := transaction Tape.server.logged body session
    entered.depth = 2 ∧ finished.1 = .error (.invalidFetch "abort") ∧
      ∃ result, FinishedOnce Tape.server .rollback 1 entered result finished.2 := by
  intro gone tape session body entered finished
  have sent : beginText? session.dialect (session.depth + 1) true = some "SAVEPOINT trans2" := by
    decide
  have begun : begin Tape.server.logged true session = _ := begin_of_answer sent rfl
  have opened : begin Tape.server.logged true session = (.ok true, entered) :=
    begun.trans (congrArg _ (congrArg Prod.snd begun).symm)
  have returned : body entered = (.error (.invalidFetch "abort"), entered) := rfl
  have level : entered.depth = 2 := congrArg (fun outcome => outcome.2.depth) begun
  obtain ⟨failed, -⟩ := transaction_finishes_level opened returned level
  obtain ⟨stands, rolledBack, -⟩ := failed _ rfl
  exact ⟨level, stands, rolledBack.2 rfl⟩

/-- A session on a script that reports contention once, for texts that hold a fragment. -/
def contending (fragment : String) : Session Script :=
  { settings := { driver := "sqlite" }, dialect := .sqlite, connection := 1, depth := 0
    state := { breakdowns := [⟨fragment, ⟨some "5", "database is locked", false⟩, 1⟩] }
    policy := .disabled, insertId? := none, journal? := none }

/-- A body that begins again when its statement fails, and then reports that failure. -/
def restarting : Action Script Unit := fun session =>
  match exec Script.server "DELETE FROM t" .none session with
  | (.ok _, after) => (.ok (), after)
  | (.error error, after) => (.error error, (begin Script.server true after).2)

/-- A body that has a statement sent by another session. -/
def passing (other : Session Script) : Action Script Unit := fun session =>
  ((exec Script.server "DELETE FROM t" .none other).1.map fun _ => (), session)

/-- The error of a call, if it fails, and the depth and the texts sent after it. -/
def traceOf (outcome : Except SessionError Unit × Session Script) :
    Option SessionError × Nat × List String :=
  let error? :=
    match outcome.1 with
    | .error error => some error
    | .ok _ => none
  (error?, outcome.2.depth, outcome.2.state.log.map LogEntry.sql)

/-- Two levels that stay open although their bodies fail. One body reports the loss of an earlier
transaction, behind which it has begun the level; the other one reports what another session has
lost. -/
theorem transaction_leaves_level_open :
    traceOf (transaction Script.server restarting (contending "DELETE")) =
        (some (.transactionLost .contention ⟨some "5", "database is locked", false⟩), 1,
          ["BEGIN", "DELETE FROM t", "ROLLBACK", "BEGIN"]) ∧
      traceOf (transaction Script.server (passing { contending "DELETE" with depth := 1 })
          (contending "DELETE")) =
        (some (.transactionLost .contention ⟨some "5", "database is locked", false⟩), 1,
          ["BEGIN"]) := by
  decide +kernel

end Session

end SqlClient
