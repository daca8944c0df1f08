import TokenListing.Proofs.Calls
import TokenListing.Proofs.Session.Lines

/-! # Runs of one session do not touch each other

A lexer writes to its log and never reads it. So diagnostics that were in a log before stay in
front of it and change nothing else, and a run shows what it would show on a session of its own,
whatever ran before.
-/
namespace TokenListing

def Diagnostic.Log.following (earlier : List Diagnostic) (log : Log) : Log :=
  ⟨earlier ++ log.entries⟩

variable (earlier : List Diagnostic)

theorem Diagnostic.Log.report_following (log : Log) (diagnostic : Diagnostic) :
    (log.following earlier).report diagnostic = (log.report diagnostic).following earlier := by
  simp [report, following]

namespace Lexer

def following (lexer : Lexer) : Lexer :=
  { lexer with log := lexer.log.following earlier }

theorem settled_following (source : Source) (log : Diagnostic.Log) (answer : Answer) :
    settled source (log.following earlier) answer =
      (settled source log answer).following earlier := by
  match answer with
  | .ok (some token) => rfl
  | .ok none => rfl
  | .error error => simp [settled, following, Diagnostic.Log.report_following]

theorem nextToken_following (lexer : Lexer) :
    (lexer.following earlier).nextToken =
      (lexer.nextToken.1, lexer.nextToken.2.following earlier) := by
  obtain ⟨source, log, ending⟩ := lexer
  cases ending with
  | some ending => rfl
  | none => simp [following, nextToken, settled_following]

theorem nextToken_following_of {lexer after : Lexer} {answer : Answer}
    (h : lexer.nextToken = (answer, after)) :
    (lexer.following earlier).nextToken = (answer, after.following earlier) := by
  rw [nextToken_following, h]

end Lexer

namespace Session

theorem list_following (showPosition : Bool) (lexer : Lexer) (output : Output) (count : Nat) :
    list showPosition (lexer.following earlier) output count =
      ((list showPosition lexer output count).1,
        (list showPosition lexer output count).2.1.following earlier,
        (list showPosition lexer output count).2.2) := by
  induction lexer, output, count using list.induct showPosition with
  | case1 lexer output count token after hnext failure cut hwrite =>
    rw [list_of_token hnext, list_of_token (Lexer.nextToken_following_of earlier hnext), hwrite]
  | case2 lexer output count token after hnext written hwrite ih =>
    rw [list_of_token hnext, list_of_token (Lexer.nextToken_following_of earlier hnext), hwrite]
    exact ih
  | case3 lexer output count after hnext =>
    rw [list_of_end hnext, list_of_end (Lexer.nextToken_following_of earlier hnext)]
  | case4 lexer output count malformation span after hnext =>
    rw [list_of_malformed hnext, list_of_malformed (Lexer.nextToken_following_of earlier hnext)]
  | case5 lexer output count error after wellFormed hnext =>
    cases error with
    | malformed malformation span => exact absurd rfl (wellFormed malformation span)
    | unreadable failure span =>
      rw [list_of_unreadable hnext,
        list_of_unreadable (Lexer.nextToken_following_of earlier hnext)]

def following (session : Session) : Session :=
  { session with log := session.log.following earlier }

theorem run_following (session : Session) (input : Input) (output : Output) :
    (session.following earlier).run input output =
      { session.run input output with
        session := (session.run input output).session.following earlier } := by
  obtain ⟨config, log⟩ := session
  simp only [run, following]
  cases config.capacity with
  | error error => rfl
  | ok capacity =>
    have listed := list_following earlier config.showPosition
      { Lexer.ofInput input capacity log with
        source := (Source.ofInput input capacity).tell (.lexing capacity) } output 0
    simp only [Lexer.following, Lexer.ofInput] at listed ⊢
    rw [listed]

theorem config_run (session : Session) (input : Input) (output : Output) :
    (session.run input output).session.config = session.config := by
  unfold run
  cases session.config.capacity with
  | error error => rfl
  | ok capacity => rfl

/-- A session with settings that are in use is the one made for them, with its log in front. -/
theorem eq_following_of_made {session fresh : Session}
    (made : ofConfig session.config = .ok fresh) :
    session = fresh.following session.log.entries := by
  obtain ⟨config, log⟩ := session
  dsimp only [ofConfig] at made
  cases valid : config.validate with
  | error error =>
    rw [valid] at made
    cases made
  | ok done =>
    rw [valid] at made
    cases made
    simp [following, Diagnostic.Log.following]

structure Job where
  input : Input
  output : Output

/-- What a run shows. The input tells what is left of it and how often it was read, and the output
what it received and how often it was flushed. -/
structure Observation where
  result : Except RunError Outcome
  input : Input
  output : Output
  events : Array Event

def Run.observation (run : Run) : Observation :=
  ⟨run.result, run.input, run.output, run.events⟩

def serve (session : Session) (job : Job) : Observation × Session :=
  ((session.run job.input job.output).observation, (session.run job.input job.output).session)

theorem serve_of_made {session fresh : Session} (made : ofConfig session.config = .ok fresh)
    (job : Job) :
    session.serve job =
      ((fresh.serve job).1, (fresh.serve job).2.following session.log.entries) := by
  have run := run_following session.log.entries fresh job.input job.output
  rw [← eq_following_of_made made] at run
  simp [serve, run, Run.observation]

/-- Whatever a session ran before and however those runs ended, each run of it shows what the same
run of a session made for its settings shows: the result, what is left of the input and how often
it was read, what the output received and how often it was flushed, and what was told. Its log
gets the diagnostics of these runs in their order. -/
theorem runs_independent {session fresh : Session} (made : ofConfig session.config = .ok fresh)
    (jobs : List Job) :
    let served := Calls.replies serve session jobs
    served.1 = jobs.map (fun job => (fresh.run job.input job.output).observation) ∧
      served.2.log.entries = session.log.entries ++
        jobs.flatMap (fun job => (fresh.run job.input job.output).session.log.entries) ∧
      served.2.config = session.config := by
  induction jobs generalizing session with
  | nil => exact ⟨rfl, (List.append_nil _).symm, rfl⟩
  | cons job jobs ih =>
    have first := serve_of_made made job
    have config : (session.serve job).2.config = session.config := config_run _ _ _
    have made' : ofConfig (session.serve job).2.config = .ok fresh := config ▸ made
    obtain ⟨shown, logged, kept⟩ := ih made'
    refine ⟨?_, ?_, kept.trans config⟩
    · rw [Calls.replies, shown, first]
      rfl
    · rw [Calls.replies, logged, first]
      simp [following, Diagnostic.Log.following, serve, List.append_assoc]

/-- Runs that fail to write, fail to read and meet a malformed token come before one that meets
another malformed token. -/
theorem runs_independent_after_failures :
    let session : Session := ⟨{ chunkCapacity := 2, showPosition := false }, {}⟩
    let plain : Input := { items := [.data [0x78, 0x3B]] }
    let jobs : List Job := [
      { input := plain, output := { limit := some 3 } },
      { input := { items := [.data [0x78], .failure ⟨.connectionReset, "gone"⟩] }, output := {} },
      { input := { items := [.data [0x40]], limit := some 1 },
        output := { flushFailure := some ⟨.brokenPipe, "closed"⟩ } },
      { input := { items := [.data [0x78, 0x20, 0x24]] }, output := {} }]
    let served := Calls.replies serve session jobs
    ofConfig session.config = .ok session ∧
      served.1 = jobs.map (fun job => (session.run job.input job.output).observation) ∧
      served.2.log.entries =
        jobs.flatMap (fun job => (session.run job.input job.output).session.log.entries) := by
  intro session plain jobs served
  have made : ofConfig session.config = .ok session := rfl
  obtain ⟨shown, logged, -⟩ := runs_independent made jobs
  exact ⟨made, shown, logged⟩

end Session
end TokenListing
