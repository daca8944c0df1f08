import TokenListing.Diagnostic.Log
import TokenListing.Proofs.Calls
import TokenListing.Proofs.Stream.Writing

/-! # Logs under any use

Reports are the only calls that change a log, and each adds one diagnostic at its end. A rendering
reads the log alone, so neither a full output nor a failed flush leaves a trace in it. What an
output gets of a rendering is what one write of the whole text would have given it, wherever the
text is cut.
-/
namespace TokenListing.Diagnostic.Log

/-- The line end belongs to the block. -/
def block (diagnostic : Diagnostic) : String :=
  diagnostic.text ++ "\n"

theorem renderEntries_eq (entries : List Diagnostic) (output : Output) :
    renderEntries entries output =
      match output.writeAll (entries.map block) with
      | (.ok (), next) => next.flush
      | (.error failure, next) => (.error failure, next) := by
  induction entries generalizing output with
  | nil => rfl
  | cons diagnostic entries ih =>
    rw [renderEntries, List.map_cons, Output.writeAll, block]
    cases output.write (diagnostic.text ++ "\n") with
    | mk written next =>
      cases written with
      | error failure => rfl
      | ok done => exact ih next

/-- A rendering may cut the text of the log anywhere: within a block, a line or a code. -/
theorem render_eq_of_pieces (log : Log) {pieces : List String}
    (whole : String.join pieces = log.text) (output : Output) :
    log.render output =
      match output.writeAll pieces with
      | (.ok (), next) => next.flush
      | (.error failure, next) => (.error failure, next) := by
  have blocks : String.join (log.entries.map block) = log.text := rfl
  rw [render, renderEntries_eq, Output.writeAll_eq_write, Output.writeAll_eq_write, blocks, whole]

/-- How the rendering of a text ends on an output. The output gets the bytes that it has room for;
one flush comes after the last byte, and none if the output is full before. -/
structure Rendered (full : ByteArray) (output : Output) (result : Except Failure Unit)
    (after : Output) : Prop where
  received : after.received = output.received ++ full.extract 0 (output.room full.size)
  ok_iff : result = .ok () ↔ output.room full.size = full.size ∧ output.flushFailure = none
  refused : output.room full.size < full.size →
    result = .error output.refusal ∧ after.flushes = output.flushes
  flushed : output.room full.size = full.size → after.flushes = output.flushes + 1 ∧
    ∀ failure, output.flushFailure = some failure → result = .error failure

theorem rendered_render (log : Log) (output : Output) :
    Rendered log.text.toUTF8 output (log.render output).1 (log.render output).2 := by
  have whole : String.join [log.text] = log.text := by
    rw [String.join_cons, String.join_nil, String.append_empty]
  have rendered := render_eq_of_pieces log whole output
  rw [Output.writeAll_eq_write, whole] at rendered
  generalize log.text = full at rendered ⊢
  by_cases cut : output.room full.toUTF8.size < full.toUTF8.size
  · have short : output.room full.toUTF8.size ≠ full.toUTF8.size := Nat.ne_of_lt cut
    rw [Output.write_of_full cut] at rendered
    rw [rendered]
    refine ⟨rfl, ⟨?_, fun ok => absurd ok.1 short⟩, fun _ => ⟨rfl, rfl⟩,
      fun room => absurd room short⟩
    rintro ⟨⟩
  · have room := Nat.le_antisymm (output.room_le _) (Nat.le_of_not_lt cut)
    have kept : output.received ++ full.toUTF8 = output.received ++
        full.toUTF8.extract 0 (output.room full.toUTF8.size) := by
      rw [room, ByteArray.extract_zero_size]
    rw [Output.write_of_fits cut] at rendered
    rw [rendered]
    have result : (output.withText full).flush.1 = output.flushFailure.elim (.ok ()) .error :=
      (output.withText full).flush_fst
    refine ⟨kept, ?_, fun full => absurd full cut, fun _ => ⟨rfl, fun failure unflushed => ?_⟩⟩
    · refine Iff.trans ?_ (and_iff_right room).symm
      rw [result]
      cases output.flushFailure with
      | none => exact ⟨fun _ => rfl, fun _ => rfl⟩
      | some failure => exact ⟨nofun, nofun⟩
    · rw [result, unflushed]
      rfl

/-- The cut is within the code. -/
example : ((Log.report {} { message := "a", code := some .unreadable }).render
    { limit := some 8 }).2.received = "error[E1".toUTF8 := by
  decide +kernel

inductive Call where
  | emit (diagnostic : Diagnostic)
  | render (output : Output)
  | diagnostics

inductive Reply where
  | emitted
  | rendered (result : Except Failure Unit) (output : Output)
  | diagnostics (entries : List Diagnostic)

def reply (log : Log) : Call → Reply × Log
  | .emit diagnostic => (.emitted, log.report diagnostic)
  | .render output => (.rendered (log.render output).1 (log.render output).2, log)
  | .diagnostics => (.diagnostics log.entries, log)

def Call.emitted? : Call → Option Diagnostic
  | .emit diagnostic => some diagnostic
  | .render _ | .diagnostics => none

theorem entries_reply (log : Log) (call : Call) :
    (reply log call).2.entries = log.entries ++ call.emitted?.toList := by
  cases call with
  | emit diagnostic => rfl
  | render output => exact (List.append_nil _).symm
  | diagnostics => exact (List.append_nil _).symm

theorem entries_replies (log : Log) (calls : List Call) :
    (Calls.replies reply log calls).2.entries = log.entries ++ calls.filterMap Call.emitted? := by
  induction calls generalizing log with
  | nil => exact (List.append_nil _).symm
  | cons call calls ih =>
    rw [Calls.replies, ih, entries_reply, List.append_assoc]
    cases call with
    | emit diagnostic => rfl
    | render output => rfl
    | diagnostics => rfl

def Answers (emitted : List Diagnostic) : Call → Reply → Prop
  | .emit _, .emitted => True
  | .render output, .rendered result after =>
    let blocks := String.join (emitted.map fun diagnostic => diagnostic.text ++ "\n")
    Rendered blocks.toUTF8 output result after
  | .diagnostics, .diagnostics entries => entries = emitted
  | _, _ => False

theorem answers_reply (log : Log) (call : Call) :
    Answers log.entries call (reply log call).1 := by
  cases call with
  | emit diagnostic => exact trivial
  | render output => exact rendered_render log output
  | diagnostics => exact rfl

/-- A log that starts empty is an exact record of what it was told, at each point of any use of it.
Before and after every call it has the diagnostics emitted so far, in order, and their number;
there are errors if there are any. Every call in between is answered from these alone: the
diagnostics on request, and on any output a rendering of just these, cut where the output is full,
however earlier renderings ended. -/
theorem records_emitted (front back : List Call) (call : Call) :
    let log := (Calls.replies reply {} front).2
    let emitted := front.filterMap Call.emitted?
    let replies := (Calls.replies reply {} (front ++ call :: back)).1
    log.entries = emitted ∧ log.count = emitted.length ∧ (log.hasErrors ↔ emitted ≠ []) ∧
      ∃ answer, replies[front.length]? = some answer ∧ Answers emitted call answer := by
  intro log emitted replies
  have entries : log.entries = emitted := entries_replies {} front
  refine ⟨entries, congrArg List.length entries, ?_, (reply log call).1, ?_, ?_⟩
  · rw [hasErrors, entries]
    simp
  · have split : replies = (Calls.replies reply {} front).1 ++
        (reply log call).1 :: (Calls.replies reply (reply log call).2 back).1 := by
      have appended := Calls.replies_append reply {} front (call :: back)
      exact congrArg Prod.fst appended
    have place : front.length = (Calls.replies reply {} front).1.length :=
      (Calls.length_replies reply {} front).symm
    rw [split, place, List.getElem?_append_right (Nat.le_refl _), Nat.sub_self]
    rfl
  · rw [← entries]
    exact answers_reply log call

end TokenListing.Diagnostic.Log
