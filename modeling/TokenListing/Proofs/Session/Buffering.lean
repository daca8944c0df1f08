import TokenListing.Proofs.Lexer.Buffering
import TokenListing.Proofs.Session.Lines

/-! # Chunks and cuts are not to be observed

Lexers over sources that are alike are listed alike. So the capacity of the chunks and how an
input is cut into reads show nowhere but in the refills that are told of.
-/
namespace TokenListing

namespace Lexer

variable {earlier earlier' : List Event}

theorem Twins.nextToken_eq {a b after : Lexer} {answer : Answer} (h : Twins earlier earlier' a b)
    (ha : a.nextToken = (answer, after)) :
    ∃ other, b.nextToken = (answer, other) ∧ Twins earlier earlier' after other := by
  obtain ⟨same, next⟩ := h.nextToken
  rw [ha] at same next
  exact ⟨b.nextToken.2, Prod.ext same.symm rfl, next⟩

theorem twins_ofInput {a b : Input} {m n : Nat} (same : a.signals = b.signals) (hm : 0 < m)
    (hn : 0 < n) (ha : a.limit ≠ some 0) (hb : b.limit ≠ some 0) (log : Diagnostic.Log) :
    Twins [] [] (ofInput a m log) (ofInput b n log) :=
  ⟨Source.alike_ofInput same hm hn ha hb, rfl, rfl⟩

end Lexer

namespace Session

theorem twins_list {earlier earlier' : List Event} {a b : Lexer}
    (h : Lexer.Twins earlier earlier' a b) (showPosition : Bool) (output : Output) (count : Nat) :
    (list showPosition a output count).1 = (list showPosition b output count).1 ∧
      Lexer.Twins earlier earlier' (list showPosition a output count).2.1
        (list showPosition b output count).2.1 ∧
      (list showPosition a output count).2.2 = (list showPosition b output count).2.2 := by
  induction a, output, count using list.induct showPosition generalizing b with
  | case1 a output count token after hnext failure cut hwrite =>
    obtain ⟨other, found, twins⟩ := h.nextToken_eq hnext
    rw [list_of_token hnext, list_of_token found, hwrite]
    exact ⟨rfl, twins, rfl⟩
  | case2 a output count token after hnext written hwrite ih =>
    obtain ⟨other, found, twins⟩ := h.nextToken_eq hnext
    rw [list_of_token hnext, list_of_token found, hwrite]
    exact ih twins
  | case3 a output count after hnext =>
    obtain ⟨other, found, twins⟩ := h.nextToken_eq hnext
    rw [list_of_end hnext, list_of_end found]
    exact ⟨rfl, twins, rfl⟩
  | case4 a output count malformation span after hnext =>
    obtain ⟨other, found, twins⟩ := h.nextToken_eq hnext
    rw [list_of_malformed hnext, list_of_malformed found]
    exact ⟨rfl, twins, rfl⟩
  | case5 a output count error after wellFormed hnext =>
    obtain ⟨other, found, twins⟩ := h.nextToken_eq hnext
    cases error with
    | malformed malformation span => exact absurd rfl (wellFormed malformation span)
    | unreadable failure span =>
      rw [list_of_unreadable hnext, list_of_unreadable found]
      exact ⟨rfl, twins, rfl⟩

def withCapacity (session : Session) (capacity : Nat) : Session :=
  { session with config := { session.config with chunkCapacity := capacity } }

theorem run_withCapacity (session : Session) {capacity : Nat} (room : 0 < capacity)
    (input : Input) (output : Output) :
    let lexer := Lexer.ofInput input capacity session.log
    let listed := list session.config.showPosition
      { lexer with source := lexer.source.tell (.lexing capacity) } output 0
    ((session.withCapacity capacity).run input output).result = listed.1 ∧
      ((session.withCapacity capacity).run input output).output = listed.2.2 ∧
      ((session.withCapacity capacity).run input output).session.log = listed.2.1.log := by
  have valid : (session.withCapacity capacity).config.capacity = .ok capacity := by
    simp only [Config.capacity, withCapacity]
    exact if_neg (Nat.ne_of_gt room)
  obtain ⟨result, written, kept⟩ := run_of_capacity valid input output
  exact ⟨result, written, congrArg Session.log kept⟩

theorem twins_lexing {a b : Input} {m n : Nat} (same : a.signals = b.signals) (hm : 0 < m)
    (hn : 0 < n) (ha : a.limit ≠ some 0) (hb : b.limit ≠ some 0) (log : Diagnostic.Log) :
    let left := Lexer.ofInput a m log
    let right := Lexer.ofInput b n log
    Lexer.Twins [.lexing m] [.lexing n]
      { left with source := left.source.tell (.lexing m) }
      { right with source := right.source.tell (.lexing n) } := by
  have alike := Source.alike_ofInput same hm hn ha hb
  exact ⟨⟨alike.left.tell _, alike.right.tell _, alike.feed, [], rfl, rfl⟩, rfl, rfl⟩

/-- Inputs with the same signals cannot be told apart, whatever the chunks and the reads: every
sequence of calls of a lexer gets the same replies, leaves the same log and is told of by the same
events but for the refills, and every run of a session gives the same result, the same output and
the same log. -/
theorem buffering_unobservable {a b : Input} {m n : Nat} (same : a.signals = b.signals)
    (hm : 0 < m) (hn : 0 < n) (ha : a.limit ≠ some 0) (hb : b.limit ≠ some 0) :
    (∀ (log : Diagnostic.Log) (calls : List Lexer.Call),
      let left := Calls.replies Lexer.reply (Lexer.ofInput a m log) calls
      let right := Calls.replies Lexer.reply (Lexer.ofInput b n log) calls
      left.1 = right.1 ∧ left.2.log = right.2.log ∧ left.2.source.told = right.2.source.told) ∧
    (∀ (session : Session) (output : Output),
      let left := (session.withCapacity m).run a output
      let right := (session.withCapacity n).run b output
      left.result = right.result ∧ left.output = right.output ∧
        left.session.log = right.session.log) := by
  constructor
  · intro log calls
    obtain ⟨replies, twins⟩ := Lexer.bisimulation_twins.replies
      (Lexer.twins_ofInput same hm hn ha hb log) calls
    obtain ⟨news, told, told'⟩ := twins.source.told
    exact ⟨replies, twins.log, told.trans told'.symm⟩
  · intro session output
    obtain ⟨result, output', log⟩ := run_withCapacity session hm a output
    obtain ⟨result', output'', log'⟩ := run_withCapacity session hn b output
    obtain ⟨same_result, twins, same_output⟩ := twins_list
      (twins_lexing same hm hn ha hb session.log) session.config.showPosition output 0
    refine ⟨?_, ?_, ?_⟩
    · rw [result, result', same_result]
    · rw [output', output'', same_output]
    · rw [log, log', twins.log]

/-- A sequence of two bytes is cut in one input and not in the other, and both fail after it. -/
theorem buffering_unobservable_cut_sequence :
    let gone : Input.Item := .failure ⟨.connectionReset, "gone"⟩
    let a : Input := { items := [.data [0x78, 0xC3], .failure ⟨.interrupted, ""⟩, .data [0xA9],
      .pause, gone, .data [0x3B]], limit := some 1 }
    let b : Input := { items := [.data [], .data [0x78, 0xC3, 0xA9], .pause, gone,
      .data [0x3B]] }
    let calls : List Lexer.Call := [.next, .position, .nextToken, .next, .isFinished]
    let session : Session := ⟨{ showPosition := false }, {}⟩
    let output : Output := { limit := some 3 }
    a.signals = b.signals ∧ 0 < 1 ∧ 0 < 10 ∧ a.limit ≠ some 0 ∧ b.limit ≠ some 0 ∧
      (Calls.replies Lexer.reply (Lexer.ofInput a 1) calls).1 =
        (Calls.replies Lexer.reply (Lexer.ofInput b 10) calls).1 ∧
      ((session.withCapacity 1).run a output).result =
        ((session.withCapacity 10).run b output).result := by
  intro gone a b calls session output
  have same : a.signals = b.signals := rfl
  have room : 0 < 1 ∧ 0 < 10 := by decide
  have unblocked : a.limit ≠ some 0 ∧ b.limit ≠ some 0 := by decide
  obtain ⟨replies, runs⟩ :=
    buffering_unobservable same room.1 room.2 unblocked.1 unblocked.2
  exact ⟨same, room.1, room.2, unblocked.1, unblocked.2, (replies {} calls).1,
    (runs session output).1⟩

end Session
end TokenListing
