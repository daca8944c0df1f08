import TokenListing.Proofs.Lexer.SourceCalls
import TokenListing.Proofs.Source.Consumption

/-! # Lexing comes to an end

A scan is a loop without a bound of its own. It ends because every round but the last has a
character from its source: the one that was taken back, or one that is decoded and takes a byte of
the input with it. What a token takes back is less than what it had, so there are no more tokens
than characters and no more characters than bytes.
-/
namespace TokenListing.Lexer

theorem decoded_next {source after : Source} {answer : Except Failure (Option Char)}
    (h : source.next = (answer, after)) (calls : List Source.Call) :
    source.decoded (.next :: calls) = (source.fresh .next).toList ++ after.decoded calls := by
  rw [Source.decoded, Source.reply, h]

theorem Scans.countP_next_le {state : State} {start : Span} {source after : Source}
    {asked : List Exchange} {answer : Answer} (h : Scans state start source asked answer after) :
    asked.countP (·.1 = .next) ≤
      source.held.toList.length + (source.decoded (asked.map Prod.fst)).length + 1 := by
  induction h with
  | failed | ended | settles | settlesBefore => exact Nat.le_add_left 1 _
  | advances asks _ _ ih =>
    have had := Source.held_or_fresh asks
    rw [Source.held_next asks, Option.toList_none, List.length_nil] at ih
    rw [List.countP_cons, List.map_cons, decoded_next asks, List.length_append]
    simp only [decide_true, if_true]
    omega

/-- A scan takes back no more than it had. If it begins between tokens and gives one, it had a
character more. -/
theorem Scans.held_le {state : State} {start : Span} {source after : Source} {asked : List Exchange}
    {answer : Answer} (h : Scans state start source asked answer after) {token : Token}
    (given : answer = .ok (some token)) :
    after.held.toList.length + (if state = .start then 1 else 0) ≤
      source.held.toList.length + (source.decoded (asked.map Prod.fst)).length := by
  induction h with
  | failed => cases given
  | @ended state _ _ _ asks =>
    have within : state ≠ .start := by
      rintro rfl
      cases given
    rw [Source.held_next asks, if_neg within]
    exact Nat.zero_le _
  | advances asks step _ ih =>
    have had := Source.held_or_fresh asks
    have scanned := ih given
    rw [Source.held_next asks, Option.toList_none, List.length_nil] at scanned
    rw [List.map_cons, decoded_next asks, List.length_append]
    split <;> omega
  | settles asks step =>
    have had := Source.held_or_fresh asks
    rw [List.map_cons, decoded_next asks, List.length_append, Source.held_next asks,
      Option.toList_none, List.length_nil]
    split <;> omega
  | @settlesBefore state _ _ _ char verdict asks step =>
    have had := Source.held_or_fresh asks
    have within : state ≠ .start := by
      rintro rfl
      exact onChar_start_ne_settleBefore char verdict step
    rw [if_neg within, List.map_cons, decoded_next asks, List.length_append]
    simp only [Option.toList_some, List.length_singleton]
    omega

theorem bytesAhead_reply {lexer : Lexer} (sound : lexer.source.Sound) (call : Call) :
    (lexer.reply call).2.source.Sound ∧
      (lexer.reply call).2.source.bytesAhead +
        (lexer.source.decoded (lexer.sourceCalls call)).length ≤ lexer.source.bytesAhead := by
  obtain ⟨after, leads, told⟩ := leads_reply lexer call
  obtain ⟨kept, taken⟩ := Source.bytesAhead_replies sound (lexer.sourceCalls call)
  rw [sourceCalls, leads.replied] at kept taken
  rcases told with same | ⟨event, same⟩
  · rw [same]
    exact ⟨kept, taken⟩
  · rw [same]
    exact ⟨kept.tell event, taken⟩

theorem bytesAhead_replies {lexer : Lexer} (sound : lexer.source.Sound) (calls : List Call) :
    (Calls.replies reply lexer calls).2.source.Sound ∧
      (Calls.replies reply lexer calls).2.source.bytesAhead + (lexer.decoded calls).length ≤
        lexer.source.bytesAhead := by
  induction calls generalizing lexer with
  | nil => exact ⟨sound, Nat.le_refl _⟩
  | cons call calls ih =>
    obtain ⟨next, first⟩ := bytesAhead_reply sound call
    obtain ⟨last, others⟩ := ih next
    refine ⟨last, ?_⟩
    rw [decoded, Calls.replies, List.length_append]
    dsimp only
    omega

theorem sourceCalls_of_running {lexer : Lexer} (running : lexer.ending = none) {call : Call}
    (asking : call = .nextToken ∨ call = .next) :
    lexer.sourceCalls call = (asked .start .start lexer.source).map Prod.fst :=
  congrArg (List.map Prod.fst) (exchanges_of_running running asking)

/-- A token takes at least one character with it, counting what was held before and is held after
it. -/
theorem held_nextToken_le {lexer after : Lexer} {token : Token}
    (h : lexer.nextToken = (.ok (some token), after)) :
    after.source.held.toList.length + 1 ≤
      lexer.source.held.toList.length +
        (lexer.source.decoded (lexer.sourceCalls .nextToken)).length := by
  cases ended : lexer.ending with
  | some ending =>
    have replied := congrArg Prod.fst (reply_of_ending ended .nextToken)
    rw [reply, h] at replied
    cases ending <;> cases replied
  | none =>
    cases hscan : scan .start .start lexer.source with
    | mk answer source =>
      rw [nextToken_of_scan ended hscan] at h
      injection h with same left
      subst same left
      have scans := scans_scan .start .start lexer.source
      rw [hscan] at scans
      rw [sourceCalls_of_running ended (.inl rfl)]
      exact scans.held_le rfl

/-- The replies of a lexer that yields tokens, then perhaps an error, and then nothing. -/
def yielding (tokens : List Token) (error? : Option LexError) (idle : Nat) : List Reply :=
  tokens.map (fun token => .item (some (.ok token))) ++
    error?.toList.map (fun error => .item (some (.error error))) ++ .replicate idle (.item none)

theorem yielding_replies (lexer : Lexer) (count : Nat) :
    ∃ tokens error? idle,
      (Calls.replies reply lexer (.replicate count .next)).1 = yielding tokens error? idle ∧
      tokens.length ≤
        lexer.source.held.toList.length + (lexer.decoded (.replicate count .next)).length := by
  induction count generalizing lexer with
  | zero => exact ⟨[], none, 0, rfl, Nat.zero_le _⟩
  | succ count ih =>
    rw [List.replicate_succ, Calls.replies]
    cases ended : lexer.ending with
    | some ending =>
      refine ⟨[], none, count + 1, ?_, Nat.zero_le _⟩
      rw [reply_of_ending ended, replies_of_ending ended, List.map_replicate]
      rfl
    | none =>
      have idle {ending : Ending} (finished : (lexer.reply .next).2.ending = some ending) :
          (Calls.replies reply (lexer.reply .next).2 (.replicate count .next)).1 =
            .replicate count (.item none) := by
        rw [replies_of_ending finished, List.map_replicate]
        rfl
      have settles := settles_reply ended .next
      cases hnext : lexer.nextToken with
      | mk answer after =>
        have replied : lexer.reply .next = (.item (itemOf answer), after) := by
          rw [reply, next_eq_nextToken ended, hnext]
        rw [replied] at idle settles ⊢
        cases answer with
        | error error =>
          refine ⟨[], some error, count, ?_, Nat.zero_le _⟩
          rw [idle settles.ending]
          rfl
        | ok found =>
          cases found with
          | none =>
            refine ⟨[], none, count + 1, ?_, Nat.zero_le _⟩
            rw [idle settles.ending]
            rfl
          | some token =>
            obtain ⟨tokens, error?, rest, yielded, few⟩ := ih after
            have had := held_nextToken_le hnext
            refine ⟨token :: tokens, error?, rest, ?_, ?_⟩
            · rw [yielded]
              rfl
            · rw [sourceCalls_of_running ended (.inl rfl)] at had
              rw [decoded, replied, sourceCalls_of_running ended (.inr rfl), List.length_append,
                List.length_cons]
              dsimp only
              omega

theorem length_yielding (tokens : List Token) (error? : Option LexError) (idle : Nat) :
    (yielding tokens error? idle).length ≤ tokens.length + 1 + idle := by
  have most : error?.toList.length ≤ 1 := by cases error? <;> simp
  simp only [yielding, List.length_append, List.length_map, List.length_replicate]
  omega

/-- Whatever calls came before, a call for a token returns: a finished lexer has its answer, and
otherwise the rounds of the scan come to an end, as do those of every read that is tried again. A
call that gives a token takes at least one character with it, counting what is held before and
after, and each character that is decoded takes at least one byte with it, counting what is set
aside. So a lexer yields at most as many tokens as characters are decoded and at most as many as
the input has bytes, then at most one error, and then nothing. -/
theorem lexing_ends {input : Input} {capacity : Nat} (room : 0 < capacity)
    (unblocked : input.limit ≠ some 0) (log : Diagnostic.Log) (calls : List Call) :
    let first := ofInput input capacity log
    let lexer := (Calls.replies reply first calls).2
    let fresh := lexer.source.decoded (lexer.sourceCalls .nextToken)
    ((∀ ending, lexer.ending = some ending → lexer.nextToken = (ending.answer, lexer)) ∧
      (lexer.ending = none → ∃ rounds ≤ fresh.length + 2, ∃ answer after,
        Rounds Scan.round (.ofSource lexer.source) rounds (answer, after) ∧
          lexer.nextToken = (answer, settled after.source lexer.log answer)) ∧
      ∀ (script : Input) (size : Nat), ∃ rounds ≤ script.items.length + 1,
        Rounds (Input.attempt size) script rounds (script.readPatiently size)) ∧
    (∀ token after, lexer.nextToken = (.ok (some token), after) →
      after.source.held.toList.length + 1 ≤ lexer.source.held.toList.length + fresh.length) ∧
    (∀ asked : List Source.Call,
      let source := (Calls.replies Source.reply lexer.source asked).2
      (source.reply .next).2.bytesAhead + (source.fresh .next).toList.length ≤
        source.bytesAhead) ∧
    ∀ count, ∃ tokens error? idle,
      (Calls.replies reply first (.replicate count .next)).1 = yielding tokens error? idle ∧
        tokens.length ≤ (first.decoded (.replicate count .next)).length ∧
        (first.decoded (.replicate count .next)).length ≤ input.bytesAhead ∧
        (input.bytesAhead + 1 < count → 0 < idle) := by
  intro first lexer fresh
  have start : first.source.Sound := Source.sound_ofInput room unblocked
  have sound : lexer.source.Sound := (bytesAhead_replies start calls).1
  refine ⟨⟨?_, ?_, Input.rounds_readPatiently⟩, ?_, ?_, ?_⟩
  · intro ending ended
    have replied := reply_of_ending ended .nextToken
    injection replied with answered kept
    injection answered with answered
    exact Prod.ext answered kept
  · intro running
    have scans := scans_scan .start .start lexer.source
    have few := scans.countP_next_le
    obtain ⟨last, ends, left, -⟩ := scans.rounds []
    refine ⟨_, ?_, _, last, ends, left ▸ nextToken_of_scan running rfl⟩
    have one : lexer.source.held.toList.length ≤ 1 := by cases lexer.source.held <;> simp
    rw [← sourceCalls_of_running running (.inl rfl)] at few
    show _ ≤ (lexer.source.decoded (lexer.sourceCalls .nextToken)).length + 2
    omega
  · intro token after given
    exact held_nextToken_le given
  · intro asked source
    exact (Source.bytesAhead_reply (Source.bytesAhead_replies sound asked).1 .next).2
  · intro count
    obtain ⟨tokens, error?, idle, yielded, few⟩ := yielding_replies first count
    have bounded := (bytesAhead_replies start (.replicate count .next)).2
    have ahead : first.source.bytesAhead = input.bytesAhead :=
      Source.bytesAhead_ofInput input capacity
    have free : first.source.held.toList.length = 0 := rfl
    refine ⟨tokens, error?, idle, yielded, by omega, by omega, ?_⟩
    intro many
    have length := Calls.length_replies reply first (.replicate count .next)
    have most := length_yielding tokens error? idle
    rw [yielded, List.length_replicate] at length
    omega

/-- The second token was read ahead, so its call decodes nothing. The character after it lacks two
bytes, and the byte that ends it is set aside. The input fails after that and goes on. -/
theorem lexing_ends_read_ahead :
    let input : Input := { items := [.data [0x61], .failure ⟨.interrupted, ""⟩,
      .data [0x3B, 0xE2, 0x62], .failure ⟨.timedOut, ""⟩, .data [0x63]], limit := some 1 }
    let first := ofInput input 2
    let lexer := (Calls.replies reply first [.nextToken]).2
    let fresh := lexer.source.decoded (lexer.sourceCalls .nextToken)
    let source := (Calls.replies Source.reply lexer.source [.next]).2
    0 < 2 ∧ input.limit ≠ some 0 ∧ lexer.ending = none ∧
      (∃ rounds ≤ fresh.length + 2, ∃ answer after,
        Rounds Scan.round (.ofSource lexer.source) rounds (answer, after) ∧
          lexer.nextToken = (answer, settled after.source lexer.log answer)) ∧
      lexer.nextToken.1 = .ok (some ⟨.semicolon, .text ";", ⟨1, 2⟩⟩) ∧ fresh = [] ∧
      lexer.nextToken.2.source.held.toList.length + 1 ≤
        lexer.source.held.toList.length + fresh.length ∧
      source.fresh .next = some Text.Utf8.replacement ∧
      (source.reply .next).2.stray = some 0x62 ∧
      (source.reply .next).2.bytesAhead + 1 ≤ source.bytesAhead ∧ input.bytesAhead + 1 < 7 ∧
      ∃ tokens error? idle,
        (Calls.replies reply first (.replicate 7 .next)).1 = yielding tokens error? idle ∧
          tokens.length ≤ (first.decoded (.replicate 7 .next)).length ∧ 0 < idle := by
  intro input first lexer fresh source
  have room : 0 < 2 := by decide
  have unblocked : input.limit ≠ some 0 := by decide
  have running : lexer.ending = none := by decide +kernel
  have given : lexer.nextToken.1 = .ok (some ⟨.semicolon, .text ";", ⟨1, 2⟩⟩) := by decide +kernel
  have replaced : source.fresh .next = some Text.Utf8.replacement := by decide +kernel
  have many : input.bytesAhead + 1 < 7 := by decide
  obtain ⟨⟨-, returns, -⟩, taken, progress, yields⟩ := lexing_ends room unblocked {} [.nextToken]
  have byte := progress [.next]
  obtain ⟨tokens, error?, idle, replied, few, -, ended⟩ := yields 7
  refine ⟨room, unblocked, running, returns running, given, by decide +kernel,
    taken _ _ (Prod.ext given rfl), replaced, by decide +kernel, ?_, many,
    tokens, error?, idle, replied, few, ended many⟩
  exact (congrArg (fun found : Option Char => (source.reply .next).2.bytesAhead +
    found.toList.length ≤ source.bytesAhead) replaced).mp byte

end TokenListing.Lexer
