import TokenListing.Proofs.Lexer.Latching
import TokenListing.Proofs.Source.Position

/-! # What a lexer asks of its source

A scan asks for one character after another, and at its end it may take back the one it asked for
last. A call of a lexer leaves its source as these requests leave it, but for what is told. Since a
character is taken back right after it was handed out, the slot for it is free whenever the lexer
needs it, whatever the input brings.
-/
namespace TokenListing.Lexer

/-- The exchanges are what a source replies to their calls one after the other, and they lead to
another source. No character that they take back is refused. -/
structure Leads (source : Source) (exchanges : List Exchange) (after : Source) : Prop where
  replied : Calls.replies Source.reply source (exchanges.map Prod.fst) =
    (exchanges.map Prod.snd, after)
  granted (char : Char) (taken : Source.SlotTaken) :
    (.takeBack char, .takenBack (.error taken)) ∉ exchanges

theorem leads_nil (source : Source) : Leads source [] source :=
  ⟨rfl, by simp⟩

theorem Leads.cons {source next after : Source} {exchanges : List Exchange} {call : Source.Call}
    {told : Source.Reply} (more : Leads next exchanges after)
    (first : source.reply call = (told, next))
    (granted : ∀ taken, told ≠ .takenBack (.error taken)) :
    Leads source ((call, told) :: exchanges) after where
  replied := by rw [List.map_cons, List.map_cons, Calls.replies, first, more.replied]
  granted char taken among := by
    rcases List.mem_cons.mp among with same | among
    · exact granted taken (congrArg Prod.snd same).symm
    · exact more.granted char taken among

theorem Leads.next {source next after : Source} {exchanges : List Exchange}
    {answer : Except Failure (Option Char)} (more : Leads next exchanges after)
    (first : source.next = (answer, next)) :
    Leads source ((.next, .char answer) :: exchanges) after := by
  have replied : source.reply .next = (.char answer, next) := by rw [Source.reply, first]
  exact more.cons replied fun taken => Source.Reply.noConfusion

theorem leads_takeBack {source next : Source} {char : Char}
    (h : source.next = (.ok (some char), next)) :
    Leads next [(.takeBack char, .takenBack (.ok ()))] { next with held := some char } := by
  have replied : next.reply (.takeBack char) =
      (.takenBack (.ok ()), { next with held := some char }) := by
    rw [Source.reply, Source.takeBack, Source.held_next h]
  refine (leads_nil _).cons replied ?_
  rintro taken ⟨⟩

/-- A scan leaves its source as what it asks of it does. -/
theorem Scans.leads {state : State} {start : Span} {source after : Source} {asked : List Exchange}
    {answer : Answer} (h : Scans state start source asked answer after) :
    Leads source asked after := by
  induction h with
  | failed asks | ended asks | settles asks => exact (leads_nil _).next asks
  | advances asks _ _ ih => exact ih.next asks
  | settlesBefore asks => exact (leads_takeBack asks).next asks

/-- What a call of a lexer asks of its source. -/
def exchanges (lexer : Lexer) : Call → List Exchange
  | .nextToken | .next =>
    if lexer.isFinished then [] else (Scan.ofSource lexer.source).run.2.exchanges.reverse
  | .position | .isFinished => []

def sourceCalls (lexer : Lexer) (call : Call) : List Source.Call :=
  (lexer.exchanges call).map Prod.fst

/-- The characters that the source of a lexer decodes over its calls. -/
def decoded (lexer : Lexer) : List Call → List Char
  | [] => []
  | call :: calls =>
    lexer.source.decoded (lexer.sourceCalls call) ++ (lexer.reply call).2.decoded calls

theorem settled_source (source : Source) (log : Diagnostic.Log) (answer : Answer) :
    ∃ event, (settled source log answer).source = source.tell event := by
  match answer with
  | .ok (some token) => exact ⟨_, rfl⟩
  | .ok none => exact ⟨_, rfl⟩
  | .error error => exact ⟨_, rfl⟩

theorem exchanges_of_running {lexer : Lexer} (running : lexer.ending = none) {call : Call}
    (asking : call = .nextToken ∨ call = .next) :
    lexer.exchanges call = asked .start .start lexer.source := by
  have unfinished : lexer.isFinished = false := by rw [isFinished, running]; rfl
  rcases asking with rfl | rfl
  · rw [exchanges, unfinished, if_neg Bool.false_ne_true]
    rfl
  · rw [exchanges, unfinished, if_neg Bool.false_ne_true]
    rfl

/-- A call leaves the source of a lexer as what it asks of it does, and something may be told. -/
theorem leads_reply (lexer : Lexer) (call : Call) :
    ∃ after, Leads lexer.source (lexer.exchanges call) after ∧
      ((lexer.reply call).2.source = after ∨
        ∃ event, (lexer.reply call).2.source = after.tell event) := by
  have unasked (none : lexer.exchanges call = []) (same : (lexer.reply call).2 = lexer) :
      ∃ after, Leads lexer.source (lexer.exchanges call) after ∧
        ((lexer.reply call).2.source = after ∨
          ∃ event, (lexer.reply call).2.source = after.tell event) := by
    rw [none, same]
    exact ⟨lexer.source, leads_nil _, .inl rfl⟩
  cases ended : lexer.ending with
  | some ending =>
    apply unasked _ (congrArg Prod.snd (reply_of_ending ended call))
    cases call <;> simp [exchanges, isFinished, ended]
  | none =>
    have scanned (asking : call = .nextToken ∨ call = .next) :
        (lexer.reply call).2 = settled (scan .start .start lexer.source).2 lexer.log
          (scan .start .start lexer.source).1 := by
      rcases asking with rfl | rfl
      · exact congrArg Prod.snd (nextToken_of_scan ended rfl)
      · exact congrArg Prod.snd (next_of_scan ended rfl)
    have told := settled_source (scan .start .start lexer.source).2 lexer.log
      (scan .start .start lexer.source).1
    have leads := (scans_scan .start .start lexer.source).leads
    cases call with
    | nextToken =>
      rw [scanned (.inl rfl), exchanges_of_running ended (.inl rfl)]
      exact ⟨_, leads, .inr told⟩
    | next =>
      rw [scanned (.inr rfl), exchanges_of_running ended (.inr rfl)]
      exact ⟨_, leads, .inr told⟩
    | position => exact unasked rfl rfl
    | isFinished => exact unasked rfl rfl

theorem decoded_left {lexer : Lexer} {text : List Char} (h : lexer.source.Reading text)
    (calls : List Call) : ∃ rest, text = lexer.decoded calls ++ rest ∧
      (Calls.replies reply lexer calls).2.source.Reading rest := by
  induction calls generalizing lexer text with
  | nil => exact ⟨text, rfl, h⟩
  | cons call calls ih =>
    obtain ⟨after, leads, told⟩ := leads_reply lexer call
    obtain ⟨rest, rfl, reading, -⟩ := h.left (lexer.sourceCalls call)
    rw [sourceCalls, leads.replied] at reading
    have left : (lexer.reply call).2.source.Reading rest := by
      rcases told with same | ⟨event, same⟩
      · rw [same]
        exact reading
      · rw [same]
        exact reading.tell event
    obtain ⟨last, rfl, further⟩ := ih left
    exact ⟨last, (List.append_assoc _ _ _).symm, further⟩

end TokenListing.Lexer
