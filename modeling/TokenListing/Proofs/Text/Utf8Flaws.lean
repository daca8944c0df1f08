import TokenListing.Proofs.Text.Utf8Encoding

/-! # Malformed sequences

Bytes are the encoding of a text, or the encoding of a text and then a malformed sequence. The
decoder reads that text, and in place of the malformed sequence the replacement character.
-/
namespace TokenListing.Text.Utf8

/-- Bytes that begin with a malformed sequence, by what is wrong with it. A lead byte that could
only begin an overlong sequence of two bytes leads none. -/
inductive Flawed : List UInt8 → Prop where
  | stray {lead : UInt8} {rest : List UInt8} (continues : isContinuation lead = true) :
      Flawed (lead :: rest)
  | lead {lead : UInt8} {rest : List UInt8} (begins : isContinuation lead = false)
      (nothing : width lead = none) : Flawed (lead :: rest)
  | truncated {lead : UInt8} {count : Nat} {tail rest : List UInt8}
      (announced : width lead = some (count + 1)) (short : tail.length < count)
      (continued : ∀ byte ∈ tail, isContinuation byte = true)
      (ended : ∀ byte, rest.head? = some byte → isContinuation byte = false) :
      Flawed (lead :: (tail ++ rest))
  | overlong {lead : UInt8} {tail rest : List UInt8} (shaped : Shaped lead tail)
      (needless : codePoint lead tail < least (tail.length + 1)) : Flawed (lead :: (tail ++ rest))
  | surrogate {lead : UInt8} {tail rest : List UInt8} (shaped : Shaped lead tail)
      (first : 0xD800 ≤ codePoint lead tail) (last : codePoint lead tail ≤ 0xDFFF) :
      Flawed (lead :: (tail ++ rest))
  | beyond {lead : UInt8} {tail rest : List UInt8} (shaped : Shaped lead tail)
      (above : 0x10FFFF < codePoint lead tail) : Flawed (lead :: (tail ++ rest))

theorem encode_append (front back : List Char) :
    encode (front ++ back) = encode front ++ encode back :=
  List.flatMap_append

theorem exists_continuation (count : Nat) (bytes : List UInt8) :
    ∃ tail rest, bytes = tail ++ rest ∧ (∀ byte ∈ tail, isContinuation byte = true) ∧
      tail.length ≤ count ∧
      (tail.length < count → ∀ byte, rest.head? = some byte → isContinuation byte = false) := by
  induction count generalizing bytes with
  | zero => exact ⟨[], bytes, rfl, by simp, Nat.le_refl _, fun few => absurd few (Nat.lt_irrefl _)⟩
  | succ count ih =>
    cases bytes with
    | nil => exact ⟨[], [], rfl, by simp, Nat.zero_le _, by simp⟩
    | cons first bytes =>
      by_cases continues : isContinuation first = true
      · obtain ⟨tail, rest, rfl, continued, few, ended⟩ := ih bytes
        refine ⟨first :: tail, rest, rfl, List.forall_mem_cons.mpr ⟨continues, continued⟩, ?_, ?_⟩
        · exact Nat.succ_le_succ few
        · exact fun short => ended (Nat.lt_of_succ_lt_succ short)
      · refine ⟨[], first :: bytes, rfl, by simp, Nat.zero_le _, ?_⟩
        rintro - byte ⟨⟩
        exact (Bool.not_eq_true _).mp continues

theorem scalar_of_unneeded {lead : UInt8} {tail : List UInt8}
    (h : ¬ (least (tail.length + 1) ≤ codePoint lead tail ∧ (codePoint lead tail).isValidChar)) :
    scalar lead tail = replacement :=
  dif_neg h

theorem width_of_isContinuation {lead : UInt8} (h : isContinuation lead = true) :
    width lead = none := by
  have bits := (isContinuation_iff lead).mp h
  cases announced : width lead with
  | none => rfl
  | some count =>
    have cases := (width_eq_some_iff lead count).mp announced
    omega

theorem decodeFirst_of_width_none {lead : UInt8} (h : width lead = none) (rest : List UInt8) :
    decodeFirst lead rest = (replacement, rest) := by
  simp only [decodeFirst, h]

theorem Flawed.decode {bad : List UInt8} (h : Flawed bad) :
    ∃ rest, Utf8.decode bad = replacement :: Utf8.decode rest := by
  have replaced {lead : UInt8} {bytes : List UInt8}
      (first : (decodeFirst lead bytes).1 = replacement) :
      ∃ rest, Utf8.decode (lead :: bytes) = replacement :: Utf8.decode rest := by
    rw [Utf8.decode, first]
    exact ⟨_, rfl⟩
  cases h with
  | stray continues =>
    apply replaced
    rw [decodeFirst_of_width_none (width_of_isContinuation continues)]
  | lead begins nothing =>
    apply replaced
    rw [decodeFirst_of_width_none nothing]
  | @truncated lead count tail rest announced short continued ended =>
    have taken : continuation count (tail ++ rest) = (tail, rest) :=
      continuation_append continued (Nat.le_of_lt short) fun _ => ended
    have part : tail.length + 1 ≠ count + 1 := Nat.ne_of_lt (Nat.succ_lt_succ short)
    apply replaced
    simp only [decodeFirst, announced, Nat.add_sub_cancel, taken, if_neg part]
  | overlong shaped needless =>
    apply replaced
    rw [decodeFirst_of_shaped shaped]
    exact scalar_of_unneeded fun needed => absurd needed.1 (Nat.not_le_of_lt needless)
  | surrogate shaped first last =>
    apply replaced
    rw [decodeFirst_of_shaped shaped]
    refine scalar_of_unneeded fun valid => ?_
    rcases valid.2 with below | ⟨above, -⟩
    · exact absurd below (Nat.not_lt_of_le first)
    · exact absurd above (Nat.not_lt_of_le last)
  | beyond shaped above =>
    apply replaced
    rw [decodeFirst_of_shaped shaped]
    refine scalar_of_unneeded fun valid => ?_
    rcases valid.2 with below | ⟨-, below⟩
    · omega
    · omega

theorem Flawed.ne_encoding {bad : List UInt8} (h : Flawed bad) (c : Char) (more : List UInt8) :
    bad ≠ String.utf8EncodeChar c ++ more := by
  obtain ⟨lead, tail, encoding, shaped, code, needed⟩ := shaped_utf8EncodeChar c
  rw [encoding, List.cons_append]
  intro same
  have valid : c.toNat.isValidChar := c.valid
  -- Another sequence of full width at the same place has the same bytes and encodes `c` too.
  have full {first : UInt8} {others rest : List UInt8} (other : Shaped first others)
      (spelled : first :: (others ++ rest) = lead :: (tail ++ more)) :
      codePoint first others = c.toNat ∧ least (others.length + 1) ≤ c.toNat := by
    injection spelled with begun rest
    subst begun
    have lengths := Option.some.inj (other.full.symm.trans shaped.full)
    obtain ⟨rfl, -⟩ := List.append_inj rest (Nat.succ.inj lengths)
    exact ⟨code, needed⟩
  cases h with
  | stray continues =>
    injection same with begun rest
    rw [begun] at continues
    cases shaped.full.symm.trans (width_of_isContinuation continues)
  | lead begins nothing =>
    injection same with begun rest
    rw [begun] at nothing
    cases shaped.full.symm.trans nothing
  | @truncated first count others rest announced short continued ended =>
    injection same with begun spelled
    rw [begun, shaped.full] at announced
    have lengths : tail.length = count := Nat.succ.inj (Option.some.inj announced)
    rcases List.append_eq_append_iff.mp spelled with ⟨left, rfl, rfl⟩ | ⟨left, rfl, -⟩
    · rw [List.length_append] at lengths
      obtain ⟨byte, left, rfl⟩ := List.exists_cons_of_length_pos (by omega : 0 < left.length)
      have continues := shaped.continued byte (List.mem_append_right _ List.mem_cons_self)
      cases continues.symm.trans (ended byte rfl)
    · rw [List.length_append] at short
      omega
  | overlong other needless =>
    obtain ⟨same, least⟩ := full other same
    omega
  | surrogate other first last =>
    obtain ⟨same, -⟩ := full other same
    rcases valid with below | ⟨above, -⟩
    · omega
    · omega
  | beyond other above =>
    obtain ⟨same, -⟩ := full other same
    rcases valid with below | ⟨-, below⟩
    · omega
    · omega

/-- What begins with no malformed sequence begins with the encoding of a character. -/
theorem flawed_or_encoding (lead : UInt8) (bytes : List UInt8) :
    Flawed (lead :: bytes) ∨ ∃ c rest, lead :: bytes = String.utf8EncodeChar c ++ rest := by
  cases announced : width lead with
  | none =>
    cases continues : isContinuation lead with
    | true => exact .inl (.stray continues)
    | false => exact .inl (.lead continues announced)
  | some count =>
    obtain ⟨missing, rfl⟩ : ∃ missing, count = missing + 1 := by
      have widths := (width_eq_some_iff lead count).mp announced
      exact ⟨count - 1, by omega⟩
    obtain ⟨tail, rest, rfl, continued, few, ended⟩ := exists_continuation missing bytes
    by_cases short : tail.length < missing
    · exact .inl (.truncated announced short continued (ended short))
    · obtain rfl : tail.length = missing := Nat.le_antisymm few (Nat.le_of_not_lt short)
      have shaped : Shaped lead tail := ⟨announced, continued⟩
      by_cases needed : least (tail.length + 1) ≤ codePoint lead tail
      · by_cases valid : (codePoint lead tail).isValidChar
        · exact .inr ⟨_, rest, by rw [utf8EncodeChar_codePoint shaped needed valid]; rfl⟩
        · left
          by_cases above : 0x10FFFF < codePoint lead tail
          · exact .beyond shaped above
          · unfold Nat.isValidChar at valid
            exact .surrogate shaped (by omega) (by omega)
      · exact .inl (.overlong shaped (Nat.lt_of_not_le needed))

/-- Bytes are the encoding of a text, and a malformed sequence may follow it. -/
theorem exists_encode (bytes : List UInt8) :
    ∃ front bad, bytes = encode front ++ bad ∧ (bad = [] ∨ Flawed bad) := by
  -- The induction is on the length, since a character takes as many bytes as its encoding has.
  induction hlength : bytes.length using Nat.strongRecOn generalizing bytes with
  | ind length ih =>
    cases bytes with
    | nil => exact ⟨[], [], rfl, .inl rfl⟩
    | cons lead bytes =>
      rcases flawed_or_encoding lead bytes with flawed | ⟨c, rest, spelled⟩
      · exact ⟨[], _, rfl, .inr flawed⟩
      · have shorter : rest.length < length := by
          obtain ⟨first, tail, encoding, -⟩ := shaped_utf8EncodeChar c
          rw [← hlength, spelled, encoding, List.cons_append, List.length_cons, List.length_append]
          omega
        obtain ⟨front, bad, rfl, ended⟩ := ih rest.length shorter rest rfl
        refine ⟨c :: front, bad, ?_, ended⟩
        rw [spelled, encode_cons, List.append_assoc]

theorem Flawed.decode_after {bad : List UInt8} (h : Flawed bad) (front : List Char) :
    ∃ back, Utf8.decode (encode front ++ bad) = front ++ replacement :: back := by
  obtain ⟨rest, replaced⟩ := h.decode
  rw [decode_encode_append, replaced]
  exact ⟨_, rfl⟩

theorem encode_decode {bytes : List UInt8} (absent : replacement ∉ Utf8.decode bytes) :
    encode (Utf8.decode bytes) = bytes := by
  obtain ⟨front, bad, rfl, rfl | flawed⟩ := exists_encode bytes
  · rw [List.append_nil]
    exact congrArg encode (decode_flatMap_utf8EncodeChar front)
  · obtain ⟨back, replaced⟩ := flawed.decode_after front
    rw [replaced] at absent
    exact absurd (List.mem_append_right _ List.mem_cons_self) absent

theorem Flawed.encode_append_ne {bad : List UInt8} (h : Flawed bad) (front text : List Char) :
    encode front ++ bad ≠ encode text := by
  intro same
  have read := congrArg Utf8.decode same
  rw [decode_encode_append, ← List.append_nil (encode text), decode_encode_append] at read
  have whole : text = front ++ Utf8.decode bad := by
    rw [read, Utf8.decode, List.append_nil]
  rw [whole, encode_append] at same
  have spelled := List.append_cancel_left same
  obtain ⟨rest, replaced⟩ := h.decode
  rw [replaced, encode_cons] at spelled
  exact h.ne_encoding _ _ spelled

theorem isValidUTF8_iff (bytes : List UInt8) :
    bytes.toByteArray.IsValidUTF8 ↔ ∃ text, bytes = encode text := by
  constructor
  · rintro ⟨text, same⟩
    exact ⟨text, List.toByteArray_inj.mp same⟩
  · rintro ⟨text, rfl⟩
    exact ⟨text, rfl⟩

/-- Bytes are no well-formed UTF-8 if and only if a malformed sequence follows the encoding of a
text. -/
theorem not_isValidUTF8_iff (bytes : List UInt8) : ¬ bytes.toByteArray.IsValidUTF8 ↔
    ∃ front bad, bytes = encode front ++ bad ∧ Flawed bad := by
  rw [isValidUTF8_iff]
  constructor
  · intro invalid
    obtain ⟨front, bad, spelled, rfl | flawed⟩ := exists_encode bytes
    · exact absurd ⟨front, spelled.trans (List.append_nil _)⟩ invalid
    · exact ⟨front, bad, spelled, flawed⟩
  · rintro ⟨front, bad, rfl, flawed⟩ ⟨text, same⟩
    exact flawed.encode_append_ne front text same

end TokenListing.Text.Utf8
