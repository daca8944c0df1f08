import TokenListing.Text.Utf8

/-! # Decoding inverts encoding

A sequence of full width decodes to a character exactly if it is the encoding of that character,
as the encoding of strings has it. The reference decoder takes its characters from there, and
`decode` agrees with it on all bytes.
-/
namespace TokenListing.Text.Utf8

theorem isContinuation_iff (byte : UInt8) :
    isContinuation byte = true ↔ 0x80 ≤ byte.toNat ∧ byte.toNat < 0xC0 := by
  have all : ∀ n : Fin 256, isContinuation (UInt8.ofNat n) = true ↔
      0x80 ≤ n.val ∧ n.val < 0xC0 := by decide +kernel
  have this := all ⟨byte.toNat, byte.toNat_lt⟩
  rwa [UInt8.ofNat_toNat] at this

theorem width_eq_some_iff (lead : UInt8) (n : Nat) : width lead = some n ↔
    (n = 1 ∧ lead.toNat ≤ 0x7F) ∨ (n = 2 ∧ 0xC2 ≤ lead.toNat ∧ lead.toNat ≤ 0xDF) ∨
      (n = 3 ∧ 0xE0 ≤ lead.toNat ∧ lead.toNat ≤ 0xEF) ∨
        (n = 4 ∧ 0xF0 ≤ lead.toNat ∧ lead.toNat ≤ 0xF4) := by
  unfold width
  simp only [UInt8.le_iff_toNat_le, UInt8.reduceToNat]
  split
  · simp only [Option.some.injEq]
    omega
  · split
    · simp only [Option.some.injEq]
      omega
    · split
      · simp only [Option.some.injEq]
        omega
      · split
        · simp only [Option.some.injEq]
          omega
        · simp only [reduceCtorEq, false_iff]
          omega

/-- Bytes that have the shape of a sequence, whatever they encode. -/
structure Shaped (lead : UInt8) (tail : List UInt8) : Prop where
  full : width lead = some (tail.length + 1)
  continued : ∀ byte ∈ tail, isContinuation byte = true

theorem Shaped.cases {lead : UInt8} {tail : List UInt8} (h : Shaped lead tail) :
    (tail = [] ∧ lead.toNat ≤ 0x7F) ∨
    (∃ b, tail = [b] ∧ 0xC2 ≤ lead.toNat ∧ lead.toNat ≤ 0xDF) ∨
    (∃ b c, tail = [b, c] ∧ 0xE0 ≤ lead.toNat ∧ lead.toNat ≤ 0xEF) ∨
    (∃ b c d, tail = [b, c, d] ∧ 0xF0 ≤ lead.toNat ∧ lead.toNat ≤ 0xF4) := by
  have w := (width_eq_some_iff lead _).mp h.full
  match tail, w with
  | [], w => exact Or.inl ⟨rfl, by simp at w; exact w⟩
  | [b], w => exact Or.inr (Or.inl ⟨b, rfl, by simp at w; exact w⟩)
  | [b, c], w => exact Or.inr (Or.inr (Or.inl ⟨b, c, rfl, by simp at w; exact w⟩))
  | [b, c, d], w => exact Or.inr (Or.inr (Or.inr ⟨b, c, d, rfl, by simp at w; exact w⟩))
  | _ :: _ :: _ :: _ :: _, w =>
    simp only [List.length_cons] at w
    omega

theorem ofNat_eq (byte : UInt8) {n : Nat} (h : n % 256 = byte.toNat) : UInt8.ofNat n = byte := by
  apply UInt8.toNat_inj.mp
  rw [UInt8.toNat_ofNat']
  exact h

/-- A sequence encodes its code point if that needs the sequence's width. -/
theorem utf8EncodeChar_codePoint {lead : UInt8} {tail : List UInt8} (h : Shaped lead tail)
    (needed : least (tail.length + 1) ≤ codePoint lead tail)
    (valid : (codePoint lead tail).isValidChar) :
    String.utf8EncodeChar (Char.ofNatAux (codePoint lead tail) valid) = lead :: tail := by
  have value : (Char.ofNatAux (codePoint lead tail) valid).val.toNat = codePoint lead tail := rfl
  have bits (byte : UInt8) (hb : byte ∈ tail) : 0x80 ≤ byte.toNat ∧ byte.toNat < 0xC0 :=
    (isContinuation_iff byte).mp (h.continued byte hb)
  unfold String.utf8EncodeChar
  dsimp only
  rw [value]
  rcases h.cases with ⟨rfl, w⟩ | ⟨b, rfl, w⟩ | ⟨b, c, rfl, w⟩ | ⟨b, c, d, rfl, w⟩
  · have code : codePoint lead [] = lead.toNat % 128 := rfl
    rw [code, Nat.mod_eq_of_lt (by omega), if_pos w, UInt8.ofNat_toNat]
  · have hb := bits b (by simp)
    have code : codePoint lead [b] = lead.toNat % 32 * 64 + b.toNat % 64 := rfl
    rw [code] at needed ⊢
    change 0x80 ≤ _ at needed
    rw [if_neg (by omega), if_pos (by omega), ofNat_eq lead (by omega),
      ofNat_eq b (by omega)]
  · have hb := bits b (by simp)
    have hc := bits c (by simp)
    have code : codePoint lead [b, c] =
      (lead.toNat % 16 * 64 + b.toNat % 64) * 64 + c.toNat % 64 := rfl
    rw [code] at needed ⊢
    change 0x800 ≤ _ at needed
    rw [if_neg (by omega), if_neg (by omega), if_pos (by omega), ofNat_eq lead (by omega),
      ofNat_eq b (by omega), ofNat_eq c (by omega)]
  · have hb := bits b (by simp)
    have hc := bits c (by simp)
    have hd := bits d (by simp)
    have code : codePoint lead [b, c, d] =
      ((lead.toNat % 8 * 64 + b.toNat % 64) * 64 + c.toNat % 64) * 64 + d.toNat % 64 := rfl
    rw [code] at needed ⊢
    change 0x10000 ≤ _ at needed
    rw [if_neg (by omega), if_neg (by omega), if_neg (by omega), ofNat_eq lead (by omega),
      ofNat_eq b (by omega), ofNat_eq c (by omega),
      ofNat_eq d (by omega)]

/-- An encoding has the shape of a sequence, and its code point is that of the character. -/
theorem shaped_utf8EncodeChar (c : Char) : ∃ lead tail, String.utf8EncodeChar c = lead :: tail ∧
    Shaped lead tail ∧ codePoint lead tail = c.toNat ∧ least (tail.length + 1) ≤ c.toNat := by
  have bound : c.toNat < 0x110000 := by
    have valid := c.valid
    simp only [UInt32.isValidChar, Nat.isValidChar] at valid
    change c.val.toNat < _
    omega
  unfold String.utf8EncodeChar
  dsimp only
  rw [show c.val.toNat = c.toNat from rfl]
  -- Each width needs the numbers of its bytes only, so the bytes are generalised away.
  have byte (n : Nat) : (UInt8.ofNat n).toNat = n % 2 ^ 8 := UInt8.toNat_ofNat'
  have follower (n : Nat) : isContinuation (UInt8.ofNat (n % 0x40 + 0x80)) = true := by
    rw [isContinuation_iff, byte]
    omega
  by_cases one : c.toNat ≤ 0x7F
  · rw [if_pos one]
    refine ⟨_, [], rfl, ⟨?_, by simp⟩, ?_, Nat.zero_le _⟩
    · rw [width_eq_some_iff, byte]
      exact Or.inl ⟨rfl, by omega⟩
    · change (UInt8.ofNat c.toNat).toNat % 128 = _
      rw [byte]
      omega
  · rw [if_neg one]
    by_cases two : c.toNat ≤ 0x7FF
    · rw [if_pos two]
      refine ⟨_, [_], rfl, ⟨?_, List.forall_mem_singleton.mpr (follower _)⟩, ?_, ?_⟩
      · rw [width_eq_some_iff, byte]
        exact Or.inr (Or.inl ⟨rfl, by omega⟩)
      · change (UInt8.ofNat _).toNat % 32 * 64 + (UInt8.ofNat _).toNat % 64 = _
        rw [byte, byte]
        omega
      · change 0x80 ≤ _
        omega
    · rw [if_neg two]
      by_cases three : c.toNat ≤ 0xFFFF
      · rw [if_pos three]
        refine ⟨_, [_, _], rfl, ⟨?_, List.forall_mem_cons.mpr ⟨follower _,
          List.forall_mem_singleton.mpr (follower _)⟩⟩, ?_, ?_⟩
        · rw [width_eq_some_iff, byte]
          exact Or.inr (Or.inr (Or.inl ⟨rfl, by omega⟩))
        · change ((UInt8.ofNat _).toNat % 16 * 64 + (UInt8.ofNat _).toNat % 64) * 64 +
            (UInt8.ofNat _).toNat % 64 = _
          rw [byte, byte, byte]
          omega
        · change 0x800 ≤ _
          omega
      · rw [if_neg three]
        refine ⟨_, [_, _, _], rfl, ⟨?_, List.forall_mem_cons.mpr ⟨follower _,
          List.forall_mem_cons.mpr ⟨follower _, List.forall_mem_singleton.mpr (follower _)⟩⟩⟩,
          ?_, ?_⟩
        · rw [width_eq_some_iff, byte]
          exact Or.inr (Or.inr (Or.inr ⟨rfl, by omega⟩))
        · change (((UInt8.ofNat _).toNat % 8 * 64 + (UInt8.ofNat _).toNat % 64) * 64 +
            (UInt8.ofNat _).toNat % 64) * 64 + (UInt8.ofNat _).toNat % 64 = _
          rw [byte, byte, byte, byte]
          omega
        · change 0x10000 ≤ _
          omega

theorem scalar_of_utf8EncodeChar {lead : UInt8} {tail : List UInt8} {c : Char}
    (h : String.utf8EncodeChar c = lead :: tail) : scalar lead tail = c := by
  obtain ⟨lead', tail', spelled, -, code, needed⟩ := shaped_utf8EncodeChar c
  rw [h] at spelled
  cases spelled
  have valid : (codePoint lead tail).isValidChar := code ▸ c.valid
  unfold scalar
  dsimp only
  rw [dif_pos ⟨code ▸ needed, valid⟩]
  apply Char.ext
  apply UInt32.toNat_inj.mp
  exact code

theorem scalar_eq_replacement {lead : UInt8} {tail : List UInt8} (h : Shaped lead tail)
    (nothing : ∀ c, String.utf8EncodeChar c ≠ lead :: tail) : scalar lead tail = replacement := by
  unfold scalar
  dsimp only
  by_cases found : least (tail.length + 1) ≤ codePoint lead tail ∧
      (codePoint lead tail).isValidChar
  · exact absurd (utf8EncodeChar_codePoint h found.1 found.2) (nothing _)
  · exact dif_neg found

/-- No encoding is a proper part of a sequence at its front. -/
theorem utf8EncodeChar_eq_of_append {lead : UInt8} {tail more : List UInt8} {c : Char}
    (h : Shaped lead tail) (spelled : lead :: tail = String.utf8EncodeChar c ++ more) :
    String.utf8EncodeChar c = lead :: tail := by
  obtain ⟨lead', tail', encoding, shaped, -, -⟩ := shaped_utf8EncodeChar c
  rw [encoding, List.cons_append] at spelled
  injection spelled with same rest
  subst same
  have widths : tail.length + 1 = tail'.length + 1 :=
    Option.some.inj (h.full.symm.trans shaped.full)
  have lengths := congrArg List.length rest
  rw [List.length_append] at lengths
  have empty : more = [] := List.length_eq_zero_iff.mp (by omega)
  rw [encoding, rest, empty, List.append_nil]

def encoded (bytes : List UInt8) : Char :=
  (bytes.toByteArray.utf8DecodeChar? 0).getD replacement

theorem scalar_eq_encoded {lead : UInt8} {tail : List UInt8} (h : Shaped lead tail) :
    scalar lead tail = encoded (lead :: tail) := by
  cases hd : (lead :: tail).toByteArray.utf8DecodeChar? 0 with
  | some c =>
    have front := ByteArray.eq_of_utf8DecodeChar?_eq_some hd
    have spelled := congrArg (fun bytes => bytes.data.toList) front
    simp only [ByteArray.data_append, Array.toList_append, List.toList_data_toByteArray]
      at spelled
    rw [scalar_of_utf8EncodeChar (utf8EncodeChar_eq_of_append h spelled), encoded, hd]
    rfl
  | none =>
    rw [encoded, hd]
    apply scalar_eq_replacement h
    intro c spelled
    have found := ByteArray.utf8DecodeChar?_utf8EncodeChar_append (b := .empty) (c := c)
    rw [spelled, ByteArray.append_empty, hd] at found
    cases found

/-- The reference decoder. A byte that leads no sequence is one replacement character. Any other
takes the continuation bytes after it up to the width of its sequence, and they are together the
character that they encode, or one replacement character. -/
def reference : List UInt8 → List Char
  | [] => []
  | lead :: rest =>
    match width lead with
    | none => replacement :: reference rest
    | some width =>
      let tail := (rest.take (width - 1)).takeWhile isContinuation
      (if tail.length + 1 = width then encoded (lead :: tail) else replacement) ::
        reference (rest.drop tail.length)
termination_by bytes => bytes.length
decreasing_by
  · exact Nat.lt_succ_self _
  · rw [List.length_drop, List.length_cons]
    omega

theorem decode_eq_reference (bytes : List UInt8) : decode bytes = reference bytes := by
  fun_induction reference bytes with
  | case1 => rw [decode]
  | case2 lead rest hw ih => simp [decode, decodeFirst, hw, ih]
  | case3 lead rest width hw tail ih =>
    have first : decodeFirst lead rest = (if tail.length + 1 = width then scalar lead tail
        else replacement, rest.drop tail.length) := by
      simp only [decodeFirst, hw, continuation]
      rfl
    rw [decode, first, ih]
    congr 1
    by_cases full : tail.length + 1 = width
    · have shaped : Shaped lead tail :=
        ⟨full ▸ hw, List.all_eq_true.mp List.all_takeWhile⟩
      rw [if_pos full, if_pos full, scalar_eq_encoded shaped]
    · rw [if_neg full, if_neg full]

theorem continuation_append {count : Nat} {tail rest : List UInt8}
    (continued : ∀ byte ∈ tail, isContinuation byte = true) (few : tail.length ≤ count)
    (ended : tail.length < count → ∀ byte, rest.head? = some byte → isContinuation byte = false) :
    continuation count (tail ++ rest) = (tail, rest) := by
  have nothing : (rest.take (count - tail.length)).takeWhile isContinuation = [] := by
    by_cases short : tail.length < count
    · cases rest with
      | nil => rw [List.take_nil, List.takeWhile_nil]
      | cons byte rest =>
        obtain ⟨left, missing⟩ := Nat.exists_eq_succ_of_ne_zero (Nat.sub_ne_zero_of_lt short)
        rw [missing, List.take_succ_cons, List.takeWhile_cons, ended short byte rfl]
        rfl
    · rw [Nat.sub_eq_zero_of_le (Nat.le_of_not_lt short), List.take_zero, List.takeWhile_nil]
  simp only [continuation]
  rw [List.take_append, List.take_of_length_le few, List.takeWhile_append_of_pos continued, nothing,
    List.append_nil, List.drop_left]

theorem decodeFirst_of_shaped {lead : UInt8} {tail : List UInt8} (shaped : Shaped lead tail)
    (rest : List UInt8) : decodeFirst lead (tail ++ rest) = (scalar lead tail, rest) := by
  have taken : continuation tail.length (tail ++ rest) = (tail, rest) :=
    continuation_append shaped.continued (Nat.le_refl _) fun short => absurd short (Nat.lt_irrefl _)
  simp only [decodeFirst, shaped.full, Nat.add_sub_cancel, taken, if_true]

theorem decode_utf8EncodeChar_append (c : Char) (rest : List UInt8) :
    decode (String.utf8EncodeChar c ++ rest) = c :: decode rest := by
  obtain ⟨lead, tail, spelled, shaped, -⟩ := shaped_utf8EncodeChar c
  rw [spelled, List.cons_append, decode, decodeFirst_of_shaped shaped,
    scalar_of_utf8EncodeChar spelled]

def encode (text : List Char) : List UInt8 :=
  text.flatMap String.utf8EncodeChar

theorem encode_cons (c : Char) (text : List Char) :
    encode (c :: text) = String.utf8EncodeChar c ++ encode text :=
  List.flatMap_cons

theorem decode_encode_append (front : List Char) (bytes : List UInt8) :
    decode (encode front ++ bytes) = front ++ decode bytes := by
  induction front with
  | nil => rfl
  | cons c front ih =>
    rw [encode_cons, List.append_assoc, decode_utf8EncodeChar_append, ih, List.cons_append]

/-- Decoding undoes encoding. -/
theorem decode_flatMap_utf8EncodeChar (text : List Char) :
    decode (text.flatMap String.utf8EncodeChar) = text := by
  have read := decode_encode_append text []
  rwa [List.append_nil, decode, List.append_nil] at read

theorem toList_toUTF8 (text : String) : text.toUTF8.data.toList = encode text.toList := by
  have bytes : text.toUTF8 = (encode text.toList).toByteArray := String.utf8Encode_toList.symm
  rw [bytes, List.data_toByteArray]

theorem Shaped.high {lead : UInt8} {tail : List UInt8} (h : Shaped lead tail) (some : tail ≠ [])
    {byte : UInt8} (mem : byte ∈ lead :: tail) : 0x80 ≤ byte.toNat := by
  rcases List.mem_cons.mp mem with rfl | mem
  · rcases h.cases with ⟨none, -⟩ | ⟨b, -, bounds⟩ | ⟨b, c, -, bounds⟩ | ⟨b, c, d, -, bounds⟩
    · exact absurd none some
    all_goals omega
  · exact ((isContinuation_iff byte).mp (h.continued byte mem)).1

theorem count_newline_utf8EncodeChar (c : Char) :
    (String.utf8EncodeChar c).count 0x0A = if c = '\n' then 1 else 0 := by
  by_cases newline : c = '\n'
  · rw [newline]
    decide
  rw [if_neg newline, List.count_eq_zero]
  intro mem
  obtain ⟨lead, tail, spelled, shaped, code, -⟩ := shaped_utf8EncodeChar c
  rw [spelled] at mem
  by_cases single : tail = []
  · subst single
    have byte : (0x0A : UInt8) = lead := List.mem_singleton.mp mem
    rw [← byte] at code
    exact newline (Char.toNat_inj.mp code.symm)
  · exact absurd (shaped.high single mem) (by decide)

theorem count_newline_encode (text : List Char) :
    (encode text).count 0x0A = text.count '\n' := by
  induction text with
  | nil => rfl
  | cons c text ih =>
    rw [encode_cons, List.count_append, ih, count_newline_utf8EncodeChar, List.count_cons,
      Nat.add_comm]
    simp

end TokenListing.Text.Utf8
