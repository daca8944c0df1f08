import TokenListing.Proofs.Text.Utf8Flaws

/-! # Reading resumes

Bytes that begin with no continuation byte are read in the same way whatever stands before them.
A sequence that is unfinished there is given up, and it takes nothing of what follows.
-/
namespace TokenListing.Text.Utf8

/-- Nothing at the front continues a sequence begun before. -/
def Resumes (bytes : List UInt8) : Prop :=
  ∀ byte, bytes.head? = some byte → isContinuation byte = false

theorem resumes_nil : Resumes [] := by
  simp [Resumes]

theorem resumes_cons {byte : UInt8} {bytes : List UInt8} :
    Resumes (byte :: bytes) ↔ isContinuation byte = false := by
  simp [Resumes]

theorem isContinuation_of_width {lead : UInt8} {count : Nat} (announced : width lead = some count) :
    isContinuation lead = false := by
  cases continues : isContinuation lead with
  | false => rfl
  | true => cases announced.symm.trans (width_of_isContinuation continues)

theorem resumes_encode (text : List Char) : Resumes (encode text) := by
  cases text with
  | nil => exact resumes_nil
  | cons c text =>
    obtain ⟨lead, tail, spelled, shaped, -⟩ := shaped_utf8EncodeChar c
    rw [encode_cons, spelled, List.cons_append, resumes_cons]
    exact isContinuation_of_width shaped.full

theorem Resumes.append {bytes later : List UInt8} (h : Resumes bytes) (next : Resumes later) :
    Resumes (bytes ++ later) := by
  cases bytes with
  | nil => exact next
  | cons byte bytes => exact resumes_cons.mpr (resumes_cons.mp h)

variable {later : List UInt8}

theorem continuation_append_of_resumes (resumes : Resumes later) (count : Nat)
    (bytes : List UInt8) :
    continuation count (bytes ++ later) =
      ((continuation count bytes).1, (continuation count bytes).2 ++ later) := by
  obtain ⟨tail, rest, rfl, continued, few, ended⟩ := exists_continuation count bytes
  have ended' (short : tail.length < count) : Resumes (rest ++ later) :=
    Resumes.append (ended short) resumes
  rw [continuation_append continued few ended, List.append_assoc,
    continuation_append continued few ended']

theorem decodeFirst_append_of_resumes (resumes : Resumes later) (lead : UInt8)
    (bytes : List UInt8) :
    decodeFirst lead (bytes ++ later) =
      ((decodeFirst lead bytes).1, (decodeFirst lead bytes).2 ++ later) := by
  cases announced : width lead with
  | none => simp [decodeFirst, announced]
  | some width => simp [decodeFirst, announced, continuation_append_of_resumes resumes]

/-- What stands before `later` is read as if it were all, and then `later` is. -/
theorem decode_append_of_resumes (resumes : Resumes later) (bytes : List UInt8) :
    decode (bytes ++ later) = decode bytes ++ decode later := by
  fun_induction decode bytes with
  | case1 => simp
  | case2 lead rest ih =>
    rw [List.cons_append, decode, decodeFirst_append_of_resumes resumes, ih, List.cons_append]

theorem decode_between (front back : List Char) (bytes : List UInt8) :
    decode (encode front ++ bytes ++ encode back) = front ++ decode bytes ++ back := by
  have last : decode (encode back) = back := decode_flatMap_utf8EncodeChar back
  rw [List.append_assoc, decode_encode_append, decode_append_of_resumes (resumes_encode back), last,
    List.append_assoc]

end TokenListing.Text.Utf8
