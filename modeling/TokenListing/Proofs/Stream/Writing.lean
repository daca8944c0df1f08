import TokenListing.Stream.Output

/-! # Writing piece by piece

An output that is given one text after another keeps what it would have kept of all of them at
once, and it fails where that write would have failed. So whoever writes until a write fails has
written a prefix of the whole text, and its length is the room there was.
-/
namespace TokenListing.Output

def withText (output : Output) (text : String) : Output :=
  { output with received := output.received ++ text.toUTF8 }

theorem room_le (output : Output) (size : Nat) : output.room size ≤ size := by
  unfold room
  cases output.limit with
  | none => exact Nat.le_refl _
  | some limit => exact Nat.min_le_left _ _

theorem room_add_of_lt {output : Output} {size : Nat} (more : Nat)
    (full : output.room size < size) : output.room (size + more) = output.room size := by
  unfold room at full ⊢
  cases hlimit : output.limit with
  | none =>
    simp only [hlimit] at full
    omega
  | some limit =>
    simp only [hlimit] at full ⊢
    omega

theorem room_add_of_fits {output : Output} {text : String} (more : Nat)
    (fits : ¬ output.room text.toUTF8.size < text.toUTF8.size) :
    output.room (text.toUTF8.size + more) =
      text.toUTF8.size + (output.withText text).room more := by
  have received : (output.withText text).received.size =
    output.received.size + text.toUTF8.size := ByteArray.size_append
  have limit : (output.withText text).limit = output.limit := rfl
  unfold room at fits ⊢
  rw [limit, received]
  cases hlimit : output.limit with
  | none => rfl
  | some limit =>
    simp only [hlimit] at fits ⊢
    omega

theorem write_of_full {output : Output} {text : String}
    (full : output.room text.toUTF8.size < text.toUTF8.size) :
    output.write text = (.error output.refusal, (output.write text).2) := by
  unfold write
  dsimp only
  rw [if_pos full]

theorem write_of_fits {output : Output} {text : String}
    (fits : ¬ output.room text.toUTF8.size < text.toUTF8.size) :
    output.write text = (.ok (), output.withText text) := by
  have room := Nat.le_antisymm (output.room_le _) (Nat.le_of_not_lt fits)
  unfold write
  dsimp only
  rw [if_neg fits, room, ByteArray.extract_zero_size]
  rfl

theorem write_empty (output : Output) : output.write "" = (.ok (), output) := by
  have fits : ¬ output.room "".toUTF8.size < "".toUTF8.size := Nat.not_lt_zero _
  have same : output.received ++ "".toUTF8 = output.received := ByteArray.append_empty
  rw [write_of_fits fits, withText, same]

theorem extract_of_le {bytes : ByteArray} {size : Nat} (h : bytes.size ≤ size) :
    bytes.extract 0 size = bytes := by
  apply ByteArray.ext
  rw [ByteArray.data_extract]
  exact Array.extract_eq_self_of_le h

/-- A text in two parts is written part by part; the second is not begun unless the first
fits. -/
theorem write_append (output : Output) (first second : String) :
    output.write (first ++ second) =
      match output.write first with
      | (.ok (), next) => next.write second
      | (.error failure, next) => (.error failure, next) := by
  have bytes : (first ++ second).toUTF8 = first.toUTF8 ++ second.toUTF8 :=
    String.toByteArray_append
  have size : (first ++ second).toUTF8.size = first.toUTF8.size + second.toUTF8.size := by
    rw [bytes, ByteArray.size_append]
  by_cases full : output.room first.toUTF8.size < first.toUTF8.size
  · -- The cut is within the first text, so the second counts for nothing.
    have room := room_add_of_lt second.toUTF8.size full
    have more : output.room first.toUTF8.size < first.toUTF8.size + second.toUTF8.size :=
      Nat.lt_add_right _ full
    have nothing : output.room first.toUTF8.size - first.toUTF8.size = 0 := by omega
    have cut : (first ++ second).toUTF8.extract 0 (output.room first.toUTF8.size) =
        first.toUTF8.extract 0 (output.room first.toUTF8.size) := by
      rw [bytes, ByteArray.extract_append, nothing, Nat.zero_sub, ByteArray.extract_same,
        ByteArray.append_empty]
    rw [write_of_full full]
    simp only [write, size, room, cut, if_pos more]
  · have room := room_add_of_fits second.toUTF8.size full
    have cut (count : Nat) : (first ++ second).toUTF8.extract 0 (first.toUTF8.size + count) =
        first.toUTF8 ++ second.toUTF8.extract 0 count := by
      rw [bytes, ByteArray.extract_append, extract_of_le (Nat.le_add_right _ _), Nat.zero_sub,
        Nat.add_sub_cancel_left]
    rw [write_of_fits full]
    simp only [write, size, room, cut, Nat.add_lt_add_iff_left, ← ByteArray.append_assoc]
    rfl

def writeAll : List String → Output → Except Failure Unit × Output
  | [], output => (.ok (), output)
  | text :: texts, output =>
    match output.write text with
    | (.ok (), next) => writeAll texts next
    | (.error failure, next) => (.error failure, next)

/-- However a text is cut into pieces, the output keeps the same of it. -/
theorem writeAll_eq_write (pieces : List String) (output : Output) :
    output.writeAll pieces = output.write (String.join pieces) := by
  induction pieces generalizing output with
  | nil => exact output.write_empty.symm
  | cons piece pieces ih =>
    rw [writeAll, String.join_cons, write_append]
    cases output.write piece with
    | mk written next =>
      cases written with
      | error failure => rfl
      | ok done => exact ih next

theorem flush_fst (output : Output) :
    output.flush.1 = output.flushFailure.elim (.ok ()) .error := by
  unfold flush
  cases output.flushFailure with
  | none => rfl
  | some failure => rfl

end TokenListing.Output
