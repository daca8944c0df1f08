import TokenListing.Proofs.Source.Draining

/-! # Draining undoes encoding

A source over the UTF-8 encoding of a text is drained of that text, wherever chunks and reads cut
the sequences of its characters. Bytes that are no encoding show it by a replacement character, so
without one the text tells the bytes.
-/
namespace TokenListing.Source
open Text.Utf8

variable {source : Source}

theorem FreshOver.drained_toUTF8 {text : String}
    (fresh : source.FreshOver text.toUTF8.data.toList) :
    source.drained.text = text.toList ∧ source.drained.failure = none := by
  rw [toList_toUTF8] at fresh
  obtain ⟨drained, ended⟩ := fresh.drained
  exact ⟨drained.trans (decode_flatMap_utf8EncodeChar text.toList), ended⟩

theorem FreshOver.toUTF8_drained {bytes : List UInt8} (fresh : source.FreshOver bytes)
    (absent : replacement ∉ source.drained.text) :
    (String.ofList source.drained.text).toUTF8.data.toList = bytes := by
  rw [fresh.drained.1] at absent ⊢
  rw [toList_toUTF8, String.toList_ofList]
  exact encode_decode absent

/-- A source over the encoding of a string is drained of exactly that string, with any chunks and
reads. If a source over any bytes is drained of a text without a replacement character, that text
is encoded by exactly these bytes. So no other bytes are drained to that text. -/
theorem drained_inverts_encoding :
    (∀ (text : String) (source : Source), source.FreshOver text.toUTF8.data.toList →
      source.drained.text = text.toList ∧ source.drained.failure = none) ∧
    (∀ (bytes : List UInt8) (source : Source), source.FreshOver bytes →
      replacement ∉ source.drained.text →
      (String.ofList source.drained.text).toUTF8.data.toList = bytes ∧
        source.drained.failure = none) ∧
    ∀ (bytes bytes' : List UInt8) (source source' : Source), source.FreshOver bytes →
      source'.FreshOver bytes' → replacement ∉ source.drained.text →
      source.drained.text = source'.drained.text → bytes = bytes' := by
  refine ⟨fun text source fresh => fresh.drained_toUTF8, ?_, ?_⟩
  · intro bytes source fresh absent
    exact ⟨fresh.toUTF8_drained absent, fresh.drained.2⟩
  · intro bytes bytes' source source' fresh fresh' absent same
    rw [← fresh.toUTF8_drained absent, ← fresh'.toUTF8_drained (same ▸ absent), same]

/-- The first and last characters of every width, in chunks of three bytes and reads of at most
two, with an interruption in the last sequence. -/
theorem drained_inverts_encoding_bounds :
    let text := "\x7f\u0080\u07ff\u0800\ud7ff\ue000\uffff" ++
      String.ofList [Char.ofNat 0x10000, Char.ofNat 0x10FFFF]
    let bytes : List UInt8 := [0x7F, 0xC2, 0x80, 0xDF, 0xBF, 0xE0, 0xA0, 0x80, 0xED, 0x9F, 0xBF,
      0xEE, 0x80, 0x80, 0xEF, 0xBF, 0xBF, 0xF0, 0x90, 0x80, 0x80, 0xF4, 0x8F, 0xBF, 0xBF]
    let source := ofInput { items := [.data (bytes.take 23), .failure ⟨.interrupted, ""⟩,
      .data (bytes.drop 23), .pause], limit := some 2 } 3
    let source' := ofInput (.ofBytes bytes) 1
    source.FreshOver text.toUTF8.data.toList ∧ source.drained.text = text.toList ∧
      source.FreshOver bytes ∧ source'.FreshOver text.toUTF8.data.toList ∧
      replacement ∉ source.drained.text ∧
      (String.ofList source.drained.text).toUTF8.data.toList = bytes ∧
      source.drained.text = source'.drained.text ∧ bytes = text.toUTF8.data.toList := by
  intro text bytes source source'
  have spelled : text.toUTF8.data.toList = bytes := by decide +kernel
  have fresh : source.FreshOver bytes := ⟨_, 3, by decide, by decide, rfl, rfl⟩
  have fresh' : source'.FreshOver text.toUTF8.data.toList := by
    rw [spelled]
    exact ⟨_, 1, by decide, by decide, rfl, rfl⟩
  have drained := (drained_inverts_encoding.1 text source (spelled ▸ fresh)).1
  have drained' := (drained_inverts_encoding.1 text source' fresh').1
  have same : source.drained.text = source'.drained.text := drained.trans drained'.symm
  have absent : replacement ∉ source.drained.text := by
    rw [drained]
    decide +kernel
  exact ⟨spelled ▸ fresh, drained, fresh, fresh', absent,
    (drained_inverts_encoding.2.1 bytes source fresh absent).1, same,
    drained_inverts_encoding.2.2 bytes _ source source' fresh fresh' absent same⟩

end TokenListing.Source
