import Courier.Proofs.Http.Chunks

/-!
# Whole answers

What a client makes of the bytes that a server sends before it closes the connection.  It finds a
whole answer just where one is spelled.  An answer whose end is announced is not whole before its
last byte, wherever it is cut off.
-/

namespace Courier.Http

variable {bytes rest text body : Bytes} {framing : Framing} {head : Head} {status n : Nat}

/-! ## Bodies -/

theorem bodySpells_length_iff :
    BodySpells (.length n) body text ↔ body.length = n ∧ text = body := by
  constructor
  · intro hbody
    cases hbody
    exact ⟨rfl, rfl⟩
  · rintro ⟨rfl, rfl⟩
    exact .length text

theorem bodySpells_chunked_iff : BodySpells .chunked body text ↔ ChunksSpell 0 body text := by
  constructor
  · intro hbody
    cases hbody
    assumption
  · exact .chunked

/-- Bodies mark their end where it is announced. -/
theorem bodySpells_marksEnd (framing : Framing) : MarksEnd (BodySpells framing) := by
  intro v w s t q r hs ht heq
  cases framing with
  | empty =>
    cases hs
    cases ht
    exact ⟨rfl, rfl⟩
  | chunked =>
    rw [bodySpells_chunked_iff] at hs ht
    exact Chunk.chunksSpell_marksEnd 0 hs ht heq
  | length n =>
    obtain ⟨hv, rfl⟩ := bodySpells_length_iff.mp hs
    obtain ⟨hw, rfl⟩ := bodySpells_length_iff.mp ht
    have hsame := (List.append_inj heq (hv.trans hw.symm)).1
    exact ⟨hsame, hsame⟩
  | untilClose => cases hs

/-- The bytes after a head start with a body whose end is announced, or are the body. -/
theorem Framing.body?_eq_some_iff : framing.body? bytes = some body ↔
    (∃ text rest, BodySpells framing body text ∧ bytes = text ++ rest) ∨
      framing = .untilClose ∧ bytes = body := by
  cases framing with
  | empty =>
    constructor
    · intro hbody
      obtain rfl := Option.some.inj hbody
      exact .inl ⟨[], bytes, .empty, rfl⟩
    · rintro (⟨_, _, ⟨⟩, -⟩ | ⟨hframing, -⟩)
      · rfl
      · contradiction
  | chunked =>
    simp only [body?, Chunk.read_eq_some_iff, bodySpells_chunked_iff, reduceCtorEq, false_and,
      or_false]
  | length n =>
    rw [body?, Option.ite_none_left_eq_some, Option.some.injEq]
    simp only [bodySpells_length_iff, reduceCtorEq, false_and, or_false]
    constructor
    · rintro ⟨hlength, rfl⟩
      exact ⟨bytes.take n, bytes.drop n, ⟨List.length_take_of_le (Nat.not_lt.mp hlength), rfl⟩,
        (List.take_append_drop n bytes).symm⟩
    · rintro ⟨_, rest, ⟨rfl, rfl⟩, rfl⟩
      exact ⟨by simp, List.take_left⟩
  | untilClose =>
    constructor
    · exact fun hbody ↦ .inr ⟨rfl, Option.some.inj hbody⟩
    · rintro (⟨_, _, ⟨⟩, -⟩ | ⟨-, rfl⟩)
      rfl

namespace Response

/-! ## What is read -/

theorem read_of_body (hhead : FinalSpells head text) (hframing : Framing.ofHead head = some framing)
    (hbody : framing.body? rest = some body) : read (text ++ rest) = .whole head.status body := by
  simp only [read, Head.final_eq_some_iff.mpr ⟨text, hhead, rfl⟩, hframing, hbody]

theorem read_of_no_body (hhead : FinalSpells head text)
    (hframing : Framing.ofHead head = some framing) (hbody : framing.body? rest = none) :
    read (text ++ rest) = .cutShort head.status := by
  simp only [read, Head.final_eq_some_iff.mpr ⟨text, hhead, rfl⟩, hframing, hbody]

theorem read_eq_whole_iff : read bytes = .whole status body ↔ WholeSpells status body bytes := by
  constructor
  · intro hread
    unfold read at hread
    split at hread
    · contradiction
    · next head rest hfinal =>
      obtain ⟨text, hhead, rfl⟩ := Head.final_eq_some_iff.mp hfinal
      split at hread
      · contradiction
      · next framing hframing =>
        split at hread
        · contradiction
        · next found hbody =>
          obtain ⟨rfl, rfl⟩ := Response.whole.inj hread
          rcases Framing.body?_eq_some_iff.mp hbody with ⟨first, surplus, hfirst, rfl⟩ | ⟨rfl, rfl⟩
          · rw [← List.append_assoc]
            exact .announced (.announced hhead hframing hfirst) surplus
          · exact .untilClose hhead hframing rest
  · intro hwhole
    cases hwhole with
    | announced hanswer rest =>
      obtain ⟨hhead, hframing, hbody⟩ := hanswer
      rw [List.append_assoc]
      exact read_of_body hhead hframing
        (Framing.body?_eq_some_iff.mpr (.inl ⟨_, rest, hbody, rfl⟩))
    | untilClose hhead hframing body => exact read_of_body hhead hframing rfl

theorem headArrives_iff : HeadArrives bytes ↔ read bytes ≠ .noHead := by
  constructor
  · rintro ⟨hhead, hframing, rest⟩
    rename_i framing _
    cases hbody : framing.body? rest with
    | none =>
      rw [read_of_no_body hhead hframing hbody]
      simp
    | some body =>
      rw [read_of_body hhead hframing hbody]
      simp
  · intro hread
    unfold read at hread
    split at hread
    · contradiction
    · next head rest hfinal =>
      obtain ⟨text, hhead, rfl⟩ := Head.final_eq_some_iff.mp hfinal
      split at hread
      · contradiction
      · next framing hframing => exact .head hhead hframing rest

/-! ## Answers cut off -/

/-- An answer whose end is announced is not whole as long as a byte is missing. -/
theorem not_wholeSpells_of_cut {missing : Bytes} (hanswer : AnswerSpells status body text)
    (hcut : text = bytes ++ missing) (hmissing : missing ≠ []) (other : Nat) (part : Bytes) :
    ¬ WholeSpells other part bytes := by
  intro hwhole
  obtain ⟨hhead, hframing, hbody⟩ := hanswer
  cases hwhole with
  | announced hfound surplus =>
    obtain ⟨hhead', hframing', hbody'⟩ := hfound
    simp only [List.append_assoc] at hcut
    obtain ⟨rfl, rfl⟩ := Head.finalSpells_marksEnd hhead hhead' hcut
    obtain rfl := Option.some.inj (hframing.symm.trans hframing')
    have hrest := List.append_cancel_left hcut
    have hend := (bodySpells_marksEnd _ hbody hbody' ((List.append_nil _).trans hrest)).2
    rw [hend, List.self_eq_append_right, List.append_eq_nil_iff] at hrest
    exact hmissing hrest.2
  | untilClose hhead' hframing' =>
    rw [List.append_assoc] at hcut
    obtain ⟨rfl, rfl⟩ := Head.finalSpells_marksEnd hhead hhead' hcut
    obtain rfl := Option.some.inj (hframing.symm.trans hframing')
    cases hbody

end Response

end Courier.Http
