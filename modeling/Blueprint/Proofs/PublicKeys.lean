import Mathlib
import Blueprint.Grammar.Prose
import Blueprint.Proofs.EnteredTexts
import Blueprint.Proofs.NameGrammar
import Blueprint.Proofs.NameWords

/-!
# Public keys

The body of an SSH key is base64: characters of the alphabet, then at most two signs of
padding. The check on keys counts padding towards the length that it asks for, and takes off
any number of signs before it looks at the characters. So it accepts the bodies that have as
much padding as one likes, and of these just those are base64 that have no more than two signs.
-/

namespace Blueprint

namespace Grammar

variable {body : String} {data : List Char} {padding : Nat} {c : Char}

/-- Characters of the base64 alphabet, then signs of padding. -/
structure IsPadded (body : String) (data : List Char) (padding : Nat) : Prop where
  parts : body.toList = data ++ List.replicate padding '='
  alphabet : ∀ c ∈ data, c.isAlphanum = true ∨ c = '+' ∨ c = '/'

/-- Base64 that is long enough for the body of a key. -/
def IsEncodedBody (body : String) : Prop :=
  ∃ data padding, IsPadded body data padding ∧ padding ≤ 2 ∧ 62 ≤ data.length

theorem isBase64_iff : isBase64 c = true ↔ c.isAlphanum = true ∨ c = '+' ∨ c = '/' := by
  simp [isBase64, Ascii.isAlnum_eq_isAlphanum, or_assoc]

namespace IsPadded

theorem sign_not_mem (h : IsPadded body data padding) : '=' ∉ data := by
  intro hmem
  have hsign := h.alphabet '=' hmem
  revert hsign
  decide

theorem count_eq (h : IsPadded body data padding) : body.toList.count '=' = padding := by
  rw [h.parts, List.count_append, List.count_eq_zero_of_not_mem h.sign_not_mem,
    List.count_replicate_self, Nat.zero_add]

theorem le_of_mem (h : IsPadded body data padding) (hc : c ∈ body.toList) : c ≤ '\x7f' := by
  rw [h.parts, List.mem_append] at hc
  rcases hc with hdata | hsign
  · rcases h.alphabet c hdata with halnum | rfl | rfl
    · exact le_of_inner (by simp [LabelStyle.inner, Ascii.isAlnum_eq_isAlphanum, halnum])
    · decide
    · decide
  · rw [List.eq_of_mem_replicate hsign]
    decide

theorem utf8ByteSize_eq (h : IsPadded body data padding) :
    body.utf8ByteSize = data.length + padding := by
  rw [utf8ByteSize_of_ascii fun _ => h.le_of_mem, h.parts, List.length_append,
    List.length_replicate]

theorem dropEndWhile_eq (h : IsPadded body data padding) :
    Text.dropEndWhile (· = '=') body.toList = data := by
  rw [h.parts]
  refine Text.dropEndWhile_append_of_kept (fun c hc => ?_) fun c hc => ?_
  · exact decide_eq_false (ne_of_mem_of_not_mem (List.mem_of_getLast? hc) h.sign_not_mem)
  · exact decide_eq_true (List.eq_of_mem_replicate hc)

end IsPadded

theorem isKeyBody_iff :
    isKeyBody body = true ↔
      ∃ data padding, IsPadded body data padding ∧ minKeySize ≤ data.length + padding := by
  rw [isKeyBody, Bool.and_eq_true, decide_eq_true_eq, List.all_eq_true]
  constructor
  · rintro ⟨hsize, hdata⟩
    obtain ⟨signs, hparts, hsigns⟩ := Text.exists_dropEndWhile (· = '=') body.toList
    have hpadded : IsPadded body (Text.dropEndWhile (· = '=') body.toList) signs.length := by
      constructor
      · rw [← List.eq_replicate_length.mpr fun c hc => of_decide_eq_true (hsigns c hc)]
        exact hparts
      · exact fun c hc => isBase64_iff.mp (hdata c hc)
    exact ⟨_, _, hpadded, hpadded.utf8ByteSize_eq ▸ hsize⟩
  · rintro ⟨data, padding, hpadded, hsize⟩
    rw [hpadded.utf8ByteSize_eq, hpadded.dropEndWhile_eq]
    exact ⟨hsize, fun c hc => isBase64_iff.mpr (hpadded.alphabet c hc)⟩

/-- A body of the length that is asked for is base64 if it has no more padding than that has. -/
theorem IsPadded.isEncodedBody_iff (h : IsPadded body data padding)
    (hsize : minKeySize ≤ data.length + padding) : IsEncodedBody body ↔ padding ≤ 2 := by
  constructor
  · rintro ⟨other, signs, hother, hsigns, _⟩
    rwa [← h.count_eq, hother.count_eq]
  · intro hpadding
    have hdata : 62 ≤ data.length := by
      rw [minKeySize] at hsize
      omega
    exact ⟨data, padding, h, hpadding, hdata⟩

/-- A key is accepted exactly if it has one of the algorithms and a body of base64 characters
and any number of padding signs, 64 in all. Such a body is base64 exactly if at most two of
them are padding. -/
theorem key_bodies_encoded_iff (s : String) :
    isPublicKey s = true ↔
      ∃ algorithm body rest data padding, Text.words s = algorithm :: body :: rest ∧
        algorithm ∈ sshAlgorithms ∧ IsPadded body data padding ∧ 64 ≤ data.length + padding ∧
        (IsEncodedBody body ↔ padding ≤ 2) := by
  unfold isPublicKey
  constructor
  · intro h
    split at h
    · next algorithm body rest hwords =>
        obtain ⟨halgorithm, hbody⟩ := Bool.and_eq_true_iff.mp h
        obtain ⟨data, padding, hpadded, hsize⟩ := isKeyBody_iff.mp hbody
        exact ⟨algorithm, body, rest, data, padding, hwords, List.contains_iff_mem.mp halgorithm,
          hpadded, hsize, hpadded.isEncodedBody_iff hsize⟩
    · cases h
  · rintro ⟨algorithm, body, rest, data, padding, hwords, halgorithm, hpadded, hsize, _⟩
    simp only [hwords]
    exact Bool.and_eq_true_iff.mpr
      ⟨List.contains_iff_mem.mpr halgorithm, isKeyBody_iff.mpr ⟨data, padding, hpadded, hsize⟩⟩

/-- A body that is nothing but padding. -/
def paddedBody : String := String.ofList (List.replicate 64 '=')

/-- Padding alone is accepted as the body of a key, and it is no base64. -/
theorem padding_accepted_as_body :
    isPublicKey ("ssh-rsa " ++ paddedBody) = true ∧
      Text.words ("ssh-rsa " ++ paddedBody) = ["ssh-rsa", paddedBody] ∧
      ¬IsEncodedBody paddedBody := by
  have hpadded : IsPadded paddedBody [] 64 := ⟨String.toList_ofList, by simp⟩
  refine ⟨by decide +kernel, by decide +kernel, ?_⟩
  rw [hpadded.isEncodedBody_iff (by simp [minKeySize])]
  decide

end Grammar

end Blueprint
