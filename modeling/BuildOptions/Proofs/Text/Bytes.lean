import Mathlib.Tactic.SplitIfs

/-! The bytes of a text.  What all of them satisfy as ASCII characters, all characters of the text
satisfy, so a condition on a literal is checked on its bytes and nothing has to be decoded. -/

namespace BuildOptions.Text

/-- The code of a character starts with a byte over 127, or it is the character itself. -/
theorem exists_byte_of_char (c : Char) :
    ∃ b ∈ String.utf8EncodeChar c, b.toNat ≤ 127 → c.toNat = b.toNat := by
  have hVal : c.toNat = c.val.toNat := rfl
  unfold String.utf8EncodeChar
  dsimp only
  split_ifs
  all_goals
    refine ⟨_, List.mem_cons_self, fun h => ?_⟩
    rw [UInt8.toNat_ofNat'] at h ⊢
    omega

theorem forall_char_of_all_bytes {s : String} {p : Char → Bool}
    (h : (s.toByteArray.data.toList.all fun b => b.toNat ≤ 127 && p (Char.ofNat b.toNat)) = true) :
    ∀ c ∈ s.toList, p c = true := by
  intro c hChar
  obtain ⟨b, hMem, hValue⟩ := exists_byte_of_char c
  have hByte : b ∈ s.toByteArray.data.toList := by
    rw [← String.utf8Encode_toList, List.utf8Encode, List.data_toByteArray, List.toList_toArray]
    exact List.mem_flatMap.mpr ⟨c, hChar, hMem⟩
  have hBoth := List.all_eq_true.mp h b hByte
  rw [Bool.and_eq_true, decide_eq_true_eq] at hBoth
  obtain ⟨hAscii, hHolds⟩ := hBoth
  rwa [← hValue hAscii, Char.ofNat_toNat] at hHolds

end BuildOptions.Text
