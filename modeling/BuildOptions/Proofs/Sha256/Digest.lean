import BuildOptions.Proofs.Text.Delimited
import BuildOptions.Sha256

/-! A digest shows the whole hash: texts with one digest have bytes with one hash, so that two
different texts share a digest only if their bytes collide. -/

namespace BuildOptions.Sha256

open Text (Delimits)

/-- Two different messages with one hash. -/
def Collision (a b : List UInt8) : Prop := a ≠ b ∧ hash a = hash b

/-! ### Hexadecimal digits -/

theorem digitChar_inj {m n : Nat} (hm : m < 16) (hn : n < 16)
    (h : Nat.digitChar m = Nat.digitChar n) : m = n := by
  have hAll : ∀ m < 16, ∀ n < 16, Nat.digitChar m = Nat.digitChar n → m = n := by decide
  exact hAll m hm n hn h

theorem hexByte_inj {a b : UInt8} (h : hexByte a.toNat = hexByte b.toNat) : a = b := by
  simp only [hexByte, List.cons.injEq, and_true] at h
  have hA : a.toNat < 256 := a.toNat_lt
  have hB : b.toNat < 256 := b.toNat_lt
  have hHigh : a.toNat / 16 = b.toNat / 16 := digitChar_inj (by omega) (by omega) h.1
  have hLow : a.toNat % 16 = b.toNat % 16 := digitChar_inj (by omega) (by omega) h.2
  exact UInt8.toNat_inj.mp (by omega)

theorem delimits_hexByte (byte : UInt8) : Delimits (fun byte : UInt8 => hexByte byte.toNat) byte :=
  have hLength : ∀ byte : UInt8, (hexByte byte.toNat).length = 2 := fun _ => rfl
  Text.delimits_of_length hLength (fun _ _ => hexByte_inj) byte

/-! ### Words -/

/-- The hexadecimal digits of a word. -/
def hexWord (word : UInt32) : List Char :=
  (bytesOf 4 word.toNat).flatMap fun byte => hexByte byte.toNat

theorem length_bytesOf (count n : Nat) : (bytesOf count n).length = count := by
  simp [bytesOf]

/-- Four bytes hold a whole word. -/
theorem bytesOf_toNat_inj {a b : UInt32} (h : bytesOf 4 a.toNat = bytesOf 4 b.toNat) : a = b := by
  have hBytes := congrArg (List.map UInt8.toNat) h
  simp [bytesOf, List.range_succ, Nat.shiftRight_eq_div_pow] at hBytes
  have hA : a.toNat < 4294967296 := a.toNat_lt
  have hB : b.toNat < 4294967296 := b.toNat_lt
  exact UInt32.toNat_inj.mp (by omega)

theorem hexWord_inj {a b : UInt32} (h : hexWord a = hexWord b) : a = b := by
  have hBytes : bytesOf 4 a.toNat = bytesOf 4 b.toNat :=
    Text.eq_of_flatMap_eq (fun byte _ => delimits_hexByte byte)
      (by rw [length_bytesOf, length_bytesOf]) h
  exact bytesOf_toNat_inj hBytes

theorem length_hexWord (word : UInt32) : (hexWord word).length = 8 := by
  simp [hexWord, bytesOf, hexByte, List.range_succ]

theorem State.length_words (s : State) : s.words.length = 8 := rfl

theorem State.words_inj {s t : State} (h : s.words = t.words) : s = t := by
  cases s
  cases t
  simpa [State.words] using h

/-! ### Texts -/

theorem hash_eq_of_digest_eq {a b : String} (h : digest a = digest b) :
    hash a.toUTF8.toList = hash b.toUTF8.toList := by
  unfold digest at h
  have hWords : (hash a.toUTF8.toList).words = (hash b.toUTF8.toList).words :=
    Text.eq_of_flatMap_eq
      (fun word _ => Text.delimits_of_length length_hexWord (fun _ _ => hexWord_inj) word)
      (by rw [State.length_words, State.length_words]) (String.ofList_injective h)
  exact State.words_inj hWords

theorem toList_loop_eq (bytes : ByteArray) (position : Nat) (before : List UInt8) :
    ByteArray.toList.loop bytes position before =
      before.reverse ++ bytes.data.toList.drop position := by
  have hSize : bytes.data.toList.length = bytes.size := Array.length_toList
  fun_induction ByteArray.toList.loop bytes position before with
  | case1 position before hInside ih =>
    have hByte : bytes.get! position = bytes.data.toList[position] := by
      simp [ByteArray.get!, hInside]
    rw [ih, hByte, List.reverse_cons, List.append_assoc, List.singleton_append,
      List.getElem_cons_drop]
  | case2 position before hEnd =>
    rw [List.drop_eq_nil_of_le (by omega), List.append_nil]

theorem toUTF8_toList_inj {a b : String} (h : a.toUTF8.toList = b.toUTF8.toList) : a = b := by
  simp only [ByteArray.toList, toList_loop_eq, List.drop_zero, List.reverse_nil,
    List.nil_append] at h
  exact String.toByteArray_inj.mp (ByteArray.ext (Array.toList_inj.mp h))

theorem collision_of_digest_eq {a b : String} (hDigest : digest a = digest b) (hText : a ≠ b) :
    Collision a.toUTF8.toList b.toUTF8.toList :=
  ⟨fun h => hText (toUTF8_toList_inj h), hash_eq_of_digest_eq hDigest⟩

end BuildOptions.Sha256
