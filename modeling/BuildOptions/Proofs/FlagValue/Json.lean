import BuildOptions.FlagValue.Json
import BuildOptions.Proofs.Json.Grammar

/-! Flag values as JSON texts.  The kind of the JSON value is the kind of the flag value, so a text
determines its value, and the texts of numbers, nulls, arrays and objects are none. -/

namespace BuildOptions

open Json (AllSpace IsValue IsDocument)

namespace Json

variable {α : Type} {reader : List Char → Option (α × List Char)}

/-- A reader that takes exactly a value of the grammar reads the whole text of that value. -/
theorem readAll_of_isValue {kind : Kind} {text : String} {value : α}
    (hValue : IsValue kind text.toList) (hRead : reader text.toList = some (value, [])) :
    readAll reader text = some value := by
  obtain ⟨c, rest, hText, hFirst⟩ := hValue.exists_cons
  have hSkip : skipSpace text.toList = text.toList := by
    rw [hText, skipSpace, List.dropWhile_cons_of_neg]
    simp [Kind.isSpace_eq_false hFirst]
  rw [readAll, hSkip, hRead]
  rfl

theorem isDocument_of_readAll {kind : α → Kind}
    (hReader : ∀ {cs value rest}, reader cs = some (value, rest) →
      ∃ taken, cs = taken ++ rest ∧ IsValue (kind value) taken)
    {text : String} {value : α} (h : readAll reader text = some value) :
    IsDocument (kind value) text.toList := by
  simp only [readAll, Option.bind_eq_bind, Option.bind_eq_some_iff] at h
  obtain ⟨⟨found, rest⟩, hRead, h⟩ := h
  simp only [Option.ite_none_right_eq_some, Option.some.injEq, List.isEmpty_iff] at h
  obtain ⟨hRest, rfl⟩ := h
  obtain ⟨taken, hTaken, hValue⟩ := hReader hRead
  have hText : text.toList = text.toList.takeWhile isSpace ++ (taken ++ rest) := by
    rw [← hTaken, skipSpace, List.takeWhile_append_dropWhile]
  rw [hText]
  exact .padded (fun c hMem => List.mem_takeWhile_imp hMem) hValue
    (List.dropWhile_eq_nil_iff.mp hRest)

end Json

/-- The kind of JSON value that a flag of the kind has. -/
def FlagKind.jsonKind : FlagKind → Json.Kind
  | switch => .boolean
  | scalar => .string

namespace FlagValue

theorem isValue_toJson (value : FlagValue) :
    IsValue value.kind.jsonKind value.toJson.compact.toList := by
  cases value with
  | switch on => exact Json.isValue_compact (.bool on)
  | scalar text => exact Json.isValue_compact (.string text)

theorem readJson_boolText (on : Bool) (rest : List Char) :
    readJson ((Json.boolText on).toList ++ rest) = some (switch on, rest) := by
  cases on <;> simp [Json.boolText, readJson, Json.expect]

theorem readJson_quote (text : String) (rest : List Char) :
    readJson ((Json.quote text).toList ++ rest) = some (scalar text, rest) := by
  have hRead := Json.readString_quote text rest
  rw [Json.toList_quote, List.cons_append] at hRead ⊢
  rw [readJson, hRead, Option.map_some]

/-- A written value is read back, and nothing after it is. -/
theorem readJson_toJson (value : FlagValue) (rest : List Char) :
    readJson (value.toJson.compact.toList ++ rest) = some (value, rest) := by
  cases value with
  | switch on =>
    rw [toJson, Json.compact]
    exact readJson_boolText on rest
  | scalar text =>
    rw [toJson, Json.compact]
    exact readJson_quote text rest

theorem exists_of_readJson {cs rest : List Char} {value : FlagValue}
    (h : readJson cs = some (value, rest)) :
    ∃ taken, cs = taken ++ rest ∧ IsValue value.kind.jsonKind taken := by
  unfold readJson at h
  split at h
  · obtain ⟨⟨text, after⟩, hRead, hPair⟩ := Option.map_eq_some_iff.mp h
    cases hPair
    obtain ⟨taken, hSplit, hTaken⟩ := Json.exists_of_readString hRead
    exact ⟨taken, hSplit, .string hTaken⟩
  · obtain ⟨after, hRead, hPair⟩ := Option.map_eq_some_iff.mp h
    cases hPair
    exact ⟨_, Json.expect_eq_some_iff.mp hRead, .true⟩
  · obtain ⟨after, hRead, hPair⟩ := Option.map_eq_some_iff.mp h
    cases hPair
    exact ⟨_, Json.expect_eq_some_iff.mp hRead, .false⟩
  · cases h

theorem ofJsonText?_toJson (value : FlagValue) :
    ofJsonText? value.toJson.compact = some value := by
  have hRead := readJson_toJson value []
  rw [List.append_nil] at hRead
  exact Json.readAll_of_isValue value.isValue_toJson hRead

theorem isDocument_of_ofJsonText? {text : String} {value : FlagValue}
    (h : ofJsonText? text = some value) : IsDocument value.kind.jsonKind text.toList :=
  Json.isDocument_of_readAll exists_of_readJson h

theorem ofJsonText?_eq_none {text : String} {kind : Json.Kind} (h : IsDocument kind text.toList)
    (hBoolean : kind ≠ .boolean) (hString : kind ≠ .string) : ofJsonText? text = none := by
  by_contra hSome
  obtain ⟨value, hValue⟩ := Option.ne_none_iff_exists'.mp hSome
  have hKind := h.kind_eq (isDocument_of_ofJsonText? hValue)
  cases value with
  | switch on => exact hBoolean hKind
  | scalar text => exact hString hKind

/-- A value's JSON text has the kind of the value and is read back as that value, no two values have
one text, and of the JSON texts only Booleans and strings are read. -/
theorem json_text_lossless :
    (∀ value : FlagValue, IsDocument value.kind.jsonKind value.toJson.compact.toList ∧
      ofJsonText? value.toJson.compact = some value) ∧
    (∀ value other : FlagValue, value.toJson.compact = other.toJson.compact → value = other) ∧
    (∀ text value, ofJsonText? text = some value →
      IsDocument value.kind.jsonKind text.toList) ∧
    ∀ text kind, IsDocument kind text.toList → kind ≠ .boolean → kind ≠ .string →
      ofJsonText? text = none := by
  refine ⟨fun value => ⟨value.isValue_toJson.isDocument, ofJsonText?_toJson value⟩,
    fun value other hSame => ?_, fun text value h => isDocument_of_ofJsonText? h,
    fun text kind h hBoolean hString => ofJsonText?_eq_none h hBoolean hString⟩
  have hRead := ofJsonText?_toJson value
  rw [hSame, ofJsonText?_toJson] at hRead
  exact (Option.some.inj hRead).symm

theorem json_text_lossless_number :
    IsDocument .number " 512\n".toList ∧ ofJsonText? " 512\n" = none := by
  have hWhole : Json.IsInteger ['5', '1', '2'] :=
    .positive rfl (by decide) (List.all_eq_true.mp (by decide))
  have hNumber : Json.IsNumber ['5', '1', '2'] := by
    simpa using Json.IsNumber.plain hWhole .none .none
  have hBefore : AllSpace [' '] := by simp [AllSpace, Json.isSpace]
  have hAfter : AllSpace ['\n'] := by simp [AllSpace, Json.isSpace]
  have hDocument : IsDocument .number " 512\n".toList :=
    IsDocument.padded hBefore (.number hNumber) hAfter
  exact ⟨hDocument, json_text_lossless.2.2.2 " 512\n" .number hDocument (by decide) (by decide)⟩

end FlagValue

end BuildOptions
