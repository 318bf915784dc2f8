import BuildOptions.Proofs.NameMap.Filling
import BuildOptions.Proofs.Text.Span
import BuildOptions.Proofs.Version.Grammar

/-! Exactly the versions of the grammar are read, each with its numbers.  A part of a version ends
where no character of it can follow, so every part is read on its own. -/

namespace BuildOptions.Version

open Text (Stops)

variable {part last next : Part} {cs rest segment : List Char} {n : UInt64} {version : Version}

/-! ### Numbers -/

theorem readNumber_append {digits : List Char} (hSome : digits ≠ [])
    (hDigits : ∀ c ∈ digits, c.isDigit = true) (hStops : Stops Char.isDigit rest) :
    readNumber part (digits ++ rest) =
      if digits.head? = some '0' ∧ 1 < digits.length then .error (.leadingZero part)
      else if UInt64.size ≤ Text.decimalValue digits then .error (.overflow part)
      else .ok (UInt64.ofNat (Text.decimalValue digits), rest) := by
  rw [readNumber, hStops.takeWhile_append hDigits, hStops.dropWhile_append hDigits]
  split
  · contradiction
  · contradiction
  · rfl

theorem readNumber_ne_ok (hStops : Stops Char.isDigit cs) :
    readNumber part cs ≠ .ok (n, rest) := by
  cases cs with
  | nil => simp [readNumber]
  | cons c cs => simp [readNumber, hStops c rfl]

theorem readNumber_eq_ok_iff :
    readNumber part cs = .ok (n, rest) ↔
      ∃ digits, Text.IsNumeral digits n.toNat ∧ Stops Char.isDigit rest ∧ cs = digits ++ rest := by
  constructor
  · intro h
    obtain ⟨digits, after, hDigits, hStops, rfl⟩ := Text.exists_span Char.isDigit cs
    have hSome : digits ≠ [] := by
      rintro rfl
      exact readNumber_ne_ok hStops h
    rw [readNumber_append hSome hDigits hStops] at h
    split_ifs at h with hZero hSize
    cases h
    refine ⟨digits, ⟨?_, fun hHead => ?_⟩, hStops, rfl⟩
    · have hValue : (UInt64.ofNat (Text.decimalValue digits)).toNat = Text.decimalValue digits :=
        UInt64.toNat_ofNat_of_lt' (not_le.mp hSize)
      rw [hValue]
      exact Text.denotes_decimalValue hSome hDigits
    · cases digits with
      | nil => exact absurd rfl hSome
      | cons c digits =>
        cases hHead
        simpa using hZero
  · rintro ⟨digits, hNumeral, hStops, rfl⟩
    have hDenotes := hNumeral.denotes
    rw [readNumber_append hDenotes.ne_nil hDenotes.isDigit hStops, hDenotes.decimalValue_eq,
      if_neg, if_neg, UInt64.ofNat_toNat]
    · have := n.toNat_lt_size
      omega
    · rintro ⟨hHead, hLength⟩
      rw [hNumeral.noLeadingZero hHead] at hLength
      simp at hLength

theorem readDot_eq_ok_iff : readDot part cs = .ok rest ↔ cs = '.' :: rest := by
  unfold readDot
  split <;> simp_all [eq_comm]

/-! ### Segments -/

/-- What a segment of this part of a version has to be. -/
def IsSegmentOf (part : Part) (segment : List Char) : Prop :=
  IsBuildSegment segment ∧ (part = .preRelease → IsPreReleaseSegment segment)

theorem hasLeadingZero_eq_false_iff :
    hasLeadingZero segment = false ↔
      ((∀ c ∈ segment, c.isDigit = true) → 1 < segment.length → segment.head? ≠ some '0') := by
  rw [← Bool.not_eq_true]
  simp only [hasLeadingZero, Bool.and_eq_true, List.all_eq_true, decide_eq_true_eq]
  tauto

/-- What is read after a segment. -/
def readMore (part : Part) : List Char → Except Problem (List Char)
  | '.' :: rest => readSegments part rest
  | rest => .ok rest

theorem readSegments_append (hSegment : IsSegmentOf part segment)
    (hStops : Stops isSegmentChar cs) :
    readSegments part (segment ++ cs) = readMore part cs := by
  have hAll : ∀ c ∈ segment, isSegmentChar c = true :=
    fun c hMem => isSegmentChar_iff.mpr (hSegment.1.chars c hMem)
  have hSome : ¬segment.isEmpty = true := by
    rw [List.isEmpty_iff]
    exact hSegment.1.nonempty
  have hZero : ¬(part = .preRelease ∧ hasLeadingZero segment = true) := by
    rintro ⟨hPart, hZero⟩
    rw [hasLeadingZero_eq_false_iff.mpr (hSegment.2 hPart).noLeadingZero] at hZero
    cases hZero
  rw [readSegments]
  simp only [hStops.takeWhile_append hAll, if_neg hSome, if_neg hZero]
  split
  · rename_i rest hDrop
    rw [hStops.dropWhile_append hAll] at hDrop
    rw [hDrop, readMore]
  · rename_i hDrop
    rw [hStops.dropWhile_append hAll] at hDrop ⊢
    rw [readMore]
    exact hDrop

/-- Neither a character of a segment nor a dot comes next. -/
def Ends (rest : List Char) : Prop := Stops (fun c => isSegmentChar c || c = '.') rest

theorem readSegments_of_isDotted (hDotted : IsDotted (IsSegmentOf part) cs) (hEnds : Ends rest) :
    readSegments part (cs ++ rest) = .ok rest := by
  induction hDotted with
  | last hSegment =>
    have hStops : Stops isSegmentChar rest := fun c hHead => by
      have hNeither := hEnds c hHead
      rw [Bool.or_eq_false_iff] at hNeither
      exact hNeither.1
    rw [readSegments_append hSegment hStops, readMore]
    rintro after rfl
    exact absurd (hEnds '.' rfl) (by decide)
  | @more segment after hSegment _ ih =>
    have hStops : Stops isSegmentChar ('.' :: (after ++ rest)) := fun c hHead => by
      cases hHead
      decide
    rw [List.append_assoc, List.cons_append, readSegments_append hSegment hStops]
    exact ih

theorem isSegmentOf_of_chars (hSome : ¬segment.isEmpty = true)
    (hChars : ∀ c ∈ segment, isSegmentChar c = true)
    (hZero : ¬(part = .preRelease ∧ hasLeadingZero segment = true)) :
    IsSegmentOf part segment := by
  have hBuild : IsBuildSegment segment :=
    ⟨fun hNil => hSome (List.isEmpty_iff.mpr hNil),
      fun c hMem => isSegmentChar_iff.mp (hChars c hMem)⟩
  refine ⟨hBuild, fun hPart => ⟨hBuild, hasLeadingZero_eq_false_iff.mp ?_⟩⟩
  rw [← Bool.not_eq_true]
  exact fun hLeading => hZero ⟨hPart, hLeading⟩

theorem isDotted_of_readSegments (h : readSegments part cs = .ok rest) :
    ∃ dotted, IsDotted (IsSegmentOf part) dotted ∧ Ends rest ∧ cs = dotted ++ rest := by
  fun_induction readSegments part cs with
  | case1 => cases h
  | case2 => cases h
  | case3 cs taken hSome hZero after hDrop ih =>
    obtain ⟨dotted, hDotted, hEnds, rfl⟩ := ih h
    have hSegment := isSegmentOf_of_chars hSome (fun c hMem => List.mem_takeWhile_imp hMem) hZero
    refine ⟨_, .more hSegment hDotted, hEnds, ?_⟩
    rw [List.append_assoc, List.cons_append, ← hDrop, List.takeWhile_append_dropWhile]
  | case4 cs taken hSome hZero hDrop =>
    cases h
    have hSegment := isSegmentOf_of_chars hSome (fun c hMem => List.mem_takeWhile_imp hMem) hZero
    refine ⟨_, .last hSegment, fun c hHead => ?_, List.takeWhile_append_dropWhile.symm⟩
    have hNot := List.head?_dropWhile_not isSegmentChar cs
    rw [hHead] at hNot
    obtain ⟨after, hAfter⟩ := List.head?_eq_some_iff.mp hHead
    have hDot : c ≠ '.' := by
      rintro rfl
      exact hDrop after hAfter
    simp [hDot, show isSegmentChar c = false from hNot]

/-! ### Suffixes -/

theorem isSegmentOf_preRelease : IsSegmentOf .preRelease = IsPreReleaseSegment := by
  funext segment
  simp only [IsSegmentOf, true_implies, eq_iff_iff, and_iff_right_iff_imp]
  exact fun h => h.toIsBuildSegment

theorem isSegmentOf_build : IsSegmentOf .build = IsBuildSegment := by
  funext segment
  simp [IsSegmentOf]

theorem isMarked_of_readSuffix {mark : Char} (h : readSuffix mark part last cs = .ok (next, rest)) :
    ∃ marked, IsMarked mark (IsSegmentOf part) marked ∧ cs = marked ++ rest := by
  unfold readSuffix at h
  split at h
  · cases h
    exact ⟨[], .absent, rfl⟩
  · split_ifs at h with hMark
    · obtain ⟨after, hRead, hEq⟩ := map_eq_ok_iff.mp h
      cases hEq
      obtain ⟨dotted, hDotted, -, rfl⟩ := isDotted_of_readSegments hRead
      exact ⟨_, .present hDotted, by rw [hMark, List.cons_append]⟩
    · cases h
      exact ⟨[], .absent, rfl⟩

theorem exists_readSuffix (last : Part) {mark : Char} (h : IsMarked mark (IsSegmentOf part) cs)
    (hEnds : Ends rest) (hMark : rest.head? ≠ some mark) :
    ∃ next, readSuffix mark part last (cs ++ rest) = .ok (next, rest) := by
  cases h with
  | absent =>
    refine ⟨last, ?_⟩
    cases rest with
    | nil => rfl
    | cons c rest =>
      have hOther : c ≠ mark := by simpa using hMark
      simp [readSuffix, hOther]
  | present hDotted =>
    refine ⟨part, ?_⟩
    simp only [readSuffix, List.cons_append, if_true, readSegments_of_isDotted hDotted hEnds]
    rfl

/-! ### Whole versions -/

/-- A version is read if each part of it is, and nothing is left over. -/
theorem readChars_eq_ok_iff :
    readChars cs = .ok version ↔
      ∃ minor micro suffix build last next,
        readNumber .major cs = .ok (version.major, '.' :: minor) ∧
        readNumber .minor minor = .ok (version.minor, '.' :: micro) ∧
        readNumber .patch micro = .ok (version.micro, suffix) ∧
        readSuffix '-' .preRelease .patch suffix = .ok (last, build) ∧
        readSuffix '+' .build last build = .ok (next, []) := by
  unfold readChars
  split
  · rename_i hEmpty
    rw [List.isEmpty_iff] at hEmpty
    subst hEmpty
    simp [throw, throwThe, MonadExceptOf.throw, bind, Except.bind, readNumber]
  · simp only [bind_eq_ok_iff, readDot_eq_ok_iff, Prod.exists]
    constructor
    · rintro ⟨major, _, hMajor, _, rfl, minor, _, hMinor, _, rfl, micro, suffix, hMicro, last,
        build, hPreRelease, next, left, hBuild, hLeft⟩
      cases left with
      | nil =>
        cases hLeft
        exact ⟨_, _, suffix, build, last, next, hMajor, hMinor, hMicro, hPreRelease, hBuild⟩
      | cons c left => cases hLeft
    · rintro ⟨minor, micro, suffix, build, last, next, hMajor, hMinor, hMicro, hPreRelease, hBuild⟩
      exact ⟨_, _, hMajor, _, rfl, _, _, hMinor, _, rfl, _, suffix, hMicro, last, build,
        hPreRelease, next, [], hBuild, rfl⟩

theorem isTextOf_of_readChars (h : readChars cs = .ok version) : IsTextOf version cs := by
  obtain ⟨_, _, _, _, last, next, hMajor, hMinor, hMicro, hPreRelease, hBuild⟩ :=
    readChars_eq_ok_iff.mp h
  obtain ⟨major, hMajorDigits, -, rfl⟩ := readNumber_eq_ok_iff.mp hMajor
  obtain ⟨minor, hMinorDigits, -, rfl⟩ := readNumber_eq_ok_iff.mp hMinor
  obtain ⟨micro, hMicroDigits, -, rfl⟩ := readNumber_eq_ok_iff.mp hMicro
  obtain ⟨preRelease, hPreReleaseMarked, rfl⟩ := isMarked_of_readSuffix hPreRelease
  obtain ⟨build, hBuildMarked, rfl⟩ := isMarked_of_readSuffix hBuild
  rw [isSegmentOf_preRelease] at hPreReleaseMarked
  rw [isSegmentOf_build] at hBuildMarked
  refine ⟨major, minor, micro, preRelease ++ build, hMajorDigits, hMinorDigits, hMicroDigits,
    ⟨preRelease, build, hPreReleaseMarked, hBuildMarked, rfl⟩, ?_⟩
  simp

theorem IsMarked.head?_eq {mark : Char} {IsSegment : List Char → Prop}
    (h : IsMarked mark IsSegment cs) : ∀ c, cs.head? = some c → c = mark := by
  intro c hHead
  cases h <;> cases hHead
  rfl

theorem readChars_of_isTextOf (h : IsTextOf version cs) : readChars cs = .ok version := by
  obtain ⟨major, minor, micro, suffix, hMajor, hMinor, hMicro, hSuffix, rfl⟩ := h
  obtain ⟨preRelease, build, hPreRelease, hBuild, rfl⟩ := hSuffix
  have hDot : ∀ {rest}, Stops Char.isDigit ('.' :: rest) := by
    intro rest c hHead
    cases hHead
    rfl
  -- Build metadata begins with a plus sign, which ends a pre-release.
  have hEnds : Ends build := by
    intro c hHead
    obtain rfl := hBuild.head?_eq c hHead
    decide
  have hSuffix : Stops Char.isDigit (preRelease ++ build) := by
    intro c hHead
    cases hPreRelease with
    | absent =>
      obtain rfl := hBuild.head?_eq c hHead
      rfl
    | present =>
      cases hHead
      rfl
  rw [← isSegmentOf_preRelease] at hPreRelease
  rw [← isSegmentOf_build] at hBuild
  obtain ⟨last, hReadPreRelease⟩ := exists_readSuffix .patch hPreRelease hEnds
    fun hHead => absurd (hBuild.head?_eq _ hHead) (by decide)
  have hNothing : Ends [] := fun c hHead => by cases hHead
  obtain ⟨next, hReadBuild⟩ := exists_readSuffix last hBuild hNothing (by simp)
  rw [List.append_nil] at hReadBuild
  refine readChars_eq_ok_iff.mpr ⟨_, _, preRelease ++ build, build, last, next,
    readNumber_eq_ok_iff.mpr ⟨major, hMajor, hDot, ?_⟩,
    readNumber_eq_ok_iff.mpr ⟨minor, hMinor, hDot, rfl⟩,
    readNumber_eq_ok_iff.mpr ⟨micro, hMicro, hSuffix, rfl⟩, hReadPreRelease, hReadBuild⟩
  simp

theorem read_eq_ok_iff {text : String} :
    read text = .ok version ↔ ∃ core, IsTextOf version core ∧ Text.Padded core text.toList := by
  rw [read, mapError_eq_ok_iff]
  constructor
  · intro h
    exact ⟨_, isTextOf_of_readChars h, Text.padded_trimChars _⟩
  · rintro ⟨core, hCore, hPadded⟩
    rw [(Text.trimChars_eq_iff hCore.isBlank_eq_false).mpr hPadded]
    exact readChars_of_isTextOf hCore

/-- A text is read as a version exactly if it is, but for blanks around it, a text of the grammar
for that version.  So the exported numbers with dots between them are read back, with whatever
suffix the grammar allows. -/
theorem versions_read_exactly :
    (∀ text version, read text = .ok version ↔
      ∃ core, IsTextOf version core ∧ Text.Padded core text.toList) ∧
    ∀ version (suffix : String), IsSuffix suffix.toList →
      read (".".intercalate (version.exported.map Prod.snd) ++ suffix) = .ok version := by
  refine ⟨fun text version => read_eq_ok_iff, fun version suffix hSuffix => ?_⟩
  refine read_eq_ok_iff.mpr ⟨_, isTextOf_exported hSuffix, [], [], ?_⟩
  simp [Text.AllBlank]

/-- The pre-release has a hyphen in it and ends with a zero, the metadata begins with zeros, and the
last number is the largest that there is. -/
theorem versions_read_exactly_longSuffix :
    IsSuffix "-rc-1.0+007.x".toList ∧
      read "3.0.18446744073709551615-rc-1.0+007.x" = .ok ⟨3, 0, 18446744073709551615⟩ ∧
      read "\u3000 3.0.18446744073709551615-rc-1.0+007.x\n" = .ok ⟨3, 0, 18446744073709551615⟩ := by
  obtain ⟨hRead, hExported⟩ := versions_read_exactly
  have hWord : IsSegmentOf .preRelease "rc-1".toList :=
    isSegmentOf_of_chars (by decide) (List.all_eq_true.mp (by decide)) (by decide)
  have hZero : IsSegmentOf .preRelease ['0'] :=
    isSegmentOf_of_chars (by decide) (List.all_eq_true.mp (by decide)) (by decide)
  have hZeros : IsSegmentOf .build "007".toList :=
    isSegmentOf_of_chars (by decide) (List.all_eq_true.mp (by decide)) (by decide)
  have hLetter : IsSegmentOf .build ['x'] :=
    isSegmentOf_of_chars (by decide) (List.all_eq_true.mp (by decide)) (by decide)
  have hSuffix : IsSuffix "-rc-1.0+007.x".toList :=
    ⟨"-rc-1.0".toList, "+007.x".toList,
      .present (.more (hWord.2 rfl) (.last (hZero.2 rfl))),
      .present (.more hZeros.1 (.last hLetter.1)), rfl⟩
  have hText : ".".intercalate
      ((exported ⟨3, 0, 18446744073709551615⟩).map Prod.snd) ++ "-rc-1.0+007.x" =
        "3.0.18446744073709551615-rc-1.0+007.x" := by decide +kernel
  have hPlain := hExported ⟨3, 0, 18446744073709551615⟩ _ hSuffix
  have hCore := @isTextOf_exported ⟨3, 0, 18446744073709551615⟩ _ hSuffix
  rw [hText] at hPlain hCore
  exact ⟨hSuffix, hPlain,
    (hRead _ _).mpr ⟨_, hCore, ['\u3000', ' '], ['\n'], by decide, by decide, by decide⟩⟩

end BuildOptions.Version
