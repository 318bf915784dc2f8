import BuildOptions.Proofs.Text.Numerals
import BuildOptions.Version

/-! The grammar of versions: three numerals with dots between them, a pre-release behind a hyphen or
none, and build metadata behind a plus sign or none.  No text of the grammar has a blank in it. -/

namespace BuildOptions.Version

/-- A letter or a digit of ASCII, or a hyphen. -/
def IsWordChar (c : Char) : Prop :=
  ('0' ≤ c ∧ c ≤ '9') ∨ ('A' ≤ c ∧ c ≤ 'Z') ∨ ('a' ≤ c ∧ c ≤ 'z') ∨ c = '-'

/-- A segment of build metadata. -/
structure IsBuildSegment (segment : List Char) : Prop where
  nonempty : segment ≠ []
  chars : ∀ c ∈ segment, IsWordChar c

/-- A segment of a pre-release, where numbers have no zeros that they do not need. -/
structure IsPreReleaseSegment (segment : List Char) : Prop extends IsBuildSegment segment where
  noLeadingZero : (∀ c ∈ segment, c.isDigit = true) → 1 < segment.length →
    segment.head? ≠ some '0'

/-- Segments, at least one, with dots between them. -/
inductive IsDotted (IsSegment : List Char → Prop) : List Char → Prop where
  | last {segment : List Char} (hSegment : IsSegment segment) : IsDotted IsSegment segment
  | more {segment rest : List Char} (hSegment : IsSegment segment)
      (hRest : IsDotted IsSegment rest) : IsDotted IsSegment (segment ++ '.' :: rest)

/-- Nothing, or segments behind a mark. -/
inductive IsMarked (mark : Char) (IsSegment : List Char → Prop) : List Char → Prop where
  | absent : IsMarked mark IsSegment []
  | present {cs : List Char} (hDotted : IsDotted IsSegment cs) :
      IsMarked mark IsSegment (mark :: cs)

/-- What may follow the numbers of a version: a pre-release, build metadata, both or neither. -/
def IsSuffix (cs : List Char) : Prop :=
  ∃ preRelease build, IsMarked '-' IsPreReleaseSegment preRelease ∧
    IsMarked '+' IsBuildSegment build ∧ cs = preRelease ++ build

/-- A text for the version. -/
def IsTextOf (version : Version) (cs : List Char) : Prop :=
  ∃ major minor micro suffix, Text.IsNumeral major version.major.toNat ∧
    Text.IsNumeral minor version.minor.toNat ∧ Text.IsNumeral micro version.micro.toNat ∧
    IsSuffix suffix ∧ cs = major ++ '.' :: minor ++ '.' :: micro ++ suffix

instance (c : Char) : Decidable (IsWordChar c) :=
  inferInstanceAs (Decidable (_ ∨ _ ∨ _ ∨ _))

variable {cs : List Char} {mark : Char} {IsSegment : List Char → Prop} {version : Version}

theorem isSegmentChar_iff {c : Char} : isSegmentChar c = true ↔ IsWordChar c := by
  unfold isSegmentChar IsWordChar Char.isAlphanum Char.isAlpha Char.isUpper Char.isLower
    Char.isDigit
  simp only [Bool.or_eq_true, Bool.and_eq_true, decide_eq_true_eq, Char.le_def, ge_iff_le]
  tauto

/-! ### No blanks -/

theorem isBlank_of_isWordChar {c : Char} (h : IsWordChar c) : Text.isBlank c = false := by
  simp only [IsWordChar, Char.le_def, UInt32.le_iff_toNat_le, ← Char.toNat_inj] at h
  change (48 ≤ c.toNat ∧ c.toNat ≤ 57) ∨ (65 ≤ c.toNat ∧ c.toNat ≤ 90) ∨
    (97 ≤ c.toNat ∧ c.toNat ≤ 122) ∨ c.toNat = 45 at h
  simp [Text.isBlank]
  omega

theorem IsDotted.isBlank_eq_false (h : IsDotted IsSegment cs)
    (hSegment : ∀ segment, IsSegment segment → IsBuildSegment segment) :
    ∀ c ∈ cs, Text.isBlank c = false := by
  induction h with
  | last hLast => exact fun c hMem => isBlank_of_isWordChar ((hSegment _ hLast).chars c hMem)
  | more hFirst _ ih =>
    simp only [List.forall_mem_append, List.forall_mem_cons]
    exact ⟨fun c hMem => isBlank_of_isWordChar ((hSegment _ hFirst).chars c hMem), by decide, ih⟩

theorem IsMarked.isBlank_eq_false (h : IsMarked mark IsSegment cs)
    (hMark : Text.isBlank mark = false)
    (hSegment : ∀ segment, IsSegment segment → IsBuildSegment segment) :
    ∀ c ∈ cs, Text.isBlank c = false := by
  cases h with
  | absent => simp
  | present hDotted => exact List.forall_mem_cons.mpr ⟨hMark, hDotted.isBlank_eq_false hSegment⟩

theorem IsTextOf.isBlank_eq_false (h : IsTextOf version cs) :
    ∀ c ∈ cs, Text.isBlank c = false := by
  obtain ⟨major, minor, micro, _, hMajor, hMinor, hMicro, ⟨preRelease, build, hPre, hBuild, rfl⟩,
    rfl⟩ := h
  simp only [List.forall_mem_append, List.forall_mem_cons]
  exact ⟨⟨⟨hMajor.denotes.isBlank_eq_false, by decide, hMinor.denotes.isBlank_eq_false⟩, by decide,
    hMicro.denotes.isBlank_eq_false⟩,
    hPre.isBlank_eq_false (by decide) fun _ hSegment => hSegment.toIsBuildSegment,
    hBuild.isBlank_eq_false (by decide) fun _ hSegment => hSegment⟩

/-! ### Exported numbers -/

theorem isTextOf_exported {suffix : String} (h : IsSuffix suffix.toList) :
    IsTextOf version (".".intercalate (version.exported.map Prod.snd) ++ suffix).toList := by
  refine ⟨_, _, _, suffix.toList, Text.isNumeral_decimal _, Text.isNumeral_decimal _,
    Text.isNumeral_decimal _, h, ?_⟩
  simp [exported, String.intercalate_cons_cons]

end BuildOptions.Version
