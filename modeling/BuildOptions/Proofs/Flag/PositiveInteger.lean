import BuildOptions.Proofs.Session.Merging
import BuildOptions.Proofs.Text.Numerals
import BuildOptions.Proofs.Validation.Requests

/-! What a scalar has to be that obeys the rule for positive integers.  The rule looks at characters
only, and still it tells the numerals of positive numbers from all other texts, however large the
number is. -/

namespace BuildOptions

namespace ScalarRule

/-- A numeral of a positive number, with a plus sign before it or without. -/
inductive IsPositive : List Char → Prop where
  | plain {digits : List Char} {n : Nat} (hDigits : Text.Denotes digits n) (hPos : 1 ≤ n) :
      IsPositive digits
  | plus {digits : List Char} {n : Nat} (hDigits : Text.Denotes digits n) (hPos : 1 ≤ n) :
      IsPositive ('+' :: digits)

variable {cs digits : List Char} {text : String}

theorem IsPositive.isBlank_eq_false (h : IsPositive cs) : ∀ c ∈ cs, Text.isBlank c = false := by
  cases h with
  | plain hDigits => exact hDigits.isBlank_eq_false
  | plus hDigits => exact List.forall_mem_cons.mpr ⟨by decide, hDigits.isBlank_eq_false⟩

theorem isPositiveNumeral_iff :
    isPositiveNumeral digits = true ↔ ∃ n, Text.Denotes digits n ∧ 1 ≤ n := by
  simp only [isPositiveNumeral, Bool.and_eq_true, List.all_eq_true, List.any_eq_true, bne_iff_ne]
  constructor
  · rintro ⟨hDigits, c, hMem, hOther⟩
    have hDenotes := Text.denotes_decimalValue (List.ne_nil_of_mem hMem) hDigits
    exact ⟨_, hDenotes, hDenotes.pos_iff.mpr ⟨c, hMem, hOther⟩⟩
  · rintro ⟨n, hDenotes, hPos⟩
    exact ⟨hDenotes.isDigit, hDenotes.pos_iff.mp hPos⟩

theorem isPositiveNumeral_dropPlus_iff :
    isPositiveNumeral (dropPlus cs) = true ↔ IsPositive cs := by
  rw [isPositiveNumeral_iff]
  unfold dropPlus
  constructor
  · rintro ⟨n, hDenotes, hPos⟩
    split at hDenotes
    · exact .plus hDenotes hPos
    · exact .plain hDenotes hPos
  · intro h
    cases h with
    | @plain digits n hDenotes hPos =>
      split
      · -- A plus sign is no digit.
        exact absurd (hDenotes.isDigit '+' List.mem_cons_self) (by decide)
      · exact ⟨n, hDenotes, hPos⟩
    | @plus digits n hDenotes hPos => exact ⟨n, hDenotes, hPos⟩

theorem accepts_iff :
    accepts .positiveInteger text = true ↔
      ∃ core, IsPositive core ∧ Text.Padded core text.toList := by
  rw [accepts, isPositiveNumeral_dropPlus_iff]
  constructor
  · intro h
    exact ⟨_, h, Text.padded_trimChars _⟩
  · rintro ⟨core, hCore, hPadded⟩
    rwa [(Text.trimChars_eq_iff hCore.isBlank_eq_false).mpr hPadded]

/-! ### Integers in decimal -/

theorem accepts_iff_of_forall (h : ∀ c ∈ text.toList, Text.isBlank c = false) :
    accepts .positiveInteger text = true ↔ IsPositive text.toList := by
  have hNone : Text.AllBlank [] := by simp [Text.AllBlank]
  have hTrim : Text.trimChars text.toList = text.toList :=
    (Text.trimChars_eq_iff h).mpr ⟨[], [], hNone, hNone, by simp⟩
  rw [accepts, hTrim, isPositiveNumeral_dropPlus_iff]

theorem isPositive_iff_of_denotes {n : Nat} (h : Text.Denotes cs n) : IsPositive cs ↔ 1 ≤ n := by
  constructor
  · intro hPositive
    cases hPositive with
    | plain hDigits hPos => rwa [← h.decimalValue_eq, hDigits.decimalValue_eq]
    | plus => exact absurd (h.isDigit '+' List.mem_cons_self) (by decide)
  · exact .plain h

theorem not_isPositive_minus : ¬IsPositive ('-' :: cs) := by
  intro h
  cases h with
  | plain hDigits => exact absurd (hDigits.isDigit '-' List.mem_cons_self) (by decide)

theorem accepts_decimalInt (i : Int) :
    accepts .positiveInteger (Text.decimalInt i) = true ↔ 1 ≤ i := by
  cases i with
  | ofNat n =>
    have hDenotes := Text.denotes_decimal n
    rw [Text.decimalInt, accepts_iff_of_forall hDenotes.isBlank_eq_false,
      isPositive_iff_of_denotes hDenotes]
    simp only [Int.ofNat_eq_natCast]
    omega
  | negSucc n =>
    have hChars : ("-" ++ Text.decimal (n + 1)).toList = '-' :: (Text.decimal (n + 1)).toList := by
      simp
    have hBlank : ∀ c ∈ ("-" ++ Text.decimal (n + 1)).toList, Text.isBlank c = false := by
      rw [hChars]
      exact List.forall_mem_cons.mpr ⟨by decide, (Text.denotes_decimal _).isBlank_eq_false⟩
    rw [Text.decimalInt, accepts_iff_of_forall hBlank, hChars]
    have hNegative : ¬1 ≤ Int.negSucc n := by omega
    exact iff_of_false not_isPositive_minus hNegative

end ScalarRule

namespace Catalog

variable {catalog : Catalog} {overrides : Overrides} {flag : Flag}

/-- The validation of a configuration finds nothing wrong with the text of the flag. -/
def PassesRule (catalog : Catalog) (config : Configuration) (target : Target) (name : String) :
    Prop :=
  ∀ text rule, .invalidValue name text rule ∉ catalog.violations config target

theorem name_eq_of_scalarViolation? {config : Configuration} {name text : String}
    {rule : ScalarRule} (h : config.scalarViolation? flag = some (.invalidValue name text rule)) :
    flag.name = name := by
  unfold Configuration.scalarViolation? at h
  split at h
  · cases h
  · split at h
    · split at h
      · cases h
      · exact (Violation.invalidValue.inj (Option.some.inj h)).1
    · exact (Violation.invalidValue.inj (Option.some.inj h)).1

theorem invalidValue_mem_violations_iff {config : Configuration} {target : Target} {text : String}
    {rule : ScalarRule} (hFlag : flag ∈ catalog.flags) :
    .invalidValue flag.name text rule ∈ catalog.violations config target ↔
      config.scalarViolation? flag = some (.invalidValue flag.name text rule) := by
  simp only [violations, List.mem_append, List.mem_filterMap, Option.mem_toList]
  constructor
  · rintro ((hTarget | ⟨other, hOther, hScalar⟩) | ⟨requirement, -, hPlatform⟩)
    · unfold Configuration.targetViolation? at hTarget
      split at hTarget <;> cases hTarget
    · obtain rfl := eq_of_name_eq hOther hFlag (name_eq_of_scalarViolation? hScalar)
      exact hScalar
    · unfold Configuration.platformViolation? at hPlatform
      split at hPlatform <;> cases hPlatform
  · intro hScalar
    exact .inl (.inr ⟨flag, hFlag, hScalar⟩)

theorem passesRule_resolve_iff {initially text : String} {rule : ScalarRule}
    (hAdmits : catalog.Admits overrides) (hFlag : flag ∈ catalog.flags)
    (hShape : flag.shape = .scalar initially rule)
    (hGet : overrides.get? flag.name = some (.scalar text)) (resolved validated : Target) :
    catalog.PassesRule (catalog.resolve overrides resolved) validated flag.name ↔
      rule.accepts text = true := by
  have hViolation : (catalog.resolve overrides resolved).scalarViolation? flag =
      if rule.accepts text then none else some (.invalidValue flag.name text rule) := by
    rw [scalarViolation?_resolve hAdmits hFlag, textViolation?, hShape]
    simp [hGet, FlagValue.text?]
  simp only [PassesRule, invalidValue_mem_violations_iff hFlag, hViolation]
  by_cases hAccepts : rule.accepts text = true
  · simp [hAccepts]
  · simp only [hAccepts, if_false, iff_false, Bool.false_eq_true]
    exact fun hNone => hNone text rule rfl

theorem coerces_decimalInt {initially : String} {rule : ScalarRule} (hFlag : flag ∈ catalog.flags)
    (hShape : flag.shape = .scalar initially rule) (i : Int) :
    catalog.Coerces flag.name (.scalar (Text.decimalInt i)) (.scalar (Text.decimalInt i)) := by
  refine .text _ ⟨flag, hFlag, rfl, ?_⟩
  rw [Flag.kind, hShape]

/-- The rule for positive integers accepts exactly the numerals of positive numbers, of any length,
with a plus sign or none and with blanks around them or none.  So an integer of a profile is always
taken for a scalar flag, and where no assignment shadows it the configuration passes the rule
exactly if the integer is positive. -/
theorem positiveInteger_exact :
    (∀ text, ScalarRule.positiveInteger.accepts text = true ↔
      ∃ core, ScalarRule.IsPositive core ∧ Text.Padded core text.toList) ∧
    ∀ (catalog : Catalog) (flag : Flag) (initially : String) (i : Int), flag ∈ catalog.flags →
      flag.shape = .scalar initially .positiveInteger →
      (∀ overrides, Profile.setOption catalog overrides (flag.name, .integer i) =
        .ok (overrides.insert flag.name (.scalar (Text.decimalInt i)))) ∧
      ∀ (host : Except Failure Target) (profile : Profile) (target? version? : Option String)
        (assignments : List String) (session : Session),
        profile.options.get? flag.name = some (.integer i) →
        (∀ text ∈ assignments, ∀ word, ¬Overrides.Assigns text flag.name word) →
        Session.build catalog host (some profile) target? assignments version? = .ok session →
          ∀ target, catalog.PassesRule (session.resolve catalog) target flag.name ↔ 1 ≤ i := by
  refine ⟨fun text => ScalarRule.accepts_iff, fun catalog flag initially i hFlag hShape => ⟨?_, ?_⟩⟩
  · intro overrides
    have hAccept := (coerces_decimalInt hFlag hShape i).accept
    change (Overrides.set catalog overrides flag.name _).mapError Failure.option = _
    rw [Overrides.set, hAccept]
    rfl
  · intro host profile target? version? assignments session hOption hUnassigned hBuild target
    have hGet : session.overrides.get? flag.name = some (.scalar (Text.decimalInt i)) :=
      (Session.get?_of_build hBuild).mpr (.inr ⟨hUnassigned, _, hOption, _, .integer i,
        coerces_decimalInt hFlag hShape i⟩)
    rw [Session.resolve, passesRule_resolve_iff (Session.admits_of_build hBuild) hFlag hShape hGet,
      ScalarRule.accepts_decimalInt]

/-- A profile that asks for a log of no size. -/
def emptyLogProfile : Profile where
  target? := none
  version? := none
  options := .ofList [("log_size", .integer 0)]

/-- The size is taken, but the configuration that it leads to is refused on every target. -/
theorem positiveInteger_exact_emptyLog :
    ⟨"log_size", .scalar "8" .positiveInteger⟩ ∈ console.flags ∧
      emptyLogProfile.options.get? "log_size" = some (.integer 0) ∧
      (∀ text ∈ ["with_console=on"], ∀ word, ¬Overrides.Assigns text "log_size" word) ∧
      ∃ session, Session.build console (.ok .linux) (some emptyLogProfile) none
          ["with_console=on"] none = .ok session ∧
        ∀ target, ¬console.PassesRule (session.resolve console) target "log_size" := by
  have hFlag : ⟨"log_size", .scalar "8" .positiveInteger⟩ ∈ console.flags := by decide
  have hOption : emptyLogProfile.options.get? "log_size" = some (.integer 0) := rfl
  have hUnassigned : ∀ text ∈ ["with_console=on"], ∀ word,
      ¬Overrides.Assigns text "log_size" word := by
    intro text hText word hAssigns
    obtain rfl := List.mem_singleton.mp hText
    have hRead : Overrides.readAssignment "with_console=on" = .ok ("with_console", "on") := by
      decide +kernel
    rw [hAssigns.readAssignment_eq] at hRead
    simp at hRead
  have hOptions : emptyLogProfile.overrides console =
      .ok (.ofList [("log_size", .scalar "0")]) := by decide +kernel
  have hAssignments : ["with_console=on"].foldlM (Session.assign console) ∅ =
      .ok (.ofList [("with_console", .switch true)]) := by decide +kernel
  have hSession : ∃ session, Session.build console (.ok .linux) (some emptyLogProfile) none
      ["with_console=on"] none = .ok session :=
    Session.exists_build_iff.mpr ⟨⟨.linux, rfl⟩, Profile.exists_overrides_iff.mp ⟨_, hOptions⟩,
      Overrides.exists_foldlM_assign_iff.mp ⟨_, hAssignments⟩⟩
  obtain ⟨session, hBuild⟩ := hSession
  refine ⟨hFlag, hOption, hUnassigned, session, hBuild, fun target hPasses => ?_⟩
  have hPositive := ((positiveInteger_exact.2 console _ _ 0 hFlag rfl).2 _ emptyLogProfile none
    none _ session hOption hUnassigned hBuild target).mp hPasses
  omega

end Catalog

end BuildOptions
