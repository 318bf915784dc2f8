import BuildOptions.Proofs.Profile.Options
import BuildOptions.Proofs.Session.CommandLine

/-! What a session asks for.  The options of a profile and the assignments of a command line are
read in different ways into the same overrides.  Each of them has to be taken on its own, even where
it is shadowed, and for an option that both name the last assignment decides. -/

namespace BuildOptions

namespace Session

variable {catalog : Catalog} {host : Except Failure Target} {profile : Profile}
  {target? version? : Option String} {assignments : List String} {session : Session}
  {name : String} {value : FlagValue}

/-- The target that a word stands for, or the host where there is no word. -/
def IsTarget (host : Except Failure Target) (word? : Option String) (target : Target) : Prop :=
  match word? with
  | some word => Target.ofAlias? word = some target
  | none => host = .ok target

theorem isTarget_some_iff {word : String} {target : Target} :
    IsTarget host (some word) target ↔
      (Target.read word).mapError Failure.option = .ok target := by
  rw [IsTarget, mapError_eq_ok_iff, Target.read]
  cases Target.ofAlias? word <;> simp

theorem build_eq_ok_iff :
    build catalog host (some profile) target? assignments version? = .ok session ↔
      ∃ ofProfile ofCommandLine target, profile.overrides catalog = .ok ofProfile ∧
        assignments.foldlM (assign catalog) ∅ = .ok ofCommandLine ∧
        IsTarget host (target?.or profile.target?) target ∧
        session = ⟨ofProfile.merge ofCommandLine, target,
          (version?.or profile.version?).getD Version.ofPackage⟩ := by
  simp only [build, bind_eq_ok_iff, Option.bind_some, pure, Except.pure]
  cases target?.or profile.target? with
  | none =>
    simp only [bind_eq_ok_iff, IsTarget, Except.ok.injEq, exists_and_left, @eq_comm _ session]
  | some word =>
    simp only [bind_eq_ok_iff, isTarget_some_iff, Except.ok.injEq, exists_and_left,
      @eq_comm _ session]

theorem exists_build_iff :
    (∃ session, build catalog host (some profile) target? assignments version? = .ok session) ↔
      (∃ target, IsTarget host (target?.or profile.target?) target) ∧
        (∀ option ∈ profile.options.toList, ∃ single,
          Profile.setOption catalog ∅ option = .ok single) ∧
        ∀ text ∈ assignments, ∃ single, Overrides.assign catalog ∅ text = .ok single := by
  rw [← Profile.exists_overrides_iff, ← Overrides.exists_foldlM_assign_iff]
  simp only [build_eq_ok_iff]
  constructor
  · rintro ⟨_, ofProfile, ofCommandLine, target, hProfile, hCommandLine, hTarget, -⟩
    exact ⟨⟨target, hTarget⟩, ⟨ofProfile, hProfile⟩, ofCommandLine, hCommandLine⟩
  · rintro ⟨⟨target, hTarget⟩, ⟨ofProfile, hProfile⟩, ofCommandLine, hCommandLine⟩
    exact ⟨_, ofProfile, ofCommandLine, target, hProfile, hCommandLine, hTarget, rfl⟩

/-- The last assignment for an option decides its value, or the profile if there is none. -/
theorem get?_of_build
    (h : build catalog host (some profile) target? assignments version? = .ok session) :
    session.overrides.get? name = some value ↔
      (∃ word, Overrides.LastAssigned assignments name word ∧
        catalog.Coerces name (.scalar word) value) ∨
      (∀ text ∈ assignments, ∀ word, ¬Overrides.Assigns text name word) ∧
        ∃ option, profile.options.get? name = some option ∧
          Profile.Takes catalog name option value := by
  obtain ⟨ofProfile, ofCommandLine, target, hProfile, hCommandLine, -, rfl⟩ := build_eq_ok_iff.mp h
  rw [NameMap.get?_merge, Option.or_eq_some_iff, Overrides.get?_of_foldlM_assign hCommandLine,
    Overrides.get?_of_foldlM_assign_eq_none hCommandLine, Profile.get?_of_overrides hProfile]

theorem admits_of_build
    (h : build catalog host (some profile) target? assignments version? = .ok session) :
    catalog.Admits session.overrides := by
  refine Catalog.admits_iff.mpr fun name value hGet => ?_
  rcases (get?_of_build h).mp hGet with ⟨word, -, hCoerces⟩ | ⟨-, option, -, given, -, hCoerces⟩
  · exact Catalog.takes_of_accept hCoerces.accept
  · exact Catalog.takes_of_accept hCoerces.accept

/-- A text of the profile may as well be assigned to its option before everything else. -/
theorem build_eq_ok_iff_without {text assignment : String}
    (hOption : profile.options.get? name = some (.string text))
    (hAssigns : Overrides.Assigns assignment name text) :
    build catalog host (some profile) target? assignments version? = .ok session ↔
      build catalog host (some (profile.without name)) target? (assignment :: assignments)
        version? = .ok session := by
  rw [build_eq_ok_iff, build_eq_ok_iff]
  by_cases hTaken : ∃ value, catalog.Coerces name (.scalar text) value
  · obtain ⟨value, hCoerces⟩ := hTaken
    rw [Overrides.foldlM_assign_cons hAssigns hCoerces]
    simp only [Profile.overrides_eq_ok_iff_without hOption hCoerces, map_eq_ok_iff]
    constructor
    · rintro ⟨_, ofCommandLine, target, ⟨rest, hRest, rfl⟩, hCommandLine, hTarget, rfl⟩
      rw [NameMap.insert_merge]
      exact ⟨rest, _, target, hRest, ⟨ofCommandLine, hCommandLine, rfl⟩, hTarget, rfl⟩
    · rintro ⟨rest, _, target, hRest, ⟨ofCommandLine, hCommandLine, rfl⟩, hTarget, rfl⟩
      rw [← NameMap.insert_merge]
      exact ⟨_, ofCommandLine, target, ⟨rest, hRest, rfl⟩, hCommandLine, hTarget, rfl⟩
  · -- The text is refused in either place.
    constructor
    · rintro ⟨ofProfile, -, -, hProfile, -⟩
      have hBoth := (Profile.exists_overrides_iff_without hOption).mp ⟨ofProfile, hProfile⟩
      exact absurd hBoth.2 hTaken
    · rintro ⟨-, ofCommandLine, -, -, hCommandLine, -⟩
      have hFirst := Overrides.exists_foldlM_assign_iff.mp ⟨ofCommandLine, hCommandLine⟩ assignment
        List.mem_cons_self
      exact absurd ((Overrides.exists_assign_iff hAssigns).mp hFirst) hTaken

end Session

namespace Catalog

theorem assigns_celix {text : String} {kind : FlagKind} (hDeclared : celix.Declares name kind)
    (hText : Text.trim text = text) : Overrides.Assigns (name ++ "=" ++ text) name text := by
  obtain ⟨flag, hFlag, rfl, -⟩ := hDeclared
  have hNone : Text.AllBlank [] := by decide
  rw [← Overrides.readAssignment_eq_ok_iff]
  refine Overrides.readAssignment_padded (isAssignable_celix hFlag) hText hNone hNone hNone hNone ?_
  simp

/-- A profile and a command line make a session on any host exactly if the target is one and each
option and each assignment is taken on its own.  Then the overrides have, for each option, the value
of the last assignment for it, or what the profile asks for if there is none, and nothing else.  A
text of the profile without blanks around it may as well be assigned before everything else. -/
theorem commandLine_over_profile (host : Except Failure Target) (profile : Profile)
    (target? version? : Option String) (assignments : List String) :
    ((∃ session,
        Session.build celix host (some profile) target? assignments version? = .ok session) ↔
      (∃ target, Session.IsTarget host (target?.or profile.target?) target) ∧
        (∀ option ∈ profile.options.toList, ∃ single,
          Profile.setOption celix ∅ option = .ok single) ∧
        ∀ text ∈ assignments, ∃ single, Overrides.assign celix ∅ text = .ok single) ∧
    (∀ session,
      Session.build celix host (some profile) target? assignments version? = .ok session →
        ∀ name value, session.overrides.get? name = some value ↔
          (∃ word, Overrides.LastAssigned assignments name word ∧
            celix.Coerces name (.scalar word) value) ∨
          (∀ text ∈ assignments, ∀ word, ¬Overrides.Assigns text name word) ∧
            ∃ option, profile.options.get? name = some option ∧
              ∃ given, Profile.AsksFor option given ∧ celix.Coerces name given value) ∧
    ∀ name text kind, profile.options.get? name = some (.string text) →
      celix.Declares name kind → Text.trim text = text → ∀ session,
        Session.build celix host (some profile) target? assignments version? = .ok session ↔
          Session.build celix host (some (profile.without name)) target?
            ((name ++ "=" ++ text) :: assignments) version? = .ok session := by
  refine ⟨Session.exists_build_iff, fun session hBuild name value => Session.get?_of_build hBuild,
    fun name text kind hOption hDeclared hText session => ?_⟩
  exact Session.build_eq_ok_iff_without hOption (assigns_celix hDeclared hText)

/-- A profile with an option of each kind. -/
def mixedProfile : Profile where
  target? := some "amiga"
  version? := none
  options := .ofList [("build_shell", .boolean true), ("build_utils", .string "off"),
    ("celix_err_buffer_size", .integer 1024)]

/-- Assignments that shadow an option of the profile twice. -/
def shadowingAssignments : List String := ["build_utils = on", " build_utils=FALSE "]

/-- A host that is no target. -/
def unknownHost : Except Failure Target := .error (.option (.unknownTarget "plan9"))

/-- The target of the command line stands in for one that there is not and for the host, the size
comes from the profile, and the last assignment still decides when the option it shadows moves
before it. -/
theorem commandLine_over_profile_mixedProfile :
    ∃ session, Session.build celix unknownHost (some mixedProfile) (some "linux")
        shadowingAssignments none = .ok session ∧
      session.overrides.get? "celix_err_buffer_size" = some (.scalar "1024") ∧
      session.overrides.get? "build_utils" = some (.switch false) ∧
      mixedProfile.options.get? "build_utils" = some (.string "off") ∧
      celix.Declares "build_utils" .switch ∧ Text.trim "off" = "off" ∧
      Session.build celix unknownHost (some (mixedProfile.without "build_utils")) (some "linux")
        ("build_utils=off" :: shadowingAssignments) none = .ok session := by
  obtain ⟨hBuild, hGet, hMove⟩ :=
    commandLine_over_profile unknownHost mixedProfile (some "linux") none shadowingAssignments
  have hOptions : mixedProfile.overrides celix = .ok (.ofList [("build_shell", .switch true),
      ("build_utils", .switch false), ("celix_err_buffer_size", .scalar "1024")]) := by
    decide +kernel
  have hAssignments : shadowingAssignments.foldlM (Session.assign celix) ∅ =
      .ok (.ofList [("build_utils", .switch false)]) := by decide +kernel
  have hTarget : Target.ofAlias? "linux" = some .linux := by decide
  obtain ⟨session, hSession⟩ := hBuild.mpr ⟨⟨.linux, hTarget⟩,
    Profile.exists_overrides_iff.mp ⟨_, hOptions⟩,
    Overrides.exists_foldlM_assign_iff.mp ⟨_, hAssignments⟩⟩
  have hNames : ∀ text ∈ shadowingAssignments,
      (Overrides.readAssignment text).map Prod.fst = .ok "build_utils" := by decide +kernel
  have hUnnamed : ∀ text ∈ shadowingAssignments, ∀ word,
      ¬Overrides.Assigns text "celix_err_buffer_size" word := by
    intro text hText word hAssigns
    have hName := hNames text hText
    rw [hAssigns.readAssignment_eq] at hName
    simp [Except.map] at hName
  have hSize : session.overrides.get? "celix_err_buffer_size" = some (.scalar "1024") :=
    (hGet _ hSession _ _).mpr (.inr ⟨hUnnamed, .integer 1024, rfl, _, .integer 1024,
      .text _ (by decide)⟩)
  have hLast : Overrides.LastAssigned shadowingAssignments "build_utils" "FALSE" :=
    ⟨["build_utils = on"], " build_utils=FALSE ", [], rfl,
      Overrides.readAssignment_eq_ok_iff.mp (by decide +kernel), by simp⟩
  have hUtils : session.overrides.get? "build_utils" = some (.switch false) :=
    (hGet _ hSession _ _).mpr (.inl ⟨"FALSE", hLast,
      .word (by decide) (spells_iff.mpr (by decide))⟩)
  have hOption : mixedProfile.options.get? "build_utils" = some (.string "off") := rfl
  have hDeclared : celix.Declares "build_utils" .switch := by decide
  have hText : Text.trim "off" = "off" := by decide
  exact ⟨session, hSession, hSize, hUtils, hOption, hDeclared, hText,
    (hMove _ _ _ hOption hDeclared hText session).mp hSession⟩

end Catalog

end BuildOptions
