import BuildOptions.Files.Tree
import BuildOptions.Profile.Search
import Mathlib.Data.List.Basic

/-! The search for a profile.  Of the directories that a directory is in, itself among them, the
deepest one with a file of the profile's name decides alone: its profile is the result, or what is
wrong with it. -/

namespace BuildOptions

namespace Directory

variable {inner outer start : Directory}

/-- The directory is the other one, or one that the other is in. -/
def Encloses (outer inner : Directory) : Prop :=
  outer.root = inner.root ∧ outer.names <:+ inner.names

theorem mem_upwardFrom_iff {root : String} {names : List String} :
    outer ∈ upwardFrom root names ↔ outer.root = root ∧ outer.names <:+ names := by
  obtain ⟨ownRoot, ownNames⟩ := outer
  induction names with
  | nil => simp [upwardFrom]
  | cons name names ih =>
    simp only [upwardFrom, List.mem_cons, Directory.mk.injEq, ih, List.suffix_cons_iff]
    tauto

theorem mem_upward_iff : outer ∈ start.upward ↔ outer.Encloses start :=
  mem_upwardFrom_iff

/-- The directories are listed from the deepest one to the root. -/
theorem pairwise_upwardFrom (root : String) (names : List String) :
    (upwardFrom root names).Pairwise
      fun inner outer => outer.names.length < inner.names.length := by
  induction names with
  | nil => simp [upwardFrom]
  | cons name names ih =>
    refine List.pairwise_cons.mpr ⟨fun outer hMem => ?_, ih⟩
    have hLength := (mem_upwardFrom_iff.mp hMem).2.length_le
    simp only [List.length_cons]
    omega

theorem length_lt_of_upward_eq {before after : List Directory} {middle : Directory}
    (hUpward : start.upward = before ++ middle :: after) :
    (∀ inner ∈ before, middle.names.length < inner.names.length) ∧
      ∀ outer ∈ after, outer.names.length < middle.names.length := by
  have hPairwise := pairwise_upwardFrom start.root start.names
  rw [← upward, hUpward] at hPairwise
  obtain ⟨-, hRest, hBefore⟩ := List.pairwise_append.mp hPairwise
  exact ⟨fun inner hMem => hBefore inner hMem middle List.mem_cons_self,
    (List.pairwise_cons.mp hRest).1⟩

/-- Of two directories that a directory is in, the one that is no deeper is around the other. -/
theorem Encloses.of_length_le (hOuter : outer.Encloses start) (hInner : inner.Encloses start)
    (hLength : outer.names.length ≤ inner.names.length) : outer.Encloses inner :=
  ⟨hOuter.1.trans hInner.1.symm,
    List.suffix_of_suffix_length_le hOuter.2 hInner.2 hLength⟩

end Directory

namespace Profile

/-! ### One directory -/

/-- Where a profile of the directory is. -/
def pathIn (directory : Directory) : Path := .inside directory fileName

/-- The directory has a file, and no directory, of the name that profiles are found by. -/
def HasProfile (tree : FileTree) (here directory : Directory) : Prop :=
  (tree.file? here (pathIn directory)).isSome = true

instance (tree : FileTree) (here directory : Directory) :
    Decidable (HasProfile tree here directory) :=
  inferInstanceAs (Decidable (_ = true))

/-- The text that a path leads to; a file that is no text has none. -/
def textAt? (tree : FileTree) (here : Directory) (path : Path) : Option String :=
  match tree.file? here path with
  | some (.file text?) => text?
  | _ => none

/-- What the file at a path comes to as a profile. -/
inductive LoadsAs (tree : FileTree) (here : Directory) (path : Path) :
    Except Failure Profile → Prop where
  | unreadable (hNone : textAt? tree here path = none) :
      LoadsAs tree here path (.error (.unreadable path.render))
  | malformed {text : String} (hText : textAt? tree here path = some text)
      (hRead : read text = none) : LoadsAs tree here path (.error (.malformedProfile path.render))
  | profile {text : String} {profile : Profile} (hText : textAt? tree here path = some text)
      (hRead : read text = some profile) : LoadsAs tree here path (.ok profile)

variable {tree : FileTree} {here start directory : Directory} {directories : List Directory}
  {path : Path} {result : Except Failure Profile}

theorem exists_loadsAs (tree : FileTree) (here : Directory) (path : Path) :
    ∃ result, LoadsAs tree here path result := by
  cases hText : textAt? tree here path with
  | none => exact ⟨_, .unreadable hText⟩
  | some text =>
    cases hRead : read text with
    | none => exact ⟨_, .malformed hText hRead⟩
    | some profile => exact ⟨_, .profile hText hRead⟩

theorem run_isFile :
    ((FileTree.files here).isFile path).run tree = ((tree.file? here path).isSome, tree) := rfl

theorem run_read? :
    ((FileTree.files here).read? path).run tree = (textAt? tree here path, tree) := by
  simp only [FileTree.files, textAt?, StateT.run_bind, StateT.run_get]
  change StateT.run (match tree.file? here path with
    | some (.file text?) => pure text?
    | _ => pure none) tree = _
  split <;> rfl

theorem run_load (h : LoadsAs tree here path result) :
    (load (FileTree.files here) path).run tree = (result, tree) := by
  rw [load, StateT.run_bind, run_read?]
  cases h with
  | unreadable hNone =>
    rw [hNone]
    rfl
  | malformed hText hRead =>
    rw [hText]
    change StateT.run _ tree = _
    simp only [hRead]
    rfl
  | profile hText hRead =>
    rw [hText]
    change StateT.run _ tree = _
    simp only [hRead]
    rfl

/-! ### Directories one after another -/

theorem run_findIn_of_hasProfile (hFile : HasProfile tree here directory)
    (hLoads : LoadsAs tree here (pathIn directory) result) :
    (findIn (FileTree.files here) (directory :: directories)).run tree =
      (result.map fun profile => some (profile, pathIn directory), tree) := by
  rw [findIn, StateT.run_bind, run_isFile]
  change StateT.run (if HasProfile tree here directory then _ else _) tree = _
  rw [if_pos hFile, StateT.run_bind]
  change (load (FileTree.files here) (pathIn directory)).run tree >>= _ = _
  rw [run_load hLoads]
  rfl

theorem run_findIn_of_not (hNone : ¬HasProfile tree here directory) :
    (findIn (FileTree.files here) (directory :: directories)).run tree =
      (findIn (FileTree.files here) directories).run tree := by
  rw [findIn, StateT.run_bind, run_isFile]
  change StateT.run (if HasProfile tree here directory then _ else _) tree = _
  rw [if_neg hNone]

theorem run_findIn_append {before : List Directory}
    (hBefore : ∀ directory ∈ before, ¬HasProfile tree here directory) :
    (findIn (FileTree.files here) (before ++ directories)).run tree =
      (findIn (FileTree.files here) directories).run tree := by
  induction before with
  | nil => rfl
  | cons first before ih =>
    obtain ⟨hFirst, hBefore⟩ := List.forall_mem_cons.mp hBefore
    rw [List.cons_append, run_findIn_of_not hFirst, ih hBefore]

/-! ### The nearest one -/

/-- Of the directories that `start` is in, `nearest` is the deepest one with a profile. -/
structure IsNearest (tree : FileTree) (here start nearest : Directory) : Prop where
  encloses : nearest.Encloses start
  holds : HasProfile tree here nearest
  deepest : ∀ directory : Directory, directory.Encloses start → HasProfile tree here directory →
    directory.names.length ≤ nearest.names.length

variable {nearest : Directory}

/-- The directories that the search passes before it comes to the nearest profile have none. -/
theorem IsNearest.exists_append (h : IsNearest tree here start nearest) :
    ∃ before after, start.upward = before ++ nearest :: after ∧
      ∀ directory ∈ before, ¬HasProfile tree here directory := by
  obtain ⟨before, after, hUpward⟩ := List.append_of_mem (Directory.mem_upward_iff.mpr h.encloses)
  refine ⟨before, after, hUpward, fun directory hMem hHolds => ?_⟩
  have hDeeper : nearest.names.length < directory.names.length :=
    (Directory.length_lt_of_upward_eq hUpward).1 directory hMem
  have hEncloses : directory.Encloses start :=
    Directory.mem_upward_iff.mp (hUpward ▸ List.mem_append_left _ hMem)
  have hNoDeeper := h.deepest directory hEncloses hHolds
  omega

theorem exists_isNearest {directory : Directory} (hEncloses : directory.Encloses start)
    (hHolds : HasProfile tree here directory) : ∃ nearest, IsNearest tree here start nearest := by
  have hSome : (start.upward.find? fun directory => HasProfile tree here directory).isSome := by
    rw [List.find?_isSome]
    exact ⟨directory, Directory.mem_upward_iff.mpr hEncloses, decide_eq_true hHolds⟩
  obtain ⟨nearest, hFind⟩ := Option.isSome_iff_exists.mp hSome
  obtain ⟨hNearest, before, after, hUpward, hBefore⟩ := List.find?_eq_some_iff_append.mp hFind
  refine ⟨nearest, Directory.mem_upward_iff.mp (by simp [hUpward]), of_decide_eq_true hNearest,
    fun outer hOuter hOuterHolds => ?_⟩
  -- a directory with a profile is not before the first one that has one
  have hMem : outer ∈ before ++ nearest :: after := hUpward ▸ Directory.mem_upward_iff.mpr hOuter
  rcases List.mem_append.mp hMem with hIn | hIn
  · exact absurd hOuterHolds (by simpa using hBefore outer hIn)
  · rcases List.mem_cons.mp hIn with rfl | hAfter
    · exact Nat.le_refl _
    · exact Nat.le_of_lt ((Directory.length_lt_of_upward_eq hUpward).2 outer hAfter)

theorem IsNearest.eq {other : Directory} (h : IsNearest tree here start nearest)
    (hOther : IsNearest tree here start other) : nearest = other := by
  have hLe := hOther.deepest nearest h.encloses h.holds
  have hGe := h.deepest other hOther.encloses hOther.holds
  have hSuffix := h.encloses.of_length_le hOther.encloses hLe
  obtain ⟨root, names⟩ := nearest
  obtain ⟨otherRoot, otherNames⟩ := other
  exact Directory.mk.injEq .. ▸ ⟨hSuffix.1, hSuffix.2.eq_of_length (Nat.le_antisymm hLe hGe)⟩

/-- What the outer directories hold does not matter. -/
theorem IsNearest.of_agrees {other : FileTree} (h : IsNearest tree here start nearest)
    (hAgrees : ∀ directory : Directory, nearest.Encloses directory → directory.Encloses start →
      other.file? here (pathIn directory) = tree.file? here (pathIn directory)) :
    IsNearest other here start nearest where
  encloses := h.encloses
  holds := by
    rw [HasProfile, hAgrees nearest ⟨rfl, List.suffix_rfl⟩ h.encloses]
    exact h.holds
  deepest directory hEncloses hHolds := by
    by_contra hDeeper
    have hInner : nearest.Encloses directory :=
      h.encloses.of_length_le hEncloses (Nat.le_of_not_le hDeeper)
    rw [HasProfile, hAgrees directory hInner hEncloses] at hHolds
    exact hDeeper (h.deepest directory hEncloses hHolds)

theorem LoadsAs.of_agrees {other : FileTree} (h : LoadsAs tree here path result)
    (hAgrees : other.file? here path = tree.file? here path) : LoadsAs other here path result := by
  have hText : textAt? other here path = textAt? tree here path := by rw [textAt?, hAgrees, textAt?]
  cases h with
  | unreadable hNone => exact .unreadable (hText.trans hNone)
  | malformed hSome hRead => exact .malformed (hText.trans hSome) hRead
  | profile hSome hRead => exact .profile (hText.trans hSome) hRead

theorem run_find_of_none
    (hNone : ∀ directory : Directory, directory.Encloses start → ¬HasProfile tree here directory) :
    (find (FileTree.files here) start).run tree = (.ok none, tree) := by
  rw [find, ← List.append_nil start.upward, run_findIn_append]
  · rfl
  · exact fun directory hMem => hNone directory (Directory.mem_upward_iff.mp hMem)

theorem run_find_of_isNearest (h : IsNearest tree here start nearest)
    (hLoads : LoadsAs tree here (pathIn nearest) result) :
    (find (FileTree.files here) start).run tree =
      (result.map fun profile => some (profile, pathIn nearest), tree) := by
  obtain ⟨before, after, hUpward, hBefore⟩ := h.exists_append
  rw [find, hUpward, run_findIn_append hBefore, run_findIn_of_hasProfile h.holds hLoads]

/-- The search looks at every directory that `start` is in and leaves the files as they are.  It
finds nothing exactly if no profile is there; otherwise the deepest one is the outcome, whatever
holds further out. -/
theorem find_decided_by_nearest (tree : FileTree) (here start : Directory) :
    ∃ outcome, (find (FileTree.files here) start).run tree = (outcome, tree) ∧
      (outcome = .ok none ↔
        ∀ directory : Directory, directory.Encloses start → ¬HasProfile tree here directory) ∧
      (∀ directory : Directory, directory.Encloses start → HasProfile tree here directory →
        ∃! nearest, IsNearest tree here start nearest) ∧
      ∀ nearest, IsNearest tree here start nearest →
        (∃ result, LoadsAs tree here (pathIn nearest) result ∧
          outcome = result.map fun profile => some (profile, pathIn nearest)) ∧
        ∀ other : FileTree,
          (∀ directory : Directory, nearest.Encloses directory → directory.Encloses start →
            other.file? here (pathIn directory) = tree.file? here (pathIn directory)) →
          (find (FileTree.files here) start).run other = (outcome, other) := by
  by_cases hSome : ∃ directory : Directory,
      directory.Encloses start ∧ HasProfile tree here directory
  · obtain ⟨directory, hEncloses, hHolds⟩ := hSome
    obtain ⟨nearest, hNearest⟩ := exists_isNearest hEncloses hHolds
    obtain ⟨result, hLoads⟩ := exists_loadsAs tree here (pathIn nearest)
    refine ⟨_, run_find_of_isNearest hNearest hLoads, ⟨fun hNone => ?_, fun hNone => ?_⟩,
      fun _ _ _ => ⟨nearest, hNearest, fun other hOther => hOther.eq hNearest⟩,
      fun other hOther => ?_⟩
    · cases result <;> simp [Except.map] at hNone
    · exact absurd hHolds (hNone directory hEncloses)
    · obtain rfl := hNearest.eq hOther
      exact ⟨⟨result, hLoads, rfl⟩, fun tree' hAgrees =>
        run_find_of_isNearest (hNearest.of_agrees hAgrees)
          (hLoads.of_agrees (hAgrees nearest ⟨rfl, List.suffix_rfl⟩ hNearest.encloses))⟩
  · have hNone : ∀ directory : Directory, directory.Encloses start →
        ¬HasProfile tree here directory := by
      intro directory hEncloses hHolds
      exact hSome ⟨directory, hEncloses, hHolds⟩
    refine ⟨_, run_find_of_none hNone, ⟨fun _ => hNone, fun _ => rfl⟩,
      fun directory hEncloses hHolds => absurd hHolds (hNone directory hEncloses),
      fun nearest hNearest => absurd hNearest.holds (hNone nearest hNearest.encloses)⟩

-- A profile that can be read hides one around it that cannot.
example :
    let text := "[package]\nversion = \"2.4.0\"\n[build]\ntarget = \"macos\"\n[options]\nlog = true"
    let tree : FileTree :=
      [(["celix.toml"], .file (some "[build")), (["app", "celix.toml"], .file (some text))]
    ((find (FileTree.files ⟨"", []⟩) ⟨"", ["source", "app"]⟩).run' tree).map
        (fun found => found.map fun (profile, path) =>
          (profile.target?, profile.version?, profile.options.toList.map Prod.fst, path)) =
      .ok (some (some "macos", some "2.4.0", ["log"], pathIn ⟨"", ["app"]⟩)) := by
  decide +kernel

/-- A profile in the root, and below it a directory whose profile is no text. -/
def shadowedTree : FileTree :=
  [(["celix.toml"], .file (some "[build]")), (["app", "celix.toml"], .file none)]

theorem isNearest_shadowedTree :
    IsNearest shadowedTree ⟨"", []⟩ ⟨"", ["source", "app"]⟩ ⟨"", ["app"]⟩ where
  encloses := ⟨rfl, ["source"], rfl⟩
  holds := by decide
  deepest directory hEncloses := by
    revert directory
    simp only [← Directory.mem_upward_iff]
    decide

theorem find_decided_by_nearest_shadowedTree :
    (find (FileTree.files ⟨"", []⟩) ⟨"", ["source", "app"]⟩).run shadowedTree =
      (.error (.unreadable "/app/celix.toml"), shadowedTree) := by
  obtain ⟨outcome, hRun, -, -, hNearest⟩ :=
    find_decided_by_nearest shadowedTree ⟨"", []⟩ ⟨"", ["source", "app"]⟩
  obtain ⟨⟨result, hLoads, rfl⟩, -⟩ := hNearest ⟨"", ["app"]⟩ isNearest_shadowedTree
  rw [hRun]
  cases hLoads with
  | unreadable hNone => rfl
  | malformed hText hRead => cases hText
  | profile hText hRead => cases hText

end Profile

end BuildOptions
