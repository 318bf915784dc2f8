import BuildOptions.Proofs.Report.Replay
import BuildOptions.Proofs.Toolchain.Exports

/-! A reader for cache scripts.  In a command the name ends at the first space and the value at the
first quote that no backslash stands before, so whatever characters a value has, the script is read
back into the variables that it sets, in their order. -/

namespace BuildOptions

namespace CacheScript

/-! ### The reader -/

/-- The characters before the first quote that no backslash stands before, and what follows it.  A
backslash stands for the character behind it. -/
def readQuoted : List Char → Option (List Char × List Char)
  | [] => none
  | '"' :: rest => some ([], rest)
  | ['\\'] => none
  | '\\' :: c :: rest => (readQuoted rest).map fun r => (c :: r.1, r.2)
  | c :: rest => (readQuoted rest).map fun r => (c :: r.1, r.2)

/-- The name and the value of the command that stands first, and what follows it. -/
def readCommand (cs : List Char) : Option ((String × String) × List Char) := do
  let cs ← cs.dropPrefix? "set(".toList
  let name := cs.takeWhile (· ≠ ' ')
  let cs ← (cs.dropWhile (· ≠ ' ')).dropPrefix? " \"".toList
  let (value, cs) ← readQuoted cs
  let cs ← cs.dropPrefix? " CACHE STRING \"\" FORCE)\n".toList
  return ((String.ofList name, String.ofList value), cs)

theorem length_of_dropPrefix? {cs literal rest : List Char}
    (h : cs.dropPrefix? literal = some rest) : rest.length + literal.length = cs.length := by
  obtain ⟨found, rfl, hSame⟩ := List.dropPrefix?_eq_some_iff.mp h
  rw [List.length_append, eq_of_beq hSame, Nat.add_comm]

theorem exists_of_map_cons {c : Char} {read : Option (List Char × List Char)}
    {value rest : List Char} (h : read.map (fun r => (c :: r.1, r.2)) = some (value, rest)) :
    ∃ left, read = some (left, rest) := by
  obtain ⟨⟨left, after⟩, hRead, hPair⟩ := Option.map_eq_some_iff.mp h
  cases hPair
  exact ⟨left, hRead⟩

theorem length_lt_of_readQuoted {cs value rest : List Char}
    (h : readQuoted cs = some (value, rest)) : rest.length < cs.length := by
  fun_induction readQuoted cs generalizing value rest with
  | case1 => cases h
  | case2 after =>
    cases h
    exact Nat.lt_succ_self _
  | case3 => cases h
  | case4 c after ih =>
    obtain ⟨left, hRead⟩ := exists_of_map_cons h
    have := ih hRead
    simp only [List.length_cons]
    omega
  | case5 c after _ _ _ ih =>
    obtain ⟨left, hRead⟩ := exists_of_map_cons h
    have := ih hRead
    simp only [List.length_cons]
    omega

theorem length_lt_of_readCommand {cs rest : List Char} {entry : String × String}
    (h : readCommand cs = some (entry, rest)) : rest.length < cs.length := by
  simp only [readCommand, Option.bind_eq_bind, Option.bind_eq_some_iff, Option.pure_def,
    Option.some.injEq, Prod.mk.injEq] at h
  obtain ⟨opened, hOpened, named, hNamed, ⟨value, quoted⟩, hQuoted, closed, hClosed, -, rfl⟩ := h
  have hOpen := length_of_dropPrefix? hOpened
  have hName := length_of_dropPrefix? hNamed
  have hValue := length_lt_of_readQuoted hQuoted
  have hClose : closed.length + _ = quoted.length := length_of_dropPrefix? hClosed
  have hDrop := (List.dropWhile_sublist (· ≠ ' ') (l := opened)).length_le
  omega

/-- The names and values of the commands that the characters consist of. -/
def readAll (cs : List Char) : Option (List (String × String)) :=
  if cs.isEmpty then some []
  else
    match _h : readCommand cs with
    | none => none
    | some (entry, rest) => (readAll rest).map (entry :: ·)
termination_by cs.length
decreasing_by exact length_lt_of_readCommand _h

/-! ### What is written is read -/

theorem readQuoted_escapeChar (c : Char) (rest : List Char) :
    readQuoted (escapeChar c ++ rest) = (readQuoted rest).map fun r => (c :: r.1, r.2) := by
  unfold escapeChar
  split
  · rfl
  · rename_i hPlain
    simp only [Bool.or_eq_true, decide_eq_true_eq, not_or] at hPlain
    obtain ⟨hBackslash, hQuote⟩ := hPlain
    rw [List.singleton_append, readQuoted]
    · exact hQuote
    · exact fun h _ => hBackslash h
    · exact fun _ _ h _ => hBackslash h

theorem readQuoted_escape (value rest : List Char) :
    readQuoted (value.flatMap escapeChar ++ '"' :: rest) = some (value, rest) := by
  induction value with
  | nil => rfl
  | cons c value ih =>
    rw [List.flatMap_cons, List.append_assoc, readQuoted_escapeChar, ih, Option.map_some]

theorem toList_command (name value : String) (rest : List Char) :
    (command name value).toList ++ rest =
      "set(".toList ++ (name.toList ++ (" \"".toList ++ (value.toList.flatMap escapeChar ++
        '"' :: (" CACHE STRING \"\" FORCE)\n".toList ++ rest)))) := by
  simp [command, escape]

theorem readCommand_command {name : String} (h : ' ' ∉ name.toList) (value : String)
    (rest : List Char) :
    readCommand ((command name value).toList ++ rest) = some ((name, value), rest) := by
  have hName : ∀ c ∈ name.toList, decide (c ≠ ' ') = true := by
    intro c hMem
    exact decide_eq_true fun hSpace => h (hSpace ▸ hMem)
  have hTake : ∀ after : List Char,
      (name.toList ++ (" \"".toList ++ after)).takeWhile (· ≠ ' ') = name.toList := by
    intro after
    rw [List.takeWhile_append_of_pos hName]
    exact List.append_nil _
  have hDrop : ∀ after : List Char,
      (name.toList ++ (" \"".toList ++ after)).dropWhile (· ≠ ' ') = " \"".toList ++ after := by
    intro after
    rw [List.dropWhile_append_of_pos hName]
    rfl
  have hLiteral : ∀ literal after : List Char,
      (literal ++ after).dropPrefix? literal = some after :=
    fun literal after => List.dropPrefix?_append_of_beq after BEq.rfl
  simp only [readCommand, toList_command, hLiteral, hTake, hDrop, readQuoted_escape,
    Option.bind_eq_bind, Option.bind_some, Option.pure_def, String.ofList_toList]

theorem readAll_nil : readAll [] = some [] := by
  rw [readAll]
  rfl

theorem readAll_command {name : String} (h : ' ' ∉ name.toList) (value : String)
    (rest : List Char) :
    readAll ((command name value).toList ++ rest) = (readAll rest).map ((name, value) :: ·) := by
  have hStart : ((command name value).toList ++ rest).isEmpty = false := by
    rw [toList_command]
    rfl
  rw [readAll, hStart, if_neg Bool.false_ne_true]
  split
  · rename_i hNone
    rw [readCommand_command h] at hNone
    cases hNone
  · rename_i entry after hSome
    rw [readCommand_command h] at hSome
    cases hSome
    rfl

theorem readAll_join {entries : List (String × String)}
    (h : ∀ entry ∈ entries, ' ' ∉ entry.1.toList) :
    readAll (String.join (entries.map fun entry => command entry.1 entry.2)).toList =
      some entries := by
  induction entries with
  | nil => exact readAll_nil
  | cons entry rest ih =>
    obtain ⟨hEntry, hRest⟩ := List.forall_mem_cons.mp h
    rw [List.map_cons, String.join_cons, String.toList_append, readAll_command hEntry, ih hRest,
      Option.map_some]

/-! ### Escaping in two passes -/

/-- The characters with `replacement` in the place of each `c`. -/
def replaceAll (c : Char) (replacement cs : List Char) : List Char :=
  cs.flatMap fun d => if d = c then replacement else [d]

theorem toList_escape (value : String) :
    (escape value).toList =
      replaceAll '"' ['\\', '"'] (replaceAll '\\' ['\\', '\\'] value.toList) := by
  rw [escape, String.toList_ofList, replaceAll, replaceAll, List.flatMap_assoc]
  refine List.flatMap_congr fun c _ => ?_
  by_cases hBackslash : c = '\\'
  · subst hBackslash
    rfl
  · by_cases hQuote : c = '"' <;> simp [escapeChar, hBackslash, hQuote]

/-! ### Scripts of the product -/

theorem space_notMem_exported {config : Configuration} {version : Version}
    (hReaches : Catalog.celix.Reaches config) :
    ∀ entry ∈ (Variables.ofConfiguration config version).toList, ' ' ∉ entry.1.toList := by
  rintro ⟨name, value⟩ hEntry
  rw [Catalog.exportsApart_celix.mem_exported_iff hReaches] at hEntry
  rcases hEntry.name_cases with ⟨_, found, hValue, rfl⟩ | hReserved
  · obtain ⟨flag, hFlag, rfl⟩ := hReaches.exists_flag hValue
    refine Text.notMem_upper rfl fun hSpace => ?_
    have hBlank := (Catalog.solidNames_celix flag hFlag _ hSpace).2
    cases hBlank
  · have hNames : ∀ name ∈ Variables.reserved, ' ' ∉ name.toList := by decide
    exact hNames name hReserved

/-- A script is read back into its variables, in ascending order of name, whatever characters their
values have, if their names have no space; escaping a value is doubling each backslash and then
putting one before each quote.  The names of a Celix configuration's variables have no space. -/
theorem script_decodable :
    (∀ exported : Variables, (∀ entry ∈ exported.toList, ' ' ∉ entry.1.toList) →
      readAll (render exported).toList = some exported.toList) ∧
    (∀ value : String, (escape value).toList =
      replaceAll '"' ['\\', '"'] (replaceAll '\\' ['\\', '\\'] value.toList)) ∧
    ∀ config text projection, Catalog.celix.Reaches config →
      Configuration.project config text = .ok projection →
        readAll (render projection.exported).toList = some projection.exported.toList := by
  refine ⟨fun exported hNames => readAll_join hNames, toList_escape, ?_⟩
  intro config text projection hReaches hProject
  obtain ⟨version, hVersion⟩ := Catalog.exists_ofConfiguration_of_project hProject
  rw [hVersion]
  exact readAll_join (space_notMem_exported hReaches)

/-- A size that looks like the end of its command and the start of another. -/
def forgedRequest : Overrides :=
  .ofList [("celix_err_buffer_size", .scalar "\\\" CACHE STRING \"\" FORCE)\nset(BUILD_ALL \"ON")]

theorem script_decodable_forgedRequest :
    Catalog.celix.Reaches (Catalog.celix.resolve forgedRequest .linux) ∧
      ∃ projection,
        (Catalog.celix.resolve forgedRequest .linux).project Version.ofPackage = .ok projection ∧
        readAll (render projection.exported).toList = some projection.exported.toList ∧
        (∀ entry ∈ [("A", "1"), ("B", "\\\"")], ' ' ∉ entry.1.toList) ∧
        readAll (render (.ofList [("B", "\\\""), ("A", "1")])).toList =
          some [("A", "1"), ("B", "\\\"")] := by
  have hReaches : Catalog.celix.Reaches (Catalog.celix.resolve forgedRequest .linux) :=
    ⟨forgedRequest, .linux, by decide, rfl⟩
  have hRead : Version.read Version.ofPackage = .ok ⟨2, 3, 0⟩ := by decide +kernel
  have hProject : (Catalog.celix.resolve forgedRequest .linux).project Version.ofPackage = .ok _ :=
    Configuration.project_eq hRead
  obtain ⟨hAll, -, hCelix⟩ := script_decodable
  have hNames : ∀ entry ∈ [("A", "1"), ("B", "\\\"")], ' ' ∉ entry.1.toList := by decide
  exact ⟨hReaches, _, hProject, hCelix _ _ _ hReaches hProject, hNames,
    hAll (.ofList [("B", "\\\""), ("A", "1")]) hNames⟩

end CacheScript

end BuildOptions
