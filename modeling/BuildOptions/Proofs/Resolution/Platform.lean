import BuildOptions.Proofs.Resolution.Outcome

/-! The last word of the platform.  Of several constraints on one flag the last in the table
decides, whatever was asked for and whatever the rules did; the flags that no constraint names do
not depend on the target. -/

namespace BuildOptions.Catalog

variable {catalog : Catalog} {first second : Target} {name : String}

/-- The rules know nothing of targets, so two targets differ only in what their constraints name. -/
theorem get?_resolve_congr_target (overrides : Overrides)
    (hFirst : name ∉ catalog.constrained first) (hSecond : name ∉ catalog.constrained second) :
    (catalog.resolve overrides first).settings.get? name =
      (catalog.resolve overrides second).settings.get? name := by
  rw [get?_resolve_of_notMem hFirst, get?_resolve_of_notMem hSecond]

/-- On every target and for every request, a flag that constraints name ends with the value of the
last of them.  A flag that no constraint of two targets names has the same value and the same origin
on both. -/
theorem last_constraint_decides (catalog : Catalog) :
    (∀ target, ∀ name ∈ catalog.constrained target, ∃ last,
      (catalog.constraintsOn target name).getLast? = some last ∧
        ∀ overrides,
          (catalog.resolve overrides target).value? name = some (.switch last.value)) ∧
    ∀ overrides first second name,
      name ∉ catalog.constrained first → name ∉ catalog.constrained second →
        (catalog.resolve overrides first).value? name =
            (catalog.resolve overrides second).value? name ∧
          (catalog.resolve overrides first).origin? name =
            (catalog.resolve overrides second).origin? name := by
  constructor
  · intro target name hName
    obtain ⟨last, hLast⟩ := exists_getLast?_of_mem_constrained hName
    exact ⟨last, hLast, fun overrides => value?_resolve_of_getLast? hLast⟩
  · intro overrides first second name hFirst hSecond
    have hGet := get?_resolve_congr_target overrides hFirst hSecond
    constructor
    · rw [Configuration.value?, Configuration.value?, hGet]
    · rw [Configuration.origin?, Configuration.origin?, hGet]

/-- The catalog of a console whose log is contested: it goes off Linux, but on macOS it comes
back. -/
def contested : Catalog where
  flags := [⟨"with_console", .switch false⟩, ⟨"with_log", .switch false⟩,
    ⟨"with_shell", .switch false⟩]
  rules := [⟨"console", .any ["with_console"], ["with_log"]⟩,
    ⟨"log", .any ["with_log"], ["with_shell"]⟩]
  constraints := [⟨"log-on-linux", .except .linux, "with_log", false⟩,
    ⟨"log-on-macos", .only .macos, "with_log", true⟩]
  requirements := []
  exclusions := []
  umbrella := none
  featureStem := "with_"
  consistent := by decide

/-- On macOS the second constraint brings the log back, asked for or not.  On Windows the log is
gone, and the shell that it brought is there for the same reason as on macOS. -/
theorem last_constraint_decides_contested :
    "with_log" ∈ contested.constrained .macos ∧
      (∀ overrides,
        (contested.resolve overrides .macos).value? "with_log" = some (.switch true)) ∧
      "with_shell" ∉ contested.constrained .macos ∧ "with_shell" ∉ contested.constrained .windows ∧
      (contested.resolve (.ofList [("with_console", .switch true)]) .windows).isOn "with_log" =
        false ∧
      (contested.resolve (.ofList [("with_console", .switch true)]) .macos).origin? "with_shell" =
        some (.implied "log") ∧
      (contested.resolve (.ofList [("with_console", .switch true)]) .macos).origin? "with_shell" =
        (contested.resolve (.ofList [("with_console", .switch true)]) .windows).origin?
          "with_shell" := by
  have hLog : "with_log" ∈ contested.constrained .macos := by decide
  have hMacos : "with_shell" ∉ contested.constrained .macos := by decide
  have hWindows : "with_shell" ∉ contested.constrained .windows := by decide
  obtain ⟨hDecides, hSame⟩ := last_constraint_decides contested
  obtain ⟨last, hLast, hValue⟩ := hDecides .macos "with_log" hLog
  obtain rfl : last = ⟨"log-on-macos", .only .macos, "with_log", true⟩ := by
    have hTable : (contested.constraintsOn .macos "with_log").getLast? =
        some ⟨"log-on-macos", .only .macos, "with_log", true⟩ := by decide
    exact Option.some.inj (hLast.symm.trans hTable)
  exact ⟨hLog, hValue, hMacos, hWindows, by decide +kernel, by decide +kernel,
    (hSame _ .macos .windows "with_shell" hMacos hWindows).2⟩

end BuildOptions.Catalog
