import BuildOptions.Proofs.Resolution.Outcome

/-! A small catalog on which statements about resolution are tried: the console brings the shell,
the two together bring the log, and the log exists on Linux only. -/

namespace BuildOptions.Catalog

/-- The catalog of a console with a shell and a log. -/
def console : Catalog where
  flags := [⟨"with_all", .switch false⟩, ⟨"with_console", .switch false⟩,
    ⟨"with_log", .switch false⟩, ⟨"with_shell", .switch false⟩,
    ⟨"log_size", .scalar "8" .positiveInteger⟩]
  rules := [⟨"console", .any ["with_console"], ["with_shell"]⟩,
    ⟨"log", .all ["with_console", "with_shell"], ["with_log"]⟩]
  constraints := [⟨"log-on-linux", .except .linux, "with_log", false⟩]
  requirements := [⟨"with_log", .linux⟩]
  exclusions := ["with_all"]
  umbrella := some "with_all"
  featureStem := "with_"
  consistent := by decide

/-- The console is asked for, with a shell of its own refused and a smaller log. -/
def consoleRequest : Overrides :=
  .ofList [("with_console", .switch true), ("with_shell", .switch false), ("log_size", .scalar "4")]

/-- All features are asked for at once, and a smaller log. -/
def wholeRequest : Overrides :=
  .ofList [("with_all", .switch true), ("log_size", .scalar "4")]

/-- The log is asked for, and a size for it that is no number. -/
def refusedRequest : Overrides :=
  .ofList [("with_log", .switch true), ("log_size", .scalar "large")]

end BuildOptions.Catalog
