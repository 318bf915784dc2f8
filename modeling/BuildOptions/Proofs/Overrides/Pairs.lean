import BuildOptions.Proofs.Catalog.Console
import BuildOptions.Proofs.Overrides.Coercion

/-! Overrides that are made from a list of names and values.  Whether a pair is taken does not
depend on the pairs before it, so a list is taken as a whole or refused for its first pair that
cannot be taken; of the pairs for one flag the last decides, and the order of the others does not
matter. -/

namespace BuildOptions

namespace Overrides

variable {catalog : Catalog} {overrides result : Overrides} {pair : String × FlagValue}
  {pairs xs ys : List (String × FlagValue)} {name : String} {value : FlagValue}
  {refusal : OptionError}

/-- The pair with its value as the flag takes it. -/
def readPair (catalog : Catalog) (pair : String × FlagValue) :
    Except OptionError (String × FlagValue) :=
  (catalog.accept pair.1 pair.2).map fun value => (pair.1, value)

theorem readPair_eq_ok_iff :
    readPair catalog pair = .ok (name, value) ↔
      pair.1 = name ∧ catalog.Coerces name pair.2 value := by
  rw [readPair, map_eq_ok_iff]
  constructor
  · rintro ⟨taken, hAccept, hPair⟩
    cases hPair
    exact ⟨rfl, Catalog.accept_eq_ok_iff.mp hAccept⟩
  · rintro ⟨rfl, hCoerces⟩
    exact ⟨value, hCoerces.accept, rfl⟩

theorem reads_readPair :
    NameMap.Reads (readPair catalog) NameMap.EntryGives catalog.Coerces where
  eq_ok_iff := by
    rintro ⟨key, given⟩ name value
    rw [readPair_eq_ok_iff]
    constructor
    · rintro ⟨rfl, hCoerces⟩
      exact ⟨given, rfl, hCoerces⟩
    · rintro ⟨_, hGives, hCoerces⟩
      cases hGives
      exact ⟨rfl, hCoerces⟩
  name_eq := NameMap.EntryGives.name_eq

theorem set_eq_fill (overrides : Overrides) (pair : String × FlagValue) :
    overrides.set catalog pair.1 pair.2 = NameMap.fill (readPair catalog) overrides pair := by
  rw [Overrides.set, NameMap.fill, readPair]
  cases catalog.accept pair.1 pair.2 <;> rfl

theorem ofPairs_eq (catalog : Catalog) (pairs : List (String × FlagValue)) :
    ofPairs catalog pairs = pairs.foldlM (NameMap.fill (readPair catalog)) ∅ := by
  simp only [ofPairs, set_eq_fill]

/-! ### One list -/

theorem exists_ofPairs_iff :
    (∃ overrides, ofPairs catalog pairs = .ok overrides) ↔
      ∀ pair ∈ pairs, ∃ single, Overrides.set catalog ∅ pair.1 pair.2 = .ok single := by
  simp only [ofPairs_eq, set_eq_fill, NameMap.exists_foldlM_fill_iff]

theorem ofPairs_eq_error_iff :
    ofPairs catalog pairs = .error refusal ↔
      ∃ before pair after, pairs = before ++ pair :: after ∧
        (∀ earlier ∈ before, ∃ single,
          Overrides.set catalog ∅ earlier.1 earlier.2 = .ok single) ∧
        Overrides.set catalog ∅ pair.1 pair.2 = .error refusal := by
  simp only [ofPairs_eq, set_eq_fill, NameMap.foldlM_fill_eq_error_iff]

/-- The last pair for a flag gives it this value. -/
def LastGiven (pairs : List (String × FlagValue)) (name : String) (given : FlagValue) : Prop :=
  ∃ before after, pairs = before ++ (name, given) :: after ∧ ∀ later ∈ after, later.1 ≠ name

/-- In a list that is taken, the last pair for a flag decides its value. -/
theorem get?_of_ofPairs (h : ofPairs catalog pairs = .ok overrides) :
    overrides.get? name = some value ↔
      ∃ given, LastGiven pairs name given ∧ catalog.Coerces name given value := by
  rw [ofPairs_eq] at h
  simp only [reads_readPair.get?_eq_some_iff h, NameMap.lastGives_entryGives_iff,
    NameMap.get?_ofList_eq_some_iff, LastGiven]

/-! ### Two lists -/

theorem ofPairs_append (xs ys : List (String × FlagValue)) :
    ofPairs catalog (xs ++ ys) = do
      let older ← ofPairs catalog xs
      let newer ← ofPairs catalog ys
      return older.merge newer := by
  simp only [ofPairs_eq, NameMap.foldlM_fill_append]

/-- For each flag, both lists have the same pairs in the same order. -/
def SameByName (xs ys : List (String × FlagValue)) : Prop :=
  ∀ name, xs.filter (·.1 = name) = ys.filter (·.1 = name)

theorem SameByName.symm (h : SameByName xs ys) : SameByName ys xs := fun name => (h name).symm

theorem SameByName.lastGiven {given : FlagValue} (h : SameByName xs ys)
    (hLast : LastGiven xs name given) : LastGiven ys name given := by
  obtain ⟨before, after, rfl, hAfter⟩ := hLast
  have hNone : after.filter (·.1 = name) = [] := by simpa using hAfter
  have hFilter := h name
  rw [List.filter_append, List.filter_cons_of_pos (by simp), hNone, eq_comm,
    List.filter_eq_append_iff] at hFilter
  obtain ⟨front, rest, rfl, -, hRest⟩ := hFilter
  obtain ⟨middle, last, rfl, -, -, hLast⟩ := List.filter_eq_cons_iff.mp hRest
  exact ⟨front ++ middle, last, by simp, by simpa using hLast⟩

theorem SameByName.lastGiven_iff {given : FlagValue} (h : SameByName xs ys) :
    LastGiven xs name given ↔ LastGiven ys name given :=
  ⟨h.lastGiven, h.symm.lastGiven⟩

theorem SameByName.mem (h : SameByName xs ys) (hMem : pair ∈ ys) : pair ∈ xs := by
  have hFilter : pair ∈ ys.filter (·.1 = pair.1) := List.mem_filter.mpr ⟨hMem, by simp⟩
  rw [← h pair.1] at hFilter
  exact List.mem_of_mem_filter hFilter

/-- Pairs for different flags may change places in a list that is taken. -/
theorem SameByName.ofPairs_eq_ok (h : SameByName xs ys) (hTaken : ofPairs catalog xs = .ok result) :
    ofPairs catalog ys = .ok result := by
  have hAll := exists_ofPairs_iff.mp ⟨result, hTaken⟩
  obtain ⟨other, hOther⟩ :=
    exists_ofPairs_iff.mpr fun pair (hPair : pair ∈ ys) => hAll pair (h.mem hPair)
  have hSame : other = result := by
    apply NameMap.ext_get?
    intro name
    apply Option.ext
    intro value
    simp only [get?_of_ofPairs hOther, get?_of_ofPairs hTaken, h.lastGiven_iff]
  rw [hOther, hSame]

theorem sameByName_of_perm (h : xs.Perm ys) (hDistinct : (xs.map Prod.fst).Nodup) :
    SameByName xs ys := by
  intro name
  -- Of pairs with different names, at most one has the given one.
  have hOne : ∀ {l : List (String × FlagValue)}, (l.map Prod.fst).Nodup →
      (l.filter (·.1 = name)).Pairwise fun _ _ => False := by
    intro l hNodup
    rw [List.pairwise_filter]
    refine (List.pairwise_map.mp hNodup).imp fun hNe ha hb => hNe ?_
    rw [of_decide_eq_true ha, of_decide_eq_true hb]
  exact (h.filter _).eq_of_pairwise (fun _ _ _ _ hFalse => hFalse.elim) (hOne hDistinct)
    (hOne ((h.map Prod.fst).nodup_iff.mp hDistinct))

end Overrides

namespace Catalog

/-- A list of names and values is taken exactly if each pair is taken on its own; then each flag has
the value of its last pair, and no other flag has one.  Else the first pair that is not taken says
why.  Two lists after one another are the second merged over the first, and pairs for different
flags may change places. -/
theorem pairs_taken_or_first_refused (catalog : Catalog) :
    (∀ pairs, (∃ overrides, Overrides.ofPairs catalog pairs = .ok overrides) ↔
      ∀ pair ∈ pairs, ∃ single, Overrides.set catalog ∅ pair.1 pair.2 = .ok single) ∧
    (∀ pairs overrides, Overrides.ofPairs catalog pairs = .ok overrides → ∀ name value,
      overrides.get? name = some value ↔
        ∃ given, Overrides.LastGiven pairs name given ∧ catalog.Coerces name given value) ∧
    (∀ pairs refusal, Overrides.ofPairs catalog pairs = .error refusal ↔
      ∃ before pair after, pairs = before ++ pair :: after ∧
        (∀ earlier ∈ before, ∃ single,
          Overrides.set catalog ∅ earlier.1 earlier.2 = .ok single) ∧
        Overrides.set catalog ∅ pair.1 pair.2 = .error refusal) ∧
    (∀ xs ys result, Overrides.ofPairs catalog (xs ++ ys) = .ok result ↔
      ∃ older newer, Overrides.ofPairs catalog xs = .ok older ∧
        Overrides.ofPairs catalog ys = .ok newer ∧ older.merge newer = result) ∧
    (∀ xs ys, Overrides.SameByName xs ys → ∀ result,
      Overrides.ofPairs catalog xs = .ok result → Overrides.ofPairs catalog ys = .ok result) ∧
    ∀ xs ys, xs.Perm ys → (xs.map Prod.fst).Nodup → ∀ result,
      Overrides.ofPairs catalog xs = .ok result → Overrides.ofPairs catalog ys = .ok result := by
  refine ⟨fun pairs => Overrides.exists_ofPairs_iff,
    fun pairs overrides hTaken name value => Overrides.get?_of_ofPairs hTaken,
    fun pairs refusal => Overrides.ofPairs_eq_error_iff, fun xs ys result => ?_,
    fun xs ys hSame result => hSame.ofPairs_eq_ok, fun xs ys hPerm hDistinct result => ?_⟩
  · rw [Overrides.ofPairs_append]
    simp only [bind_eq_ok_iff, exists_and_left, pure, Except.pure, Except.ok.injEq]
  · exact (Overrides.sameByName_of_perm hPerm hDistinct).ofPairs_eq_ok

/-- The log is asked for and then refused by a word, with a size for it in between. -/
def repeatedPairs : List (String × FlagValue) :=
  [("with_log", .switch true), ("log_size", .scalar "4"), ("with_log", .scalar " Off ")]

/-- The same with the size at the end. -/
def movedPairs : List (String × FlagValue) :=
  [("with_log", .switch true), ("with_log", .scalar " Off "), ("log_size", .scalar "4")]

theorem sameByName_movedPairs : Overrides.SameByName repeatedPairs movedPairs := by
  intro name
  by_cases hLog : "with_log" = name
  · subst hLog
    decide
  · by_cases hSize : "log_size" = name <;> simp [repeatedPairs, movedPairs, hLog, hSize]

/-- The word decides for the log.  A list that goes on with a position for the size is refused for
that pair, whatever stands behind it. -/
theorem pairs_taken_or_first_refused_repeatedPairs :
    ∃ overrides, Overrides.ofPairs console repeatedPairs = .ok overrides ∧
      overrides.get? "with_log" = some (.switch false) ∧
      (Overrides.SameByName repeatedPairs movedPairs ∧
        Overrides.ofPairs console movedPairs = .ok overrides) ∧
      (repeatedPairs.tail.Perm movedPairs.tail ∧ (repeatedPairs.tail.map Prod.fst).Nodup ∧
        Overrides.ofPairs console repeatedPairs.tail = .ok overrides ∧
        Overrides.ofPairs console movedPairs.tail = .ok overrides) ∧
      Overrides.ofPairs console
          (repeatedPairs ++ [("log_size", .switch true), ("log", .switch true)]) =
        .error (.wrongKind "log_size" .scalar "true") := by
  obtain ⟨hAll, hGet, hRefused, -, hSame, hPerm⟩ := pairs_taken_or_first_refused console
  have hTaken : Overrides.ofPairs console repeatedPairs =
      .ok (.ofList [("with_log", .switch false), ("log_size", .scalar "4")]) := by decide +kernel
  have hTail : Overrides.ofPairs console repeatedPairs.tail =
      .ok (.ofList [("with_log", .switch false), ("log_size", .scalar "4")]) := by decide +kernel
  have hLast : Overrides.LastGiven repeatedPairs "with_log" (.scalar " Off ") :=
    ⟨repeatedPairs.take 2, [], rfl, by simp⟩
  have hOff : console.Coerces "with_log" (.scalar " Off ") (.switch false) :=
    .word (by decide) (spells_iff.mpr (by decide))
  have hMoved : repeatedPairs.tail.Perm movedPairs.tail := .swap _ _ _
  have hNodup : (repeatedPairs.tail.map Prod.fst).Nodup := by decide
  refine ⟨_, hTaken, (hGet _ _ hTaken _ _).mpr ⟨_, hLast, hOff⟩,
    ⟨sameByName_movedPairs, hSame _ _ sameByName_movedPairs _ hTaken⟩,
    ⟨hMoved, hNodup, hTail, hPerm _ _ hMoved hNodup _ hTail⟩,
    (hRefused _ _).mpr ⟨repeatedPairs, _, _, rfl, ?_, by decide +kernel⟩⟩
  exact (hAll repeatedPairs).mp ⟨_, hTaken⟩

end Catalog

end BuildOptions
