import BuildOptions.Proofs.Json.Strings

/-! The compact text of a JSON document determines the document, with the order of its members and
with members of one name. -/

namespace BuildOptions.Json

open Text (Delimits)

/-! ### How texts begin -/

/-- The first character of a document's text. -/
def opening : Json → Char
  | null => 'n'
  | bool true => 't'
  | bool false => 'f'
  | string _ => '"'
  | array _ => '['
  | object _ => '\x7b'

theorem exists_compact_eq (document : Json) :
    ∃ rest, document.compact.toList = document.opening :: rest := by
  cases document with
  | null => exact ⟨_, rfl⟩
  | bool value => cases value <;> exact ⟨_, rfl⟩
  | string text => exact ⟨_, toList_quote text⟩
  | array items => exact ⟨_, by simp [compact, opening]; rfl⟩
  | object members => exact ⟨_, by simp [compact, opening]; rfl⟩

theorem opening_ne_bracket (document : Json) : document.opening ≠ ']' := by
  cases document with
  | bool value => cases value <;> simp [opening]
  | _ => simp [opening]

theorem exists_compact_ne_bracket (document : Json) :
    ∃ c rest, document.compact.toList = c :: rest ∧ c ≠ ']' := by
  obtain ⟨rest, hRest⟩ := exists_compact_eq document
  exact ⟨document.opening, rest, hRest, opening_ne_bracket document⟩

theorem opening_eq_of_append {a b : Json} {r s : List Char}
    (h : a.compact.toList ++ r = b.compact.toList ++ s) : a.opening = b.opening := by
  obtain ⟨restA, hA⟩ := exists_compact_eq a
  obtain ⟨restB, hB⟩ := exists_compact_eq b
  rw [hA, hB] at h
  exact (List.cons.inj h).1

/-! ### Items and members -/

theorem compactItems_eq_map (items : List Json) : compactItems items = items.map compact := by
  induction items with
  | nil => rfl
  | cons item rest ih => rw [compactItems, ih, List.map_cons]

/-- The text of one member of an object. -/
def memberText (entry : String × Json) : String := quote entry.1 ++ ":" ++ entry.2.compact

theorem compactMembers_eq_map (members : List (String × Json)) :
    compactMembers members = members.map memberText := by
  induction members with
  | nil => rfl
  | cons entry rest ih =>
    obtain ⟨name, value⟩ := entry
    rw [compactMembers, ih, List.map_cons, memberText]

theorem exists_memberText_ne_brace (entry : String × Json) :
    ∃ c rest, (memberText entry).toList = c :: rest ∧ c ≠ '\x7d' := by
  refine ⟨'"', escape entry.1.toList ++ ['"'] ++ (":" ++ entry.2.compact).toList, ?_, by decide⟩
  simp [memberText, toList_quote]

theorem delimits_memberText {entry : String × Json}
    (h : Delimits (fun document => document.compact.toList) entry.2) :
    Delimits (fun entry => (memberText entry).toList) entry := by
  intro other r s hSame
  simp only [memberText, String.toList_append, List.append_assoc] at hSame
  obtain ⟨hName, hRest⟩ := delimits_quote entry.1 other.1 _ _ hSame
  obtain ⟨hValue, hEnd⟩ := h other.2 r s (by simpa using hRest)
  exact ⟨Prod.ext hName hValue, hEnd⟩

/-! ### One constructor at a time -/

theorem delimits_null : Delimits (fun document => document.compact.toList) null := by
  intro other r s hSame
  have hOpening : null.opening = other.opening := opening_eq_of_append hSame
  cases other with
  | null => exact ⟨rfl, List.append_cancel_left hSame⟩
  | bool value => cases value <;> cases hOpening
  | _ => cases hOpening

theorem delimits_bool (value : Bool) :
    Delimits (fun document => document.compact.toList) (bool value) := by
  intro other r s hSame
  have hOpening : (bool value).opening = other.opening := opening_eq_of_append hSame
  cases other with
  | bool other =>
    have hValue : value = other := by
      cases value <;> cases other
      · rfl
      · cases hOpening
      · cases hOpening
      · rfl
    subst hValue
    exact ⟨rfl, List.append_cancel_left hSame⟩
  | _ => cases value <;> cases hOpening

theorem delimits_string (text : String) :
    Delimits (fun document => document.compact.toList) (string text) := by
  intro other r s hSame
  have hOpening : (string text).opening = other.opening := opening_eq_of_append hSame
  cases other with
  | string other =>
    obtain ⟨rfl, hEnd⟩ := delimits_quote text other r s hSame
    exact ⟨rfl, hEnd⟩
  | bool value => cases value <;> cases hOpening
  | _ => cases hOpening

theorem delimits_array {items : List Json}
    (h : ∀ item ∈ items, Delimits (fun document => document.compact.toList) item) :
    Delimits (fun document => document.compact.toList) (array items) := by
  intro other r s hSame
  have hOpening : (array items).opening = other.opening := opening_eq_of_append hSame
  cases other with
  | array others =>
    simp only [compact, compactItems_eq_map, String.toList_append, List.append_assoc] at hSame
    obtain ⟨rfl, hEnd⟩ :=
      Text.commas_append_inj h exists_compact_ne_bracket (by decide) (List.append_cancel_left hSame)
    exact ⟨rfl, hEnd⟩
  | bool value => cases value <;> cases hOpening
  | _ => cases hOpening

theorem delimits_object {members : List (String × Json)}
    (h : ∀ entry ∈ members, Delimits (fun document => document.compact.toList) entry.2) :
    Delimits (fun document => document.compact.toList) (object members) := by
  intro other r s hSame
  have hOpening : (object members).opening = other.opening := opening_eq_of_append hSame
  cases other with
  | object others =>
    simp only [compact, compactMembers_eq_map, String.toList_append, List.append_assoc] at hSame
    have hMembers : ∀ entry ∈ members, Delimits (fun entry => (memberText entry).toList) entry :=
      fun entry hEntry => delimits_memberText (h entry hEntry)
    obtain ⟨rfl, hEnd⟩ := Text.commas_append_inj hMembers exists_memberText_ne_brace (by decide)
      (List.append_cancel_left hSame)
    exact ⟨rfl, hEnd⟩
  | bool value => cases value <;> cases hOpening
  | _ => cases hOpening

/-! ### All documents -/

theorem sizeOf_value_lt {entry : String × Json} {members : List (String × Json)}
    (h : entry ∈ members) : sizeOf entry.2 < 1 + sizeOf members := by
  have hEntry : sizeOf entry < sizeOf members := List.sizeOf_lt_of_mem h
  have hValue : sizeOf entry.2 < sizeOf entry := by
    cases entry
    simp only [Prod.mk.sizeOf_spec]
    omega
  omega

theorem delimits_compact :
    ∀ document : Json, Delimits (fun document => document.compact.toList) document
  | null => delimits_null
  | bool value => delimits_bool value
  | string text => delimits_string text
  | array items => delimits_array fun item _ => delimits_compact item
  | object members => delimits_object fun entry _ => delimits_compact entry.2
termination_by document => sizeOf document
decreasing_by
  · decreasing_tactic
  · rw [object.sizeOf_spec]
    exact sizeOf_value_lt ‹_›

theorem compact_injective : Function.Injective compact := fun a _ hSame =>
  (delimits_compact a).eq_of_write_eq (congrArg String.toList hSame)

end BuildOptions.Json
