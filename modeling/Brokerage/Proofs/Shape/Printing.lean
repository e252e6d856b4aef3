import Brokerage.Proofs.Json.Printing
import Brokerage.Proofs.Shape.Reading

/-!
A value that fits a shape is read back from its text by the shape. A record is also read back from
a text that leaves out fields, if completing what is left gives the record again.
-/

set_option autoImplicit false

namespace Brokerage.Shape

open Json (EndsNumeral Leads Quoted skipSpaces stringChars membersChars itemsChars)

/-- A value is read by the shape from its text, wherever the text stands before what ends a number
literal. -/
def ReadsBack (levels : Nat) (shape : Shape) (value : Json) : Prop :=
  ∀ (steps : Nat) (rest : List Char), EndsNumeral rest → 2 * value.chars.length ≤ steps →
    read steps levels shape (value.chars ++ rest) = .ok (value, rest)

variable {levels : Nat}

/-! ### Values without fields -/

/-- There is a step to take for a text, and enough are left to read all of it. -/
theorem exists_step_of_exact {value : Json} (h : value.Exact) {steps : Nat}
    (hsteps : 2 * value.chars.length ≤ steps) :
    ∃ left, steps = left + 1 ∧ value.chars.length ≤ left := by
  obtain ⟨c, tail, hchars, -, -⟩ := Json.exists_cons_of_exact h
  rw [hchars, List.length_cons] at hsteps ⊢
  exact ⟨steps - 1, by omega, by omega⟩

theorem readQuotation_string {steps : Nat} (s : String) (rest : List Char)
    (hsteps : (stringChars s).length ≤ steps) :
    ∃ quoted, stringChars s ++ rest = '"' :: quoted ∧
      Json.readQuotation steps [] quoted = .ok (s, rest) := by
  obtain ⟨pieces, quoted, hs, hquoted, hcontent⟩ := Json.exists_quoted_of_string s rest
  refine ⟨quoted, hs, Json.readKey_of_quoted hquoted hcontent ?_⟩
  have hlength := congrArg List.length hs
  simp only [List.length_append, List.length_cons] at hlength
  omega

theorem readsBack_text (s : String) : ReadsBack levels .text (.string s) := by
  intro steps rest _ hsteps
  have hexact : (Json.string s).Exact := trivial
  obtain ⟨steps, rfl, hleft⟩ := exists_step_of_exact hexact hsteps
  obtain ⟨quoted, hs, hread⟩ := readQuotation_string s rest hleft
  rw [show (Json.string s).chars = stringChars s from rfl, hs, read, Json.skipSpaces_cons rfl]
  simp [core, admitsNull, readText, hread, plainly]

theorem readsBack_choice {names : List String} {name : String} (h : name ∈ names) :
    ReadsBack levels (.choice names) (.string name) := by
  intro steps rest _ hsteps
  have hexact : (Json.string name).Exact := trivial
  obtain ⟨steps, rfl, hleft⟩ := exists_step_of_exact hexact hsteps
  obtain ⟨quoted, hs, hread⟩ := readQuotation_string name rest hleft
  rw [show (Json.string name).chars = stringChars name from rfl, hs, read,
    Json.skipSpaces_cons rfl]
  simp [core, admitsNull, readChoice, readName, hread, plainly, h]

theorem readsBack_flag (b : Bool) : ReadsBack levels .flag (.bool b) := by
  intro steps rest _ hsteps
  obtain ⟨steps, rfl, -⟩ := exists_step_of_exact (show (Json.bool b).Exact from trivial) hsteps
  cases b with
  | true =>
    rw [show (Json.bool true).chars ++ rest = 't' :: (['r', 'u', 'e'] ++ rest) from rfl, read,
      Json.skipSpaces_cons rfl]
    change plainly (Json.readConstant ['r', 'u', 'e'] (.bool true) (['r', 'u', 'e'] ++ rest)) = _
    exact plainly_ok_iff.2 (Json.readConstant_ok_iff.2 ⟨rfl, rfl⟩)
  | false =>
    rw [show (Json.bool false).chars ++ rest = 'f' :: (['a', 'l', 's', 'e'] ++ rest) from rfl,
      read, Json.skipSpaces_cons rfl]
    change plainly
      (Json.readConstant ['a', 'l', 's', 'e'] (.bool false) (['a', 'l', 's', 'e'] ++ rest)) = _
    exact plainly_ok_iff.2 (Json.readConstant_ok_iff.2 ⟨rfl, rfl⟩)

theorem readsBack_anything {value : Json} (h : value.Exact) (hdepth : value.depth ≤ levels) :
    ReadsBack levels .anything value := by
  intro steps rest hrest hsteps
  obtain ⟨steps, rfl, hleft⟩ := exists_step_of_exact h hsteps
  have hread := Json.readValue_chars h hdepth hrest hleft
  obtain ⟨c, tail, hchars, hspace, -⟩ := Json.exists_cons_of_exact h
  rw [hchars, List.cons_append] at hread ⊢
  rw [read, Json.skipSpaces_cons hspace]
  simp only [core, admitsNull, Bool.and_false, Bool.false_eq_true, if_false]
  exact plainly_ok_iff.2 hread

theorem readsBack_table {members : Members} (h : (Json.object members).Exact)
    (hdepth : (Json.object members).depth ≤ levels) :
    ReadsBack levels .table (.object members) := by
  intro steps rest hrest hsteps
  obtain ⟨steps, rfl, hleft⟩ := exists_step_of_exact h hsteps
  have hread := Json.readValue_chars h hdepth hrest hleft
  rw [show (Json.object members).chars = '{' :: membersChars members ++ ['}'] from rfl,
    List.cons_append, List.cons_append] at hread ⊢
  rw [read, Json.skipSpaces_cons rfl]
  exact plainly_ok_iff.2 hread

/-! ### Layers that admit null -/

theorem readsBack_null (content : Shape) : ReadsBack levels (.optional content) .null := by
  intro steps rest _ hsteps
  obtain ⟨steps, rfl, -⟩ := exists_step_of_exact (show Json.null.Exact from trivial) hsteps
  rw [show Json.null.chars ++ rest = 'n' :: (['u', 'l', 'l'] ++ rest) from rfl, read,
    Json.skipSpaces_cons rfl]
  change plainly (Json.readConstant ['u', 'l', 'l'] .null (['u', 'l', 'l'] ++ rest)) = _
  exact plainly_ok_iff.2 (Json.readConstant_ok_iff.2 ⟨rfl, rfl⟩)

/-- A text that does not begin with an n is read through every layer that admits null. -/
theorem read_optional {steps : Nat} {content : Shape} {c : Char} {tail : List Char}
    (hspace : Json.isSpace c = false) (hc : c ≠ 'n') :
    read steps levels (.optional content) (c :: tail) = read steps levels content (c :: tail) := by
  cases steps with
  | zero => rw [read, read]
  | succ steps =>
    rw [read, read, Json.skipSpaces_cons hspace tail]
    simp [hc, core, expectation]

theorem ReadsBack.optional {content : Shape} {value : Json} (h : ReadsBack levels content value)
    (hexact : value.Exact) : ReadsBack levels (.optional content) value := by
  intro steps rest hrest hsteps
  obtain ⟨c, tail, hchars, hspace, hnull⟩ := Json.exists_cons_of_exact hexact
  by_cases hc : c = 'n'
  · obtain rfl := hnull hc
    exact readsBack_null content _ _ hrest hsteps
  · have hread := h _ _ hrest hsteps
    rw [hchars, List.cons_append] at hread ⊢
    rw [read_optional hspace hc, hread]

/-! ### Lists -/

theorem readItems_item {steps : Nat} {item : Shape} {before : List Json} {value : Json}
    {s after : List Char} (hlead : Leads before.isEmpty s (value.chars ++ after))
    (h : ReadsBack levels item value) (hexact : value.Exact) (hafter : EndsNumeral after)
    (hsteps : 2 * value.chars.length ≤ steps) :
    readItems (steps + 1) levels item before s
      = readItems steps levels item (value :: before) after := by
  obtain ⟨tree, htree, -, -⟩ := Json.exists_spelled_of_exact hexact hafter
  have hspaces := htree.skipSpaces_eq
  have hnext := Json.nextItem_of_leads hlead (hspaces ▸ htree)
  rw [hspaces] at hnext
  rw [readItems, hnext]
  simp only [plainly]
  rw [h _ _ hafter hsteps]

theorem readItems_chars {item : Shape} {values : List Json} (hvalues : values ≠ [])
    (h : ∀ value ∈ values, ReadsBack levels item value ∧ value.Exact) {steps : Nat}
    {before : List Json} {s rest : List Char}
    (hlead : Leads before.isEmpty s (itemsChars values ++ ']' :: rest))
    (hsteps : 2 * (itemsChars values).length + 1 ≤ steps) :
    readItems steps levels item before s = .ok (.list (before.reverse ++ values), rest) := by
  induction values generalizing steps before s with
  | nil => exact absurd rfl hvalues
  | cons value values ih =>
    obtain ⟨⟨hvalue, hexact⟩, hrest⟩ := List.forall_mem_cons.1 h
    obtain ⟨steps, rfl⟩ := Nat.exists_eq_add_one_of_ne_zero (n := steps) (by omega)
    obtain ⟨c, tail, hchars, -, -⟩ := Json.exists_cons_of_exact hexact
    have hpos : 0 < value.chars.length := by rw [hchars]; exact Nat.succ_pos _
    cases values with
    | nil =>
      rw [itemsChars] at hlead hsteps
      rw [readItems_item hlead hvalue hexact (Json.endsNumeral_bracket rest) (by omega)]
      obtain ⟨steps, rfl⟩ := Nat.exists_eq_add_one_of_ne_zero (n := steps) (by omega)
      rw [readItems, Json.nextItem_end_iff.2 (Json.skipSpaces_cons rfl rest)]
      simp [plainly]
    | cons next values =>
      rw [itemsChars, List.length_append, List.length_cons] at hsteps
      rw [itemsChars, List.append_assoc, List.cons_append] at hlead
      have hread : readItems steps levels item (value :: before)
          (',' :: (itemsChars (next :: values) ++ ']' :: rest))
          = .ok (.list ((value :: before).reverse ++ next :: values), rest) :=
        ih (List.cons_ne_nil next values) hrest (Json.leads_comma _) (by omega)
      rw [readItems_item hlead hvalue hexact (Json.endsNumeral_comma _) (by omega), hread]
      simp

theorem readsBack_list {item : Shape} {values : List Json} {inner : Nat}
    (h : ∀ value ∈ values, ReadsBack inner item value ∧ value.Exact) :
    ReadsBack (inner + 1) (.listOf item) (.list values) := by
  intro steps rest hrest hsteps
  have hexact : (Json.list values).Exact := Json.exactItems_iff.2 fun v hv ↦ (h v hv).2
  obtain ⟨steps, rfl, -⟩ := exists_step_of_exact hexact hsteps
  rw [show (Json.list values).chars = '[' :: itemsChars values ++ [']'] from rfl] at hsteps ⊢
  simp only [List.cons_append, List.length_cons, List.length_append, List.length_nil,
    List.append_assoc, List.nil_append] at hsteps ⊢
  rw [read, Json.skipSpaces_cons rfl]
  change readItems steps inner item [] (itemsChars values ++ ']' :: rest) = _
  cases values with
  | nil =>
    obtain ⟨steps, rfl⟩ := Nat.exists_eq_add_one_of_ne_zero (n := steps) (by omega)
    have hend : Json.nextItem true (']' :: rest) = .ok (false, rest) :=
      Json.nextItem_end_iff.2 (Json.skipSpaces_cons rfl rest)
    change readItems (steps + 1) inner item [] (']' :: rest) = _
    rw [readItems, List.isEmpty_nil, hend]
    rfl
  | cons value values =>
    exact readItems_chars (List.cons_ne_nil _ _) h (.first _) (by omega)

/-! ### Records -/

section
variable {fields : List (String × Absence × Shape)}

theorem readNamed_member {steps : Nat} {shape : Shape} {first : Bool} {before : Members}
    {key : String} {value : Json} {s after : List Char}
    (hlead : Leads first s (stringChars key ++ ':' :: (value.chars ++ after)))
    (hfield : field? fields key = some shape) (hkey : before.contains key = false)
    (h : ReadsBack levels shape value) (hafter : EndsNumeral after)
    (hsteps : (stringChars key).length ≤ steps ∧ 2 * value.chars.length ≤ steps) :
    readNamed (steps + 1) levels fields first before s
      = readNamed steps levels fields false (before.insert key value) after := by
  obtain ⟨quoted, hs, hread⟩ :=
    readQuotation_string key (':' :: (value.chars ++ after)) hsteps.1
  rw [hs] at hlead
  have hnext := Json.nextKey_of_leads hlead (Json.skipSpaces_cons rfl quoted)
  have hcolon : Json.readColon (':' :: (value.chars ++ after)) = .ok ((), value.chars ++ after) :=
    Json.readColon_ok_iff.2 (Json.skipSpaces_cons rfl _)
  rw [readNamed, hnext]
  simp only [plainly]
  rw [hread]
  simp only [hfield, hkey, Bool.false_eq_true, if_false, hcolon]
  rw [h _ _ hafter hsteps.2]

theorem length_stringChars (s : String) : 2 ≤ (stringChars s).length := by
  simp [stringChars]

theorem contains_eq_false {before entries : Members} {key : String} {value : Json}
    (h : Members.Sorted (before ++ (key, value) :: entries)) : before.contains key = false := by
  have hbefore := (List.pairwise_append.1 h).2.2
  rw [Members.contains, Members.get?, Option.isSome_eq_false_iff, Option.isNone_iff_eq_none,
    List.lookup_eq_none_iff]
  intro entry hentry
  exact bne_iff_ne.2 (String.ne_of_lt (hbefore entry hentry _ List.mem_cons_self)).symm

theorem readNamed_chars {entries all : Members} (hentries : entries ≠ [])
    (h : ∀ entry ∈ entries, ∃ shape, field? fields entry.1 = some shape ∧
      ReadsBack levels shape entry.2)
    {before : Members} (hsorted : Members.Sorted (before ++ entries))
    (hall : complete (before ++ entries) fields = .ok all) {steps : Nat} {first : Bool}
    {s rest : List Char} (hlead : Leads first s (membersChars entries ++ '}' :: rest))
    (hsteps : 2 * (membersChars entries).length + 1 ≤ steps) :
    readNamed steps levels fields first before s = .ok (.object all, rest) := by
  induction entries generalizing steps before s first with
  | nil => exact absurd rfl hentries
  | cons entry entries ih =>
    obtain ⟨key, value⟩ := entry
    obtain ⟨⟨shape, hfield, hvalue⟩, hrest⟩ := List.forall_mem_cons.1 h
    obtain ⟨steps, rfl⟩ := Nat.exists_eq_add_one_of_ne_zero (n := steps) (by omega)
    have hkey := contains_eq_false hsorted
    have hinsert := Json.insert_of_sorted hsorted
    have hlength := length_stringChars key
    cases entries with
    | nil =>
      simp only [membersChars, List.append_assoc, List.cons_append, List.length_append,
        List.length_cons] at hlead hsteps
      rw [readNamed_member hlead hfield hkey hvalue (Json.endsNumeral_brace rest)
        ⟨by omega, by omega⟩]
      obtain ⟨steps, rfl⟩ := Nat.exists_eq_add_one_of_ne_zero (n := steps) (by omega)
      rw [readNamed, Json.nextKey_end_iff.2 (Json.skipSpaces_cons rfl rest), hinsert]
      simp [plainly, closeNamed, hall]
    | cons next entries =>
      simp only [membersChars, List.append_assoc, List.cons_append, List.length_append,
        List.length_cons] at hlead hsteps
      rw [readNamed_member hlead hfield hkey hvalue (Json.endsNumeral_comma _)
        ⟨by omega, by omega⟩, hinsert]
      exact ih (List.cons_ne_nil next entries) hrest (by simpa using hsorted)
        (by simpa using hall) (Json.leads_comma _) (by omega)

/-- A record is read from a text that names fields enough to complete it. -/
theorem read_record_chars {entries all : Members} {inner : Nat}
    (h : ∀ entry ∈ entries, ∃ shape, field? fields entry.1 = some shape ∧
      ReadsBack inner shape entry.2) (hsorted : entries.Sorted)
    (hall : complete entries fields = .ok all) (label : String) {steps : Nat} (rest : List Char)
    (hsteps : 2 * (Json.object entries).chars.length ≤ steps) :
    read steps (inner + 1) (.record label fields) ((Json.object entries).chars ++ rest)
      = .ok (.object all, rest) := by
  rw [show (Json.object entries).chars = '{' :: membersChars entries ++ ['}'] from rfl]
    at hsteps ⊢
  simp only [List.cons_append, List.length_cons, List.length_append, List.length_nil,
    List.append_assoc, List.nil_append] at hsteps ⊢
  obtain ⟨steps, rfl⟩ := Nat.exists_eq_add_one_of_ne_zero (n := steps) (by omega)
  rw [read, Json.skipSpaces_cons rfl]
  change readNamed steps inner fields true [] (membersChars entries ++ '}' :: rest) = _
  cases entries with
  | nil =>
    obtain ⟨steps, rfl⟩ := Nat.exists_eq_add_one_of_ne_zero (n := steps) (by omega)
    have hend : Json.nextKey true ('}' :: rest) = .ok (false, rest) :=
      Json.nextKey_end_iff.2 (Json.skipSpaces_cons rfl rest)
    change readNamed (steps + 1) inner fields true [] ('}' :: rest) = _
    rw [readNamed, hend]
    simp [plainly, closeNamed, hall]
  | cons entry entries =>
    exact readNamed_chars (List.cons_ne_nil _ _) h hsorted hall (.first _) (by omega)

end

/-! ### All values -/

theorem readsBack_of_fits {shape : Shape} {value : Json} (h : shape.Fits value)
    (hdepth : value.depth ≤ levels) : ReadsBack levels shape value := by
  induction h generalizing levels with
  | text s => exact readsBack_text s
  | flag b => exact readsBack_flag b
  | anything h => exact readsBack_anything h hdepth
  | table h => exact readsBack_table h hdepth
  | null content => exact readsBack_null content
  | content h ih => exact (ih hdepth).optional h.exact
  | list h ih =>
    obtain ⟨inner, rfl⟩ := Nat.exists_eq_add_of_le' (Nat.le_trans (Nat.le_add_left 1 _) hdepth)
    have hitems := Json.depthItems_le_iff.1 (Nat.le_of_succ_le_succ hdepth)
    exact readsBack_list fun v hv ↦ ⟨ih v hv (hitems v hv), (h v hv).exact⟩
  | choice h => exact readsBack_choice h
  | record hsorted hpresent hknown hfits ih =>
    obtain ⟨inner, rfl⟩ := Nat.exists_eq_add_of_le' (Nat.le_trans (Nat.le_add_left 1 _) hdepth)
    have hmembers := Json.depthMembers_le_iff.1 (Nat.le_of_succ_le_succ hdepth)
    intro steps rest _ hsteps
    refine read_record_chars (fun entry hentry ↦ ?_) hsorted (complete_of_contains hpresent) _
      rest hsteps
    obtain ⟨shape, hshape⟩ := Option.isSome_iff_exists.1 (hknown entry hentry)
    exact ⟨shape, hshape, ih entry hentry shape hshape (hmembers entry hentry)⟩

/-- A text that is read to its end by the shape is what the shape parses. -/
theorem parse_of_read {shape : Shape} {value result : Json}
    (h : read (Json.stepsFor value.chars) Json.nestingLimit shape value.chars = .ok (result, [])) :
    shape.parse value.text = .ok result := by
  refine Json.readAll_ok_iff.2 ⟨[], ?_, rfl⟩
  rw [Json.text, String.toList_ofList]
  exact h

/-- What fits a shape is what the shape reads from its text. -/
theorem parse_of_fits {shape : Shape} {value : Json} (h : shape.Fits value)
    (hdepth : value.depth ≤ Json.nestingLimit) : shape.parse value.text = .ok value := by
  have hread := readsBack_of_fits h hdepth _ _ Json.endsNumeral_nil (Nat.le_add_right _ 2)
  rw [List.append_nil] at hread
  exact parse_of_read hread

/-- A record is what the shape reads from a text that names some of its fields, if the others are
those that completing it fills in. -/
theorem parse_of_entries {label : String} {fields : List (String × Absence × Shape)}
    {entries all : Members} (h : (Shape.record label fields).Fits (.object all))
    (hdepth : (Json.object all).depth ≤ Json.nestingLimit) (hsorted : entries.Sorted)
    (hsub : entries ⊆ all) (hall : complete entries fields = .ok all) :
    (Shape.record label fields).parse (Json.object entries).text = .ok (.object all) := by
  obtain ⟨inner, hlimit⟩ := Nat.exists_eq_add_of_le' (Nat.le_trans (Nat.le_add_left 1 _) hdepth)
  rw [hlimit] at hdepth
  have hmembers := Json.depthMembers_le_iff.1 (Nat.le_of_succ_le_succ hdepth)
  have hentries : ∀ entry ∈ entries, ∃ shape, field? fields entry.1 = some shape ∧
      ReadsBack inner shape entry.2 := by
    cases h with
    | record _ _ hknown hfits =>
      intro entry hentry
      have hmem := hsub hentry
      obtain ⟨shape, hshape⟩ := Option.isSome_iff_exists.1 (hknown entry hmem)
      exact ⟨shape, hshape, readsBack_of_fits (hfits entry hmem shape hshape) (hmembers entry hmem)⟩
  have hread := read_record_chars hentries hsorted hall label [] (Nat.le_add_right _ 2)
  rw [List.append_nil, ← hlimit] at hread
  exact parse_of_read hread

end Brokerage.Shape
