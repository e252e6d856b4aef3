import Brokerage.Proofs.Json.Numerals
import Brokerage.Text.Blank

/-!
The texts of a value. Both the compact and the indented text say what the value is, whatever it
is: they spell the same tree with other white space between its parts. An exact value is read back
from either, unless it nests too deep.
-/

set_option autoImplicit false

namespace Brokerage.Json

open Text (naturalIn)

/-! ### Strings -/

/-- The escape by number of a control character. -/
theorem controlEscape : ∀ n < 0x20,
    ['0', '0', hexDigit (n / 16), hexDigit n].all Text.isHexDigit = true ∧
      naturalIn 16 ['0', '0', hexDigit (n / 16), hexDigit n] = n ∧ isLowSurrogate n = false ∧
      isHighSurrogate n = false := by
  decide

/-- A character is printed as one piece, which names it. -/
theorem exists_piece_of_escapedChar (c : Char) :
    ∃ piece, (∀ {pieces s rest}, Quoted pieces s rest →
        Quoted (piece :: pieces) (escapedChar c ++ s) rest) ∧
      ∀ pieces, characters? (piece :: pieces) = (characters? pieces).map (c :: ·) := by
  unfold escapedChar
  split
  next hc =>
    subst hc
    exact ⟨.char _, fun h ↦ .named rfl h, fun _ ↦ rfl⟩
  split
  next hc =>
    subst hc
    exact ⟨.char _, fun h ↦ .named rfl h, fun _ ↦ rfl⟩
  split
  next hc =>
    subst hc
    exact ⟨.char _, fun h ↦ .named rfl h, fun _ ↦ rfl⟩
  split
  next hc =>
    subst hc
    exact ⟨.char _, fun h ↦ .named rfl h, fun _ ↦ rfl⟩
  split
  next hc =>
    subst hc
    exact ⟨.char _, fun h ↦ .named rfl h, fun _ ↦ rfl⟩
  split
  next hc =>
    subst hc
    exact ⟨.char _, fun h ↦ .named rfl h, fun _ ↦ rfl⟩
  split
  next hc =>
    subst hc
    exact ⟨.char _, fun h ↦ .named rfl h, fun _ ↦ rfl⟩
  split
  next hcontrol =>
    obtain ⟨hhex, hunit, hlow, hhigh⟩ := controlEscape c.toNat hcontrol
    refine ⟨.unit c.toNat, fun h ↦ ?_, fun pieces ↦ ?_⟩
    · have hquoted := Quoted.numbered hhex h
      rw [hunit] at hquoted
      exact hquoted
    · rw [characters?_unit hlow hhigh, Char.ofNat_toNat]
  next hquote hslash _ _ _ _ _ hcontrol =>
    exact ⟨.char c, fun h ↦ .plain hquote hslash (Nat.le_of_not_lt hcontrol) h, fun _ ↦ rfl⟩

theorem exists_quoted_of_chars (cs rest : List Char) :
    ∃ pieces, Quoted pieces (cs.flatMap escapedChar ++ '"' :: rest) rest ∧
      characters? pieces = some cs := by
  induction cs with
  | nil => exact ⟨[], .close rest, rfl⟩
  | cons c cs ih =>
    obtain ⟨pieces, hquoted, hcs⟩ := ih
    obtain ⟨piece, hpiece, hcharacters⟩ := exists_piece_of_escapedChar c
    refine ⟨piece :: pieces, ?_, by rw [hcharacters, hcs]; rfl⟩
    rw [List.flatMap_cons, List.append_assoc]
    exact hpiece hquoted

/-- The text of a string, from behind its opening quote. -/
theorem exists_quoted_of_string (s : String) (rest : List Char) :
    ∃ pieces quoted, stringChars s ++ rest = '"' :: quoted ∧ Quoted pieces quoted rest ∧
      content? pieces = some s := by
  obtain ⟨pieces, hquoted, hcs⟩ := exists_quoted_of_chars s.toList rest
  refine ⟨pieces, s.toList.flatMap escapedChar ++ '"' :: rest, ?_, hquoted, ?_⟩
  · simp [stringChars]
  · simp [content?, hcs]

/-! ### Values -/

/-- A text begins by saying what a value is, and goes on with the rest. -/
def Opens (value : Json) (s rest : List Char) : Prop :=
  ∃ tree : Tree, Spelled tree s rest ∧ tree.Means value

/-- A text says what the items of an array are up to its end; `first` as long as none stands
before. -/
def OpensItems (first : Bool) (items : List Json) (s rest : List Char) : Prop :=
  ∃ trees, ItemsSpelled first trees s rest ∧ Tree.MeansItems trees items

def OpensMembers (first : Bool) (members : Members) (s rest : List Char) : Prop :=
  ∃ trees, MembersSpelled first trees s rest ∧ Tree.MeansMembers trees members

theorem leads_comma (rest : List Char) : Leads false (',' :: rest) rest :=
  .comma rfl

theorem Opens.skipSpaces_eq {value : Json} {s rest : List Char} (h : Opens value s rest) :
    skipSpaces s = s :=
  let ⟨_, htree, _⟩ := h
  htree.skipSpaces_eq

theorem opens_scalarChars {value : Json} (hlist : value.kind ≠ .list)
    (hobject : value.kind ≠ .object) {rest : List Char} (hrest : EndsNumeral rest) :
    Opens value (scalarChars value ++ rest) rest := by
  cases value with
  | null => exact ⟨.null, .null rest, .null⟩
  | bool b =>
    cases b with
    | true => exact ⟨.bool true, .true rest, .bool true⟩
    | false => exact ⟨.bool false, .false rest, .bool false⟩
  | integer i =>
    exact ⟨.numeral (.ofInt i), .numeral (Numeral.spelled_ofInt i hrest), Numeral.means_ofInt i⟩
  | real x =>
    cases hfinite : x.isFinite with
    | true =>
      obtain ⟨n, hspelled, hmeans⟩ := Numeral.exists_spelled_of_chars hfinite hrest
      rw [scalarChars, hfinite, if_pos rfl]
      exact ⟨.numeral n, .numeral hspelled, hmeans⟩
    | false =>
      rw [scalarChars, hfinite, if_neg Bool.false_ne_true]
      exact ⟨.null, .null rest, .unbounded hfinite⟩
  | string s =>
    obtain ⟨pieces, quoted, hs, hquoted, hcontent⟩ := exists_quoted_of_string s rest
    rw [scalarChars, hs]
    exact ⟨.string pieces, .string hquoted, .string hcontent⟩
  | list => exact absurd rfl hlist
  | object => exact absurd rfl hobject

theorem OpensItems.list {items : List Json} {s rest : List Char}
    (h : OpensItems true items s rest) : Opens (.list items) ('[' :: s) rest :=
  let ⟨trees, hspelled, hmeans⟩ := h
  ⟨.list trees, .list hspelled, .list hmeans⟩

theorem OpensMembers.object {members : Members} {s rest : List Char}
    (h : OpensMembers true members s rest) : Opens (.object members) ('{' :: s) rest :=
  let ⟨trees, hspelled, hmeans⟩ := h
  ⟨.object trees, .object hspelled, .object hmeans⟩

theorem OpensItems.close {first : Bool} {s rest : List Char} (h : skipSpaces s = ']' :: rest) :
    OpensItems first [] s rest :=
  ⟨[], .close h, .nil⟩

theorem OpensMembers.close {first : Bool} {s rest : List Char} (h : skipSpaces s = '}' :: rest) :
    OpensMembers first [] s rest :=
  ⟨[], .close h, .nil⟩

/-- White space, which means nothing before a part. -/
def IsGap (gap : List Char) : Prop :=
  ∀ s, skipSpaces (gap ++ s) = skipSpaces s

/-- An item, with white space before it. -/
theorem OpensItems.item {first : Bool} {item : Json} {items : List Json}
    {s gap front after rest : List Char} (hgap : IsGap gap) (hlead : Leads first s (gap ++ front))
    (hitem : Opens item front after) (hitems : OpensItems false items after rest) :
    OpensItems first (item :: items) s rest := by
  have hfront := (hgap front).trans hitem.skipSpaces_eq
  obtain ⟨tree, hspelled, hmeans⟩ := hitem
  obtain ⟨trees, hspelledItems, hmeansItems⟩ := hitems
  rw [← hfront] at hspelled
  exact ⟨tree :: trees, .item hlead hspelled hspelledItems, .cons hmeans hmeansItems⟩

/-- A member, with white space before it and behind its colon. -/
theorem OpensMembers.member {first : Bool} {key : String} {value : Json} {members : Members}
    {s gap space front after rest : List Char} (hgap : IsGap gap) (hspace : IsGap space)
    (hlead : Leads first s (gap ++ (stringChars key ++ ':' :: (space ++ front))))
    (hvalue : Opens value front after) (hmembers : OpensMembers false members after rest) :
    OpensMembers first ((key, value) :: members) s rest := by
  have hfront := (hspace front).trans hvalue.skipSpaces_eq
  obtain ⟨tree, hspelled, hmeans⟩ := hvalue
  obtain ⟨trees, hspelledMembers, hmeansMembers⟩ := hmembers
  obtain ⟨pieces, quoted, hs, hquoted, hcontent⟩ :=
    exists_quoted_of_string key (':' :: (space ++ front))
  have hkey : skipSpaces (gap ++ (stringChars key ++ ':' :: (space ++ front))) = '"' :: quoted := by
    rw [hgap, hs]
    rfl
  rw [← hfront] at hspelled
  exact ⟨(pieces, tree) :: trees, .member hlead hkey hquoted rfl hspelled hspelledMembers,
    .cons hcontent hmeans hmeansMembers⟩

/-! ### The compact text -/

theorem isGap_nil : IsGap [] := fun _ ↦ rfl

mutual

theorem opens_chars (value : Json) {rest : List Char} (hrest : EndsNumeral rest) :
    Opens value (value.chars ++ rest) rest := by
  cases value with
  | list items =>
    cases items with
    | nil => exact (OpensItems.close rfl).list
    | cons item items =>
      have hs : (Json.list (item :: items)).chars ++ rest
          = '[' :: (itemsChars (item :: items) ++ ']' :: rest) := by simp [chars]
      rw [hs]
      exact (opensItems_itemsChars (List.cons_ne_nil item items) (.first _)).list
  | object members =>
    cases members with
    | nil => exact (OpensMembers.close rfl).object
    | cons member members =>
      have hs : (Json.object (member :: members)).chars ++ rest
          = '{' :: (membersChars (member :: members) ++ '}' :: rest) := by simp [chars]
      rw [hs]
      exact (opensMembers_membersChars (List.cons_ne_nil member members) (.first _)).object
  | null | bool | integer | real | string =>
    exact opens_scalarChars (by simp [kind]) (by simp [kind]) hrest

theorem opensItems_itemsChars {items : List Json} (hitems : items ≠ []) {first : Bool}
    {s rest : List Char} (hlead : Leads first s (itemsChars items ++ ']' :: rest)) :
    OpensItems first items s rest := by
  cases items with
  | nil => exact absurd rfl hitems
  | cons item items =>
    cases items with
    | nil => exact .item isGap_nil hlead (opens_chars item (endsNumeral_bracket rest)) (.close rfl)
    | cons next items =>
      have hs : itemsChars (item :: next :: items) ++ ']' :: rest
          = item.chars ++ ',' :: (itemsChars (next :: items) ++ ']' :: rest) := by
        simp [itemsChars]
      rw [hs] at hlead
      exact .item isGap_nil hlead (opens_chars item (endsNumeral_comma _))
        (opensItems_itemsChars (List.cons_ne_nil next items) (leads_comma _))

theorem opensMembers_membersChars {members : Members} (hmembers : members ≠ []) {first : Bool}
    {s rest : List Char} (hlead : Leads first s (membersChars members ++ '}' :: rest)) :
    OpensMembers first members s rest := by
  cases members with
  | nil => exact absurd rfl hmembers
  | cons member members =>
    obtain ⟨key, value⟩ := member
    cases members with
    | nil =>
      have hs : membersChars [(key, value)] ++ '}' :: rest
          = stringChars key ++ ':' :: (value.chars ++ '}' :: rest) := by simp [membersChars]
      rw [hs] at hlead
      exact .member isGap_nil isGap_nil hlead (opens_chars value (endsNumeral_brace rest))
        (.close rfl)
    | cons next members =>
      have hs : membersChars ((key, value) :: next :: members) ++ '}' :: rest
          = stringChars key ++
            ':' :: (value.chars ++ ',' :: (membersChars (next :: members) ++ '}' :: rest)) := by
        simp [membersChars]
      rw [hs] at hlead
      exact .member isGap_nil isGap_nil hlead (opens_chars value (endsNumeral_comma _))
        (opensMembers_membersChars (List.cons_ne_nil next members) (leads_comma _))

end

/-! ### The indented text -/

theorem isGap_space : IsGap [' '] := fun _ ↦ rfl

theorem isGap_lineBreak (level : Nat) : IsGap (lineBreak level) := by
  have hspaces (n : Nat) (s : List Char) :
      skipSpaces (List.replicate n ' ' ++ s) = skipSpaces s := by
    induction n with
    | zero => rfl
    | succ n ih => exact ih
  exact hspaces (2 * level)

theorem endsNumeral_lineBreak (level : Nat) (rest : List Char) :
    EndsNumeral (lineBreak level ++ rest) := by
  rintro c ⟨⟩
  decide

mutual

theorem opens_indentedChars (value : Json) (level : Nat) {rest : List Char}
    (hrest : EndsNumeral rest) : Opens value (value.indentedChars level ++ rest) rest := by
  cases value with
  | list items =>
    cases items with
    | nil => exact (OpensItems.close rfl).list
    | cons item items =>
      have hs : (Json.list (item :: items)).indentedChars level ++ rest
          = '[' :: (indentedItems (item :: items) (level + 1) ++
            (lineBreak level ++ ']' :: rest)) := by simp [indentedChars]
      rw [hs]
      exact (opensItems_indentedItems (List.cons_ne_nil item items) (.first _)).list
  | object members =>
    cases members with
    | nil => exact (OpensMembers.close rfl).object
    | cons member members =>
      have hs : (Json.object (member :: members)).indentedChars level ++ rest
          = '{' :: (indentedMembers (member :: members) (level + 1) ++
            (lineBreak level ++ '}' :: rest)) := by simp [indentedChars]
      rw [hs]
      exact (opensMembers_indentedMembers (List.cons_ne_nil member members) (.first _)).object
  | null | bool | integer | real | string =>
    exact opens_scalarChars (by simp [kind]) (by simp [kind]) hrest

theorem opensItems_indentedItems {items : List Json} (hitems : items ≠ []) {level outer : Nat}
    {first : Bool} {s rest : List Char}
    (hlead : Leads first s (indentedItems items level ++ (lineBreak outer ++ ']' :: rest))) :
    OpensItems first items s rest := by
  cases items with
  | nil => exact absurd rfl hitems
  | cons item items =>
    cases items with
    | nil =>
      rw [indentedItems, List.append_assoc] at hlead
      exact .item (isGap_lineBreak level) hlead
        (opens_indentedChars item level (endsNumeral_lineBreak outer _))
        (.close (isGap_lineBreak outer _))
    | cons next items =>
      have hs : indentedItems (item :: next :: items) level ++ (lineBreak outer ++ ']' :: rest)
          = lineBreak level ++ (item.indentedChars level ++
            ',' :: (indentedItems (next :: items) level ++ (lineBreak outer ++ ']' :: rest))) := by
        simp [indentedItems]
      rw [hs] at hlead
      exact .item (isGap_lineBreak level) hlead
        (opens_indentedChars item level (endsNumeral_comma _))
        (opensItems_indentedItems (List.cons_ne_nil next items) (leads_comma _))

theorem opensMembers_indentedMembers {members : Members} (hmembers : members ≠ [])
    {level outer : Nat} {first : Bool} {s rest : List Char}
    (hlead : Leads first s (indentedMembers members level ++ (lineBreak outer ++ '}' :: rest))) :
    OpensMembers first members s rest := by
  cases members with
  | nil => exact absurd rfl hmembers
  | cons member members =>
    obtain ⟨key, value⟩ := member
    cases members with
    | nil =>
      have hs : indentedMembers [(key, value)] level ++ (lineBreak outer ++ '}' :: rest)
          = lineBreak level ++ (stringChars key ++ ':' :: ([' '] ++
            (value.indentedChars level ++ (lineBreak outer ++ '}' :: rest)))) := by
        simp [indentedMembers]
      rw [hs] at hlead
      exact .member (isGap_lineBreak level) isGap_space hlead
        (opens_indentedChars value level (endsNumeral_lineBreak outer _))
        (.close (isGap_lineBreak outer _))
    | cons next members =>
      have hs : indentedMembers ((key, value) :: next :: members) level ++
            (lineBreak outer ++ '}' :: rest)
          = lineBreak level ++ (stringChars key ++ ':' :: ([' '] ++ (value.indentedChars level ++
            ',' :: (indentedMembers (next :: members) level ++
              (lineBreak outer ++ '}' :: rest))))) := by
        simp [indentedMembers]
      rw [hs] at hlead
      exact .member (isGap_lineBreak level) isGap_space hlead
        (opens_indentedChars value level (endsNumeral_comma _))
        (opensMembers_indentedMembers (List.cons_ne_nil next members) (leads_comma _))

end

/-! ### What the texts say -/

/-- A text that goes on with nothing but white space behind a value says that value. -/
theorem says_of_opens {value : Json} {text : String} {rest : List Char}
    (h : Opens value text.toList rest) (hrest : skipSpaces rest = []) : Says text value := by
  have hfront := h.skipSpaces_eq
  obtain ⟨tree, hspelled, hmeans⟩ := h
  exact ⟨tree, ⟨rest, by rwa [hfront], hrest⟩, hmeans⟩

theorem says_text (value : Json) : Says value.text value := by
  have hopens := opens_chars value endsNumeral_nil
  rw [List.append_nil] at hopens
  exact says_of_opens (by rwa [text, String.toList_ofList]) rfl

theorem says_text_line (value : Json) : Says (value.text ++ "\n") value := by
  have hopens := opens_chars value (endsNumeral_lineBreak 0 [])
  exact says_of_opens (by rwa [String.toList_append, text, String.toList_ofList]) rfl

theorem says_indentedText_line (value : Json) : Says (value.indentedText ++ "\n") value := by
  have hopens := opens_indentedChars value 0 (endsNumeral_lineBreak 0 [])
  exact says_of_opens (by rwa [String.toList_append, indentedText, String.toList_ofList]) rfl

/-- The text of an exact value spells a tree that stands for it and nests as deep. -/
theorem exists_spelled_of_exact {value : Json} (h : value.Exact) {rest : List Char}
    (hrest : EndsNumeral rest) :
    ∃ tree, Spelled tree (value.chars ++ rest) rest ∧ tree.value? = some value ∧
      tree.depth = value.depth :=
  let ⟨tree, hspelled, hmeans⟩ := opens_chars value hrest
  ⟨tree, hspelled, hmeans.value?_eq h, hmeans.depth_eq⟩

/-! ### Reading back -/

theorem readValue_chars {value : Json} (h : value.Exact) {steps levels : Nat} {rest : List Char}
    (hdepth : value.depth ≤ levels) (hrest : EndsNumeral rest)
    (hsteps : value.chars.length ≤ steps) :
    readValue steps levels (value.chars ++ rest) = .ok (value, rest) := by
  obtain ⟨tree, htree, hvalue, htreeDepth⟩ := exists_spelled_of_exact h hrest
  refine readValue_of_spelled htree htree.skipSpaces_eq hvalue (htreeDepth ▸ hdepth) ?_
  rw [List.length_append]
  omega

/-- A value does not begin with a character that is white space to Unicode either. -/
theorem isWhiteSpace_front {tree : Tree} {s rest : List Char} (h : Spelled tree s rest) :
    ∀ c ∈ s.head?, Text.isWhiteSpace c = false := by
  cases h with
  | numeral h =>
    obtain ⟨c, tail, rfl, rfl | hdigit⟩ := h.front
    · rintro c ⟨⟩
      rfl
    · rintro c ⟨⟩
      simp only [Char.isDigit, ge_iff_le, Bool.and_eq_true, decide_eq_true_eq,
        UInt32.le_iff_toNat_le] at hdigit
      have hlow : 48 ≤ c.toNat := hdigit.1
      have hhigh : c.toNat ≤ 57 := hdigit.2
      rw [Text.isWhiteSpace, Text.inRanges, List.any_eq_false]
      simp only [Text.whiteSpace, List.forall_mem_cons, List.not_mem_nil, false_imp_iff,
        implies_true, and_true, Bool.and_eq_true, decide_eq_true_eq]
      omega
  | _ =>
    rintro c ⟨⟩
    rfl

theorem isBlank_text {value : Json} (h : value.Exact) : Text.isBlank value.text = false := by
  obtain ⟨tree, htree, -, -⟩ := exists_spelled_of_exact h endsNumeral_nil
  rw [List.append_nil] at htree
  obtain ⟨c, tail, hchars, -⟩ := htree.exists_cons
  have hfront := isWhiteSpace_front htree c (by rw [hchars]; rfl)
  simp [Text.isBlank, text, hchars, hfront]

/-- The text of an exact value is read as that value and no other, unless the value nests too
deep. -/
theorem parse_text_ok_iff {value read : Json} (h : value.Exact) :
    parse value.text = .ok read ↔ read = value ∧ value.depth ≤ nestingLimit :=
  (says_text value).parse_ok_iff h

/-- The text of an exact value has no white space before it, and begins with an n only if the
value is null. -/
theorem exists_cons_of_exact {value : Json} (h : value.Exact) :
    ∃ c tail, value.chars = c :: tail ∧ isSpace c = false ∧ (c = 'n' → value = .null) := by
  obtain ⟨tree, htree, hvalue, -⟩ := exists_spelled_of_exact h endsNumeral_nil
  rw [List.append_nil] at htree
  obtain ⟨c, tail, hchars, -⟩ := htree.exists_cons
  have hspace : isSpace c = false := by
    have hhead := isSpace_head_skipSpaces value.chars
    rw [htree.skipSpaces_eq, hchars] at hhead
    exact hhead c rfl
  refine ⟨c, tail, hchars, hspace, ?_⟩
  rintro rfl
  rw [hchars] at htree
  cases htree with
  | null =>
    cases hvalue
    rfl
  | numeral hn => cases hn with
    | positive hn => cases hn with
      | parts hwhole =>
        obtain ⟨c, tail, heq, hdigit, -⟩ := hwhole.exists_cons
        cases heq
        cases hdigit

end Brokerage.Json
