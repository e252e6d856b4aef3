import Brokerage.Proofs.Json.Reading
import Brokerage.Proofs.Shape.Fitting
import Brokerage.Shape.Document

/-!
What reading a text by a shape yields. The text spells a tree, as it does for every reader of JSON;
if the numbers of the tree are integers of 64 bits, the value fits the shape, and it nests no deeper
than the reading may go or the shape reaches.
-/

set_option autoImplicit false

namespace Brokerage.Shape

open Json (Spelled ItemsSpelled MembersSpelled Leads Quoted Tree skipSpaces skipSpaces_skipSpaces
  isSpace_head_skipSpaces skipSpaces_cons)
open Text (Reading)

/-! ### Readings that end well -/

section
variable {α : Type}

@[simp] theorem plainly_ok_iff {reading : Reading Json.Malformation α} {result : α × List Char} :
    plainly reading = .ok result ↔ reading = .ok result := by
  cases reading with
  | ok => simp [plainly]
  | error => simp [plainly]

@[simp] theorem mismatchBefore_ne_ok (mismatch : Mismatch) (rest : List Char) (result : α) :
    mismatchBefore mismatch rest ≠ .ok result :=
  nofun

@[simp] theorem mismatchBehind_ne_ok (closing : Char) (mismatch : Mismatch) (rest : List Char)
    (result : α) : mismatchBehind closing mismatch rest ≠ .ok result := by
  unfold mismatchBehind
  split <;> exact mismatchBefore_ne_ok _ _ _

@[simp] theorem complain_ne_ok (steps : Nat) (expected : String) (s : List Char) (result : α) :
    complain steps expected s ≠ .ok result := by
  intro h
  unfold complain at h
  split at h
  next => cases h
  next =>
    split at h
    next => cases h
    next =>
      split at h
      next => cases h
      next => split at h <;> cases h

end

/-- What has been read spells a tree, and the value fits if the numbers of the tree are whole. -/
def Accepts (levels : Nat) (shape : Shape) (s rest : List Char) (value : Json) : Prop :=
  ∃ tree, Spelled tree s rest ∧
    (tree.Whole → shape.Fits value ∧ value.depth ≤ max levels shape.reach)

variable {steps levels : Nat} {s rest : List Char} {value : Json}

/-! ### Texts, flags, choices and free values -/

theorem accepts_of_readText (h : readText steps s = .ok (value, rest)) :
    Accepts levels .text s rest value := by
  unfold readText at h
  split at h
  next quoted =>
    split at h
    next => cases h
    next content after hread =>
      cases h
      obtain ⟨pieces, -, hquoted, -⟩ := Json.quoted_of_readQuotation (plainly_ok_iff.1 hread)
      exact ⟨.string pieces, .string hquoted, fun _ ↦ ⟨.text content, Nat.zero_le _⟩⟩
  next => exact absurd h (complain_ne_ok _ _ _ _)

theorem accepts_of_readFlag (h : readFlag steps s = .ok (value, rest)) :
    Accepts levels .flag s rest value := by
  unfold readFlag at h
  split at h
  next =>
    obtain ⟨rfl, rfl⟩ := Json.readConstant_ok_iff.1 (plainly_ok_iff.1 h)
    exact ⟨.bool true, .true rest, fun _ ↦ ⟨.flag true, Nat.zero_le _⟩⟩
  next =>
    obtain ⟨rfl, rfl⟩ := Json.readConstant_ok_iff.1 (plainly_ok_iff.1 h)
    exact ⟨.bool false, .false rest, fun _ ↦ ⟨.flag false, Nat.zero_le _⟩⟩
  next => exact absurd h (complain_ne_ok _ _ _ _)

theorem accepts_of_readValue (hs : skipSpaces s = s)
    (h : Json.readValue steps levels s = .ok (value, rest)) :
    Accepts levels .anything s rest value := by
  obtain ⟨tree, htree, hdepth, hvalue⟩ := (Json.reads steps).value h
  rw [hs] at htree
  refine ⟨tree, htree, fun hwhole ↦ ⟨.anything (Tree.exact_of_value? hwhole hvalue), ?_⟩⟩
  exact Nat.le_trans (Nat.le_trans (Tree.depth_le_of_value? hvalue) hdepth) (Nat.le_max_left _ _)

theorem accepts_of_readTable (hs : skipSpaces s = s)
    (h : readTable steps levels s = .ok (value, rest)) : Accepts levels .table s rest value := by
  unfold readTable at h
  split at h
  next tail =>
    obtain ⟨tree, htree, hdepth, hvalue⟩ :=
      (Json.reads steps).value (plainly_ok_iff.1 h)
    rw [hs] at htree
    refine ⟨tree, htree, fun hwhole ↦ ?_⟩
    have hexact := Tree.exact_of_value? hwhole hvalue
    have hle := Nat.le_trans (Tree.depth_le_of_value? hvalue) hdepth
    cases htree with
    | object =>
      obtain ⟨members, -, rfl⟩ := Option.map_eq_some_iff.1 hvalue
      exact ⟨.table hexact, Nat.le_trans hle (Nat.le_max_left _ _)⟩
    | numeral hn =>
      obtain ⟨c, tail, heq, rfl | hdigit⟩ := hn.front
      · cases heq
      · cases heq
        cases hdigit
  next => exact absurd h (complain_ne_ok _ _ _ _)

theorem quoted_of_readName {names : List String} (h : readName steps names s = .ok (value, rest)) :
    ∃ pieces, Quoted pieces s rest ∧ (Shape.choice names).Fits value ∧ value.depth = 0 := by
  unfold readName at h
  split at h
  next => cases h
  next name after hread =>
    split at h
    next hname =>
      cases h
      obtain ⟨pieces, -, hquoted, -⟩ := Json.quoted_of_readQuotation (plainly_ok_iff.1 hread)
      exact ⟨pieces, hquoted, .choice (List.contains_iff_mem.1 hname), rfl⟩
    next => exact absurd h (mismatchBefore_ne_ok _ _ _)

theorem spelled_of_readNull (h : readNull steps s = .ok ((), rest)) :
    Spelled .null (skipSpaces s) rest := by
  unfold readNull at h
  split at h
  next => cases h
  next c tail hs =>
    split at h
    next hc =>
      have htail := Json.readWord_ok_iff.1 (plainly_ok_iff.1 h)
      rw [hs, hc, htail]
      exact .null rest
    next => exact absurd h (complain_ne_ok _ _ _ _)

theorem accepts_of_readNamedChoice {names : List String}
    (h : readNamedChoice steps names s = .ok (value, rest)) :
    Accepts levels (.choice names) ('{' :: s) rest value := by
  unfold readNamedChoice at h
  split at h
  next => cases h
  next c tail hs =>
    split at h
    next hc =>
      subst hc
      split at h
      next => cases h
      next accepted behindName hname =>
        split at h
        next => cases h
        next behindColon hcolon =>
          split at h
          next => cases h
          next behindNull hnull =>
            split at h
            next => cases h
            next d after hend =>
              split at h
              next hd =>
                cases h
                subst hd
                obtain ⟨pieces, hquoted, hfits, hdepth⟩ := quoted_of_readName hname
                refine ⟨.object [(pieces, .null)], .object ?_, fun _ ↦ ⟨hfits, ?_⟩⟩
                · exact .member (.first s) hs hquoted
                    (Json.readColon_ok_iff.1 (plainly_ok_iff.1 hcolon)) (spelled_of_readNull hnull)
                    (.close hend)
                · exact hdepth ▸ Nat.zero_le _
              next => cases h
    next => exact absurd h (complain_ne_ok _ _ _ _)

theorem accepts_of_readChoice {names : List String}
    (h : readChoice steps levels names s = .ok (value, rest)) :
    Accepts levels (.choice names) s rest value := by
  unfold readChoice at h
  split at h
  next => cases h
  next c tail =>
    split at h
    next hc =>
      subst hc
      obtain ⟨pieces, hquoted, hfits, hdepth⟩ := quoted_of_readName h
      exact ⟨.string pieces, .string hquoted, fun _ ↦ ⟨hfits, hdepth ▸ Nat.zero_le _⟩⟩
    next =>
      split at h
      next hc =>
        subst hc
        cases levels with
        | zero => cases h
        | succ inner => exact accepts_of_readNamedChoice h
      next => cases h

/-! ### Lists and records -/

/-- The numbers of some items are integers of 64 bits. -/
def WholeItems (items : List Tree) : Prop :=
  ∀ n ∈ Tree.numeralsOfItems items, n.Whole

def WholeMembers (members : List (List Json.Piece × Tree)) : Prop :=
  ∀ n ∈ Tree.numeralsOfMembers members, n.Whole

theorem wholeItems_cons_iff {item : Tree} {items : List Tree} :
    WholeItems (item :: items) ↔ item.Whole ∧ WholeItems items :=
  List.forall_mem_append

theorem wholeMembers_cons_iff {key : List Json.Piece} {value : Tree}
    {members : List (List Json.Piece × Tree)} :
    WholeMembers ((key, value) :: members) ↔ value.Whole ∧ WholeMembers members :=
  List.forall_mem_append

/-- The items up to the end of a list have been read behind those before them. -/
def AcceptsItems (levels : Nat) (item : Shape) (before : List Json) (s rest : List Char)
    (value : Json) : Prop :=
  ∃ trees values, ItemsSpelled before.isEmpty trees s rest ∧
    value = .list (before.reverse ++ values) ∧
    (WholeItems trees → ∀ value ∈ values, item.Fits value ∧ value.depth ≤ max levels item.reach)

/-- How deep the fields of a record nest that is read with so many levels left. -/
def fieldDepth (levels : Nat) (fields : List (String × Absence × Shape)) : Nat :=
  max levels (reachOfFields fields)

/-- The fields that were left of a record have been read from a list, or completed. -/
def AcceptsListed (levels : Nat) (first : Bool) (before : Members)
    (left : List (String × Absence × Shape)) (s rest : List Char) (value : Json) : Prop :=
  ∃ trees, ∃ all : Members, ItemsSpelled first trees s rest ∧ value = .object all ∧
    (∀ key, before.contains key = true → all.contains key = true) ∧
    (∀ field ∈ left, all.contains field.1 = true) ∧
    ∀ label fields, (Shape.record label fields).Sound → left ⊆ fields → WholeItems trees →
      Mentions fields (fieldDepth levels fields) before →
      Mentions fields (fieldDepth levels fields) all

/-- The members up to the end of a record have been read, and the record completed. -/
def AcceptsNamed (levels : Nat) (fields : List (String × Absence × Shape)) (first : Bool)
    (before : Members) (s rest : List Char) (value : Json) : Prop :=
  ∃ members, ∃ all : Members, MembersSpelled first members s rest ∧ value = .object all ∧
    (∀ field ∈ fields, all.contains field.1 = true) ∧
    ∀ label, (Shape.record label fields).Sound → WholeMembers members →
      Mentions fields (fieldDepth levels fields) before →
      Mentions fields (fieldDepth levels fields) all

/-- What the four readers accept within so many steps. -/
structure Accepting (steps : Nat) : Prop where
  value : ∀ {levels shape s rest value}, shape.Sound →
    read steps levels shape s = .ok (value, rest) →
    Accepts levels shape (skipSpaces s) rest value
  items : ∀ {levels item before s rest value}, item.Sound →
    readItems steps levels item before s = .ok (value, rest) →
    AcceptsItems levels item before s rest value
  listed : ∀ {levels name total count before left s rest value},
    (∀ field ∈ left, field.2.2.Sound) →
    readListed steps levels name total count before left s = .ok (value, rest) →
    AcceptsListed levels (count == 0) before left s rest value
  named : ∀ {levels fields first before s rest value},
    (∀ field ∈ fields, field.2.2.Sound) →
    readNamed steps levels fields first before s = .ok (value, rest) →
    AcceptsNamed levels fields first before s rest value

variable {fields : List (String × Absence × Shape)}

/-- A field that has been read is added to what the record mentions. -/
theorem Mentions.read {label name : String} {absence : Absence} {shape : Shape} {before : Members}
    (h : Mentions fields (fieldDepth levels fields) before)
    (hsound : (Shape.record label fields).Sound) (hfield : (name, absence, shape) ∈ fields)
    (hvalue : shape.Fits value ∧ value.depth ≤ max levels shape.reach) :
    Mentions fields (fieldDepth levels fields) (before.insert name value) := by
  refine h.insert (field?_of_mem hsound.1 hfield) hvalue.1 (Nat.le_trans hvalue.2 ?_)
  have hreach : shape.reach ≤ reachOfFields fields :=
    (reachOfFields_le_iff.1 (Nat.le_refl _) _ hfield).2
  rw [fieldDepth]
  omega

theorem acceptsItems_step (ih : Accepting steps) {item : Shape} {before : List Json}
    (hsound : item.Sound)
    (h : readItems (steps + 1) levels item before s = .ok (value, rest)) :
    AcceptsItems levels item before s rest value := by
  rw [readItems] at h
  split at h
  next => cases h
  next hend =>
    cases h
    have hclose := Json.nextItem_end_iff.1 (plainly_ok_iff.1 hend)
    exact ⟨[], [], .close hclose, by rw [List.append_nil], fun _ ↦ List.forall_mem_nil _⟩
  next front hnext =>
    split at h
    next => cases h
    next first after hread =>
      obtain ⟨behind, hlead, rfl⟩ := Json.leads_of_nextItem (plainly_ok_iff.1 hnext)
      obtain ⟨tree, htree, hfits⟩ := ih.value hsound hread
      obtain ⟨trees, values, htrees, rfl, hrest⟩ := ih.items hsound h
      rw [skipSpaces_skipSpaces] at htree
      refine ⟨tree :: trees, first :: values, .item hlead htree htrees, by simp, fun hwhole ↦ ?_⟩
      obtain ⟨htreeWhole, htreesWhole⟩ := wholeItems_cons_iff.1 hwhole
      exact List.forall_mem_cons.2 ⟨hfits htreeWhole, hrest htreesWhole⟩

theorem acceptsListed_of_complete {name : String} {total count : Nat} {first : Bool}
    {before all : Members} {left : List (String × Absence × Shape)}
    (hclose : skipSpaces s = ']' :: rest)
    (h : completeListed name total count before left = .ok all) :
    AcceptsListed levels first before left s rest (.object all) := by
  obtain ⟨hbefore, hleft⟩ := contains_of_completeListed h
  refine ⟨[], all, .close hclose, rfl, hbefore, hleft,
    fun label fields hsound hsub _ hmentions ↦ ?_⟩
  exact mentions_of_completeListed hsound (Nat.le_max_right _ _) hmentions hsub h

theorem skipSpaces_of_endItems {α : Type} {result found : α}
    (h : endItems result s = .ok (found, rest)) : skipSpaces s = ']' :: rest ∧ found = result := by
  unfold endItems at h
  split at h
  next => cases h
  next c tail hs =>
    split at h
    next hc =>
      cases h
      exact ⟨hc ▸ hs, rfl⟩
    next =>
      split at h
      next => split at h <;> cases h
      next => cases h

theorem acceptsListed_step (ih : Accepting steps) {name : String} {total count : Nat}
    {before : Members} {left : List (String × Absence × Shape)}
    (hsound : ∀ field ∈ left, field.2.2.Sound)
    (h : readListed (steps + 1) levels name total count before left s = .ok (value, rest)) :
    AcceptsListed levels (count == 0) before left s rest value := by
  cases left with
  | nil =>
    rw [readListed] at h
    obtain ⟨hclose, rfl⟩ := skipSpaces_of_endItems h
    exact ⟨[], before, .close hclose, rfl, fun _ hkey ↦ hkey, List.forall_mem_nil _,
      fun _ _ _ _ _ hmentions ↦ hmentions⟩
  | cons field left =>
    obtain ⟨first, absence, shape⟩ := field
    obtain ⟨hshape, hleft⟩ := List.forall_mem_cons.1 hsound
    rw [readListed] at h
    split at h
    next => cases h
    next hend =>
      have hclose := Json.nextItem_end_iff.1 (plainly_ok_iff.1 hend)
      unfold closeListed at h
      split at h
      next all hall =>
        cases h
        exact acceptsListed_of_complete hclose hall
      next => exact absurd h (mismatchBefore_ne_ok _ _ _)
    next front hnext =>
      split at h
      next => cases h
      next item after hread =>
        obtain ⟨behind, hlead, rfl⟩ := Json.leads_of_nextItem (plainly_ok_iff.1 hnext)
        obtain ⟨tree, htree, hfits⟩ := ih.value hshape hread
        obtain ⟨trees, all, htrees, rfl, hbefore, hpresent, hmentions⟩ := ih.listed hleft h
        rw [skipSpaces_skipSpaces] at htree
        refine ⟨tree :: trees, all, .item hlead htree htrees, rfl, fun key hkey ↦ ?_,
          List.forall_mem_cons.2 ⟨?_, hpresent⟩, fun label fields hrecord hsub hwhole hinto ↦ ?_⟩
        · exact hbefore key ((contains_insert _ _ _ _).2 (.inr hkey))
        · exact hbefore first ((contains_insert _ _ _ _).2 (.inl rfl))
        · obtain ⟨htreeWhole, htreesWhole⟩ := wholeItems_cons_iff.1 hwhole
          obtain ⟨hfield, hrest⟩ := List.cons_subset.1 hsub
          exact hmentions label fields hrecord hrest htreesWhole
            (hinto.read hrecord hfield (hfits htreeWhole))

theorem spelled_of_skipMember (h : skipMember steps s = .ok ((), rest)) :
    ∃ behindColon tree, skipSpaces s = ':' :: behindColon ∧
      Spelled tree (skipSpaces behindColon) rest := by
  unfold skipMember at h
  split at h
  next => cases h
  next behindColon hcolon =>
    obtain ⟨tree, htree⟩ := (Json.skips steps).value (plainly_ok_iff.1 h)
    exact ⟨behindColon, tree, Json.readColon_ok_iff.1 (plainly_ok_iff.1 hcolon), htree⟩

theorem acceptsNamed_step (ih : Accepting steps) {first : Bool} {before : Members}
    (hsound : ∀ field ∈ fields, field.2.2.Sound)
    (h : readNamed (steps + 1) levels fields first before s = .ok (value, rest)) :
    AcceptsNamed levels fields first before s rest value := by
  rw [readNamed] at h
  split at h
  next => cases h
  next hend =>
    have hclose := Json.nextKey_end_iff.1 (plainly_ok_iff.1 hend)
    unfold closeNamed at h
    split at h
    next all hall =>
      cases h
      refine ⟨[], all, .close hclose, rfl, (contains_of_complete hall).2,
        fun label hrecord _ hmentions ↦ ?_⟩
      exact mentions_of_complete hrecord (Nat.le_max_right _ _) hmentions (List.Subset.refl _) hall
    next => exact absurd h (mismatchBefore_ne_ok _ _ _)
  next quoted hnext =>
    obtain ⟨front, hlead, hfront⟩ := Json.leads_of_nextKey (plainly_ok_iff.1 hnext)
    split at h
    next => cases h
    next key behindKey hkey =>
      obtain ⟨pieces, -, hquoted, -⟩ := Json.quoted_of_readQuotation (plainly_ok_iff.1 hkey)
      split at h
      next =>
        -- a member that is no field is passed over, and mentions none
        split at h
        next => cases h
        next after hskip =>
          obtain ⟨behindColon, tree, hcolon, htree⟩ := spelled_of_skipMember hskip
          obtain ⟨members, all, hmembers, rfl, hpresent, hmentions⟩ := ih.named hsound h
          refine ⟨(pieces, tree) :: members, all,
            .member hlead hfront hquoted hcolon htree hmembers, rfl, hpresent,
            fun label hrecord hwhole ↦ ?_⟩
          exact hmentions label hrecord (wholeMembers_cons_iff.1 hwhole).2
      next shape hfield =>
        split at h
        next => exact absurd h (mismatchBehind_ne_ok _ _ _ _)
        next =>
          split at h
          next => cases h
          next behindColon hcolon =>
            split at h
            next => cases h
            next item after hread =>
              obtain ⟨absence, hmem⟩ := exists_mem_of_field? hfield
              obtain ⟨tree, htree, hfits⟩ := ih.value (hsound _ hmem) hread
              obtain ⟨members, all, hmembers, rfl, hpresent, hmentions⟩ := ih.named hsound h
              have hcolon := Json.readColon_ok_iff.1 (plainly_ok_iff.1 hcolon)
              refine ⟨(pieces, tree) :: members, all,
                .member hlead hfront hquoted hcolon htree hmembers, rfl, hpresent,
                fun label hrecord hwhole hinto ↦ ?_⟩
              obtain ⟨htreeWhole, hmembersWhole⟩ := wholeMembers_cons_iff.1 hwhole
              exact hmentions label hrecord hmembersWhole
                (hinto.read hrecord hmem (hfits htreeWhole))

/-! ### Values -/

theorem Accepts.of_core {shape : Shape} (h : Accepts levels shape.core s rest value) :
    Accepts levels shape s rest value := by
  obtain ⟨tree, htree, hfits⟩ := h
  refine ⟨tree, htree, fun hwhole ↦ ?_⟩
  rw [← reach_core shape]
  exact ⟨.of_core (hfits hwhole).1, (hfits hwhole).2⟩

theorem AcceptsItems.accepts {item : Shape} {inner : Nat}
    (h : AcceptsItems inner item [] s rest value) :
    Accepts (inner + 1) (.listOf item) ('[' :: s) rest value := by
  obtain ⟨trees, values, htrees, rfl, hfits⟩ := h
  refine ⟨.list trees, .list htrees, fun hwhole ↦ ⟨.list fun v hv ↦ (hfits hwhole v hv).1, ?_⟩⟩
  have hdepth : Json.depthItems values ≤ max inner item.reach :=
    Json.depthItems_le_iff.2 fun v hv ↦ (hfits hwhole v hv).2
  rw [List.reverse_nil, List.nil_append, Json.depth, reach]
  omega

theorem Mentions.accepts {label : String} {inner : Nat} {all : Members}
    (h : Mentions fields (fieldDepth inner fields) all)
    (hpresent : ∀ field ∈ fields, all.contains field.1 = true) :
    (Shape.record label fields).Fits (.object all) ∧
      (Json.object all).depth ≤ max (inner + 1) (Shape.record label fields).reach := by
  obtain ⟨hfits, hdepth⟩ := h.fits_record hpresent label
  refine ⟨hfits, Nat.le_trans hdepth ?_⟩
  rw [fieldDepth, reach]
  omega

theorem AcceptsListed.accepts {label : String} {inner : Nat}
    (hsound : (Shape.record label fields).Sound)
    (h : AcceptsListed inner true [] fields s rest value) :
    Accepts (inner + 1) (.record label fields) ('[' :: s) rest value := by
  obtain ⟨trees, all, htrees, rfl, -, hpresent, hmentions⟩ := h
  refine ⟨.list trees, .list htrees, fun hwhole ↦ ?_⟩
  exact (hmentions label fields hsound (List.Subset.refl _) hwhole (.nil _)).accepts hpresent

theorem AcceptsNamed.accepts {label : String} {inner : Nat}
    (hsound : (Shape.record label fields).Sound)
    (h : AcceptsNamed inner fields true [] s rest value) :
    Accepts (inner + 1) (.record label fields) ('{' :: s) rest value := by
  obtain ⟨members, all, hmembers, rfl, hpresent, hmentions⟩ := h
  refine ⟨.object members, .object hmembers, fun hwhole ↦ ?_⟩
  exact (hmentions label hsound hwhole (.nil _)).accepts hpresent

theorem accepts_step (ih : Accepting steps) {shape : Shape} (hsound : shape.Sound)
    (h : read (steps + 1) levels shape s = .ok (value, rest)) :
    Accepts levels shape (skipSpaces s) rest value := by
  rw [read] at h
  split at h
  next => cases h
  next c tail hs =>
    rw [hs]
    have hspaces : skipSpaces (c :: tail) = c :: tail := by rw [← hs, skipSpaces_skipSpaces]
    split at h
    next hnull =>
      simp only [Bool.and_eq_true, decide_eq_true_eq] at hnull
      obtain ⟨rfl, rfl⟩ := Json.readConstant_ok_iff.1 (plainly_ok_iff.1 h)
      rw [hnull.1]
      exact ⟨.null, .null rest, fun _ ↦ ⟨.null_of_admitsNull hnull.2, Nat.zero_le _⟩⟩
    next =>
      refine Accepts.of_core ?_
      have hcore := hsound.core
      generalize shape.core = core at h hcore ⊢
      cases core with
      | text => exact accepts_of_readText h
      | flag => exact accepts_of_readFlag h
      | anything => exact accepts_of_readValue hspaces (plainly_ok_iff.1 h)
      | table => exact accepts_of_readTable hspaces h
      | choice names => exact accepts_of_readChoice h
      | optional content => exact absurd h (complain_ne_ok _ _ _ _)
      | listOf item =>
        dsimp only at h
        split at h
        next hc =>
          subst hc
          cases levels with
          | zero => cases h
          | succ inner => exact AcceptsItems.accepts (ih.items hcore h)
        next => exact absurd h (complain_ne_ok _ _ _ _)
      | record label fields =>
        have hfields : ∀ field ∈ fields, field.2.2.Sound :=
          fun field hfield ↦ (soundFields_iff.1 hcore.2 field hfield).2
        dsimp only at h
        split at h
        next hc =>
          subst hc
          cases levels with
          | zero => cases h
          | succ inner => exact AcceptsListed.accepts hcore (ih.listed hfields h)
        next =>
          split at h
          next hc =>
            subst hc
            cases levels with
            | zero => cases h
            | succ inner => exact AcceptsNamed.accepts hcore (ih.named hfields h)
          next => exact absurd h (complain_ne_ok _ _ _ _)

theorem accepting (steps : Nat) : Accepting steps := by
  induction steps with
  | zero =>
    refine ⟨fun _ h ↦ ?_, fun _ h ↦ ?_, fun _ h ↦ ?_, fun _ h ↦ ?_⟩
    · rw [read] at h
      cases h
    · rw [readItems] at h
      cases h
    · rw [readListed] at h
      cases h
    · rw [readNamed] at h
      cases h
  | succ steps ih =>
    exact ⟨accepts_step ih, acceptsItems_step ih, acceptsListed_step ih, acceptsNamed_step ih⟩

/-- What a text is read as by a shape fits the shape, if the numbers of the text are integers of
64 bits. -/
theorem fits_of_parse {shape : Shape} (hsound : shape.Sound) {text : String} {tree : Tree}
    (htree : tree.Spells text) (hwhole : tree.Whole) (h : shape.parse text = .ok value) :
    shape.Fits value ∧ value.depth ≤ max Json.nestingLimit shape.reach := by
  obtain ⟨rest, hread, hrest⟩ := Json.readAll_ok_iff.1 h
  obtain ⟨other, hother, hfits⟩ := (accepting _).value hsound hread
  obtain rfl := Tree.spells_unique ⟨rest, hother, hrest⟩ htree
  exact hfits hwhole

end Brokerage.Shape
