import PluginHost.Proofs.Settings.KeyPlace
import PluginHost.Proofs.Toml.Headers

/-!
# The section in which an unknown key is found

The search for an unknown key begins where the text has the header of its section for the first
time, be that in a comment, and does not end at the next header.  So what it finds belongs to the
section only if the first line that states the key there is one of the section.  Where the search
begins at the header itself, it does exactly if some line of the section states the key.
-/

namespace PluginHost

open Text

/-! ### Places and headers -/

/-- The place of a header, in bytes. -/
def TomlHeader.place (header : TomlHeader) : Nat :=
  (String.ofList header.front).utf8ByteSize

/-- A place of a document comes after a header, and before every later one. -/
def TomlHeader.Spans (document : String) (header : TomlHeader) (place : Nat) : Prop :=
  header.place ≤ place ∧
    ∀ other ∈ TomlValue.headers document, header.place < other.place → place < other.place

instance (document : String) (header : TomlHeader) (place : Nat) :
    Decidable (header.Spans document place) :=
  inferInstanceAs (Decidable (_ ∧ _))

/-- A place of a document belongs to a section: the header of the section comes before it, and no
other header comes between the two. -/
def BelongsTo (document name : String) (place : Nat) : Prop :=
  ∃ header ∈ TomlValue.headers document, header.Opens name ∧ header.Spans document place

instance (document name : String) (place : Nat) : Decidable (BelongsTo document name place) :=
  inferInstanceAs (Decidable (∃ _ ∈ _, _))

/-! ### Places at which lines state a key -/

variable {content name key : String} {path rest : List String} {offset place : Nat}

/-- A line of the searched part of a text states a key, which begins at a place. -/
inductive StatesKeyAt (content : String) (path : List String) (key : String) : Nat → Prop where
  | intro {front part gap line : List Char} {before after : List (List Char)}
      (searched : SearchedPart content.toList path front part)
      (hasLines : HasLines part (before ++ line :: after))
      (states : StatesKey key.toList gap line) :
      StatesKeyAt content path key (String.ofList (front ++ before.flatten ++ gap)).utf8ByteSize

theorem StatesKey.isPrefix {key gap line : List Char} (states : StatesKey key gap line) :
    gap <+: line := by
  obtain ⟨-, -, -⟩ := states
  exact List.prefix_append _ _

theorem utf8ByteSize_le_of_prefix {text longer : List Char} (begins : text <+: longer) :
    (String.ofList text).utf8ByteSize ≤ (String.ofList longer).utf8ByteSize := by
  obtain ⟨rest, rfl⟩ := begins
  rw [String.ofList_append, String.utf8ByteSize_append]
  exact Nat.le_add_right _ _

theorem LocatesKey.statesKeyAt (locates : LocatesKey content path key offset) :
    StatesKeyAt content path key offset := by
  obtain ⟨searched, hasLines, -, states⟩ := locates
  exact .intro searched hasLines states

/-- No line states the key at an earlier place. -/
theorem LocatesKey.le_of_statesKeyAt (locates : LocatesKey content path key offset)
    (statesAt : StatesKeyAt content path key place) : offset ≤ place := by
  obtain @⟨front, part, gap, line, before, after, searched, hasLines, earlier, states⟩ := locates
  obtain @⟨_, _, otherGap, otherLine, otherBefore, otherAfter, otherSearched, otherLines,
    otherStates⟩ := statesAt
  obtain ⟨rfl, rfl⟩ := searched.unique otherSearched
  have same := hasLines.linesOf_eq.symm.trans otherLines.linesOf_eq
  have begins : before.flatten ++ gap <+: otherBefore.flatten ++ otherGap := by
    rcases List.append_eq_append_iff.mp same with
      ⟨between, rfl, further⟩ | ⟨between, rfl, further⟩
    · cases between with
      | nil =>
          obtain ⟨rfl, -⟩ := List.cons.inj further
          rw [states.gap_eq, otherStates.gap_eq, List.append_nil]
      | cons first between =>
          obtain ⟨rfl, -⟩ := List.cons.inj further
          rw [List.flatten_append, List.flatten_cons, List.append_assoc, List.append_assoc,
            List.prefix_append_right_inj]
          exact states.isPrefix.trans (List.prefix_append _ _)
    · cases between with
      | nil =>
          obtain ⟨rfl, -⟩ := List.cons.inj further
          rw [states.gap_eq, otherStates.gap_eq, List.append_nil]
      | cons first between =>
          obtain ⟨rfl, -⟩ := List.cons.inj further
          exact absurd otherStates (earlier _ (by simp) otherGap)
  refine utf8ByteSize_le_of_prefix ?_
  rwa [List.append_assoc, List.append_assoc, List.prefix_append_right_inj]

/-- The search in a section finds nothing before the place at which it begins. -/
theorem StatesKeyAt.le_of_occursFirst {front part : List Char}
    (statesAt : StatesKeyAt content (name :: rest) key place)
    (occurs : OccursFirst (sectionHeader name) content.toList front part) :
    (String.ofList front).utf8ByteSize ≤ place := by
  obtain ⟨searched, -, -⟩ := statesAt
  obtain ⟨rfl, -⟩ := searched.unique (.after occurs)
  refine utf8ByteSize_le_of_prefix ?_
  simp only [List.append_assoc]
  exact List.prefix_append _ _

/-! ### The section of the key that is found -/

/-- To which section the place belongs that is found for a key of a section. -/
structure FindsInSection (content name : String) (rest : List String) (key : String)
    (offset : Nat) : Prop where
  /-- If it belongs to the section of the key, then the text has the name of the section in brackets
  before it, where its reader reads a header. -/
  headed : BelongsTo content name offset → ∃ front inner after,
    content.toList = front ++ '[' :: inner ∧
      TomlReader.dottedKey inner = .ok (([], name), after) ∧
        (String.ofList front).utf8ByteSize ≤ offset
  /-- It belongs to the section of the key exactly if some line of this section states the key, and
  no line that is searched states it before. -/
  belongs_iff : BelongsTo content name offset ↔
    ∃ header ∈ TomlValue.headers content, header.Opens name ∧
      (∃ place, StatesKeyAt content (name :: rest) key place ∧ header.Spans content place) ∧
        ∀ place, StatesKeyAt content (name :: rest) key place → header.place ≤ place
  /-- If the header of the section is what the text has first of it, then some line of the section
  has to state the key, and this is enough. -/
  ofHeader : ∀ header ∈ TomlValue.headers content, header.Opens name →
    (∃ part, OccursFirst (sectionHeader name) content.toList header.front part) →
      (BelongsTo content name offset ↔
        ∃ place, StatesKeyAt content (name :: rest) key place ∧ header.Spans content place)
  /-- If no line of the section does, then another header comes between its header and what is
  found. -/
  beyond : ∀ header ∈ TomlValue.headers content, header.Opens name →
    (∃ part, OccursFirst (sectionHeader name) content.toList header.front part) →
      (∀ place, header.Spans content place → ¬ StatesKeyAt content (name :: rest) key place) →
        ∃ other ∈ TomlValue.headers content,
          header.place < other.place ∧ other.place ≤ offset

variable {header : TomlHeader}

/-- The place that is found is in a section if one is at which a line states the key, and the
section begins before all of these. -/
theorem LocatesKey.spans (locates : LocatesKey content path key offset)
    (statesAt : StatesKeyAt content path key place) (spans : header.Spans content place)
    (first : ∀ place, StatesKeyAt content path key place → header.place ≤ place) :
    header.Spans content offset :=
  ⟨first offset locates.statesKeyAt, fun other member later =>
    Nat.lt_of_le_of_lt (locates.le_of_statesKeyAt statesAt) (spans.2 other member later)⟩

theorem findsInSection (found : keyPlace? content (name :: rest) key = some offset) :
    FindsInSection content name rest key offset where
  headed := by
    rintro ⟨header, member, opens, spans⟩
    obtain ⟨inner, after, whole, readsKey⟩ :=
      (TomlValue.isHeader_of_mem_headers member).exists_of_opens opens
    exact ⟨header.front, inner, after, whole, readsKey, spans.1⟩
  belongs_iff := by
    have locates := keyPlace?_eq_some_iff.mp found
    constructor
    · rintro ⟨header, member, opens, spans⟩
      exact ⟨header, member, opens, ⟨offset, locates.statesKeyAt, spans⟩,
        fun place statesAt => Nat.le_trans spans.1 (locates.le_of_statesKeyAt statesAt)⟩
    · rintro ⟨header, member, opens, ⟨place, statesAt, spans⟩, first⟩
      exact ⟨header, member, opens, locates.spans statesAt spans first⟩
  ofHeader header member opens := by
    rintro ⟨part, occurs⟩
    have locates := keyPlace?_eq_some_iff.mp found
    constructor
    · rintro ⟨other, otherMember, otherOpens, spans⟩
      obtain rfl := TomlValue.eq_of_opens otherMember member otherOpens opens
      exact ⟨offset, locates.statesKeyAt, spans⟩
    · rintro ⟨place, statesAt, spans⟩
      exact ⟨header, member, opens,
        locates.spans statesAt spans fun _ statesAt => statesAt.le_of_occursFirst occurs⟩
  beyond header member opens := by
    rintro ⟨part, occurs⟩ unstated
    have statesAt := (keyPlace?_eq_some_iff.mp found).statesKeyAt
    have outside : ¬ header.Spans content offset := fun spans => unstated offset spans statesAt
    by_contra nothing
    refine outside ⟨statesAt.le_of_occursFirst occurs, fun other otherMember later => ?_⟩
    exact Nat.lt_of_not_le fun reaches => nothing ⟨other, otherMember, later, reaches⟩

/-- A document whose section states a key that a later one states as well. -/
def keyInTwoSections : String :=
  "[server]\n  prot = 1\n[logging]\nprot = 2\n"

theorem findsInSection_keyInTwoSections :
    keyPlace? keyInTwoSections ["server"] "prot" = some 11 ∧
      BelongsTo keyInTwoSections "server" 11 := by
  have found : keyPlace? keyInTwoSections ["server"] "prot" = some 11 := by decide +kernel
  let header : TomlHeader := ⟨[], false, ["server"]⟩
  have member : header ∈ TomlValue.headers keyInTwoSections := by decide +kernel
  have occurs : OccursFirst (sectionHeader "server") keyInTwoSections.toList header.front
      "\n  prot = 1\n[logging]\nprot = 2\n".toList :=
    ⟨by decide +kernel, fun earlier _ _ => Nat.zero_le earlier.length⟩
  have spans : header.Spans keyInTwoSections 11 := by decide +kernel
  have statesAt := (keyPlace?_eq_some_iff.mp found).statesKeyAt
  exact ⟨found, ((findsInSection found).ofHeader header member (by decide) ⟨_, occurs⟩).mpr
    ⟨11, statesAt, spans⟩⟩

/-- A document that mentions a section in a comment, before another section that states the same
key. -/
def mentionedSection : String :=
  "# [server]\n[logging]\nlevel = \"info\"\n[server]\nlevel = 1\n"

/-- A header that a comment mentions makes the search begin before the section. -/
theorem not_belongsTo_mentionedSection :
    ¬ ∀ (content name : String) (rest : List String) (key : String) (offset : Nat),
      (TomlValue.parseDocument content).isOk = true →
        keyPlace? content (name :: rest) key = some offset → BelongsTo content name offset := by
  intro belongs
  have found : keyPlace? mentionedSection ["server", "level"] "level" = some 21 := by
    decide +kernel
  have place := belongs mentionedSection "server" ["level"] "level" 21 (by decide +kernel) found
  exact absurd place (by decide +kernel)

end PluginHost
