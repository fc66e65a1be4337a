import Mathlib.Data.List.Infix
import PluginHost.Proofs.Text.Blank
import PluginHost.Settings.Suggestion

/-!
# Lines of a text, and the first occurrence of a part

A text is cut into lines in one way: each line ends in a line break and has no other, and only the
last may do without.  The search for a part finds the occurrence with the least before it.  Places
in a text are told by the number of bytes before them.
-/

namespace PluginHost

open Text

variable {text rest line part before : List Char} {lines : List (List Char)}

/-! ### Bytes of a text -/

theorem utf8ByteSize_ofList_cons (c : Char) (text : List Char) :
    (String.ofList (c :: text)).utf8ByteSize = c.utf8Size + (String.ofList text).utf8ByteSize := by
  rw [String.ofList_cons, String.utf8ByteSize_append, String.utf8ByteSize_singleton]

theorem textSize_eq (text : List Char) : textSize text = (String.ofList text).utf8ByteSize := by
  have onto (size : Nat) : text.foldl (fun size c => size + c.utf8Size) size =
      size + (String.ofList text).utf8ByteSize := by
    induction text generalizing size with
    | nil => simp
    | cons c text ih =>
        rw [List.foldl_cons, ih, utf8ByteSize_ofList_cons, Nat.add_assoc]
  rw [textSize, onto, Nat.zero_add]

theorem textSize_append (text rest : List Char) :
    textSize (text ++ rest) = textSize text + textSize rest := by
  simp only [textSize_eq, String.ofList_append, String.utf8ByteSize_append]

theorem textSize_cons (c : Char) (text : List Char) :
    textSize (c :: text) = c.utf8Size + textSize text := by
  simp only [textSize_eq, utf8ByteSize_ofList_cons]

/-- Bytes of a text are those of a part of it, from one boundary between characters to another. -/
structure Covers (content : String) (offset size : Nat) (part : String) : Prop where
  start : String.Pos.Raw.IsValid content ⟨offset⟩
  stop : String.Pos.Raw.IsValid content ⟨offset + size⟩
  bytes : content.toByteArray.extract offset (offset + size) = part.toByteArray

theorem covers_append (before part after : String) :
    Covers (before ++ part ++ after) before.utf8ByteSize part.utf8ByteSize part where
  start := String.Pos.Raw.isValid_iff_exists_append.mpr
    ⟨before, part ++ after, String.append_assoc, rfl⟩
  stop := String.Pos.Raw.isValid_iff_exists_append.mpr
    ⟨before ++ part, after, rfl, by rw [String.rawEndPos, String.utf8ByteSize_append]⟩
  bytes := by
    have shifted : (before.toByteArray ++ (part.toByteArray ++ after.toByteArray)).extract
        (before.toByteArray.size + 0) (before.toByteArray.size + part.toByteArray.size) =
          part.toByteArray := by
      rw [ByteArray.extract_append_size_add, ByteArray.extract_append_eq_left rfl]
    rw [String.toByteArray_append, String.toByteArray_append, ByteArray.append_assoc]
    exact shifted

/-! ### Lines -/

/-- A text is made of lines: each ends in a line break, which the last may do without, and has no
other line break. -/
inductive HasLines : List Char → List (List Char) → Prop where
  | none : HasLines [] []
  | last {line : List Char} (nonempty : line ≠ []) (noBreak : '\n' ∉ line) : HasLines line [line]
  | next {line rest : List Char} {lines : List (List Char)} (noBreak : '\n' ∉ line)
      (later : HasLines rest lines) :
      HasLines (line ++ '\n' :: rest) ((line ++ ['\n']) :: lines)

theorem linesOf_append (noBreak : '\n' ∉ line) (rest : List Char) :
    linesOf (line ++ '\n' :: rest) = (line ++ ['\n']) :: linesOf rest := by
  induction line with
  | nil => simp [linesOf]
  | cons c line ih =>
      have notBreak : (c == '\n') = false := by simpa using (List.ne_of_not_mem_cons noBreak).symm
      simp [linesOf, notBreak, ih (List.not_mem_of_not_mem_cons noBreak)]

theorem linesOf_eq_singleton (nonempty : line ≠ []) (noBreak : '\n' ∉ line) :
    linesOf line = [line] := by
  induction line with
  | nil => exact absurd rfl nonempty
  | cons c line ih =>
      have notBreak : (c == '\n') = false := by simpa using (List.ne_of_not_mem_cons noBreak).symm
      have noBreakLater := List.not_mem_of_not_mem_cons noBreak
      cases line with
      | nil => simp [linesOf, notBreak]
      | cons d line =>
          rw [linesOf, notBreak, ih (List.cons_ne_nil d line) noBreakLater]
          rfl

theorem HasLines.linesOf_eq (has : HasLines text lines) : linesOf text = lines := by
  induction has with
  | none => rfl
  | last nonempty noBreak => exact linesOf_eq_singleton nonempty noBreak
  | next noBreak _ ih => rw [linesOf_append noBreak, ih]

theorem HasLines.cons_letter {c : Char} (has : HasLines rest lines) (notBreak : c ≠ '\n') :
    ∃ lines, HasLines (c :: rest) lines := by
  cases has with
  | none => exact ⟨_, .last (List.cons_ne_nil c []) (by simpa using notBreak.symm)⟩
  | last nonempty noBreak =>
      have longer : '\n' ∉ c :: rest := List.not_mem_cons_of_ne_of_not_mem notBreak.symm noBreak
      exact ⟨_, .last (List.cons_ne_nil c rest) longer⟩
  | @next line rest lines noBreak later =>
      have longer : '\n' ∉ c :: line := List.not_mem_cons_of_ne_of_not_mem notBreak.symm noBreak
      exact ⟨_, .next longer later⟩

theorem exists_hasLines (text : List Char) : ∃ lines, HasLines text lines := by
  induction text with
  | nil => exact ⟨[], .none⟩
  | cons c text ih =>
      obtain ⟨lines, has⟩ := ih
      by_cases isBreak : c = '\n'
      · subst isBreak
        exact ⟨_, .next List.not_mem_nil has⟩
      · exact has.cons_letter isBreak

theorem hasLines_iff : HasLines text lines ↔ linesOf text = lines := by
  constructor
  · exact HasLines.linesOf_eq
  · rintro rfl
    obtain ⟨lines, has⟩ := exists_hasLines text
    rwa [has.linesOf_eq]

theorem HasLines.flatten_eq (has : HasLines text lines) : lines.flatten = text := by
  induction has with
  | none => rfl
  | last _ _ => simp
  | next _ _ ih => simp [ih]

/-- A line break is the last of its line. -/
theorem HasLines.eq_nil_of_mem {front back : List Char} (has : HasLines text lines)
    (member : line ∈ lines) (cut : line = front ++ '\n' :: back) : back = [] := by
  subst cut
  induction has with
  | none => cases member
  | last _ noBreak =>
      obtain rfl := List.mem_singleton.mp member
      simp at noBreak
  | @next body _ _ noBreak _ ih =>
      rcases List.mem_cons.mp member with same | later
      · rcases List.eq_nil_or_concat back with rfl | ⟨back, c, rfl⟩
        · rfl
        · rw [List.concat_eq_append, ← List.cons_append, ← List.append_assoc] at same
          obtain ⟨rfl, -⟩ := List.append_inj' same rfl
          simp at noBreak
      · exact ih later

/-- What comes before a line of a text is nothing, or it ends in a line break. -/
theorem HasLines.flatten_before {before after : List (List Char)} (has : HasLines text lines)
    (cut : lines = before ++ line :: after) :
    before = [] ∨ before.flatten.getLast? = some '\n' := by
  induction has generalizing before with
  | none => simp at cut
  | last _ _ =>
      cases before with
      | nil => exact .inl rfl
      | cons first before => simp at cut
  | next _ _ ih =>
      cases before with
      | nil => exact .inl rfl
      | cons first before =>
          obtain ⟨rfl, later⟩ := List.cons.inj cut
          rw [List.flatten_cons]
          rcases ih later with rfl | endsLine
          · simp
          · exact .inr (by rw [List.getLast?_append, endsLine, Option.some_or])

/-! ### The first occurrence of a part -/

theorem stripLeading?_eq_some_iff : stripLeading? part text = some rest ↔ text = part ++ rest := by
  induction part generalizing text with
  | nil => simp [stripLeading?]
  | cons c part ih =>
      cases text with
      | nil => simp [stripLeading?]
      | cons d text =>
          rw [stripLeading?, List.cons_append, List.cons.injEq]
          by_cases same : c = d
          · subst same
            simp [ih]
          · simp [same, Ne.symm same]

/-- A part occurs in a text, and nowhere with less before it. -/
structure OccursFirst (part text before rest : List Char) : Prop where
  whole : text = before ++ part ++ rest
  first : ∀ earlier later, text = earlier ++ part ++ later → before.length ≤ earlier.length

theorem OccursFirst.unique {other otherRest : List Char}
    (occurs : OccursFirst part text before rest)
    (same : OccursFirst part text other otherRest) : before = other ∧ rest = otherRest := by
  have length : before.length = other.length :=
    Nat.le_antisymm (occurs.first _ _ same.whole) (same.first _ _ occurs.whole)
  have whole := occurs.whole.symm.trans same.whole
  rw [List.append_assoc, List.append_assoc] at whole
  obtain ⟨front, back⟩ := List.append_inj whole length
  exact ⟨front, List.append_cancel_left back⟩

theorem OccursFirst.cons {c : Char} (occurs : OccursFirst part text before rest)
    (notHere : stripLeading? part (c :: text) = none) :
    OccursFirst part (c :: text) (c :: before) rest where
  whole := by rw [occurs.whole]; rfl
  first earlier later whole := by
    cases earlier with
    | nil => cases (stripLeading?_eq_some_iff.mpr whole).symm.trans notHere
    | cons d earlier =>
        obtain ⟨-, same⟩ := List.cons.inj whole
        exact Nat.succ_le_succ (occurs.first earlier later same)

theorem occursFirst_of_prefix (here : stripLeading? part text = some rest) :
    OccursFirst part text [] rest :=
  ⟨stripLeading?_eq_some_iff.mp here, fun earlier _ _ => Nat.zero_le earlier.length⟩

/-- The search finds the first occurrence, or there is none. -/
theorem afterFirst?_spec (part text : List Char) :
    (∃ before rest, OccursFirst part text before rest ∧
      afterFirst? part text = some (textSize (before ++ part), rest)) ∨
    ¬ part <:+: text ∧ afterFirst? part text = none := by
  induction text with
  | nil =>
      rw [afterFirst?]
      cases here : stripLeading? part [] with
      | some rest => exact .inl ⟨[], rest, occursFirst_of_prefix here, rfl⟩
      | none =>
          refine .inr ⟨?_, rfl⟩
          intro occurs
          obtain rfl := List.infix_nil.mp occurs
          cases here
  | cons c text ih =>
      rw [afterFirst?]
      cases here : stripLeading? part (c :: text) with
      | some rest => exact .inl ⟨[], rest, occursFirst_of_prefix here, rfl⟩
      | none =>
          rcases ih with ⟨before, rest, occurs, found⟩ | ⟨absent, missing⟩
          · refine .inl ⟨c :: before, rest, occurs.cons here, ?_⟩
            simp [found, textSize_cons, Nat.add_comm]
          · refine .inr ⟨?_, by rw [missing]; rfl⟩
            intro occurs
            rcases List.infix_cons_iff.mp occurs with ⟨rest, same⟩ | later
            · cases (stripLeading?_eq_some_iff.mpr same.symm).symm.trans here
            · exact absent later

theorem afterFirst?_eq_none_iff : afterFirst? part text = none ↔ ¬ part <:+: text := by
  rcases afterFirst?_spec part text with ⟨before, rest, occurs, found⟩ | ⟨absent, missing⟩
  · simp only [found, reduceCtorEq, false_iff, not_not]
    exact ⟨before, rest, occurs.whole.symm⟩
  · simp [missing, absent]

theorem afterFirst?_eq_some_iff {size : Nat} :
    afterFirst? part text = some (size, rest) ↔
      ∃ before, OccursFirst part text before rest ∧ size = textSize (before ++ part) := by
  constructor
  · intro found
    rcases afterFirst?_spec part text with ⟨before, other, occurs, same⟩ | ⟨-, missing⟩
    · cases found.symm.trans same
      exact ⟨before, occurs, rfl⟩
    · cases found.symm.trans missing
  · rintro ⟨before, occurs, rfl⟩
    rcases afterFirst?_spec part text with ⟨other, otherRest, same, found⟩ | ⟨absent, -⟩
    · obtain ⟨rfl, rfl⟩ := occurs.unique same
      exact found
    · exact absurd ⟨before, rest, occurs.whole.symm⟩ absent

end PluginHost
