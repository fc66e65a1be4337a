import PluginHost.Toml.Text

/-!
# What the scan of a string takes

The scan of a string between double quotes takes a part of the text that ends in the closing quote.
It does not look further: in every text that begins with this part it takes the same.
-/

namespace PluginHost

namespace TomlReader

variable {text front rest read : List Char} {c : Char} {size skip : Nat} {value : String}

theorem codePoint_eq_ok_iff {total : Nat} :
    codePoint size text = .ok (c, total) ↔
      ∃ code, hexValue? (text.take size) = some code ∧
        ((text.take size).length == size && code.isValidChar) = true ∧
          c = Char.ofNat code ∧ total = size + 1 := by
  rw [codePoint]
  cases spelled : hexValue? (text.take size) with
  | none => simp [final]
  | some code =>
      simp only [Option.some.injEq, exists_eq_left']
      split
      · next valid =>
          rw [and_iff_right valid, Except.ok.injEq, Prod.mk.injEq, eq_comm, @eq_comm _ _ total]
      · next invalid => exact iff_of_false nofun fun whole => invalid whole.1

/-- An escape depends on no characters but those that it takes. -/
theorem escape_append (reads : escape (front ++ rest) = .ok (c, size))
    (within : size < front.length) (other : List Char) :
    escape (front ++ other) = .ok (c, size) := by
  cases front with
  | nil => cases within
  | cons d front =>
      rw [List.cons_append] at reads ⊢
      have short : size ≤ front.length := Nat.le_of_lt_succ within
      have digits {count : Nat} (reads : codePoint count (front ++ rest) = .ok (c, size)) :
          codePoint count (front ++ other) = .ok (c, size) := by
        obtain ⟨code, spelled, valid, rfl, rfl⟩ := codePoint_eq_ok_iff.mp reads
        rw [List.take_append_of_le_length (by omega)] at spelled valid
        refine codePoint_eq_ok_iff.mpr ⟨code, ?_, ?_, rfl, rfl⟩
        · rwa [List.take_append_of_le_length (by omega)]
        · rwa [List.take_append_of_le_length (by omega)]
      unfold escape at reads
      split at reads
      case h_1 same => cases same
      case h_9 after same =>
        obtain ⟨rfl, rfl⟩ := List.cons.inj same
        exact digits reads
      case h_10 after same =>
        obtain ⟨rfl, rfl⟩ := List.cons.inj same
        exact digits reads
      case h_11 => split at reads <;> cases reads
      -- Every other escape is a single character.
      all_goals next same =>
        obtain ⟨rfl, -⟩ := List.cons.inj same
        exact reads

/-- A scan that comes to the end of a string takes a part of the text, skipped characters included,
and takes it wherever a text begins with it. -/
theorem exists_front_of_scanBasic (reads : scanBasic text skip read = .ok (value, rest)) :
    ∃ front, text = front ++ rest ∧ skip < front.length ∧
      ∀ other, scanBasic (front ++ other) skip read = .ok (value, other) := by
  induction text generalizing skip read with
  | nil => cases reads
  | cons c text ih =>
      cases skip with
      | succ skip =>
          rw [scanBasic] at reads
          obtain ⟨front, rfl, longer, again⟩ := ih reads
          exact ⟨c :: front, rfl, Nat.succ_lt_succ longer, again⟩
      | zero =>
          rw [scanBasic] at reads
          split at reads
          · next closes =>
              cases reads
              refine ⟨[c], rfl, Nat.one_pos, fun other => ?_⟩
              rw [List.singleton_append, scanBasic, if_pos closes]
          · next goesOn =>
              split at reads
              · next escapes =>
                  split at reads
                  · next letter size spelled =>
                      obtain ⟨front, rfl, longer, again⟩ := ih reads
                      refine ⟨c :: front, rfl, Nat.succ_pos _, fun other => ?_⟩
                      rw [List.cons_append, scanBasic, if_neg goesOn, if_pos escapes,
                        escape_append spelled longer other]
                      exact again other
                  · cases reads
              · next plain =>
                  split at reads
                  · next basic =>
                      obtain ⟨front, rfl, longer, again⟩ := ih reads
                      refine ⟨c :: front, rfl, Nat.succ_pos _, fun other => ?_⟩
                      rw [List.cons_append, scanBasic, if_neg goesOn, if_neg plain, if_pos basic]
                      exact again other
                  · cases reads

end TomlReader

end PluginHost
