import PluginHost.Text.Utf8

/-!
# The order of texts and the order of their bytes

Texts are ordered by the code points of their characters, one after the other.  Their encodings
as bytes are ordered in the same way: where two characters differ, their encodings differ at a
byte that both have, and the lesser character has the lesser byte there.
-/

namespace PluginHost.Text

theorem ofNat_cons_lt_ofNat_cons {first second : Nat} {firsts seconds : List UInt8}
    (byte : second < 256) (less : first < second ∨ first = second ∧ firsts < seconds) :
    UInt8.ofNat first :: firsts < UInt8.ofNat second :: seconds := by
  apply List.cons_lt_cons_iff.mpr
  rcases less with lower | ⟨rfl, later⟩
  · left
    exact (UInt8.ofNat_lt_iff_lt (Nat.lt_trans lower byte) byte).mpr lower
  · exact .inr ⟨rfl, later⟩

section Groups

variable {low high : Nat} (firsts seconds : List UInt8)

/-! Code points that agree but for their last groups of six bits are ordered as the bytes of
these groups. -/

theorem lastGroup_lt (less : low < high) (agree : low / 64 = high / 64) :
    UInt8.ofNat (low % 64 + 0x80) :: firsts < UInt8.ofNat (high % 64 + 0x80) :: seconds :=
  ofNat_cons_lt_ofNat_cons (by omega) (.inl (by omega))

theorem lastTwoGroups_lt (less : low < high) (agree : low / 4096 = high / 4096) :
    UInt8.ofNat (low / 64 % 64 + 0x80) :: UInt8.ofNat (low % 64 + 0x80) :: firsts <
      UInt8.ofNat (high / 64 % 64 + 0x80) :: UInt8.ofNat (high % 64 + 0x80) :: seconds := by
  apply ofNat_cons_lt_ofNat_cons (by omega)
  by_cases same : low / 64 = high / 64
  · exact .inr ⟨by omega, lastGroup_lt firsts seconds less same⟩
  · left
    omega

theorem lastThreeGroups_lt (less : low < high) (agree : low / 262144 = high / 262144) :
    UInt8.ofNat (low / 4096 % 64 + 0x80) :: UInt8.ofNat (low / 64 % 64 + 0x80) ::
        UInt8.ofNat (low % 64 + 0x80) :: firsts <
      UInt8.ofNat (high / 4096 % 64 + 0x80) :: UInt8.ofNat (high / 64 % 64 + 0x80) ::
        UInt8.ofNat (high % 64 + 0x80) :: seconds := by
  apply ofNat_cons_lt_ofNat_cons (by omega)
  by_cases same : low / 4096 = high / 4096
  · exact .inr ⟨by omega, lastTwoGroups_lt firsts seconds less same⟩
  · left
    omega

end Groups

/-- The encoding of the lesser of two characters comes first, whatever follows the two. -/
theorem utf8EncodeChar_append_lt {first second : Char} (less : first < second)
    (firsts seconds : List UInt8) :
    String.utf8EncodeChar first ++ firsts < String.utf8EncodeChar second ++ seconds := by
  have ordered : first.val.toNat < second.val.toNat := less
  have bounded : second.val.toNat < 0x110000 := by
    rcases second.valid with below | ⟨_, below⟩
    · exact Nat.lt_trans below (by decide)
    · exact below
  unfold String.utf8EncodeChar
  generalize first.val.toNat = low at ordered
  generalize second.val.toNat = high at ordered bounded
  dsimp only
  -- The cases are the lengths of the two encodings; the longer one has the greater first byte.
  split
  · split
    · exact ofNat_cons_lt_ofNat_cons (by omega) (.inl ordered)
    · repeat' split
      all_goals exact ofNat_cons_lt_ofNat_cons (by omega) (.inl (by omega))
  · split
    · split
      · omega
      · split
        · apply ofNat_cons_lt_ofNat_cons (by omega)
          by_cases same : low / 64 = high / 64
          · exact .inr ⟨by omega, lastGroup_lt firsts seconds ordered same⟩
          · left
            omega
        · split <;> exact ofNat_cons_lt_ofNat_cons (by omega) (.inl (by omega))
    · split
      · split
        · omega
        · split
          · omega
          · split
            · apply ofNat_cons_lt_ofNat_cons (by omega)
              by_cases same : low / 4096 = high / 4096
              · exact .inr ⟨by omega, lastTwoGroups_lt firsts seconds ordered same⟩
              · left
                omega
            · exact ofNat_cons_lt_ofNat_cons (by omega) (.inl (by omega))
      · split
        · omega
        · split
          · omega
          · split
            · omega
            · apply ofNat_cons_lt_ofNat_cons (by omega)
              by_cases same : low / 262144 = high / 262144
              · exact .inr ⟨by omega, lastThreeGroups_lt firsts seconds ordered same⟩
              · left
                omega

/-- Of two texts the lesser one has the lesser bytes. -/
theorem encode_lt_encode {first second : String} (less : first < second) :
    encode first < encode second := by
  have ordered : List.Lex (· < ·) first.toList second.toList := less
  unfold encode
  generalize first.toList = firsts at ordered
  generalize second.toList = seconds at ordered
  induction ordered with
  | nil =>
      rename_i character rest
      rw [List.flatMap_cons]
      cases encoded : String.utf8EncodeChar character with
      | nil => exact (String.utf8EncodeChar_ne_nil encoded).elim
      | cons byte bytes => exact List.nil_lt_cons _ _
  | rel lower => exact utf8EncodeChar_append_lt lower _ _
  | cons _ ih =>
      rw [List.flatMap_cons, List.flatMap_cons]
      exact List.append_left_lt ih

end PluginHost.Text
