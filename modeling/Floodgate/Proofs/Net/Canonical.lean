import Floodgate.Proofs.Net.Spelling

/-!
# The canonical text of an address

The canonical text of an address spells it, whether zeros are left out or the last groups are
written as octets. So it is read as the address it was written for, and two addresses never share
a text.

## Main results

* `Address.append_longestZeros` — the zeros that are left out can be put back
* `Address.spells_write`, `Address.read_write` — the canonical text is a spelling, and is read
* `Address.text_injective` — different addresses have different texts
-/

namespace Floodgate

namespace Quad

theorem groups_ofGroups (g h : UInt16) : (ofGroups g h).groups = [g, h] := by
  have joined (g : UInt16) : (g / 256).toUInt8.toUInt16 * 256 + g.toUInt8.toUInt16 = g := by
    apply UInt16.toNat_inj.1
    have := g.toNat_lt
    simp
    omega
  rw [groups, ofGroups, joined, joined]

end Quad

namespace Address

theorem spellsGroup_digits (g : UInt16) : SpellsGroup (Hexadecimal.digits g.toNat) g := by
  refine ⟨Hexadecimal.positional.length_digits_le (by omega) (g.toNat_lt.trans_eq (by decide)), ?_⟩
  refine (Hexadecimal.value?_eq_some_iff (Hexadecimal.digits_ne_nil _)).1 ?_
  exact Hexadecimal.value?_digits g.toNat

theorem spellsGroups_writeGroups (gs : List UInt16) : SpellsGroups (writeGroups gs) gs := by
  refine ⟨_, rfl, ?_⟩
  rw [List.forall₂_map_left_iff, List.forall₂_same]
  exact fun g _ => spellsGroup_digits g

/-! ### Zeros left out -/

/-- How many zeros the groups begin with. -/
def zerosInFront (gs : List UInt16) : ℕ := (gs.takeWhile (· = 0)).length

theorem replicate_zerosInFront (gs : List UInt16) :
    List.replicate (zerosInFront gs) 0 ++ gs.drop (zerosInFront gs) = gs := by
  have zeros : gs.takeWhile (· = 0) = List.replicate (zerosInFront gs) 0 :=
    List.eq_replicate_iff.2 ⟨rfl, fun g mem => by simpa using List.mem_takeWhile_imp mem⟩
  have front : gs.takeWhile (· = 0) = gs.take (zerosInFront gs) :=
    List.prefix_iff_eq_take.1 (List.takeWhile_prefix _)
  rw [← zeros, front, List.take_append_drop]

theorem longestZeros_cons (g : UInt16) (gs : List UInt16) :
    longestZeros (g :: gs) =
      if (longestZeros gs).2 ≤ zerosInFront (g :: gs) then (0, zerosInFront (g :: gs))
      else ((longestZeros gs).1 + 1, (longestZeros gs).2) := rfl

/-- The zeros that `longestZeros` finds stand between the groups before and behind them. -/
theorem append_longestZeros (gs : List UInt16) :
    gs.take (longestZeros gs).1 ++ List.replicate (longestZeros gs).2 0 ++
      gs.drop ((longestZeros gs).1 + (longestZeros gs).2) = gs := by
  induction gs with
  | nil => rfl
  | cons g gs ih =>
    rw [longestZeros_cons]
    split_ifs with longest
    · simpa using replicate_zerosInFront (g :: gs)
    · dsimp only
      rw [List.take_succ_cons, Nat.add_right_comm, List.drop_succ_cons, List.cons_append,
        List.cons_append, ih]

/-! ### The text of eight groups -/

/-- Five groups of zero and one of ones, in front of four octets. -/
def Mapped (gs : List UInt16) : Prop := ∃ g h, gs = [0, 0, 0, 0, 0, 0xffff, g, h]

theorem writeV6_of_not_mapped {gs : List UInt16} (unmapped : ¬ Mapped gs) :
    writeV6 gs =
      if 2 ≤ (longestZeros gs).2 then
        writeGroups (gs.take (longestZeros gs).1) ++ ':' :: ':' ::
          writeGroups (gs.drop ((longestZeros gs).1 + (longestZeros gs).2))
      else writeGroups gs := by
  unfold writeV6
  split
  next g h => exact absurd ⟨g, h, rfl⟩ unmapped
  next => rfl

theorem spells_gap {front back : List Char} {gs hs all : List UInt16} {missing : ℕ}
    (before : SpellsGroups front gs) (after : SpellsTail back hs) (pos : 0 < missing)
    (all_eq : gs ++ List.replicate missing 0 ++ hs = all) (length_eq : all.length = 8) :
    Spells (front ++ ':' :: ':' :: back) (.v6 all length_eq) := by
  subst all_eq
  exact .gap before after pos length_eq

/-- Eight groups are spelled by their canonical text. -/
theorem spells_writeV6 {gs : List UInt16} (length_eq : gs.length = 8) :
    Spells (writeV6 gs) (.v6 gs length_eq) := by
  by_cases mapped : Mapped gs
  · -- Five zeros are left out, the group of ones stands, and the rest is four octets.
    obtain ⟨g, h, rfl⟩ := mapped
    have ones : List.Forall₂ SpellsGroup ["ffff".toList] [0xffff] :=
      .cons ⟨by decide, 0, by decide +kernel⟩ .nil
    have octets := SpellsTail.octets ones (Quad.ofGroups g h)
    rw [Quad.groups_ofGroups] at octets
    have spells := spells_gap ⟨[], rfl, .nil⟩ octets (show 0 < 5 by omega) rfl length_eq
    rwa [List.singleton_append, List.intercalate_cons_cons, List.intercalate_singleton] at spells
  · rw [writeV6_of_not_mapped mapped]
    split_ifs with two
    · exact spells_gap (spellsGroups_writeGroups _) (.groups (spellsGroups_writeGroups _))
        (by omega) (append_longestZeros gs) length_eq
    · exact .whole (.groups (spellsGroups_writeGroups gs)) length_eq

theorem spells_write (a : Address) : Spells a.write a := by
  cases a with
  | v4 q => exact .quad q
  | v6 gs length_eq => exact spells_writeV6 length_eq

theorem read_write (a : Address) : read a.write = some a := read_of_spells (spells_write a)

theorem write_injective : Function.Injective write := by
  intro a b write_eq
  have spells := spells_write b
  rw [← write_eq] at spells
  exact (spells_write a).unique spells

theorem toList_text (a : Address) : a.text.toList = a.write := String.toList_ofList

theorem text_injective : Function.Injective text := by
  intro a b text_eq
  apply write_injective
  rw [← toList_text, ← toList_text, text_eq]

end Address

end Floodgate
