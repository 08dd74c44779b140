import Chip8.Keypad.Keymap
import Mathlib.Data.List.Nodup

/-!
# The codes of a keymap

A keymap that was read from a text gives no two keys the same code. A code then
stands for one key at most, and the code of a key stands for that key.
-/

namespace Chip8

/-- A result whose value can be looked up completed with that value. -/
theorem eq_ok_of_toOption
    {ε α : Type}
    {result : Except ε α}
    {value : α}
    (found : result.toOption = some value) :
    result = .ok value := by
  cases result with
  | ok read =>
      cases found
      rfl
  | error fault => contradiction

namespace Keymap

/-- No two keys have the same code. -/
def Injective (keymap : Keymap) : Prop :=
  Function.Injective keymap.codes.get

variable {lowercase : Bool} {keymap : Keymap} {code : Int} {key : Key}

/-- Pieces are read as the codes that they define, if these differ from one another and from those
read earlier. -/
theorem readCodes_eq_ok_iff
    {earlier : List Int}
    {pieces : List String}
    {codes : { codes : List Int // codes.length = pieces.length }} :
    readCodes lowercase earlier pieces = .ok codes ↔
      List.Forall₂ (fun piece code => readCode lowercase piece = .ok code) pieces codes.val ∧
        codes.val.Nodup ∧ ∀ code ∈ codes.val, code ∉ earlier := by
  obtain ⟨codes, sized⟩ := codes
  induction pieces generalizing earlier codes with
  | nil =>
      obtain rfl := List.eq_nil_of_length_eq_zero sized
      simp [readCodes]
  | cons piece rest hypothesis =>
      obtain ⟨code, others, rfl⟩ := List.exists_cons_of_length_eq_add_one sized
      have sized : others.length = rest.length := by simpa using sized
      simp only [readCodes, List.forall₂_cons, List.nodup_cons, List.forall_mem_cons]
      constructor
      · intro accepted
        split at accepted
        · contradiction
        · rename_i first read
          split at accepted
          · contradiction
          · rename_i unused
            split at accepted
            · contradiction
            · rename_i among
              cases accepted
              obtain ⟨reads, apart, later⟩ := (hypothesis others sized).mp among
              simp only [List.mem_cons, not_or] at later
              exact ⟨⟨read, reads⟩, ⟨fun member => (later code member).1 rfl, apart⟩,
                unused, fun other member => (later other member).2⟩
      · rintro ⟨⟨read, reads⟩, ⟨fresh, apart⟩, unused, later⟩
        have among : readCodes lowercase (code :: earlier) rest = .ok ⟨others, sized⟩ := by
          refine (hypothesis others sized).mpr ⟨reads, apart, ?_⟩
          simp only [List.mem_cons, not_or]
          exact fun other member => ⟨fun same => fresh (same ▸ member), later other member⟩
        simp only [read, unused, if_false, among]

theorem injective_of_nodup (apart : keymap.codes.toList.Nodup) : keymap.Injective := by
  intro key other same
  change keymap.codes[key.val] = keymap.codes[other.val] at same
  have sized : keymap.codes.toList.length = 16 := Vector.length_toList
  rw [← Vector.getElem_toList (by omega), ← Vector.getElem_toList (by omega)] at same
  exact Fin.ext (apart.getElem_inj_iff.mp same)

/-- A text is read as the keymap of the codes that its pieces define, if these differ. -/
theorem read_eq_ok_iff {text : String} :
    read lowercase text = .ok keymap ↔
      List.Forall₂ (fun piece code => readCode lowercase piece = .ok code)
          (Text.pieces ',' text) keymap.codes.toList ∧
        keymap.codes.toList.Nodup := by
  obtain ⟨codes⟩ := keymap
  have counted : codes.toList.length = 16 := Vector.length_toList
  simp only [read]
  constructor
  · intro accepted
    split at accepted
    · cases found : readCodes lowercase [] (Text.pieces ',' text) with
      | error fault => simp [found, Except.map] at accepted
      | ok read =>
          simp only [found, Except.map, Except.ok.injEq, mk.injEq] at accepted
          subst accepted
          obtain ⟨reads, apart, _⟩ := readCodes_eq_ok_iff.mp found
          exact ⟨reads, apart⟩
    · contradiction
  · rintro ⟨reads, apart⟩
    have sized : codes.toList.length = (Text.pieces ',' text).length := reads.length_eq.symm
    have found : readCodes lowercase [] (Text.pieces ',' text) = .ok ⟨codes.toList, sized⟩ :=
      readCodes_eq_ok_iff.mpr ⟨reads, apart, by simp⟩
    rw [dif_pos (sized.symm.trans counted), found]
    simp [Except.map, Vector.toList]

/-- No two keys of a keymap that was read have the same code. -/
theorem injective_of_read
    {text : String}
    (accepted : read lowercase text = .ok keymap) :
    keymap.Injective :=
  injective_of_nodup (read_eq_ok_iff.mp accepted).2

/-- A code stands for the first of the keys whose code it is. -/
theorem key?_eq_some_iff_first :
    keymap.key? code = some key ↔
      keymap.codes.get key = code ∧ ∀ other < key, keymap.codes.get other ≠ code := by
  rw [key?, Vector.finIdxOf?, Option.map_eq_some_iff]
  constructor
  · rintro ⟨place, found, rfl⟩
    obtain ⟨same, first⟩ := Array.finIdxOf?_eq_some_iff.mp found
    exact ⟨same, fun other before => first (other.cast (by simp)) before⟩
  · rintro ⟨same, first⟩
    refine ⟨key.cast (by simp), Array.finIdxOf?_eq_some_iff.mpr ⟨same, ?_⟩, rfl⟩
    exact fun other before => first (other.cast (by simp)) before

/-- A code stands for a key exactly where it is the key's code. -/
theorem Injective.key?_eq_some_iff (injective : keymap.Injective) :
    keymap.key? code = some key ↔ keymap.codes.get key = code := by
  rw [key?_eq_some_iff_first]
  apply and_iff_left_of_imp
  rintro rfl other before same
  exact Fin.ne_of_lt before (injective same)

/-- A code that is no key's stands for none. -/
theorem key?_eq_none_iff : keymap.key? code = none ↔ ∀ key, keymap.codes.get key ≠ code := by
  rw [key?, Vector.finIdxOf?, Option.map_eq_none_iff, Array.finIdxOf?_eq_none_iff]
  constructor
  · rintro unused key rfl
    exact unused (Array.getElem_mem (by simp))
  · intro unused member
    obtain ⟨place, within, same⟩ := Array.getElem_of_mem member
    exact unused ⟨place, by simpa using within⟩ same

end Keymap
end Chip8
