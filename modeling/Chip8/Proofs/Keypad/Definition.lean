import Chip8.Proofs.Keypad.Codes
import Chip8.Proofs.Text.Numeral

/-!
# How keymaps are defined

The sixteen pieces of a keymap each define a code: the number that the piece spells
or, where codes are characters, the lower case of the character of that number. A
text is accepted exactly where its pieces define sixteen codes, all of them
different, and then each key has the one code that its piece defines.
-/

namespace Chip8

/-- A number is the code of a character whose lower case is a single one, with a code of its own. -/
structure LowersTo (number code : Int) : Prop where
  nonnegative : 0 ≤ number
  bounded : number ≤ largestCharacter
  single : (Text.lowercase? number.toNat).map Int.ofNat = some code

/-- The lower case of a character is looked up. -/
theorem lowerCode_of_character
    {number : Int}
    (nonnegative : 0 ≤ number)
    (bounded : number ≤ largestCharacter) :
    lowerCode number =
      match Text.lowercase? number.toNat with
      | some lower => .ok (lower : Int)
      | none => .error .codeNotOneCharacter := by
  have representable : largestCharacter < largestCode := by decide
  unfold lowerCode
  exact (if_neg (by omega)).trans (if_neg (by omega))

/-- A number that is no character's has no lower case. -/
theorem lowerCode_of_outside
    {number : Int}
    (outside : number < 0 ∨ largestCharacter < number) :
    lowerCode number =
      .error
        (if number < -largestCode - 1 ∨ largestCode < number then .codeTooLarge
          else .codeNotACharacter) := by
  rw [lowerCode, if_pos outside]
  split <;> rfl

theorem lowerCode_eq_ok_iff {number code : Int} :
    lowerCode number = .ok code ↔ LowersTo number code := by
  constructor
  · intro lowered
    by_cases character : 0 ≤ number ∧ number ≤ largestCharacter
    · rw [lowerCode_of_character character.1 character.2] at lowered
      refine ⟨character.1, character.2, ?_⟩
      split at lowered
      · rename_i found
        cases lowered
        rw [found]
        rfl
      · contradiction
    · rw [lowerCode_of_outside (by omega)] at lowered
      contradiction
  · rintro ⟨nonnegative, bounded, single⟩
    obtain ⟨lower, found, rfl⟩ := Option.map_eq_some_iff.mp single
    rw [lowerCode_of_character nonnegative bounded, found]
    rfl

namespace Keymap

/-- A piece defines a code. -/
def Defines (lowercase : Bool) (piece : String) (code : Int) : Prop :=
  ∃ number, Text.Spells piece number ∧ if lowercase then LowersTo number code else code = number

variable {lowercase : Bool} {keymap : Keymap} {piece text : String} {code : Int}

theorem readCode_eq_ok_iff :
    readCode lowercase piece = .ok code ↔ Defines lowercase piece code := by
  simp only [readCode, Defines, ← Text.decimal?_eq_some_iff]
  cases Text.decimal? piece with
  | none => simp
  | some number =>
      simp only [Option.some.injEq, exists_eq_left']
      cases lowercase with
      | false => simp [eq_comm]
      | true => simp [lowerCode_eq_ok_iff]

/-- The entry of a key has the key's code. -/
theorem mem_entries_iff {key : Key} :
    (code, key.val) ∈ keymap.entries ↔ keymap.codes.get key = code := by
  rw [entries, List.mem_mergeSort, List.mem_zipIdx_iff_getElem?, List.getElem?_eq_some_iff]
  exact ⟨fun ⟨_, found⟩ => found, fun same => ⟨by simp, same⟩⟩

theorem length_entries (keymap : Keymap) : keymap.entries.length = 16 := by
  simp [entries]

theorem Defines.unique
    {other : Int}
    (first : Defines lowercase piece code)
    (second : Defines lowercase piece other) :
    code = other :=
  Except.ok.inj ((readCode_eq_ok_iff.mpr first).symm.trans (readCode_eq_ok_iff.mpr second))

/-- The pieces of a text that was read define the codes of the keymap, in the order of its keys. -/
theorem read_eq_ok_iff_defines :
    read lowercase text = .ok keymap ↔
      List.Forall₂ (Defines lowercase) (Text.pieces ',' text) keymap.codes.toList ∧
        keymap.codes.toList.Nodup := by
  simp only [read_eq_ok_iff, readCode_eq_ok_iff]

theorem defines_get
    {key : Key}
    (accepted : read lowercase text = .ok keymap)
    (found : (Text.pieces ',' text)[key.val]? = some piece) :
    Defines lowercase piece (keymap.codes.get key) := by
  obtain ⟨within, rfl⟩ := List.getElem?_eq_some_iff.mp found
  exact (read_eq_ok_iff_defines.mp accepted).1.get within (by simp)

/-- A text is accepted exactly where it has sixteen pieces and these define codes, all different.
The keymap then has sixteen entries, one for each key: the code that the key's piece defines, however
the piece is spelled. A code stands for the key with which it has an entry, and for no other. -/
theorem read_defines_keys (lowercase : Bool) (text : String) :
    ((∃ keymap, read lowercase text = .ok keymap) ↔
      (Text.pieces ',' text).length = 16 ∧
        ∃ codes,
          List.Forall₂ (Defines lowercase) (Text.pieces ',' text) codes ∧ codes.Nodup) ∧
    ∀ keymap, read lowercase text = .ok keymap ->
      keymap.entries.length = 16 ∧
      (∀ key : Key, ∃! code, (code, key.val) ∈ keymap.entries) ∧
      (∀ (key : Key) piece code, (Text.pieces ',' text)[key.val]? = some piece ->
        ((code, key.val) ∈ keymap.entries ↔ Defines lowercase piece code)) ∧
      ∀ code key, (code, key.val) ∈ keymap.entries ↔ keymap.key? code = some key := by
  refine ⟨⟨?_, ?_⟩, ?_⟩
  · rintro ⟨keymap, accepted⟩
    obtain ⟨defines, apart⟩ := read_eq_ok_iff_defines.mp accepted
    exact ⟨defines.length_eq.trans Vector.length_toList, _, defines, apart⟩
  · rintro ⟨sixteen, codes, defines, apart⟩
    refine ⟨⟨⟨codes.toArray, ?_⟩⟩, read_eq_ok_iff_defines.mpr ⟨defines, apart⟩⟩
    rw [List.size_toArray, ← defines.length_eq, sixteen]
  · intro keymap accepted
    refine ⟨length_entries keymap, ?_, ?_, ?_⟩
    · intro key
      exact ⟨keymap.codes.get key, mem_entries_iff.mpr rfl,
        fun other listed => (mem_entries_iff.mp listed).symm⟩
    · intro key piece code found
      have defined := defines_get accepted found
      rw [mem_entries_iff]
      exact ⟨fun same => same ▸ defined, fun defines => defined.unique defines⟩
    · intro code key
      rw [mem_entries_iff, (injective_of_read accepted).key?_eq_some_iff]

/-- A code is spelled with blanks, a sign, a leading zero and an underscore, and another is that of
a capital letter. -/
theorem read_defines_keys_spelled :
    ∃ keymap : Keymap,
      read true " +0_120 ,49,50,51,81,119,101,97,115,100,122,99,52,114,102,118" = .ok keymap ∧
      (120, 0) ∈ keymap.entries ∧
      keymap.key? 113 = some 4 := by
  let keymap : Keymap :=
    ⟨#v[120, 49, 50, 51, 113, 119, 101, 97, 115, 100, 122, 99, 52, 114, 102, 118]⟩
  have accepted : read true " +0_120 ,49,50,51,81,119,101,97,115,100,122,99,52,114,102,118" =
      .ok keymap := eq_ok_of_toOption (by decide +kernel)
  obtain ⟨_, _, listed, stands⟩ := (read_defines_keys true _).2 keymap accepted
  have spelled : Defines true " +0_120 " 120 :=
    readCode_eq_ok_iff.mp (eq_ok_of_toOption (by decide))
  have capital : Defines true "81" 113 :=
    readCode_eq_ok_iff.mp (eq_ok_of_toOption (by decide))
  refine ⟨keymap, accepted, (listed 0 " +0_120 " 120 (by decide +kernel)).mpr spelled, ?_⟩
  exact (stands 113 4).mp ((listed 4 "81" 113 (by decide +kernel)).mpr capital)

end Keymap
end Chip8
