import Chip8.Backend
import Chip8.Proofs.Keypad.Definition

/-!
# How keymaps are refused

A text that defines no keymap is refused because of its number of pieces, or because
of the first piece that is refused: one that spells no number, one that defines the
code of an earlier piece or, where codes are characters, one whose number has no
single character as its lower case. Only this last refusal is not reported as one of
a keymap.
-/

namespace Chip8

/-- Whether a fault is reported as one of a keymap. -/
def Fault.reportsKeymap : Fault -> Bool
  | keyCount | keyNotInteger | keyDuplicate => true
  | _ => false

/-- How a number has no single character as its lower case, and the fault that comes of it. -/
inductive Unlowered (number : Int) : Fault -> Prop
  | tooLarge
      (beyond : number < -largestCode - 1 ∨ largestCode < number) :
      Unlowered number .codeTooLarge
  | noCharacter
      (within : -largestCode - 1 ≤ number ∧ number ≤ largestCode)
      (outside : number < 0 ∨ largestCharacter < number) :
      Unlowered number .codeNotACharacter
  | twoCharacters
      (dotted : number = Text.dottedCapitalI) :
      Unlowered number .codeNotOneCharacter

theorem Unlowered.not_reportsKeymap
    {number : Int}
    {fault : Fault}
    (unlowered : Unlowered number fault) :
    fault.reportsKeymap = false := by
  cases unlowered <;> rfl

/-- One character alone has a lower case of two. -/
theorem Text.lowercase?_eq_none_iff {code : Nat} :
    Text.lowercase? code = none ↔ code = Text.dottedCapitalI := by
  unfold Text.lowercase?
  split
  · rename_i dotted
    exact iff_of_true rfl dotted
  · rename_i plain
    refine iff_of_false ?_ plain
    split <;> exact Option.some_ne_none _

/-- The lower case is not found of just the numbers that have no single character as theirs. -/
theorem lowerCode_eq_error_iff {number : Int} {fault : Fault} :
    lowerCode number = .error fault ↔ Unlowered number fault := by
  by_cases character : 0 ≤ number ∧ number ≤ largestCharacter
  · obtain ⟨nonnegative, bounded⟩ := character
    have representable : largestCharacter < largestCode := by decide
    rw [lowerCode_of_character nonnegative bounded]
    constructor
    · intro refused
      split at refused
      · contradiction
      · rename_i unfound
        cases refused
        have dotted := Text.lowercase?_eq_none_iff.mp unfound
        exact .twoCharacters (by omega)
    · intro unlowered
      cases unlowered with
      | tooLarge beyond => omega
      | noCharacter within outside => omega
      | twoCharacters dotted =>
          rw [Text.lowercase?_eq_none_iff.mpr (by omega)]
  · rw [lowerCode_of_outside (by omega)]
    constructor
    · intro refused
      split at refused <;> cases refused
      · rename_i beyond
        exact .tooLarge beyond
      · rename_i within
        exact .noCharacter (by omega) (by omega)
    · intro unlowered
      cases unlowered with
      | tooLarge beyond => rw [if_pos beyond]
      | noCharacter within outside => rw [if_neg (by omega)]
      | twoCharacters dotted =>
          rw [dotted] at character
          exact absurd (by decide) character

namespace Keymap

/-- How a piece is refused after pieces that defined codes, and the fault that comes of it. -/
inductive Refuses (lowercase : Bool) (earlier : List Int) (piece : String) : Fault -> Prop
  | notInteger
      (unspelled : ∀ number, ¬Text.Spells piece number) :
      Refuses lowercase earlier piece .keyNotInteger
  | unlowered {number : Int} {fault : Fault}
      (lowers : lowercase = true)
      (spelled : Text.Spells piece number)
      (unlowered : Unlowered number fault) :
      Refuses lowercase earlier piece fault
  | duplicate {code : Int}
      (defines : Defines lowercase piece code)
      (used : code ∈ earlier) :
      Refuses lowercase earlier piece .keyDuplicate

/-- A text of sixteen pieces is read as far as one of them: the pieces before it define codes, all
different. -/
structure ReadUpTo (lowercase : Bool) (text : String) (codes : List Int) (piece : String) :
    Prop where
  sixteen : (Text.pieces ',' text).length = 16
  defined : ∃ before after,
    Text.pieces ',' text = before ++ piece :: after ∧
      List.Forall₂ (Defines lowercase) before codes
  apart : codes.Nodup

variable {lowercase : Bool} {earlier : List Int} {piece text : String} {pieces : List String}
variable {fault : Fault}

/-- A piece is not read because it spells no number, or one without a lower case. -/
theorem readCode_eq_error_iff :
    readCode lowercase piece = .error fault ↔
      fault = .keyNotInteger ∧ (∀ number, ¬Text.Spells piece number) ∨
        lowercase = true ∧ ∃ number, Text.Spells piece number ∧ Unlowered number fault := by
  simp only [readCode, ← Text.decimal?_eq_some_iff]
  cases Text.decimal? piece with
  | none => simp [eq_comm]
  | some number =>
      cases lowercase with
      | false => simp
      | true => simp [lowerCode_eq_error_iff]

theorem refuses_iff :
    Refuses lowercase earlier piece fault ↔
      readCode lowercase piece = .error fault ∨
        ∃ code, readCode lowercase piece = .ok code ∧ code ∈ earlier ∧ fault = .keyDuplicate := by
  simp only [readCode_eq_error_iff, readCode_eq_ok_iff]
  constructor
  · intro refuses
    cases refuses with
    | notInteger unspelled => exact .inl (.inl ⟨rfl, unspelled⟩)
    | unlowered lowers spelled unlowered => exact .inl (.inr ⟨lowers, _, spelled, unlowered⟩)
    | duplicate defines used => exact .inr ⟨_, defines, used, rfl⟩
  · rintro ((⟨rfl, unspelled⟩ | ⟨lowers, number, spelled, unlowered⟩) | ⟨code, defines, used, rfl⟩)
    · exact .notInteger unspelled
    · exact .unlowered lowers spelled unlowered
    · exact .duplicate defines used

/-- What is refused after some codes is refused after more. -/
theorem Refuses.of_subset
    {more : List Int}
    (refuses : Refuses lowercase earlier piece fault)
    (subset : earlier ⊆ more) :
    Refuses lowercase more piece fault := by
  cases refuses with
  | notInteger unspelled => exact .notInteger unspelled
  | unlowered lowers spelled unlowered => exact .unlowered lowers spelled unlowered
  | duplicate defines used => exact .duplicate defines (subset used)

/-- Pieces are not read because the first is refused, or because those that follow it are not. -/
theorem readCodes_cons_eq_error_iff :
    readCodes lowercase earlier (piece :: pieces) = .error fault ↔
      Refuses lowercase earlier piece fault ∨
        ∃ code, Defines lowercase piece code ∧ code ∉ earlier ∧
          readCodes lowercase (code :: earlier) pieces = .error fault := by
  simp only [refuses_iff, ← readCode_eq_ok_iff, readCodes]
  cases readCode lowercase piece with
  | error refusal => simp
  | ok code =>
      by_cases used : code ∈ earlier
      · simp [used, eq_comm]
      · simp only [used, if_false]
        cases later : readCodes lowercase (code :: earlier) pieces <;> simp [used, later]

/-- Pieces are not read because of the first that is refused. -/
theorem readCodes_eq_error_iff :
    readCodes lowercase earlier pieces = .error fault ↔
      ∃ before piece after codes,
        pieces = before ++ piece :: after ∧
          List.Forall₂ (Defines lowercase) before codes ∧
          codes.Nodup ∧
          (∀ code ∈ codes, code ∉ earlier) ∧
          Refuses lowercase (codes ++ earlier) piece fault := by
  -- The code of the first piece is among the earlier ones for the pieces that follow it.
  induction pieces generalizing earlier with
  | nil => simp [readCodes]
  | cons first rest hypothesis =>
      rw [readCodes_cons_eq_error_iff]
      constructor
      · rintro (refuses | ⟨code, defines, unused, refused⟩)
        · exact ⟨[], first, rest, [], rfl, .nil, .nil, by simp, refuses⟩
        · obtain ⟨before, piece, after, codes, rfl, others, apart, fresh, refuses⟩ :=
            hypothesis.mp refused
          simp only [List.mem_cons, not_or] at fresh
          refine ⟨first :: before, piece, after, code :: codes, rfl, .cons defines others,
            ?_, ?_, ?_⟩
          · exact apart.cons fun member => (fresh code member).1 rfl
          · exact List.forall_mem_cons.mpr ⟨unused, fun other member => (fresh other member).2⟩
          · exact refuses.of_subset (by simp)
      · rintro ⟨before, piece, after, codes, split, defined, apart, fresh, refuses⟩
        cases defined with
        | nil =>
            cases split
            exact .inl refuses
        | @cons _ code before codes defines others =>
            cases split
            obtain ⟨unlisted, apart⟩ := List.nodup_cons.mp apart
            obtain ⟨unused, fresh⟩ := List.forall_mem_cons.mp fresh
            refine .inr ⟨code, defines, unused, hypothesis.mpr
              ⟨before, piece, after, codes, rfl, others, apart, ?_, refuses.of_subset (by simp)⟩⟩
            simp only [List.mem_cons, not_or]
            exact fun other member => ⟨fun same => unlisted (same ▸ member), fresh other member⟩

/-- A text of sixteen pieces is refused where its pieces are. -/
theorem read_eq_error_iff_of_sixteen (sixteen : (Text.pieces ',' text).length = 16) :
    read lowercase text = .error fault ↔
      readCodes lowercase [] (Text.pieces ',' text) = .error fault := by
  simp only [read, dif_pos sixteen]
  cases readCodes lowercase [] (Text.pieces ',' text) <;> simp [Except.map]

/-- A text is refused for the number of its pieces, or because of the first that is refused. -/
theorem read_eq_error_iff :
    read lowercase text = .error fault ↔
      (Text.pieces ',' text).length ≠ 16 ∧ fault = .keyCount ∨
        ∃ codes piece,
          ReadUpTo lowercase text codes piece ∧ Refuses lowercase codes piece fault := by
  by_cases sixteen : (Text.pieces ',' text).length = 16
  · rw [read_eq_error_iff_of_sixteen sixteen, readCodes_eq_error_iff]
    constructor
    · rintro ⟨before, piece, after, codes, split, defined, apart, -, refuses⟩
      rw [List.append_nil] at refuses
      exact .inr ⟨codes, piece, ⟨sixteen, ⟨before, after, split, defined⟩, apart⟩, refuses⟩
    · rintro (⟨uncounted, -⟩ | ⟨codes, piece, ⟨-, ⟨before, after, split, defined⟩, apart⟩, refuses⟩)
      · contradiction
      · rw [← List.append_nil codes] at refuses
        exact ⟨before, piece, after, codes, split, defined, apart, by simp, refuses⟩
  · have uncounted : ∀ codes piece, ¬ReadUpTo lowercase text codes piece :=
      fun _ _ reaches => sixteen reaches.sixteen
    simp [read, sixteen, uncounted, eq_comm]

/-- A refusal is not reported as one of a keymap exactly where a lower case was not found. -/
theorem Refuses.not_reportsKeymap_iff (refuses : Refuses lowercase earlier piece fault) :
    fault.reportsKeymap = false ↔
      lowercase = true ∧ ∃ number, Text.Spells piece number ∧ Unlowered number fault := by
  constructor
  · intro unreported
    cases refuses with
    | notInteger => contradiction
    | unlowered lowers spelled unlowered => exact ⟨lowers, _, spelled, unlowered⟩
    | duplicate => contradiction
  · rintro ⟨-, number, -, unlowered⟩
    exact unlowered.not_reportsKeymap

/-- A text is refused without a report exactly where codes are characters and the first piece that
is refused has a number without a lower case. -/
theorem read_unreported_iff :
    read lowercase text = .error fault ∧ fault.reportsKeymap = false ↔
      lowercase = true ∧
        ∃ codes piece number,
          ReadUpTo true text codes piece ∧ Text.Spells piece number ∧ Unlowered number fault := by
  rw [read_eq_error_iff]
  constructor
  · rintro ⟨⟨-, rfl⟩ | ⟨codes, piece, reaches, refuses⟩, unreported⟩
    · contradiction
    · obtain ⟨rfl, number, spelled, unlowered⟩ := refuses.not_reportsKeymap_iff.mp unreported
      exact ⟨rfl, codes, piece, number, reaches, spelled, unlowered⟩
  · rintro ⟨rfl, codes, piece, number, reaches, spelled, unlowered⟩
    exact ⟨.inr ⟨codes, piece, reaches, .unlowered rfl spelled unlowered⟩,
      unlowered.not_reportsKeymap⟩

end Keymap

namespace Keypad

variable {τ : Type} [TimeScale τ] {backend : Backend} {host : Host} {text : String} {fault : Fault}

/-- A keypad does not open where its keymap is refused, or where the host refuses a call. -/
theorem openFor_eq_error_iff :
    (openFor backend host (.value text) : Opening (Keypad τ)).outcome = .error fault ↔
      Keymap.read (lowercases backend) text = .error fault ∨
        (∃ keymap, Keymap.read (lowercases backend) text = .ok keymap) ∧
          backend = .terminal ∧ host.refuses .startReader = true ∧ fault = .hostRefused := by
  simp only [openFor, Keymap.open?]
  cases Keymap.read (lowercases backend) text with
  | error refusal => simp [Opening.refused]
  | ok keymap =>
      cases backend with
      | headless | window => simp [Host.openWith, plan]
      | terminal =>
          cases refused : host.refuses .startReader <;>
            simp [Host.openWith, Host.perform, plan, refused, eq_comm]

/-- Only the keypad of a terminal may fail to open without a report that its keymap is refused. -/
theorem openFor_unreported_iff :
    (openFor backend host (.value text) : Opening (Keypad τ)).outcome = .error fault ∧
        fault.reportsKeymap = false ↔
      backend = .terminal ∧
        ((∃ codes piece number,
            Keymap.ReadUpTo true text codes piece ∧
              Text.Spells piece number ∧
              Unlowered number fault) ∨
          (∃ keymap, Keymap.read true text = .ok keymap) ∧
            host.refuses .startReader = true ∧
            fault = .hostRefused) := by
  have lowers : lowercases backend = true ↔ backend = .terminal := by simp [lowercases]
  rw [openFor_eq_error_iff, or_and_right, Keymap.read_unreported_iff, lowers]
  constructor
  · rintro (⟨terminal, unlowered⟩ | ⟨⟨accepted, terminal, refused, stopped⟩, -⟩)
    · exact ⟨terminal, .inl unlowered⟩
    · rw [lowers.mpr terminal] at accepted
      exact ⟨terminal, .inr ⟨accepted, refused, stopped⟩⟩
  · rintro ⟨terminal, unlowered | ⟨accepted, refused, rfl⟩⟩
    · exact .inl ⟨terminal, unlowered⟩
    · rw [lowers.mpr terminal]
      exact .inr ⟨⟨accepted, terminal, refused, rfl⟩, rfl⟩

/-- A text defines a keymap, or it is refused because of the number of its pieces or because of the
first piece that is refused. This is reported as the refusal of a keymap but in one case: codes are
characters, and the piece spells a number that has no single character as its lower case. So a
terminal's is the only keypad that may fail to open without that report, for this cause or because
the host does not start its reader. -/
theorem keymap_refusals (lowercase : Bool) (text : String) :
    (∀ fault, Keymap.read lowercase text = .error fault ↔
      (Text.pieces ',' text).length ≠ 16 ∧ fault = .keyCount ∨
        ∃ codes piece,
          Keymap.ReadUpTo lowercase text codes piece ∧
            Keymap.Refuses lowercase codes piece fault) ∧
    (∀ fault, Keymap.read lowercase text = .error fault ∧ fault.reportsKeymap = false ↔
      lowercase = true ∧
        ∃ codes piece number,
          Keymap.ReadUpTo true text codes piece ∧
            Text.Spells piece number ∧
            Unlowered number fault) ∧
    ∀ (backend : Backend) (host : Host) fault,
      (openFor backend host (.value text) : Opening (Keypad τ)).outcome = .error fault ∧
          fault.reportsKeymap = false ↔
        backend = .terminal ∧
          ((∃ codes piece number,
              Keymap.ReadUpTo true text codes piece ∧
                Text.Spells piece number ∧
                Unlowered number fault) ∨
            (∃ keymap, Keymap.read true text = .ok keymap) ∧
              host.refuses .startReader = true ∧
              fault = .hostRefused) :=
  ⟨fun _ => Keymap.read_eq_error_iff, fun _ => Keymap.read_unreported_iff,
    fun _ _ _ => openFor_unreported_iff⟩

/-- A negative code is refused without a report where codes are characters. -/
theorem not_keymap_refusals_reported_of_negative :
    ¬∀ (lowercase : Bool) (text : String),
      (∃ keymap, Keymap.read lowercase text = .ok keymap) ∨
        ∃ fault, Keymap.read lowercase text = .error fault ∧ fault.reportsKeymap = true := by
  intro reported
  have refused : Keymap.read true "-1,49,50,51,113,119,101,97,115,100,122,99,52,114,102,118" =
      .error .codeNotACharacter := by decide +kernel
  obtain ⟨keymap, accepted⟩ | ⟨fault, reads, reports⟩ := reported true
    "-1,49,50,51,113,119,101,97,115,100,122,99,52,114,102,118"
  · rw [refused] at accepted
    contradiction
  · rw [refused] at reads
    cases reads
    contradiction

end Keypad
end Chip8
