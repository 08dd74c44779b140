import Chip8.Proofs.Picture.Cells
import Chip8.Proofs.Picture.Pad

/-!
# What a terminal shows

A terminal's picture writes on a pad that has a line for the title and one line for
each row of the screen, and a row and a column to spare. Titles and frames write
on different lines, and each fills all of its own. So whatever is shown, and in
whatever order, the pad shows the last title and the last frame.
-/

namespace Chip8

/-- The bytes of a frame that fills the screen. -/
abbrev ScreenBytes := { cells : Array UInt8 // screenWidth * screenHeight ≤ cells.size }

namespace ScreenBytes

/-- The frame with these bytes. -/
def frame (cells : ScreenBytes) : Frame where
  cells := cells.val
  columns := screenWidth
  rows := screenHeight

theorem isComplete_frame (cells : ScreenBytes) : cells.frame.isComplete = true :=
  decide_eq_true cells.property

/-- The bytes of a frame that lights every cell. -/
def allLit : ScreenBytes :=
  ⟨Array.replicate (screenWidth * screenHeight) 1, Nat.le_of_eq Array.size_replicate.symm⟩

end ScreenBytes

/-- Something to be shown on a terminal. -/
inductive Showing
  | title (host : Host) (text : String)
  | frame (host : Host) (cells : ScreenBytes)

namespace Showing

/-- The calls that show it, and the picture then. A title is refused where there is no room for the
line it stands on. -/
def perform (picture : Picture) : Showing -> List HostCall × Except Fault Picture
  | title host text =>
      match picture.checkTitle host with
      | .error fault => ([], .error fault)
      | .ok () => (picture.titleCalls text, .ok (picture.entitle text))
  | frame host cells => picture.present host cells.frame

/-- The picture after it was shown; what is refused leaves the picture as it was. -/
def after (picture : Picture) (showing : Showing) : Picture :=
  match (showing.perform picture).2 with
  | .ok shown => shown
  | .error _ => picture

end Showing

namespace Picture

/-- The calls that show one thing after the other. -/
def callsFor (picture : Picture) : List Showing -> List HostCall
  | [] => []
  | showing :: rest => (showing.perform picture).1 ++ (showing.after picture).callsFor rest

/-- The picture after one thing was shown after the other. -/
def afterAll (picture : Picture) (showings : List Showing) : Picture :=
  showings.foldl Showing.after picture

end Picture

/-- What is to be seen on a terminal: the last title that was not refused, and the cells of the last
frame. -/
structure Exhibit where
  title : Option String := none
  cells : Option (Array UInt8) := none

namespace Exhibit

/-- What is to be seen after something was shown at a scale. -/
def after (scale : Nat) (exhibit : Exhibit) : Showing -> Exhibit
  | .title host text =>
      if host.HasRoom (Picture.titleWidth scale) then { exhibit with title := some text }
      else exhibit
  | .frame _ cells => { exhibit with cells := some cells.val }

/-- The mark in a column of the title line: of the title in reverse video, with blanks after it. -/
def titleMark (exhibit : Exhibit) (column : Nat) : Mark :=
  match exhibit.title with
  | none => {}
  | some text => { character := text.toList.getD column ' ', reverse := true }

/-- Whether a cell is to be seen lit. -/
def lit (exhibit : Exhibit) (row column : Nat) : Bool :=
  match exhibit.cells with
  | none => false
  | some cells => cells.getD (column + row * screenWidth) 0 != 0

theorem lit_after_title (scale : Nat) (exhibit : Exhibit) (host : Host) (text : String) :
    (exhibit.after scale (.title host text)).lit = exhibit.lit := by
  simp only [after]
  split <;> rfl

end Exhibit

/-- A pad shows what is to be seen: the title on its first line, a blank in reverse video in each
column of a lit cell and in normal video in those of a dark one, and nothing on the row and the
column to spare. -/
structure Pad.Shows (pad : Pad) (scale : Nat) (exhibit : Exhibit) : Prop where
  height : pad.height = screenHeight + 2
  width : pad.width = screenWidth * scale + 1
  title : ∀ column < screenWidth * scale, pad.mark 0 column = exhibit.titleMark column
  cells : ∀ row < screenHeight, ∀ column < screenWidth, ∀ offset < scale,
    pad.mark (row + 1) (column * scale + offset) = { reverse := exhibit.lit row column }
  lastRow : ∀ column, pad.mark (screenHeight + 1) column = {}
  lastColumn : ∀ row, pad.mark row (screenWidth * scale) = {}

variable {picture : Picture} {cursor : Choice Int} {seen : Int × Int}

/-! ## Where titles and frames write -/

namespace Picture

variable {call : HostCall} {host : Host}

/-- A title writes on its own line only. -/
theorem within_titleCalls
    {text : String}
    (terminal : picture.surface = .terminal cursor seen)
    (member : call ∈ picture.titleCalls text) :
    call.within 0 1 (screenWidth * picture.scale) = true := by
  simp only [titleCalls, terminal, List.mem_singleton] at member
  subst member
  have filled := length_titleText_add_titleBlanks (titleWidth picture.scale) text
  simp only [HostCall.within, filled]
  simp [titleWidth]

/-- What brings a pad on the terminal does not write on the pad. -/
theorem within_showPad
    (member : call ∈ showPad host seen)
    (top bottom width : Nat) :
    call.within top bottom width = true := by
  rcases eq_of_mem_showPad member with rfl | rfl | rfl | rfl <;> rfl

theorem present_screenBytes
    (terminal : picture.surface = .terminal cursor seen)
    (host : Host)
    (cells : ScreenBytes) :
    (picture.present host cells.frame).1 =
      writeCells picture.scale cells.frame ++ showPad host seen := by
  rw [present_of_isComplete host picture cells.isComplete_frame]
  simp only [drawCalls, showCalls, terminal]

/-- A frame writes on the lines below the title only. -/
theorem within_present
    {cells : ScreenBytes}
    (terminal : picture.surface = .terminal cursor seen)
    (member : call ∈ (picture.present host cells.frame).1) :
    call.within 1 (screenHeight + 1) (screenWidth * picture.scale) = true := by
  rw [present_screenBytes terminal] at member
  rcases List.mem_append.mp member with draws | shows
  · obtain ⟨cell, available, rfl⟩ := List.mem_map.mp draws
    rw [List.mem_range, Frame.available_of_isComplete cells.isComplete_frame] at available
    obtain ⟨narrow, high, _⟩ := (cell_at_iff available).mp ⟨rfl, rfl⟩
    have room := Nat.mul_le_mul_right picture.scale narrow
    rw [Nat.succ_mul] at room
    simp only [HostCall.within, String.length_empty, Nat.zero_add, Bool.and_eq_true,
      decide_eq_true_eq]
    exact ⟨⟨Nat.le_add_left 1 _, Nat.succ_lt_succ high⟩, room⟩
  · exact within_showPad shows _ _ _

/-! ## What titles and frames put on the pad -/

/-- The title line: the title as far as there is room, and blanks after it. -/
theorem getElem?_titleLine {width column : Nat} (title : String) (inside : column < width) :
    ((titleText width title).toList ++ List.replicate (titleBlanks width title) ' ')[column]? =
      some (title.toList.getD column ' ') := by
  simp only [titleText, titleBlanks, String.toList_ofList, String.length_ofList,
    List.getElem?_append, List.getElem?_take, List.getElem?_replicate, List.getD_eq_getElem?_getD,
    List.length_take]
  grind

/-- A title puts one mark only in each column of its line: a character of the title, or a blank, in
reverse video. -/
theorem mem_marks_titleCalls
    {column : Nat}
    {mark : Mark}
    (terminal : picture.surface = .terminal cursor seen)
    (text : String)
    (inside : column < screenWidth * picture.scale) :
    mark ∈ (picture.titleCalls text).filterMap (·.markAt 0 column) ↔
      mark = { character := text.toList.getD column ' ', reverse := true } := by
  have line := getElem?_titleLine text inside
  have put : (picture.titleCalls text).filterMap (·.markAt 0 column) =
      [{ character := text.toList.getD column ' ', reverse := true }] := by
    simp only [titleCalls, terminal, List.filterMap_cons, HostCall.markAt, Nat.zero_le, true_and,
      if_true, Nat.sub_zero, titleWidth, line]
    rfl
  rw [put, List.mem_singleton]

/-- Of the places below the title line, a cell is put on its own. -/
theorem markAt_cell
    {scale columns rows cell row column offset : Nat}
    {reverse : Bool}
    (within : cell < columns * rows)
    (high : row < rows)
    (narrow : column < columns)
    (near : offset < scale) :
    (HostCall.write (cell / columns + 1) (cell % columns * scale) "" scale reverse).markAt
        (row + 1) (column * scale + offset) =
      if cell = column + row * columns then some { reverse } else none := by
  have scaled : 0 < scale := Nat.zero_lt_of_lt near
  have place : (column * scale + offset) / scale = column :=
    (within_iff scaled).mp ⟨by omega, by omega⟩
  have stretch : cell % columns * scale ≤ column * scale + offset ∧
      column * scale + offset < cell % columns * scale + scale ↔
        (column * scale + offset) / scale = cell % columns := within_iff scaled
  have stands : cell % columns = column ∧ cell / columns = row ↔ _ := cell_at_iff within
  simp only [HostCall.markAt_blanks, stretch, place]
  grind

/-- A frame puts one mark only on each place of a cell: a blank, in reverse video where the cell is
lit. -/
theorem mem_marks_present
    {row column offset : Nat}
    {mark : Mark}
    (terminal : picture.surface = .terminal cursor seen)
    (cells : ScreenBytes)
    (high : row < screenHeight)
    (narrow : column < screenWidth)
    (near : offset < picture.scale) :
    mark ∈ (picture.present host cells.frame).1.filterMap
        (·.markAt (row + 1) (column * picture.scale + offset)) ↔
      mark = { reverse := cells.frame.lit (column + row * screenWidth) } := by
  have available : cells.frame.available = screenWidth * screenHeight :=
    Frame.available_of_isComplete cells.isComplete_frame
  have marked : ∀ cell < screenWidth * screenHeight,
      (HostCall.write (cell / screenWidth + 1) (cell % screenWidth * picture.scale) ""
        picture.scale (cells.frame.lit cell)).markAt (row + 1) (column * picture.scale + offset) =
          if cell = column + row * screenWidth then some { reverse := cells.frame.lit cell }
          else none :=
    fun cell within => markAt_cell within high narrow near
  rw [present_screenBytes terminal, List.mem_filterMap]
  constructor
  · rintro ⟨call, member, put⟩
    rcases List.mem_append.mp member with draws | shows
    · obtain ⟨cell, within, rfl⟩ := List.mem_map.mp draws
      rw [List.mem_range, available] at within
      have same := (marked cell within).symm.trans put
      grind
    · rw [HostCall.markAt_eq_none (within_showPad shows 0 0 0) (by omega)] at put
      contradiction
  · rintro rfl
    have inside : column + row * screenWidth < screenWidth * screenHeight := place_lt narrow high
    refine ⟨_, List.mem_append_left _ (List.mem_map.mpr ⟨_, ?_, rfl⟩),
      (marked _ inside).trans (if_pos rfl)⟩
    rw [List.mem_range, available]
    exact inside

end Picture

/-! ## One thing after the other -/

namespace Showing

variable {call : HostCall}

theorem within_perform_title
    {host : Host}
    {text : String}
    (terminal : picture.surface = .terminal cursor seen)
    (member : call ∈ ((title host text).perform picture).1) :
    call.within 0 1 (screenWidth * picture.scale) = true := by
  cases checked : picture.checkTitle host with
  | error =>
      simp only [perform, checked] at member
      contradiction
  | ok =>
      simp only [perform, checked] at member
      exact Picture.within_titleCalls terminal member

theorem within_perform
    {showing : Showing}
    (terminal : picture.surface = .terminal cursor seen)
    (member : call ∈ (showing.perform picture).1) :
    call.within 0 (screenHeight + 1) (screenWidth * picture.scale) = true := by
  cases showing with
  | title host text =>
      have line := within_perform_title terminal member
      exact HostCall.within_mono line (Nat.le_refl 0) (by omega) (Nat.le_refl _)
  | frame host cells =>
      have lines := Picture.within_present terminal member
      exact HostCall.within_mono lines (Nat.zero_le 1) (Nat.le_refl _) (Nat.le_refl _)

/-- The picture stays on its terminal and keeps its scale. -/
theorem exists_surface_after
    (terminal : picture.surface = .terminal cursor seen)
    (showing : Showing) :
    (∃ now, (showing.after picture).surface = .terminal cursor now) ∧
      (showing.after picture).scale = picture.scale := by
  cases showing with
  | title host text =>
      simp only [after, perform]
      cases picture.checkTitle host with
      | error => exact ⟨⟨seen, terminal⟩, rfl⟩
      | ok => exact ⟨⟨seen, terminal⟩, rfl⟩
  | frame host cells =>
      have shown := Picture.present_of_isComplete host picture cells.isComplete_frame
      simp only [after, perform, shown, Picture.shownSurface, terminal]
      exact ⟨⟨_, rfl⟩, trivial⟩

end Showing

namespace Pad.Shows

variable {pad : Pad} {exhibit next : Exhibit} {scale : Nat} {calls : List HostCall}

/-- Calls that keep to the lines of a pad, and put on them what is to be seen next. -/
theorem of_within
    (shows : pad.Shows scale exhibit)
    (within : ∀ call ∈ calls, call.within 0 (screenHeight + 1) (screenWidth * scale) = true)
    (title : ∀ column < screenWidth * scale,
      (pad.after calls).mark 0 column = next.titleMark column)
    (cells : ∀ row < screenHeight, ∀ column < screenWidth, ∀ offset < scale,
      (pad.after calls).mark (row + 1) (column * scale + offset) =
        { reverse := next.lit row column }) :
    pad.replay calls = some (pad.after calls) ∧ (pad.after calls).Shows scale next := by
  constructor
  · apply replay_of_within
    intro call member
    rw [shows.height, shows.width]
    exact HostCall.within_mono (within call member) (Nat.le_refl 0) (by omega) (by omega)
  · refine ⟨shows.height, shows.width, title, cells, ?_, ?_⟩
    · intro column
      rw [mark_after_of_outside within (by omega)]
      exact shows.lastRow column
    · intro row
      rw [mark_after_of_outside within (by omega)]
      exact shows.lastColumn row

/-- A title takes the place of the one before it, and a frame that of the frame before it. -/
theorem perform
    (shows : pad.Shows picture.scale exhibit)
    (terminal : picture.surface = .terminal cursor seen)
    (showing : Showing) :
    pad.replay (showing.perform picture).1 = some (pad.after (showing.perform picture).1) ∧
      (pad.after (showing.perform picture).1).Shows picture.scale
        (exhibit.after picture.scale showing) := by
  refine shows.of_within (fun _ member => Showing.within_perform terminal member) ?title ?cells
  case title =>
    intro column inside
    cases showing with
    | title host text =>
        by_cases room : host.HasRoom (Picture.titleWidth picture.scale)
        · have taken := Picture.checkTitle_of_hasRoom terminal room
          simp only [Showing.perform, taken, Exhibit.after, if_pos room]
          exact mark_after_of_only fun _ => Picture.mem_marks_titleCalls terminal text inside
        · obtain ⟨fault, refused⟩ := Picture.exists_checkTitle_of_not_hasRoom terminal room
          simp only [Showing.perform, refused, Exhibit.after, if_neg room]
          exact shows.title column inside
    | frame host cells =>
        have kept : (pad.after (picture.present host cells.frame).1).mark 0 column =
            pad.mark 0 column :=
          mark_after_of_outside (fun _ member => Picture.within_present terminal member) (by omega)
        exact kept.trans (shows.title column inside)
  case cells =>
    intro row high column narrow offset near
    cases showing with
    | title host text =>
        rw [mark_after_of_outside
          (fun _ member => Showing.within_perform_title terminal member) (by omega),
          Exhibit.lit_after_title]
        exact shows.cells row high column narrow offset near
    | frame host cells =>
        exact mark_after_of_only fun _ =>
          Picture.mem_marks_present terminal cells high narrow near

theorem callsFor
    (shows : pad.Shows picture.scale exhibit)
    (terminal : picture.surface = .terminal cursor seen)
    (showings : List Showing) :
    ∃ shown,
      pad.replay (picture.callsFor showings) = some shown ∧
      shown.Shows picture.scale (showings.foldl (Exhibit.after picture.scale) exhibit) := by
  induction showings generalizing pad exhibit picture seen with
  | nil => exact ⟨pad, rfl, shows⟩
  | cons showing rest hypothesis =>
      obtain ⟨first, next⟩ := shows.perform terminal showing
      obtain ⟨⟨now, stays⟩, scale⟩ := showing.exists_surface_after terminal
      rw [← scale] at next
      obtain ⟨shown, replayed, ends⟩ := hypothesis next stays
      rw [scale] at ends
      refine ⟨shown, ?_, ends⟩
      rw [Pad.replay] at first replayed ⊢
      rw [Picture.callsFor, List.foldlM_append, first]
      exact replayed

end Pad.Shows

namespace Picture

theorem exists_surface_afterAll
    (terminal : picture.surface = .terminal cursor seen)
    (showings : List Showing) :
    (∃ now, (picture.afterAll showings).surface = .terminal cursor now) ∧
      (picture.afterAll showings).scale = picture.scale := by
  induction showings generalizing picture seen with
  | nil => exact ⟨⟨seen, terminal⟩, rfl⟩
  | cons showing rest hypothesis =>
      obtain ⟨⟨now, stays⟩, scale⟩ := showing.exists_surface_after terminal
      rw [← scale]
      exact hypothesis stays

theorem within_callsFor
    {call : HostCall}
    {showings : List Showing}
    (terminal : picture.surface = .terminal cursor seen)
    (member : call ∈ picture.callsFor showings) :
    call.within 0 (screenHeight + 1) (screenWidth * picture.scale) = true := by
  induction showings generalizing picture seen with
  | nil => contradiction
  | cons showing rest hypothesis =>
      obtain ⟨⟨now, stays⟩, scale⟩ := showing.exists_surface_after terminal
      rcases List.mem_append.mp member with first | later
      · exact Showing.within_perform terminal first
      · rw [← scale]
        exact hypothesis stays later

/-- The pad of a terminal's picture, made as it is when the terminal is taken over. Whatever titles
and frames are shown, all that is written keeps to the lines of the pad and off its last row and
column, and what a frame writes keeps off the title line. So nothing is refused, and the pad shows
the last title, in reverse video from one end of its line to the other, and the cells of the last
frame. -/
theorem pad_shows_last
    (terminal : picture.surface = .terminal cursor seen)
    (showings : List Showing)
    (pad : Pad) :
    (∀ call ∈ picture.callsFor showings,
      call.within 0 (screenHeight + 1) (screenWidth * picture.scale) = true) ∧
    (∀ (host : Host) (cells : ScreenBytes),
      ∀ call ∈ ((picture.afterAll showings).present host cells.frame).1,
        call.within 1 (screenHeight + 1) (screenWidth * picture.scale) = true) ∧
    ∃ shown,
      pad.replay (terminalPlan picture.scale cursor ++ picture.callsFor showings) = some shown ∧
      shown.Shows picture.scale (showings.foldl (Exhibit.after picture.scale) {}) := by
  have blank : (Pad.made (screenHeight + 2) (screenWidth * picture.scale + 1)).Shows
      picture.scale {} := by
    constructor <;> intros <;> rfl
  obtain ⟨shown, replayed, shows⟩ := blank.callsFor terminal showings
  refine ⟨fun call => within_callsFor terminal, ?_, shown, replayed, shows⟩
  intro host cells call member
  obtain ⟨⟨now, stays⟩, scale⟩ := exists_surface_afterAll terminal showings
  have below := within_present stays member
  rwa [scale] at below

/-- Two titles, the second one shorter, and a frame between them that lights every cell. -/
theorem pad_shows_last_shorter :
    ∃ (picture : Picture) (shown : Pad),
      openTerminal {} .unset (.value 0) = ⟨terminalPlan 2 (.value 0), .ok picture⟩ ∧
      (Pad.made 0 0).replay (terminalPlan 2 (.value 0) ++
        picture.callsFor [.title {} "ab", .frame {} .allLit, .title {} "c"]) = some shown ∧
      shown.mark 0 0 = { character := 'c', reverse := true } ∧
      shown.mark 0 1 = { character := ' ', reverse := true } ∧
      shown.mark 32 127 = { character := ' ', reverse := true } := by
  obtain ⟨picture, opened, terminal, scale⟩ :
      ∃ picture : Picture,
        openTerminal {} .unset (.value 0) = ⟨terminalPlan 2 (.value 0), .ok picture⟩ ∧
        picture.surface = .terminal (.value 0) (-1, -1) ∧
        picture.scale = 2 :=
    ⟨_, rfl, rfl, rfl⟩
  obtain ⟨_, _, shown, replayed, shows⟩ :=
    pad_shows_last terminal [.title {} "ab", .frame {} .allLit, .title {} "c"] (Pad.made 0 0)
  rw [scale] at replayed shows
  refine ⟨picture, shown, opened, replayed, ?_, ?_, ?_⟩
  · exact shows.title 0 (by decide)
  · exact shows.title 1 (by decide)
  · exact (shows.cells 31 (by decide) 63 (by decide) 1 (by decide)).trans (by decide +kernel)

end Picture
end Chip8
