import Chip8.Choice
import Chip8.Host.Opening
import Chip8.Machine.Report
import Chip8.Picture.Palette

/-!
# The picture

The picture shows frames and a title: in a window, where a lit cell is a filled
square, on a terminal, where it is a run of blanks in reverse video under a
title line, or nowhere at all. Whatever it is drawn on, the picture keeps its
last frame.
-/

namespace Chip8

/-- The width of the machine's screen in cells. -/
def screenWidth : Nat := 64

/-- The height of the machine's screen in cells. -/
def screenHeight : Nat := 32

/-- A frame to be shown: a byte for each cell, zero for a dark one, row by row. -/
structure Frame where
  cells : Array UInt8
  columns : Nat
  rows : Nat
  deriving DecidableEq, Repr

namespace Frame

/-- How many cells the frame is to show. -/
def size (frame : Frame) : Nat :=
  frame.columns * frame.rows

/-- How many of them it has a byte for. -/
def available (frame : Frame) : Nat :=
  min frame.cells.size frame.size

/-- Whether the frame has a byte for every cell. -/
def isComplete (frame : Frame) : Bool :=
  frame.size ≤ frame.cells.size

/-- Whether a cell is lit. -/
def lit (frame : Frame) (cell : Nat) : Bool :=
  frame.cells.getD cell 0 != 0

/-- The frame that a screen shows. -/
def ofScreen (screen : Screen 64 32) : Frame where
  cells := screen.bytes.toArray
  columns := screenWidth
  rows := screenHeight

theorem available_of_isComplete {frame : Frame} (complete : frame.isComplete = true) :
    frame.available = frame.size := by
  have enough : frame.size ≤ frame.cells.size := by simpa [isComplete] using complete
  exact Nat.min_eq_right enough

theorem size_ofScreen (screen : Screen 64 32) :
    (ofScreen screen).size = screenWidth * screenHeight := rfl

theorem isComplete_ofScreen (screen : Screen 64 32) :
    (ofScreen screen).isComplete = true := by
  have sized : (ofScreen screen).cells.size = screenWidth * screenHeight := by
    simp only [ofScreen, List.size_toArray, Screen.length_bytes]
    decide
  simp [isComplete, size_ofScreen, sized]

end Frame

/-- What a picture is drawn on. -/
inductive Surface
  /-- Nothing. -/
  | headless
  /-- A window with these colours. -/
  | window (palette : Palette)
  /-- A terminal with its cursor's visibility, and the size it was last seen to have. -/
  | terminal (cursor : Choice Int) (seen : Int × Int)
  deriving DecidableEq, Repr

/-- A picture and what it has shown. -/
structure Picture where
  surface : Surface
  /-- The width of a cell, and in a window its height too. -/
  scale : Nat
  title : String := ""
  /-- The cells of the last frame shown. -/
  lastFrame : Option (Array UInt8) := none
  /-- How many frames have been shown. -/
  frames : Nat := 0
  deriving DecidableEq, Repr

namespace Picture

/-- The scale that a choice asks for, when a picture can have it. -/
def checkScale (standard : Int) (choice : Choice Int) : Except Fault Nat :=
  match choice.resolve standard with
  | none => .error .scaleMissing
  | some scale => if scale < 1 then .error .scaleTooSmall else .ok scale.toNat

/-- A picture that is not drawn. -/
def openHeadless (scale : Choice Int) : Opening Picture :=
  match checkScale 1 scale with
  | .error fault => .refused fault
  | .ok scale => .silent { surface := .headless, scale }

/-- The colours of a window. -/
def windowPalette : Choice String -> Except Fault Palette
  | .unset => .ok .standard
  | .blank => .error .paletteMissing
  | .value text => Palette.read text

/-- The calls that open a window. -/
def windowPlan (scale : Nat) : List HostCall := [
  .openVideo,
  .setCaption applicationName,
  .setMode (screenWidth * scale) (screenHeight * scale)]

/-- A picture in a window; its colours are checked before its scale. -/
def openWindow (host : Host) (scale : Choice Int) (palette : Choice String) : Opening Picture :=
  match windowPalette palette with
  | .error fault => .refused fault
  | .ok palette =>
      match checkScale 10 scale with
      | .error fault => .refused fault
      | .ok scale =>
          host.openWith (windowPlan scale) {
            surface := .window palette
            scale
            title := applicationName }

/-- The calls that take the terminal over; the pad has a line for the title and room to spare. -/
def terminalPlan (scale : Nat) (cursor : Choice Int) : List HostCall := [
  .openScreen,
  .setCursor cursor,
  .echoOff,
  .lineModeOff,
  .newPad (screenHeight + 2) (screenWidth * scale + 1)]

/-- A picture on the terminal; a scale at which the blanks of a cell have no room is refused. -/
def openTerminal (host : Host) (scale : Choice Int) (cursor : Choice Int) : Opening Picture :=
  match checkScale 2 scale with
  | .error fault => .refused fault
  | .ok scale =>
      if largestSize < scale then .refused .scaleTooLarge
      else if host.largestBlock < scale then .refused .outOfMemory
      else
        host.openWith (terminalPlan scale cursor) {
          surface := .terminal cursor (-1, -1)
          scale }

/-- The square of a window that a cell fills. -/
def cellArea (scale columns cell : Nat) : Area where
  left := cell % columns * scale
  top := cell / columns * scale
  width := scale
  height := scale

/-- The calls that paint the cells of a frame in a window. -/
def paint (palette : Palette) (scale : Nat) (frame : Frame) : List HostCall :=
  .fill palette.background none ::
    ((List.range frame.available).filter frame.lit).map fun cell =>
      .fill palette.foreground (some (cellArea scale frame.columns cell))

/-- The calls that write the cells of a frame on a pad, below the title line. -/
def writeCells (scale : Nat) (frame : Frame) : List HostCall :=
  (List.range frame.available).map fun cell =>
    .write (cell / frame.columns + 1) (cell % frame.columns * scale) "" scale (frame.lit cell)

/-- The calls that show a pad on a terminal, redrawing all of it when its size has changed. -/
def showPad (host : Host) (seen : Int × Int) : List HostCall :=
  let redraw :=
    if seen = (host.height, host.width) then []
    else
      [.clearScreen] ++ (if host.resizes then [.resize host.height host.width] else []) ++
        [.refreshScreen]
  redraw ++ [.showPad (host.height - 1) (host.width - 1)]

theorem eq_of_mem_showPad
    {host : Host} {seen : Int × Int} {call : HostCall}
    (member : call ∈ showPad host seen) :
    call = .clearScreen ∨ call = .resize host.height host.width ∨ call = .refreshScreen ∨
      call = .showPad (host.height - 1) (host.width - 1) := by
  unfold showPad at member
  grind

/-- The calls that draw the cells a frame has bytes for. -/
def drawCalls (picture : Picture) (frame : Frame) : List HostCall :=
  match picture.surface with
  | .headless => []
  | .window palette => paint palette picture.scale frame
  | .terminal _ _ => writeCells picture.scale frame

/-- The calls that show what was drawn. -/
def showCalls (host : Host) (picture : Picture) : List HostCall :=
  match picture.surface with
  | .headless => []
  | .window _ => [.flip]
  | .terminal _ seen => showPad host seen

/-- What the surface is once a frame is shown; a terminal's size has been seen. -/
def shownSurface (host : Host) (picture : Picture) : Surface :=
  match picture.surface with
  | .terminal cursor _ => .terminal cursor (host.height, host.width)
  | surface => surface

/-- Whether showing a frame draws its cells. -/
def drawsCells (picture : Picture) : Bool :=
  match picture.surface with
  | .headless => false
  | _ => true

/-- Show a frame. One that lacks cells is drawn as far as it goes, and not shown. -/
def present (host : Host) (picture : Picture) (frame : Frame) :
    List HostCall × Except Fault Picture :=
  if picture.drawsCells && !frame.isComplete then (picture.drawCalls frame, .error .noSuchCell)
  else
    (picture.drawCalls frame ++ picture.showCalls host,
      .ok {
        picture with
        surface := picture.shownSurface host
        lastFrame := some frame.cells
        frames := picture.frames + 1 })

theorem present_of_isComplete
    (host : Host) (picture : Picture) {frame : Frame}
    (complete : frame.isComplete = true) :
    picture.present host frame =
      (picture.drawCalls frame ++ picture.showCalls host,
        .ok {
          picture with
          surface := picture.shownSurface host
          lastFrame := some frame.cells
          frames := picture.frames + 1 }) := by
  simp [present, complete]

/-- The width of the title line of a terminal. -/
def titleWidth (scale : Nat) : Nat :=
  screenWidth * scale

/-- A title cut to a width. -/
def titleText (width : Nat) (title : String) : String :=
  String.ofList (title.toList.take width)

/-- The blanks that fill a title up to a width. -/
def titleBlanks (width : Nat) (title : String) : Nat :=
  width - (titleText width title).length

theorem length_titleText_add_titleBlanks (width : Nat) (title : String) :
    (titleText width title).length + titleBlanks width title = width := by
  simp only [titleBlanks, titleText, String.length_ofList, List.length_take]
  omega

/-- Refuses a title where a host has no room for the line it stands on. -/
def checkTitle (host : Host) (picture : Picture) : Except Fault Unit :=
  match picture.surface with
  | .terminal _ _ =>
      if largestSize < titleWidth picture.scale then .error .scaleTooLarge
      else if host.largestBlock < titleWidth picture.scale then .error .outOfMemory
      else .ok ()
  | _ => .ok ()

theorem checkTitle_of_hasRoom
    {host : Host} {picture : Picture} {cursor : Choice Int} {seen : Int × Int}
    (terminal : picture.surface = .terminal cursor seen)
    (room : host.HasRoom (titleWidth picture.scale)) :
    picture.checkTitle host = .ok () := by
  simp only [checkTitle, terminal, if_neg (Int.not_lt.mpr room.1),
    if_neg (Int.not_lt.mpr room.2)]

theorem exists_checkTitle_of_not_hasRoom
    {host : Host} {picture : Picture} {cursor : Choice Int} {seen : Int × Int}
    (terminal : picture.surface = .terminal cursor seen)
    (crowded : ¬host.HasRoom (titleWidth picture.scale)) :
    ∃ fault, picture.checkTitle host = .error fault := by
  simp only [checkTitle, terminal]
  split
  · exact ⟨_, rfl⟩
  · rename_i sizeable
    split
    · exact ⟨_, rfl⟩
    · rename_i fits
      exact absurd ⟨Int.not_lt.mp sizeable, Int.not_lt.mp fits⟩ crowded

/-- The calls that show a title. -/
def titleCalls (picture : Picture) (title : String) : List HostCall :=
  match picture.surface with
  | .headless => []
  | .window _ => [.setCaption title]
  | .terminal _ _ =>
      let width := titleWidth picture.scale
      [.write 0 0 (titleText width title) (titleBlanks width title) true]

/-- The picture with a title. -/
def entitle (picture : Picture) (title : String) : Picture :=
  { picture with title }

/-- The calls that close the picture. A refusal to show the cursor again is let pass. -/
def closeCalls (picture : Picture) : List HostCall :=
  match picture.surface with
  | .headless => []
  | .window _ => [.closeVideo]
  | .terminal cursor _ =>
      [.lineModeOn, .echoOn] ++ (if cursor = .value 1 then [] else [.setCursor (.value 1)]) ++
        [.closeScreen]

end Picture
end Chip8
