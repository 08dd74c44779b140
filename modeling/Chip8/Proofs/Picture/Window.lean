import Chip8.Proofs.Picture.Cells

/-!
# What a window shows

The calls that show a frame in a window are replayed pixel by pixel. The first
paints the whole window, so nothing of what it showed before remains. The squares
painted after it are apart and cover just the lit cells, and the window is shown
once they are all painted.
-/

namespace Chip8

/-- What a window shows: the colour of each pixel, by its place from the left and from the top. -/
abbrev Canvas := Nat -> Nat -> Colour

/-- Whether an area covers a pixel. -/
def Area.covers (area : Area) (x y : Nat) : Bool :=
  area.left ≤ x && x < area.left + area.width && area.top ≤ y && y < area.top + area.height

theorem Area.covers_iff {area : Area} {x y : Nat} :
    area.covers x y = true ↔
      (area.left ≤ x ∧ x < area.left + area.width) ∧
        (area.top ≤ y ∧ y < area.top + area.height) := by
  simp [covers, and_assoc]

namespace Canvas

/-- The canvas after a call; only fills paint. -/
def after (canvas : Canvas) : HostCall -> Canvas
  | .fill colour none => fun _ _ => colour
  | .fill colour (some area) => fun x y => if area.covers x y then colour else canvas x y
  | _ => canvas

/-- The canvas after some calls. -/
def replay (canvas : Canvas) (calls : List HostCall) : Canvas :=
  calls.foldl after canvas

/-- Areas painted in one colour show it wherever one of them is, and leave the rest as it was. -/
theorem replay_fills (canvas : Canvas) (colour : Colour) (areas : List Area) (x y : Nat) :
    canvas.replay (areas.map fun area => .fill colour (some area)) x y =
      if areas.any (·.covers x y) then colour else canvas x y := by
  induction areas generalizing canvas with
  | nil => rfl
  | cons area areas hypothesis =>
      change replay (canvas.after (.fill colour (some area))) _ x y = _
      rw [hypothesis]
      cases covered : area.covers x y <;> simp [after, covered]

end Canvas

namespace Frame

/-- Whether a pixel shows a lit cell at a scale. -/
def litAt (frame : Frame) (scale x y : Nat) : Bool :=
  x < frame.columns * scale && y < frame.rows * scale &&
    frame.lit (x / scale + y / scale * frame.columns)

end Frame

namespace Picture

variable {scale columns rows cell x y : Nat}

/-- The square of a cell covers the pixels that come to the cell's place when scaled down. -/
theorem covers_cellArea_iff (scaled : 0 < scale) (within : cell < columns * rows) :
    (cellArea scale columns cell).covers x y = true ↔
      x < columns * scale ∧ y < rows * scale ∧ cell = x / scale + y / scale * columns := by
  have covered : (cellArea scale columns cell).covers x y = true ↔
      cell % columns = x / scale ∧ cell / columns = y / scale := by
    rw [Area.covers_iff]
    exact and_congr ((within_iff scaled).trans eq_comm) ((within_iff scaled).trans eq_comm)
  rw [covered, cell_at_iff within, Nat.div_lt_iff_lt_mul scaled, Nat.div_lt_iff_lt_mul scaled]

/-- The squares that are painted for a frame. -/
def squares (scale : Nat) (frame : Frame) : List Area :=
  ((List.range frame.available).filter frame.lit).map (cellArea scale frame.columns)

theorem paint_eq (palette : Palette) (scale : Nat) (frame : Frame) :
    paint palette scale frame =
      .fill palette.background none ::
        (squares scale frame).map fun square => .fill palette.foreground (some square) := by
  simp [paint, squares]

/-- One square covers a pixel that shows a lit cell, and none covers another. -/
theorem countP_squares
    {frame : Frame}
    (scaled : 0 < scale)
    (complete : frame.isComplete = true)
    (x y : Nat) :
    (squares scale frame).countP (·.covers x y) = if frame.litAt scale x y then 1 else 0 := by
  let shown := x / scale + y / scale * frame.columns
  have counted : (squares scale frame).countP (·.covers x y) =
      (List.range frame.size).countP fun cell => frame.litAt scale x y && cell == shown := by
    rw [squares, Frame.available_of_isComplete complete, List.countP_map, List.countP_filter]
    apply List.countP_congr
    intro cell member
    have covered := covers_cellArea_iff (x := x) (y := y) scaled (List.mem_range.mp member)
    simp only [Function.comp_apply, Bool.and_eq_true, covered, Frame.litAt, decide_eq_true_eq,
      beq_iff_eq]
    constructor
    · rintro ⟨⟨left, top, rfl⟩, lit⟩
      exact ⟨⟨⟨left, top⟩, lit⟩, rfl⟩
    · rintro ⟨⟨⟨left, top⟩, lit⟩, rfl⟩
      exact ⟨⟨left, top, rfl⟩, lit⟩
  rw [counted]
  cases lit : frame.litAt scale x y with
  | false => simp
  | true =>
      have inside : shown < frame.size := by
        simp only [Frame.litAt, Bool.and_eq_true, decide_eq_true_eq,
          ← Nat.div_lt_iff_lt_mul scaled] at lit
        exact place_lt lit.1.1 lit.1.2
      simp only [Bool.true_and, if_true]
      rw [← List.count_eq_countP, List.count_range, if_pos inside]

/-- A frame in a window. Its calls paint the whole window first, then squares, and show the window
last. One square covers each pixel of a lit cell, and none covers any other. So the window shows the
lit cells of the frame and nothing of what it showed before. -/
theorem present_shows_lit_cells
    {palette : Palette}
    {picture : Picture}
    {frame : Frame}
    (windowed : picture.surface = .window palette)
    (scaled : 0 < picture.scale)
    (complete : frame.isComplete = true)
    (host : Host) :
    ∃ (squares : List Area) (shown : Picture),
      picture.present host frame =
        (.fill palette.background none ::
          squares.map (fun square => .fill palette.foreground (some square)) ++ [.flip],
          .ok shown) ∧
      ∀ x y,
        squares.countP (·.covers x y) = (if frame.litAt picture.scale x y then 1 else 0) ∧
        ∀ canvas : Canvas,
          canvas.replay (picture.present host frame).1 x y =
            if frame.litAt picture.scale x y then palette.foreground else palette.background := by
  have presented := present_of_isComplete host picture complete
  simp only [drawCalls, showCalls, windowed, paint_eq] at presented
  refine ⟨squares picture.scale frame, _, presented, ?_⟩
  intro x y
  have counted := countP_squares scaled complete x y
  refine ⟨counted, ?_⟩
  intro canvas
  have covered : (squares picture.scale frame).any (·.covers x y) =
      frame.litAt picture.scale x y := by
    rw [Bool.eq_iff_iff, List.any_eq_true, ← List.countP_pos_iff, counted]
    cases frame.litAt picture.scale x y <;> decide
  have painted := Canvas.replay_fills (fun _ _ => palette.background) palette.foreground
    (squares picture.scale frame) x y
  rw [covered] at painted
  rw [presented, Canvas.replay, List.foldl_append]
  exact painted

/-- Two cells side by side, the second one lit: a pixel in each of them, and one beside them. -/
theorem present_shows_lit_cells_beside :
    ∃ (picture : Picture) (frame : Frame),
      openWindow {} (.value 3) .unset = ⟨windowPlan 3, .ok picture⟩ ∧
      frame = { cells := #[0, 255], columns := 2, rows := 1 } ∧
      frame.isComplete = true ∧
      ∀ canvas : Canvas,
        canvas.replay (picture.present {} frame).1 2 2 = Palette.standard.background ∧
        canvas.replay (picture.present {} frame).1 3 2 = Palette.standard.foreground ∧
        canvas.replay (picture.present {} frame).1 6 2 = Palette.standard.background := by
  obtain ⟨picture, opened, windowed, scaled, scale⟩ :
      ∃ picture : Picture,
        openWindow {} (.value 3) .unset = ⟨windowPlan 3, .ok picture⟩ ∧
        picture.surface = .window .standard ∧ 0 < picture.scale ∧ picture.scale = 3 :=
    ⟨_, rfl, rfl, by decide, rfl⟩
  let frame : Frame := { cells := #[0, 255], columns := 2, rows := 1 }
  have complete : frame.isComplete = true := by decide
  obtain ⟨_, _, _, shows⟩ := present_shows_lit_cells windowed scaled complete {}
  rw [scale] at shows
  refine ⟨picture, frame, opened, rfl, complete, ?_⟩
  intro canvas
  exact ⟨(shows 2 2).2 canvas, (shows 3 2).2 canvas, (shows 6 2).2 canvas⟩

end Picture
end Chip8
