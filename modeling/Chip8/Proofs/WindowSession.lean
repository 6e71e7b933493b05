import Chip8.Host
import Chip8.Proofs.WindowVisits

/-! What a session with a window writes, and how the size of the window goes with the size of the
images that are drawn into it. -/
namespace Chip8

private theorem Drawing.width_eq (d : Drawing) : (d.picture.width : Int) = 64 * max d.scale 1 := by
  rw [← magnification_eq]
  rfl

private theorem Drawing.height_eq (d : Drawing) :
    (d.picture.height : Int) = 32 * max d.scale 1 := by
  rw [← magnification_eq]
  rfl

namespace Window
variable {style : Style} {path : String} {turns : List Turn} {t : Turn} {w : Window}
  {machine : Machine} {actions : List Action} {action : Action}

private theorem LogsOnly.mem (h : LogsOnly actions) (hmem : action ∈ actions) :
    ∃ record, action = .log record := by
  obtain ⟨records, rfl⟩ := h
  obtain ⟨record, -, rfl⟩ := List.mem_map.mp hmem
  exact ⟨record, rfl⟩

def Shows (style : Style) (action : Action) : Prop :=
  (∃ record, action = .log record) ∨
    ∃ w drawn, drawing style w = .ok drawn ∧ action = .present drawn

private theorem shows_of_turn (h : action ∈ (turn style path t w).1) : Shows style action := by
  have hnoted := handleAll_logs path t.arrivals w
  rw [turn] at h
  generalize handleAll path t.arrivals w = result at hnoted h
  obtain ⟨noted, e | handled⟩ := result
  · exact .inl (hnoted.mem h)
  · have hlogs := hnoted.append (play_logs handled)
    dsimp only at h
    cases himage : drawing style handled.play.2 with
    | error e =>
      rw [himage] at h
      exact .inl (hlogs.mem h)
    | ok drawn =>
      rw [himage] at h
      rcases List.mem_append.mp h with hlog | hlast
      · exact .inl (hlogs.mem hlog)
      · exact .inr ⟨_, drawn, himage, List.mem_singleton.mp hlast⟩

private theorem shows_of_live (h : action ∈ (live style path turns machine).1) :
    action ∈ opening style ∨ Shows style action ∨ action = .closeWindow := by
  rw [live] at h
  rcases List.mem_append.mp h with h | hclosing
  · rcases List.mem_append.mp h with hopening | hlooped
    · exact .inl hopening
    · rw [loop_actions] at hlooped
      obtain ⟨v, -, hturn⟩ := List.mem_flatMap.mp hlooped
      exact .inr (.inl (shows_of_turn hturn))
  · split at hclosing
    · exact .inr (.inr (List.mem_singleton.mp hclosing))
    · cases hclosing

section Scaled
variable {scale : Int} {drawn : Drawing} {width height : Setting Int} {caption : String}
  {rate : Nat} (hscale : style.scale = .given scale)
include hscale

private theorem scale_of_drawing (h : drawing style w = .ok drawn) : drawn.scale = scale := by
  cases hobstacle : scaleObstacle? style.platform.room scale with
  | some e => cases (drawing_of_obstacle hscale hobstacle w).symm.trans h
  | none =>
    rw [drawing_of_scale hscale, Drawing.ofScreen_of_held hobstacle] at h
    change (if _ then Except.ok _ else Except.error _) = _ at h
    split at h
    · cases h
      rfl
    · cases h

private theorem scale_of_live (h : .present drawn ∈ (live style path turns machine).1) :
    drawn.scale = scale := by
  rcases shows_of_live h with h | (⟨_, h⟩ | ⟨_, _, himage, h⟩) | h
  · simp [opening] at h
  · cases h
  · cases h
    exact scale_of_drawing hscale himage
  · cases h

private theorem size_of_live
    (h : .openWindow width height caption rate ∈ (live style path turns machine).1) :
    width = .given (64 * scale) ∧ height = .given (32 * scale) := by
  rcases shows_of_live h with h | (⟨_, h⟩ | ⟨_, _, -, h⟩) | h
  · obtain ⟨hwidth, hheight, -⟩ : width = .given (64 * scale) ∧ height = .given (32 * scale) ∧
        caption = Window.caption ∧ rate = Window.rate := by
      simpa [opening, Style.width, Style.height, hscale, Setting.map] using h
    exact ⟨hwidth, hheight⟩
  · cases h
  · cases h
  · cases h

end Scaled

/-- A user who quits at once still sees an image. -/
theorem live_of_quit {scale : Int} (h : style.Draws scale) (path : String) (machine : Machine) :
    ∃ drawn : Drawing, drawn.scale = scale ∧
      .present drawn ∈ (live style path [] machine).1 := by
  let quitting : Window := { start machine with running := false }
  let shown : Stage :=
    ⟨lastTurn, start machine, [], quitting, h.image quitting.play.2.machine.frame⟩
  have hshown : stage? style path lastTurn (start machine) = some shown :=
    stage?_eq_some.mpr ⟨rfl, rfl, rfl, drawing_of_draws h _⟩
  refine ⟨shown.drawn, rfl, List.mem_append_left _ (List.mem_append_right _ ?_)⟩
  change _ ∈ (turn style path lastTurn (start machine)).1
  rw [turn_of_stage hshown]
  exact List.mem_append_right _ List.mem_cons_self

end Window

namespace Host
open CommandLine Window
variable {platform : Platform} {o : Options} {terminal : Bool} {rom : Option (List UInt8)}
  {turns : List Turn} {s : Session} {width height : Setting Int} {caption : String} {rate : Nat}

private theorem opens_nothing_of_saveFrame (room : Extent.Room) (o : Options) (frame : Screen) :
    .openWindow width height caption rate ∉ (saveFrame room o frame).1 := by
  unfold saveFrame
  split
  · exact List.not_mem_nil
  · exact List.not_mem_nil
  · split
    · exact List.not_mem_nil
    · simp

private theorem opens_nothing_of_headless (room : Extent.Room) (o : Options) (frames : Int)
    (logger : Log.Logger) (m : Machine) :
    .openWindow width height caption rate ∉ (headless room o frames logger m).1 := by
  unfold headless
  split
  · simp
  · next r _ =>
    have hfollowed : .openWindow width height caption rate ∉ followed r.bar := by
      cases r.bar <;> simp [followed]
    have hshown : .openWindow width height caption rate ∉ showText o r.machine.frame := by
      unfold showText
      split <;> simp
    simp [hfollowed, hshown, opens_nothing_of_saveFrame]

private theorem opens_nothing_of_finished {actions : List Action} {status : Except HostError Nat}
    (h : prepare o rom = .finished actions status) :
    .openWindow width height caption rate ∉ actions := by
  unfold prepare at h
  split at h
  · split at h
    · cases h
      exact List.not_mem_nil
    · cases h
      simp [listing]
  · split at h
    · cases h
      exact List.not_mem_nil
    · cases h
      exact List.not_mem_nil
    · split at h
      · cases h
        simp
      · cases h

/-- A session that starts is finished before it runs its program, or plays what it has loaded. -/
theorem session_cases (hs : session platform o terminal rom turns = .ok s) :
    (∃ logger actions status, prepare o rom = .finished actions status ∧
      s = ⟨logger, actions, status⟩) ∨
    ∃ logger machine, prepare o rom = .loaded machine ∧
      s = ⟨logger, .log (loadedRecord o) :: (played platform o turns logger machine).1,
        (played platform o turns logger machine).2⟩ := by
  unfold session at hs
  cases hlogger : loggerOf o terminal with
  | error e =>
    rw [hlogger] at hs
    cases hs
  | ok logger =>
    rw [hlogger] at hs
    cases hprepare : prepare o rom with
    | finished actions status =>
      simp only [hprepare, Except.map, Except.ok.injEq] at hs
      exact .inl ⟨logger, actions, status, rfl, hs.symm⟩
    | loaded machine =>
      simp only [hprepare, Except.map, Except.ok.injEq] at hs
      exact .inr ⟨logger, machine, rfl, hs.symm⟩

/-- A session that opens a window reports the loaded program, and then is the life of that
window. -/
theorem live_of_session (hs : session platform o terminal rom turns = .ok s)
    (hopen : .openWindow width height caption rate ∈ s.actions) :
    ∃ style machine, style.scale = o.scale ∧
      s.actions = .log (loadedRecord o) :: (live style o.rom turns machine).1 := by
  obtain ⟨logger, actions, status, hprepare, rfl⟩ | ⟨logger, machine, -, rfl⟩ := session_cases hs
  · exact absurd hopen (opens_nothing_of_finished hprepare)
  · have hplayed := (List.mem_cons.mp hopen).resolve_left nofun
    cases hframes : o.frames with
    | some frames =>
      rw [played, hframes] at hplayed
      cases frames with
      | blank => exact absurd hplayed List.not_mem_nil
      | given frames =>
        exact absurd hplayed (opens_nothing_of_headless platform.room o frames logger machine)
    | none =>
      cases hpalette : paletteOf o with
      | error e =>
        simp only [played, hframes, windowed, style, hpalette, Except.map] at hplayed
        exact absurd hplayed List.not_mem_nil
      | ok palette =>
        simp only [played, hframes, windowed, style, hpalette, Except.map] at hplayed ⊢
        refine ⟨⟨platform, o.scale, palette⟩, machine, rfl, ?_⟩
        cases hopens : Style.opens ⟨platform, o.scale, palette⟩ with
        | true => rw [run_of_opens hopens]
        | false =>
          rw [run_of_refused hopens] at hplayed
          exact absurd hplayed List.not_mem_nil

theorem session_of_window {logger : Log.Logger} {style : Style} {machine : Machine}
    (hlogger : loggerOf o terminal = .ok logger) (hprepare : prepare o rom = .loaded machine)
    (hframes : o.frames = none) (hstyle : Host.style platform o = .ok style)
    (turns : List Turn) :
    session platform o terminal rom turns = .ok ⟨logger,
      .log (loadedRecord o) :: (Window.run style o.rom turns machine).1,
      (Window.run style o.rom turns machine).2.map fun _ => 0⟩ := by
  simp only [session, hlogger, Except.map, hprepare, played, hframes, windowed, hstyle]

private theorem session_of_quit {scale : Int}
    (hscale : scaleObstacle? (fun _ => true) scale = none) : ∃ s drawn,
      session .permissive { rom := "rom.ch8", scale := .given scale } false (some []) [] = .ok s ∧
      .openWindow (.given (64 * scale)) (.given (32 * scale)) Window.caption Window.rate ∈
        s.actions ∧
      .present drawn ∈ s.actions ∧ drawn.scale = scale := by
  obtain ⟨drawn, hdrawn, hpresent⟩ := live_of_quit
    (.of_permissive hscale ⟨⟨0, 255, 0⟩, ⟨0, 0, 0⟩⟩) "rom.ch8" (.powerOn ⟨0, 0⟩)
  refine ⟨_, drawn, session_of_window rfl rfl rfl rfl [], ?_, ?_, hdrawn⟩
  · exact List.mem_cons_of_mem _ List.mem_cons_self
  · exact List.mem_cons_of_mem _ hpresent

/-- The window that a session opens is as large as each image that is drawn into it exactly when
the scale is at least one. Below one the images are those of scale one, and the window is not. -/
theorem window_fits_images_iff {scale : Int} (hscale : o.scale = .given scale)
    (hs : session platform o terminal rom turns = .ok s)
    (hopen : .openWindow width height caption rate ∈ s.actions) :
    width = .given (64 * scale) ∧ height = .given (32 * scale) ∧
    ∀ drawn, .present drawn ∈ s.actions →
      (drawn.picture.width : Int) = 64 * max scale 1 ∧
      (drawn.picture.height : Int) = 32 * max scale 1 ∧
      ((width, height) = (.given drawn.picture.width, .given drawn.picture.height) ↔
        1 ≤ scale) := by
  obtain ⟨style, machine, hstyle, hactions⟩ := live_of_session hs hopen
  rw [hscale] at hstyle
  have hlive {action : Action} (h : action ∈ s.actions) (hlog : ∀ record, action ≠ .log record) :
      action ∈ (live style o.rom turns machine).1 := by
    rw [hactions] at h
    exact (List.mem_cons.mp h).resolve_left (hlog _)
  obtain ⟨hwidth, hheight⟩ := size_of_live hstyle (hlive hopen nofun)
  refine ⟨hwidth, hheight, fun drawn hdrawn => ?_⟩
  have hdrawn_scale := scale_of_live hstyle (hlive hdrawn nofun)
  rw [hwidth, hheight, drawn.width_eq, drawn.height_eq, hdrawn_scale]
  refine ⟨rfl, rfl, ?_⟩
  simp only [Prod.mk.injEq, Setting.given.injEq]
  omega

/-- At scale eight the window has the size of its image. -/
theorem window_fits_images_at_eight :
    ∃ s drawn,
      session .permissive { rom := "rom.ch8", scale := .given 8 } false (some []) [] = .ok s ∧
      .openWindow (.given 512) (.given 256) Window.caption Window.rate ∈ s.actions ∧
      .present drawn ∈ s.actions ∧
      drawn.picture.width = 512 ∧ drawn.picture.height = 256 := by
  obtain ⟨s, drawn, hs, hopen, hpresent, -⟩ :=
    session_of_quit (show scaleObstacle? (fun _ => true) 8 = none by decide)
  obtain ⟨-, -, hfits⟩ := window_fits_images_iff rfl hs hopen
  obtain ⟨hwidth, hheight, -⟩ := hfits drawn hpresent
  exact ⟨s, drawn, hs, hopen, hpresent, Int.ofNat_inj.mp hwidth, Int.ofNat_inj.mp hheight⟩

/-- At scale zero, which the command line accepts, the window has no pixels and its image has those
of scale one. -/
theorem window_without_pixels_at_zero :
    ∃ o s drawn, parse ["rom.ch8", "--scale", "0"] = .ok (.run o) ∧
      session .permissive o false (some []) [] = .ok s ∧
      .openWindow (.given 0) (.given 0) Window.caption Window.rate ∈ s.actions ∧
      .present drawn ∈ s.actions ∧
      drawn.picture.width = 64 ∧ drawn.picture.height = 32 := by
  obtain ⟨s, drawn, hs, hopen, hpresent, hscale⟩ :=
    session_of_quit (show scaleObstacle? (fun _ => true) 0 = none by decide)
  have hwidth := drawn.width_eq
  have hheight := drawn.height_eq
  rw [hscale] at hwidth hheight
  exact ⟨_, s, drawn, rfl, hs, hopen, hpresent, Int.ofNat_inj.mp hwidth, Int.ofNat_inj.mp hheight⟩

end Host
end Chip8
