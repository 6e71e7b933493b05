import Chip8.Window

/-! The turns of a window, one by one: what each of them writes and the one image that it draws. -/
namespace Chip8

theorem Drawing.ofScreen_of_held {room : Extent.Room} {scale : Int}
    (h : scaleObstacle? room scale = none) (palette : Palette) (screen : Screen) :
    Drawing.ofScreen room scale palette screen = .ok ⟨screen, scale, palette, room, h⟩ := by
  unfold ofScreen
  split
  · next e he => cases h.symm.trans he
  · rfl

private theorem Drawing.ofScreen_of_obstacle {room : Extent.Room} {scale : Int} {e : ExtentError}
    (h : scaleObstacle? room scale = some e) (palette : Palette) (screen : Screen) :
    Drawing.ofScreen room scale palette screen = .error e := by
  unfold ofScreen
  split
  · next e' he => cases h.symm.trans he; rfl
  · next he => cases h.symm.trans he

namespace Window
variable {style : Style} {path : String} {w : Window} {t : Turn} {turns : List Turn}

/-- Images at this scale can be held, and the window takes them. -/
structure Style.Draws (style : Style) (scale : Int) : Prop where
  scale_eq : style.scale = .given scale
  held : scaleObstacle? style.platform.room scale = none
  taken : style.platform.draws style.width style.height (64 * magnification scale)
    (32 * magnification scale) = true

/-- Where nothing is refused, only the scale decides. -/
theorem Style.Draws.of_permissive {scale : Int} (h : scaleObstacle? (fun _ => true) scale = none)
    (palette : Palette) : Style.Draws ⟨.permissive, .given scale, palette⟩ scale :=
  ⟨rfl, h, rfl⟩

def Style.Draws.image {scale : Int} (h : style.Draws scale) (screen : Screen) : Drawing :=
  ⟨screen, scale, style.palette, style.platform.room, h.held⟩

theorem drawing_of_scale {scale : Int} (hscale : style.scale = .given scale) (w : Window) :
    drawing style w = ((Drawing.ofScreen style.platform.room scale style.palette
      w.machine.frame).mapError .extent).bind fun drawn =>
        if style.takes drawn then .ok drawn
        else .error (.notDrawn drawn.surface.height drawn.surface.width) := by
  rw [drawing, hscale]
  rfl

theorem drawing_of_draws {scale : Int} (h : style.Draws scale) (w : Window) :
    drawing style w = .ok (h.image w.machine.frame) := by
  rw [drawing_of_scale h.scale_eq, Drawing.ofScreen_of_held h.held]
  exact if_pos h.taken

theorem drawing_of_obstacle {scale : Int} {e : ExtentError} (hscale : style.scale = .given scale)
    (h : scaleObstacle? style.platform.room scale = some e) (w : Window) :
    drawing style w = .error (.extent e) := by
  rw [drawing_of_scale hscale, Drawing.ofScreen_of_obstacle h]
  rfl

/-- A window draws the last emitted frame and looks at nothing else of the machine. -/
theorem drawing_congr {w' : Window} (h : w.machine.frame = w'.machine.frame) :
    drawing style w = drawing style w' := by
  unfold drawing
  rw [h]

def images (actions : List Action) : List Drawing :=
  actions.filterMap fun action =>
    match action with
    | .present drawing => some drawing
    | _ => none

private theorem images_append (first second : List Action) :
    images (first ++ second) = images first ++ images second :=
  List.filterMap_append

def LogsOnly (actions : List Action) : Prop :=
  ∃ records : List Log.Record, actions = records.map .log

theorem LogsOnly.nil : LogsOnly [] := ⟨[], rfl⟩

theorem LogsOnly.info (message : String) : LogsOnly (Window.info message) := ⟨[.info message], rfl⟩

theorem LogsOnly.append {first second : List Action} :
    LogsOnly first → LogsOnly second → LogsOnly (first ++ second) := by
  rintro ⟨records, rfl⟩ ⟨later, rfl⟩
  exact ⟨records ++ later, (List.map_append ..).symm⟩

theorem LogsOnly.images {actions : List Action} : LogsOnly actions → images actions = [] := by
  rintro ⟨records, rfl⟩
  simp [Window.images, List.filterMap_map]

/-- A turn that was finished: the windows before it and after its events, what the events wrote, and
the image that was drawn in the end. -/
structure Stage where
  turn : Turn
  before : Window
  noted : List Action
  handled : Window
  drawn : Drawing

namespace Stage

def after (s : Stage) : Window := s.handled.play.2

def actions (s : Stage) : List Action := s.noted ++ s.handled.play.1 ++ [.present s.drawn]

end Stage

def stage? (style : Style) (path : String) (t : Turn) (w : Window) : Option Stage :=
  match handleAll path t.arrivals w with
  | (_, .error _) => none
  | (noted, .ok handled) =>
    match handled.play.2.drawing style with
    | .error _ => none
    | .ok drawn => some ⟨t, w, noted, handled, drawn⟩

/-- The turns that are finished, in order, up to one that quits or fails. -/
def stages (style : Style) (path : String) : List Turn → Window → List Stage
  | [], _ => []
  | t :: rest, w =>
    match stage? style path t w with
    | none => []
    | some s => s :: if s.after.running then stages style path rest s.after else []

structure Stage.Finishes (style : Style) (path : String) (s : Stage) : Prop where
  events : handleAll path s.turn.arrivals s.before = (s.noted, .ok s.handled)
  image : s.after.drawing style = .ok s.drawn

theorem stage?_eq_some {s : Stage} : stage? style path t w = some s ↔
    s.turn = t ∧ s.before = w ∧ s.Finishes style path := by
  unfold stage?
  constructor
  · intro h
    split at h
    · cases h
    · next noted handled hevents =>
      split at h
      · cases h
      · next drawn himage =>
        cases h
        exact ⟨rfl, rfl, hevents, himage⟩
  · rintro ⟨rfl, rfl, hevents, himage⟩
    rw [hevents]
    dsimp only
    rw [show s.handled.play.2.drawing style = .ok s.drawn from himage]

private theorem handle_logs (path : String) (rom : Option (List UInt8)) (w : Window)
    (event : Event) : LogsOnly (w.handle path rom event).1 := by
  unfold handle
  split
  case h_3 =>
    unfold reload
    split
    · exact .nil
    · split
      · exact .nil
      · exact .info _
  case h_4 => exact .info _
  all_goals exact .nil

theorem handleAll_logs (path : String) (arrivals : List Arrival) (w : Window) :
    LogsOnly (handleAll path arrivals w).1 := by
  induction arrivals generalizing w with
  | nil => exact .nil
  | cons a rest ih =>
    have hfirst := handle_logs path a.rom w a.event
    rw [handleAll]
    generalize w.handle path a.rom a.event = result at hfirst ⊢
    obtain ⟨actions, e | next⟩ := result
    · exact hfirst
    · exact hfirst.append (ih next)

theorem play_of_paused (h : w.paused = true) : w.play = ([], w) := by
  rw [play, if_pos h]

section Played
variable {machine : Machine} {f : Fault} (hplaying : w.paused = false)
include hplaying

theorem play_of_frame (h : { w.machine with keypad := w.held }.advanceFrame = (machine, none)) :
    w.play = ([], { w with machine }) := by
  rw [play, hplaying, h]
  rfl

theorem play_of_fault (h : { w.machine with keypad := w.held }.advanceFrame = (machine, some f)) :
    w.play = ((Log.Record.fault f).map .log, { w with machine, paused := true }) := by
  rw [play, hplaying, h]
  rfl

end Played

theorem play_logs (w : Window) : LogsOnly w.play.1 := by
  cases hpaused : w.paused with
  | true =>
    rw [play_of_paused hpaused]
    exact .nil
  | false =>
    cases hframe : { w.machine with keypad := w.held }.advanceFrame with
    | mk machine fault =>
      cases fault with
      | none =>
        rw [play_of_frame hpaused hframe]
        exact .nil
      | some f =>
        rw [play_of_fault hpaused hframe]
        exact ⟨_, rfl⟩

/-- A turn that is finished draws one image, after all else that it does. -/
theorem Stage.Finishes.images {s : Stage} (h : s.Finishes style path) :
    images s.actions = [s.drawn] := by
  have hnoted := handleAll_logs path s.turn.arrivals s.before
  rw [h.events] at hnoted
  rw [actions, images_append, (hnoted.append (play_logs s.handled)).images]
  rfl

theorem Stage.Finishes.turn {s : Stage} (h : s.Finishes style path) :
    Window.turn style path s.turn s.before = (s.actions, .ok s.after) := by
  rw [Window.turn, h.events]
  dsimp only
  rw [show s.handled.play.2.drawing style = .ok s.drawn from h.image]
  rfl

theorem turn_of_stage {s : Stage} (h : stage? style path t w = some s) :
    turn style path t w = (s.actions, .ok s.after) := by
  obtain ⟨rfl, rfl, hs⟩ := stage?_eq_some.mp h
  exact hs.turn

/-- A turn that fails draws no image. -/
theorem turn_of_no_stage (h : stage? style path t w = none) :
    ∃ actions e, turn style path t w = (actions, .error e) ∧ images actions = [] := by
  have hnoted := handleAll_logs path t.arrivals w
  unfold stage? at h
  rw [turn]
  generalize handleAll path t.arrivals w = result at hnoted h ⊢
  obtain ⟨actions, e | handled⟩ := result
  · exact ⟨actions, e, rfl, hnoted.images⟩
  · dsimp only at h ⊢
    cases himage : handled.play.2.drawing style with
    | error e => exact ⟨_, e, rfl, (hnoted.append (play_logs handled)).images⟩
    | ok drawn =>
      rw [himage] at h
      cases h

theorem stages_cons {s : Stage} {later : List Stage}
    (h : stages style path turns w = s :: later) : stage? style path s.turn w = some s ∧
      (later = [] ∨ ∃ rest, later = stages style path rest s.after) := by
  cases turns with
  | nil => cases h
  | cons t rest =>
    rw [stages] at h
    cases hs : stage? style path t w with
    | none =>
      rw [hs] at h
      cases h
    | some first =>
      rw [hs] at h
      cases h
      refine ⟨(stage?_eq_some.mp hs).1 ▸ hs, ?_⟩
      split
      · exact .inr ⟨rest, rfl⟩
      · exact .inl rfl

theorem finishes_of_mem_stages {s : Stage} (h : s ∈ stages style path turns w) :
    s.Finishes style path := by
  induction turns generalizing w with
  | nil => cases h
  | cons t rest ih =>
    rw [stages] at h
    split at h
    · cases h
    · next first hfirst =>
      rcases List.mem_cons.mp h with rfl | h
      · exact (stage?_eq_some.mp hfirst).2.2
      · split at h
        · exact ih h
        · cases h

/-- What follows a stage starts with the window that it left. -/
theorem stages_split {s : Stage} {earlier later : List Stage}
    (h : stages style path turns w = earlier ++ s :: later) :
    later = [] ∨ ∃ rest, later = stages style path rest s.after := by
  induction earlier generalizing turns w with
  | nil => exact (stages_cons h).2
  | cons first earlier ih =>
    rcases (stages_cons h).2 with hnone | ⟨rest, hrest⟩
    · exact absurd hnone (by simp)
    · exact ih hrest.symm

/-- The turn with which the user quits when no other turn is left. -/
def lastTurn : Turn := ⟨[⟨.quit, none⟩]⟩

theorem run_of_opens (h : style.opens = true) (path : String) (turns : List Turn)
    (machine : Machine) : run style path turns machine = live style path turns machine :=
  if_pos h

theorem run_of_refused (h : style.opens = false) (path : String) (turns : List Turn)
    (machine : Machine) :
    run style path turns machine = ([], .error (.noWindow style.width style.height)) :=
  if_neg (Bool.eq_false_iff.mp h)

end Window
end Chip8
