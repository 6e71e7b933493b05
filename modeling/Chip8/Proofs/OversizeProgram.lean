import Chip8.Proofs.HeadlessReport
import Chip8.Proofs.WindowSession

/-! Programs that do not fit in memory: at the start of a session they are reported, at a reset of
its window they are not. -/
namespace Chip8

section Failing
variable {ε ε' α β : Type} {e : ε}

private theorem bind_ne_error {x : Except ε α} {f : α → Except ε β} (hx : x ≠ .error e)
    (hf : ∀ a, f a ≠ .error e) : x >>= f ≠ .error e := by
  cases x with
  | error e' => exact fun h => hx (congrArg Except.error (Except.error.inj h))
  | ok a => exact hf a

private theorem map_eq_error_iff {x : Except ε α} {f : α → β} :
    x.map f = .error e ↔ x = .error e := by
  cases x with
  | error e' => exact (Except.error.injEq ..).to_iff.trans (Except.error.injEq ..).to_iff.symm
  | ok a => exact iff_of_false nofun nofun

private theorem mapError_ne_error {x : Except ε' α} {f : ε' → ε} (hf : ∀ e', f e' ≠ e) :
    x.mapError f ≠ .error e := by
  cases x with
  | error e' => exact fun h => hf e' (Except.error.inj h)
  | ok a => exact nofun

private theorem Setting.require_ne_error {setting : Setting α} {e' : ε} (h : e' ≠ e) :
    setting.require e' ≠ .error e := by
  cases setting with
  | given value => exact nofun
  | blank => exact fun heq => h (Except.error.inj heq)

end Failing

/-- The turn asks for a reset while the program file is this large, too large for the memory, and
every reset before that one loads it. -/
def Turn.ResetsOnto (t : Turn) (large : Oversize) : Prop :=
  ∃ before image after, t.arrivals = before ++ ⟨.down .backspace, some image⟩ :: after ∧
    programLimit < image.length ∧ large = ⟨image.length⟩ ∧
    ∀ a ∈ before, a.event = .down .backspace →
      ∃ fitting, a.rom = some fitting ∧ fitting.length ≤ programLimit

namespace Window
variable {style : Style} {path : String} {rom : Option (List UInt8)} {t : Turn} {w : Window}
  {event : Event} {arrivals : List Arrival} {a : Arrival} {e : HostError} {large : Oversize}

def refusal? (path : String) : Option (List UInt8) → Option HostError
  | none => some (.missingFile path)
  | some image => if programLimit < image.length then some (.oversize ⟨image.length⟩) else none

private theorem refusal?_eq_oversize_iff (path : String) :
    refusal? path rom = some (.oversize large) ↔
    ∃ image, rom = some image ∧ programLimit < image.length ∧ large = ⟨image.length⟩ := by
  cases rom with
  | none => simp [refusal?]
  | some image =>
    by_cases hlarge : programLimit < image.length
    · simp [refusal?, hlarge, eq_comm]
    · simp [refusal?, hlarge]

private theorem refusal?_eq_none_iff (path : String) :
    refusal? path rom = none ↔ ∃ fitting, rom = some fitting ∧ fitting.length ≤ programLimit := by
  cases rom with
  | none => simp [refusal?]
  | some image => simp [refusal?]

private theorem reload_error_iff (w : Window) :
    (w.reload path rom).2 = .error e ↔ refusal? path rom = some e := by
  cases rom with
  | none => simp [reload, refusal?]
  | some image =>
    by_cases hlarge : programLimit < image.length
    · simp [reload, refusal?, Machine.loadProgram, hlarge]
    · simp [reload, refusal?, Machine.loadProgram, hlarge]

private theorem handle_error_iff (w : Window) : (w.handle path rom event).2 = .error e ↔
    event = .down .backspace ∧ refusal? path rom = some e := by
  by_cases hreset : event = .down .backspace
  · subst hreset
    exact (reload_error_iff w).trans (and_iff_right rfl).symm
  · refine iff_of_false (fun h => ?_) fun h => hreset h.1
    unfold handle at h
    split at h
    case h_3 => exact hreset rfl
    all_goals cases h

/-- What keeps an event from being handled: only a reset needs the program file. -/
def obstacle? (path : String) (a : Arrival) : Option HostError :=
  if a.event = .down .backspace then refusal? path a.rom else none

private theorem obstacle?_eq_some_iff :
    obstacle? path a = some e ↔ a.event = .down .backspace ∧ refusal? path a.rom = some e := by
  by_cases hreset : a.event = .down .backspace
  · simp [obstacle?, hreset]
  · simp [obstacle?, hreset]

theorem obstacle?_eq_none_iff : obstacle? path a = none ↔ (a.event = .down .backspace →
    ∃ fitting, a.rom = some fitting ∧ fitting.length ≤ programLimit) := by
  by_cases hreset : a.event = .down .backspace
  · simp [obstacle?, hreset, refusal?_eq_none_iff]
  · simp [obstacle?, hreset]

/-- The first event that cannot be handled is the one that events fail at. -/
theorem handleAll_error_iff (w : Window) : (handleAll path arrivals w).2 = .error e ↔
    arrivals.findSome? (obstacle? path) = some e := by
  induction arrivals generalizing w with
  | nil => exact iff_of_false nofun nofun
  | cons a rest ih =>
    have hfirst (e : HostError) : (w.handle path a.rom a.event).2 = .error e ↔
        obstacle? path a = some e := (handle_error_iff w).trans obstacle?_eq_some_iff.symm
    rw [handleAll, List.findSome?_cons]
    generalize w.handle path a.rom a.event = result at hfirst ⊢
    obtain ⟨actions, e' | next⟩ := result
    · rw [(hfirst e').mp rfl]
      dsimp only
      rw [Except.error.injEq, Option.some.injEq]
    · have hhandled : obstacle? path a = none :=
        Option.eq_none_iff_forall_ne_some.mpr fun e h => by cases (hfirst e).mpr h
      rw [hhandled]
      exact ih next

private theorem resetsOnto_iff (path : String) :
    t.ResetsOnto large ↔ t.arrivals.findSome? (obstacle? path) = some (.oversize large) := by
  simp only [List.findSome?_eq_some_iff, obstacle?_eq_some_iff, obstacle?_eq_none_iff,
    refusal?_eq_oversize_iff]
  constructor
  · rintro ⟨before, image, after, harrivals, hlarge, rfl, hbefore⟩
    exact ⟨before, _, after, harrivals, ⟨rfl, image, rfl, hlarge, rfl⟩, hbefore⟩
  · rintro ⟨before, ⟨event, rom⟩, after, harrivals, ⟨rfl, image, rfl, hlarge, rfl⟩, hbefore⟩
    exact ⟨before, image, after, harrivals, hlarge, rfl, hbefore⟩

private theorem drawing_ne_oversize (style : Style) (w : Window) (large : Oversize) :
    drawing style w ≠ .error (.oversize large) := by
  refine bind_ne_error (Setting.require_ne_error nofun) fun scale => ?_
  refine bind_ne_error (mapError_ne_error nofun) fun drawn => ?_
  split <;> exact nofun

/-- A turn runs into a program that does not fit only by a reset. -/
theorem turn_oversize_iff (t : Turn) (w : Window) :
    (turn style path t w).2 = .error (.oversize large) ↔ t.ResetsOnto large := by
  rw [resetsOnto_iff path, ← handleAll_error_iff w, turn]
  generalize handleAll path t.arrivals w = result
  obtain ⟨actions, e | handled⟩ := result
  · rfl
  · dsimp only
    cases hdrawing : drawing style handled.play.2 with
    | error e =>
      refine iff_of_false (fun h => ?_) (fun h => ?_)
      · cases h
        exact drawing_ne_oversize style _ large hdrawing
      · cases h
    | ok drawn =>
      refine iff_of_false (fun h => ?_) (fun h => ?_)
      · cases h
      · cases h

end Window

namespace Host
open CommandLine Window
variable {platform : Platform} {o : Options} {terminal : Bool} {rom : Option (List UInt8)}
  {turns : List Turn} {machine : Machine} {large : Oversize}

private theorem paletteOf_ne_oversize (o : Options) (large : Oversize) :
    paletteOf o ≠ .error (.oversize large) := by
  refine bind_ne_error (Setting.require_ne_error nofun) fun name => ?_
  cases Palette.ofName name <;> exact nofun

private theorem streamOf_ne_oversize (o : Options) (large : Oversize) :
    streamOf o ≠ .error (.oversize large) := by
  refine bind_ne_error (Setting.require_ne_error nofun) fun seed => ?_
  cases Random.Stream.ofSeed? seed <;> exact nofun

private theorem storedFrame_ne_oversize (room : Extent.Room) (o : Options) (path : String)
    (frame : Screen) (large : Oversize) :
    storedFrame room o path frame ≠ .error (.oversize large) := by
  refine bind_ne_error (paletteOf_ne_oversize o large) fun palette => ?_
  refine bind_ne_error (Setting.require_ne_error nofun) fun scale => ?_
  refine bind_ne_error (mapError_ne_error nofun) fun drawn => ?_
  cases ImageFile.Format.storing path <;> exact nofun

private theorem saveFrame_ne_oversize (room : Extent.Room) (o : Options) (frame : Screen)
    (large : Oversize) : (saveFrame room o frame).2 ≠ .error (.oversize large) := by
  unfold saveFrame
  split
  · exact nofun
  · exact nofun
  · next path _ _ =>
    have hstored := storedFrame_ne_oversize room o path frame large
    cases hresult : storedFrame room o path frame with
    | error e => exact fun h => hstored (hresult.trans (congrArg Except.error (Except.error.inj h)))
    | ok drawn => exact nofun

private theorem headless_ne_oversize (room : Extent.Room) (o : Options) (frames : Int)
    (logger : Log.Logger) (m : Machine) (large : Oversize) :
    (headless room o frames logger m).2 ≠ .error (.oversize large) := by
  unfold headless
  cases m.run frames logger true o.trace with
  | error e => exact nofun
  | ok r => exact fun h => saveFrame_ne_oversize room o _ large (map_eq_error_iff.mp h)

private theorem run_oversize_iff {style : Style} {path : String} :
    (Window.run style path turns machine).2 = .error (.oversize large) ↔ style.opens = true ∧
      ∃ v ∈ visits style path (turns ++ [lastTurn]) (start machine), v.1.ResetsOnto large := by
  cases hopens : style.opens with
  | true =>
    rw [run_of_opens hopens, and_iff_right rfl]
    refine loop_error_iff.trans ?_
    simp only [turn_oversize_iff]
  | false =>
    rw [run_of_refused hopens]
    exact iff_of_false nofun nofun

private theorem played_oversize_iff {logger : Log.Logger} :
    (played platform o turns logger machine).2 = .error (.oversize large) ↔ ∃ style,
      o.frames = none ∧ Host.style platform o = .ok style ∧
      (Window.run style o.rom turns machine).2 = .error (.oversize large) := by
  unfold played
  cases o.frames with
  | some frames =>
    refine iff_of_false (fun h => ?_) nofun
    cases frames with
    | blank => cases h
    | given frames => exact headless_ne_oversize platform.room o frames logger machine large h
  | none =>
    unfold windowed
    cases hstyle : Host.style platform o with
    | error e =>
      refine iff_of_false (fun h => ?_) nofun
      cases h
      exact paletteOf_ne_oversize o large (map_eq_error_iff.mp hstyle)
    | ok style =>
      simp only [map_eq_error_iff, true_and, Except.ok.injEq, exists_eq_left']

private theorem status_of_finished {actions : List Action} {status : Except HostError Nat}
    (h : prepare o rom = .finished actions status) : status ≠ .error (.oversize large) := by
  unfold prepare at h
  split at h
  · split at h
    · cases h
      exact nofun
    · cases h
      exact nofun
  · split at h
    · next e _ hstream =>
      cases h
      exact fun heq => streamOf_ne_oversize o large (by cases heq; exact hstream)
    · cases h
      exact nofun
    · split at h
      · cases h
        exact nofun
      · cases h

private theorem status_oversize_iff {s : Session}
    (hs : session platform o terminal rom turns = .ok s) (large : Oversize) :
    s.status = .error (.oversize large) ↔ ∃ machine style,
      prepare o rom = .loaded machine ∧ o.frames = none ∧ Host.style platform o = .ok style ∧
      (Window.run style o.rom turns machine).2 = .error (.oversize large) := by
  obtain ⟨logger, actions, status, hprepare, rfl⟩ | ⟨logger, machine, hprepare, rfl⟩ :=
    session_cases hs
  · rw [hprepare]
    exact iff_of_false (status_of_finished hprepare) nofun
  · rw [hprepare, played_oversize_iff]
    simp only [Preparation.loaded.injEq, exists_and_left, exists_eq_left']

/-- A program that does not fit when a session starts is reported in the log, and the session ends
with status one. Later on nothing catches it: the session fails if its window is opened and enters
a turn that resets the machine onto such a program, and in no other case. So the session does not
fail while every reset finds a program that fits. -/
theorem oversize_program_reported_but_for_reset (hruns : o.disassemble = false) {name : String}
    {level : Log.Level} (hname : o.logLevel = .given name)
    (hlevel : Log.Level.ofName name = .ok level) (platform : Platform) (terminal : Bool)
    (rom : Option (List UInt8)) (turns : List Turn) :
    ∃ s, session platform o terminal rom turns = .ok s ∧
      (∀ random image, streamOf o = .ok random → rom = some image →
        programLimit < image.length →
        s.actions = [.log (.error (Oversize.message ⟨image.length⟩))] ∧ s.status = .ok 1) ∧
      (∀ large, s.status = .error (.oversize large) ↔ ∃ machine style,
        prepare o rom = .loaded machine ∧ o.frames = none ∧ Host.style platform o = .ok style ∧
        style.opens = true ∧
        ∃ v ∈ visits style o.rom (turns ++ [lastTurn]) (start machine), v.1.ResetsOnto large) ∧
      ((∀ t ∈ turns, ∀ a ∈ t.arrivals, a.event = .down .backspace →
          ∀ image, a.rom = some image → image.length ≤ programLimit) →
        ∀ large, s.status ≠ .error (.oversize large)) := by
  obtain ⟨logger, hlogger⟩ := loggerOf_of_level hname hlevel terminal
  obtain ⟨s, hs⟩ : ∃ s, session platform o terminal rom turns = .ok s := by
    rw [session, hlogger]
    exact ⟨_, rfl⟩
  have hstatus := status_oversize_iff hs
  simp only [run_oversize_iff] at hstatus
  refine ⟨s, hs, ?_, hstatus, fun hfits large hfails => ?_⟩
  · rintro random image hrandom rfl hlarge
    have hprepare : prepare o (some image) =
        .finished [.log (.error (Oversize.message ⟨image.length⟩))] (.ok 1) := by
      rw [prepare, hruns, hrandom]
      dsimp only
      rw [Machine.loadProgram, if_pos hlarge]
      rfl
    rw [session, hlogger, hprepare] at hs
    cases hs
    exact ⟨rfl, rfl⟩
  · obtain ⟨machine, style, -, -, -, -, v, hv, before, image, after, harrivals, hlarge, -⟩ :=
      (hstatus large).mp hfails
    have hreset : ⟨.down .backspace, some image⟩ ∈ v.1.arrivals :=
      harrivals ▸ List.mem_append_right before List.mem_cons_self
    rcases List.mem_append.mp (mem_of_visit hv) with hturn | hlast
    · exact Nat.not_lt.mpr (hfits v.1 hturn _ hreset rfl image rfl) hlarge
    · rw [List.mem_singleton.mp hlast] at hreset
      cases List.mem_singleton.mp hreset

/-- One byte too many: the program is reported, and no window is opened. -/
theorem oversize_program_reported_by_a_byte :
    ∃ s, session .permissive { rom := "rom.ch8" } false (some (List.replicate 3585 0)) [] = .ok s ∧
      s.actions = [.log (.error (Oversize.message ⟨3585⟩))] ∧ s.status = .ok 1 := by
  have hlarge : programLimit < (List.replicate 3585 (0 : UInt8)).length := by
    rw [List.length_replicate]
    decide
  have hruns : ({ rom := "rom.ch8" } : Options).disassemble = false := rfl
  obtain ⟨s, hs, hreported, -, -⟩ := oversize_program_reported_but_for_reset hruns rfl rfl
    .permissive false (some (List.replicate 3585 0)) []
  have hstart := hreported _ _ rfl rfl hlarge
  rw [List.length_replicate] at hstart
  exact ⟨s, hs, hstart⟩

/-- The file grows by a byte too many while its window is open: the reset stops the host, and
nothing is written about it. -/
theorem oversize_program_unreported_at_reset :
    let turns : List Turn := [⟨[⟨.down .backspace, some (List.replicate 3585 0)⟩]⟩]
    ∃ o style s, parse ["rom.ch8"] = .ok (.run o) ∧
      session .permissive o false (some []) turns = .ok s ∧
      s.status = .error (.oversize ⟨3585⟩) ∧
      s.actions = .log (loadedRecord o) :: Window.opening style := by
  intro turns
  let style : Style := ⟨.permissive, .given 8, ⟨⟨0, 255, 0⟩, ⟨0, 0, 0⟩⟩⟩
  have hlarge : programLimit < (List.replicate 3585 (0 : UInt8)).length := by
    rw [List.length_replicate]
    decide
  have hrun (m : Machine) : Window.run style "rom.ch8" turns m =
      (Window.opening style, .error (.oversize ⟨3585⟩)) := by
    have hreload : (start m).reload "rom.ch8" (some (List.replicate 3585 0)) =
        ([], .error (.oversize ⟨3585⟩)) := by
      rw [reload, Machine.loadProgram, if_pos hlarge, List.length_replicate]
    have hloop : loop style "rom.ch8" turns (start m) = ([], .error (.oversize ⟨3585⟩)) := by
      simp only [turns, loop, turn, handleAll, handle, hreload]
    rw [run_of_opens rfl]
    simp only [live, hloop, List.append_nil]
  have hlogger : loggerOf { rom := "rom.ch8" } false =
      .ok ⟨Log.Logger.defaultName, .info, false, true⟩ := rfl
  have hload : prepare { rom := "rom.ch8" } (some []) = .loaded (.powerOn ⟨0, 0⟩) := rfl
  have hstyle : Host.style .permissive { rom := "rom.ch8" } = .ok style := rfl
  have hs := session_of_window hlogger hload rfl hstyle turns
  rw [hrun] at hs
  exact ⟨_, style, _, rfl, hs, rfl, rfl⟩

end Host
end Chip8
