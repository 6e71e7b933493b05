import Chip8.Proofs.FaultStop
import Chip8.Proofs.RegisterDump
import Chip8.Proofs.WindowTurns

/-! A window that has met a fault is frozen until a reset: whatever happens to it, it tries the
faulting instruction again or does nothing. -/
namespace Chip8

/-- What is written of a fault: its summary, and below it the lines of its dump. -/
def Fault.records (f : Fault) : List Log.Record :=
  ⟨.critical, f.summary⟩ :: f.snapshot.lines.map fun line => ⟨.critical, "  " ++ line⟩

namespace Machine
variable {m next last : Machine} {f : Fault} {n : Nat}

private theorem step_le_of_cycle (hc : m.cycle = (next, none)) : next.step.toInt ≤ 14 := by
  have hcount := cycle_counted hc
  by_cases h : 15 ≤ m.step + 1
  · rw [(hcount.last h).1]
    decide
  · rw [(hcount.inner h).1]
    have hlt := mt Int32.le_iff_toInt_le.mpr h
    have hfifteen : (15 : Int32).toInt = 15 := rfl
    omega

private theorem record_of_cycle_fault (h : m.cycle = (m, some f)) :
    Log.Record.fault f = f.records := by
  obtain ⟨v, -, rfl⟩ := Option.map_eq_some_iff.mp (cycle_eq_fault_iff.mp h)
  obtain ⟨hv, htimers⟩ := m.advance.snapshot_dumps m.word.toNat (m.pc.toNat % 4096 : Nat)
  exact Log.Record.fault_eq hv htimers

private theorem cycle_of_cycles_fault (h : m.cycles n = (last, some f)) :
    last.cycle = (last, some f) := by
  induction n generalizing m with
  | zero => cases h
  | succ n ih =>
    rw [cycles] at h
    obtain ⟨next, hc⟩ | ⟨g, hc⟩ := m.cycle_cases
    · rw [hc] at h
      exact ih h
    · rw [hc] at h
      cases h
      exact hc

private theorem stuck_of_advanceFrame (h : m.advanceFrame = (last, some f)) :
    last.cycle = (last, some f) ∧ last.step.toInt ≤ 14 := by
  rw [advanceFrame_eq_cycles] at h
  refine ⟨cycle_of_cycles_fault h, ?_⟩
  have hstart : m.step.toInt ≤ 14 := by
    by_contra hlate
    have hnone : m.cyclesOfFrames 1 = 0 := by
      unfold cyclesOfFrames
      omega
    rw [hnone] at h
    cases h
  rw [← show (m.cycles (m.cyclesOfFrames 1)).1 = last from congrArg Prod.fst h]
  exact cycles_keep (P := fun s => s.step.toInt ≤ 14) (fun _ _ _ hc => step_le_of_cycle hc) _ m
    hstart

end Machine

namespace Window
variable {style : Style} {path : String} {w : Window} {turns : List Turn} {f : Fault}
  {machine : Machine} {event : Event}

def pauses (events : List Event) : Nat := events.count (.down (.letter 'p'))

def pauseRecords (paused : Bool) : Nat → List Log.Record
  | 0 => []
  | n + 1 => .info (if paused then "Resumed" else "Paused") :: pauseRecords (!paused) n

private theorem handle_of_idle (path : String) (rom : Option (List UInt8)) (w : Window)
    (hreset : event ≠ .down .backspace) (hpause : event ≠ .down (.letter 'p')) :
    ∃ held running,
      w.handle path rom event = ([], .ok ⟨w.machine, held, w.paused, running⟩) := by
  have hhold (key : HostKey) (down : Bool) :
      ∃ held running, w.hold key down = ⟨w.machine, held, w.paused, running⟩ := by
    unfold hold
    cases key.pad? <;> exact ⟨_, _, rfl⟩
  unfold handle
  split
  · exact ⟨_, _, rfl⟩
  · exact ⟨_, _, rfl⟩
  · exact absurd rfl hreset
  · exact absurd rfl hpause
  · next key _ _ _ =>
    obtain ⟨held, running, heq⟩ := hhold key true
    exact ⟨held, running, by rw [heq]⟩
  · next key =>
    obtain ⟨held, running, heq⟩ := hhold key false
    exact ⟨held, running, by rw [heq]⟩
  · exact ⟨_, _, rfl⟩

private theorem handleAll_of_no_reset (path : String) {t : Turn} (w : Window)
    (h : .down .backspace ∉ t.events) : ∃ held running, handleAll path t.arrivals w =
      ((pauseRecords w.paused (pauses t.events)).map .log,
        .ok ⟨w.machine, held, w.paused ^^ decide (pauses t.events % 2 = 1), running⟩) := by
  obtain ⟨arrivals⟩ := t
  unfold Turn.events at h ⊢
  induction arrivals generalizing w with
  | nil => exact ⟨w.held, w.running, by simp [handleAll, pauses, pauseRecords]⟩
  | cons a rest ih =>
    rw [List.map_cons] at h ⊢
    have hreset : a.event ≠ .down .backspace := fun heq => h (heq ▸ List.mem_cons_self)
    have hrest := fun he => h (List.mem_cons_of_mem a.event he)
    dsimp only at ih
    generalize rest.map Arrival.event = events at ih hrest ⊢
    by_cases hpause : a.event = .down (.letter 'p')
    · obtain ⟨held, running, hlater⟩ := ih { w with paused := !w.paused } hrest
      have hcount : pauses (a.event :: events) = pauses events + 1 := by
        rw [hpause]
        exact List.count_cons_self
      have hparity : decide ((pauses events + 1) % 2 = 1) = !decide (pauses events % 2 = 1) := by
        rcases Nat.mod_two_eq_zero_or_one (pauses events) with hn | hn <;> simp [Nat.add_mod, hn]
      have hfirst : w.handle path a.rom (.down (.letter 'p')) =
          (info (if w.paused then "Resumed" else "Paused"),
            .ok { w with paused := !w.paused }) := rfl
      refine ⟨held, running, ?_⟩
      rw [hcount, handleAll, hpause, hfirst]
      dsimp only
      rw [hlater, hparity, Bool.not_xor, ← Bool.xor_not]
      rfl
    · obtain ⟨held, running, hfirst⟩ := handle_of_idle path a.rom w hreset hpause
      obtain ⟨held', running', hlater⟩ := ih ⟨w.machine, held, w.paused, running⟩ hrest
      have hcount : pauses (a.event :: events) = pauses events := List.count_cons_of_ne hpause
      refine ⟨held', running', ?_⟩
      rw [handleAll, hfirst, hcount]
      dsimp only
      rw [hlater]
      rfl

/-- A window that is paused at a fault, with the faulting machine but for its keys. -/
structure Frozen (machine : Machine) (w : Window) : Prop where
  machine : w.machine = { machine with keypad := w.machine.keypad }
  paused : w.paused = true

/-- A turn that does not get past the fault of a frozen window: an odd number of pauses runs into
the same fault once more, an even number into nothing. -/
structure Stage.Futile (s : Stage) (machine : Machine) (f : Fault) (drawn : Drawing) : Prop where
  frozen : Frozen machine s.after
  image : s.drawn = drawn
  actions : s.actions = ((pauseRecords true (pauses s.turn.events)).map .log ++
    if pauses s.turn.events % 2 = 1 then f.records.map .log else []) ++
      [.present drawn]

private theorem play_of_paused_at_fault (hf : machine.cycle = (machine, some f))
    (h14 : machine.step.toInt ≤ 14)
    (hmachine : w.machine = { machine with keypad := w.machine.keypad }) :
    Frozen machine w.play.2 ∧
      w.play.1 = if w.paused then [] else f.records.map .log := by
  cases hpaused : w.paused with
  | true =>
    rw [play_of_paused hpaused]
    exact ⟨⟨hmachine, hpaused⟩, rfl⟩
  | false =>
    have hretry : { w.machine with keypad := w.held }.advanceFrame =
        ({ machine with keypad := w.held }, some f) := by
      rw [hmachine]
      exact Machine.advanceFrame_of_fault (Machine.cycle_fault_keypad hf w.held) h14
    rw [play_of_fault hpaused hretry, Machine.record_of_cycle_fault hf]
    exact ⟨⟨rfl, rfl⟩, rfl⟩

section AtFault
variable {drawn : Drawing} (hf : machine.cycle = (machine, some f)) (h14 : machine.step.toInt ≤ 14)
include hf h14

/-- Without a reset a turn of a frozen window is finished, and it is futile. -/
theorem Frozen.turn (h : Frozen machine w) (hdrawn : drawing style w = .ok drawn) {t : Turn}
    (hevents : .down .backspace ∉ t.events) :
    ∃ s, stage? style path t w = some s ∧ s.Futile machine f drawn := by
  obtain ⟨held, running, hhandled⟩ := handleAll_of_no_reset path w hevents
  rw [h.paused, Bool.true_xor] at hhandled
  generalize hw : Window.mk w.machine held _ running = handled at hhandled
  obtain ⟨hfrozen, hplayed⟩ := play_of_paused_at_fault (w := handled) hf h14 (hw ▸ h.machine)
  have himage : drawing style handled.play.2 = .ok drawn := by
    rw [← hdrawn]
    refine drawing_congr ?_
    rw [hfrozen.machine, h.machine]
  refine ⟨⟨t, w, _, handled, drawn⟩, stage?_eq_some.mpr ⟨rfl, rfl, hhandled, himage⟩, hfrozen, rfl,
    ?_⟩
  unfold Stage.actions
  dsimp only
  rw [hplayed, ← hw]
  by_cases hodd : pauses t.events % 2 = 1 <;> simp [hodd]

theorem Frozen.stages {following rest : List Stage} (h : Frozen machine w)
    (hdrawn : drawing style w = .ok drawn)
    (hstages : stages style path turns w = following ++ rest)
    (hevents : ∀ s ∈ following, .down .backspace ∉ s.turn.events) :
    ∀ s ∈ following, s.Futile machine f drawn := by
  induction following generalizing turns w with
  | nil => exact fun s hs => absurd hs List.not_mem_nil
  | cons first following ih =>
    obtain ⟨hfirst, hlater⟩ := stages_cons hstages
    obtain ⟨s, hs, hfutile⟩ := h.turn hf h14 hdrawn (hevents first List.mem_cons_self)
    obtain rfl : first = s := Option.some.inj (hfirst.symm.trans hs)
    have himage : drawing style first.after = .ok drawn :=
      hfutile.image ▸ (stage?_eq_some.mp hs).2.2.image
    intro s hs
    rcases List.mem_cons.mp hs with rfl | hs
    · exact hfutile
    · have hrest := fun later hlater => hevents later (List.mem_cons_of_mem first hlater)
      rcases hlater with hnone | ⟨turns, hturns⟩
      · rw [(List.append_eq_nil_iff.mp hnone).1] at hs
        exact absurd hs List.not_mem_nil
      · exact ih hfutile.frozen himage hturns.symm hrest s hs

end AtFault

/-- Some turn of a window meets a fault. In the turns that follow it, up to a reset, the machine
stays as it is but for its keys, the same image is drawn, the window ends up paused, and the log
tells of the same fault once more in a turn with an odd number of pauses, and of pauses alone in any
other. No such turn fails. -/
theorem fault_freezes_window {earlier following rest : List Stage} {s : Stage}
    (hstages : stages style path turns w = earlier ++ s :: (following ++ rest))
    (hplaying : s.handled.paused = false)
    (hfault : { s.handled.machine with keypad := s.handled.held }.advanceFrame = (machine, some f))
    (hevents : ∀ later ∈ following, .down .backspace ∉ later.turn.events) :
    s.after.machine = machine ∧
    (∀ later ∈ following,
      turn style path later.turn later.before = (later.actions, .ok later.after) ∧
      later.Futile machine f s.drawn) ∧
    ∀ stage ∈ s :: following, ∀ t : Turn, .down .backspace ∉ t.events →
      ∃ next : Stage, turn style path t stage.after = (next.actions, .ok next.after) := by
  have hplay := play_of_fault hplaying hfault
  have hafter : s.after = { s.handled with machine, paused := true } := congrArg Prod.snd hplay
  obtain ⟨hf, h14⟩ := Machine.stuck_of_advanceFrame hfault
  have hfrozen : Frozen machine s.after := by
    rw [hafter]
    exact ⟨rfl, rfl⟩
  have hfinishes (stage : Stage) (h : stage ∈ s :: following) : stage.Finishes style path :=
    finishes_of_mem_stages (hstages ▸ List.mem_append_right _ (List.mem_append_left rest h))
  have himage : drawing style s.after = .ok s.drawn := (hfinishes s List.mem_cons_self).image
  have hfutile : ∀ later ∈ following, later.Futile machine f s.drawn := by
    rcases stages_split hstages with hnone | ⟨turns, hturns⟩
    · rw [(List.append_eq_nil_iff.mp hnone).1]
      exact fun later hlater => absurd hlater List.not_mem_nil
    · exact hfrozen.stages hf h14 himage hturns.symm hevents
  refine ⟨by rw [hafter], ?_, ?_⟩
  · intro later hlater
    exact ⟨(hfinishes later (List.mem_cons_of_mem s hlater)).turn, hfutile later hlater⟩
  · intro stage hstage t ht
    have hstuck : Frozen machine stage.after ∧ drawing style stage.after = .ok s.drawn := by
      have hdrawn := (hfinishes stage hstage).image
      rcases List.mem_cons.mp hstage with rfl | hlater
      · exact ⟨hfrozen, hdrawn⟩
      · exact ⟨(hfutile stage hlater).frozen, (hfutile stage hlater).image ▸ hdrawn⟩
    obtain ⟨next, hnext, -⟩ := hstuck.1.turn hf h14 hstuck.2 ht
    exact ⟨next, turn_of_stage hnext⟩

/-- No program at all: the first turn meets a fault, and the pause key in the second turn only
brings it up again. -/
theorem fault_freezes_window_over_pause :
    let style : Style := ⟨.permissive, .given 8, ⟨⟨0, 255, 0⟩, ⟨0, 0, 0⟩⟩⟩
    let turns : List Turn :=
      [⟨[⟨.other, none⟩]⟩, ⟨[⟨.down (.letter 'p'), none⟩, ⟨.up (.letter 'p'), none⟩]⟩]
    ∃ (first second : Stage) (rest : List Stage) (f : Fault),
      stages style "rom.ch8" turns (start (.powerOn ⟨0, 0⟩)) = first :: second :: rest ∧
      second.after.paused = true ∧
      second.actions = .log (.info "Resumed") :: f.records.map .log ++
        [.present first.drawn] := by
  intro style turns
  have hdraws : style.Draws 8 := .of_permissive rfl _
  -- The machine is left open, so that no memory has to be evaluated.
  have hrun (m : Machine) (f : Fault) (hf : m.cycle = (m, some f)) (h14 : m.step.toInt ≤ 14)
      (hkeypad : m.keypad = Keypad.released) : ∃ first second rest,
        stages style "rom.ch8" turns (start m) = first :: second :: rest ∧
        second.Futile m f first.drawn ∧ pauses second.turn.events = 1 := by
    have hfault : { m with keypad := (start m).held }.advanceFrame = (m, some f) := by
      rw [show (start m).held = m.keypad from hkeypad.symm]
      exact Machine.advanceFrame_of_fault hf h14
    let first : Stage := ⟨⟨[⟨.other, none⟩]⟩, start m, [], start m, hdraws.image m.frame⟩
    have hafter : first.after = { start m with paused := true } :=
      congrArg Prod.snd (play_of_fault (w := start m) rfl hfault)
    have himage : drawing style first.after = .ok first.drawn := by
      rw [hafter]
      exact drawing_of_draws hdraws _
    have hfirst : stage? style "rom.ch8" ⟨[⟨.other, none⟩]⟩ (start m) = some first :=
      stage?_eq_some.mpr ⟨rfl, rfl, rfl, himage⟩
    have hfrozen : Frozen m first.after := by
      rw [hafter]
      exact ⟨rfl, rfl⟩
    obtain ⟨second, hsecond, -⟩ : ∃ s, stage? style "rom.ch8"
        ⟨[⟨.down (.letter 'p'), none⟩, ⟨.up (.letter 'p'), none⟩]⟩ first.after = some s ∧
          s.Futile m f first.drawn := hfrozen.turn hf h14 himage (by decide)
    have hturn := (stage?_eq_some.mp hsecond).1
    have hstages : ∃ rest, stages style "rom.ch8" turns (start m) =
        [] ++ first :: ([second] ++ rest) := by
      rw [stages, hfirst]
      dsimp only
      rw [if_pos (by rw [hafter]; rfl), stages, hsecond]
      exact ⟨_, rfl⟩
    obtain ⟨rest, hstages⟩ := hstages
    obtain ⟨-, hfutile, -⟩ := fault_freezes_window hstages rfl hfault (by
      intro later hlater
      rw [List.mem_singleton.mp hlater, hturn]
      decide)
    refine ⟨first, second, rest, hstages, (hfutile second List.mem_cons_self).2, ?_⟩
    rw [hturn]
    rfl
  obtain ⟨f, hf⟩ := Machine.cycle_powerOn ⟨0, 0⟩
  obtain ⟨first, second, rest, hstages, hfutile, hpauses⟩ := hrun _ f hf (by decide) rfl
  refine ⟨first, second, rest, f, hstages, hfutile.frozen.paused, ?_⟩
  rw [hfutile.actions, hpauses]
  rfl

end Window
end Chip8
