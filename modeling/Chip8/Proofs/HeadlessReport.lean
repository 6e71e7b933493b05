import Chip8.Host
import Chip8.Proofs.Arguments
import Chip8.Proofs.FaultStop

/-! What a session without a window reports: its exit status and the text that it prints, told by
the cycles of the loaded program alone. -/
namespace Chip8

namespace Machine
variable {m start : Machine} {done : List Machine} {random : Random.Stream} {image : List UInt8}

/-- The display after the last cycle whose number is a multiple of fifteen, with the machines after
all cycles given in order; a blank screen if there is none. -/
def lastClosed (done : List Machine) : Screen :=
  ((done.take (15 * (done.length / 15))).getLast?.map Machine.display).getD Bitmap.blank

end Machine

namespace Host
open CommandLine

/-- The options ask for so many frames without a window, and for no image file; seed and log level
can be used. Trace, scale and palette are left open. -/
structure AsksFrames (o : Options) (seed frames : Int) : Prop where
  frames_eq : o.frames = some (.given frames)
  runs : o.disassemble = false
  no_image : o.screenshot = none
  seed_eq : o.seed = .given seed
  seed_ge : -0x8000000000000000 ≤ seed
  seed_lt : seed < 0x8000000000000000
  level : ∃ name level, o.logLevel = .given name ∧ Log.Level.ofName name = .ok level

def report (random : Random.Stream) (image : List UInt8) (frames : Int) (ascii : Bool) :
    Except HostError Nat × List String :=
  match (Machine.powerOn random).loadProgram image with
  | .error _ => (.ok 1, [])
  | .ok start =>
    if Numeral.limit ≤ frames.natAbs then
      (.error (.run (.bar (if frames.natAbs < Numeral.writeLimit then .total else .digits))), [])
    else
      (.ok (if (start.cycles (15 * frames.toNat)).2.isSome then 1 else 0),
        if ascii then
          [(Machine.lastClosed (start.course (15 * frames.toNat))).toText "#" " " ++ "\n"]
        else [])

variable {o : Options} {seed frames : Int} {random : Random.Stream} {image : List UInt8}
  {start : Machine}

theorem loggerOf_of_level {name : String} {level : Log.Level} (hname : o.logLevel = .given name)
    (hlevel : Log.Level.ofName name = .ok level) (terminal : Bool) :
    ∃ logger, loggerOf o terminal = .ok logger := by
  refine ⟨⟨Log.Logger.defaultName, level, true && terminal, true⟩, ?_⟩
  simp only [loggerOf, hname, Setting.require, Log.Logger.create, hlevel, Except.map, bind,
    Except.bind]

def seedAfter (seed : Int) : Extra → Int
  | .seed n => n
  | _ => seed

def seedOf (extras : List Extra) : Int := extras.foldl seedAfter 0

theorem AsksFrames.apply (h : AsksFrames o seed frames) {e : Extra} (he : e.Accepted) :
    AsksFrames (e.apply o) (seedAfter seed e) frames := by
  cases e with
  | seed n => exact { h with seed_eq := rfl, seed_ge := he.1, seed_lt := he.2 }
  | scale n => exact { h with }
  | logLevel name =>
    obtain ⟨level, hlevel⟩ := he
    exact { h with level := ⟨name, level, rfl, hlevel⟩ }
  | colorScheme name => exact { h with }
  | trace => exact { h with }
  | ascii => exact { h with }

theorem AsksFrames.foldl (h : AsksFrames o seed frames) {extras : List Extra}
    (hextras : ∀ e ∈ extras, e.Accepted) :
    AsksFrames (extras.foldl Extra.apply o) (extras.foldl seedAfter seed) frames := by
  induction extras generalizing o seed with
  | nil => exact h
  | cons e rest ih =>
    obtain ⟨he, hrest⟩ := List.forall_mem_cons.mp hextras
    exact ih (h.apply he) hrest

end Host
end Chip8
