import Chip8.Proofs.Passage
import Chip8.Proofs.Session
import Mathlib.Logic.Function.Iterate

/-! The random stream over a history of requests. Executed draws spend it, one state each, and
nothing else moves it: not a reset, which rebuilds everything around it, and not a fault. -/
namespace Chip8

namespace Random.Stream

def split (s : Stream) : Stream × Stream := (s.next, s.spare)

def spentByte (spare : Stream) : UInt8 :=
  let bits := spare.spare.block 0
  (bits.high ^^^ bits.low).toUInt8

private theorem byte_eq (s : Stream) : s.byte = s.split.2.spentByte := rfl

def after (s : Stream) (n : Nat) : Stream := (fun s => s.split.1)^[n] s

private theorem after_add (s : Stream) (a b : Nat) : s.after (a + b) = (s.after a).after b := by
  rw [after, Nat.add_comm, Function.iterate_add_apply]
  rfl

end Random.Stream

/-- All requests but a run of frames, which is a series of them. -/
def Request.single : Request → Bool
  | .run .. => false
  | _ => true

/-- An instruction that was executed, with the machine at which the host asked for it and the
machine that the host got. -/
structure Execution where
  instruction : Instruction
  source : Machine
  target : Machine

def Transition.execution (t : Transition) : Execution := ⟨t.source.instruction, t.source, t.target⟩

namespace Execution

def isDraw (e : Execution) : Bool := e.instruction.family == 0xC

def stored (e : Execution) : UInt8 := e.target.v.get e.instruction.x

def draws (done : List Execution) : List Execution := done.filter isDraw

private theorem isDraw_iff {e : Execution} : e.isDraw = true ↔ e.instruction.family = 0xC := by
  simp [isDraw]

end Execution

namespace Machine
open Execution

/-- The instructions that a single request executes. A refused word is not executed, and neither
is the word at which a cycle meets a fault. -/
def executed (m : Machine) : Request → List Execution
  | .input .cycle => (m.transitions 1).map Transition.execution
  | .input .frame =>
    (m.transitions (cyclesPerFrame.toInt - m.step.toInt).toNat).map Transition.execution
  | .execute word =>
    match m.execute word with
    | .ok next => [⟨Instruction.decode word, m, next⟩]
    | .error _ => []
  | _ => []

def executions : List Request → Machine → List Execution
  | [], _ => []
  | request :: rest, m => m.executed request ++ executions rest (m.serve request)

variable {m next last : Machine} {i : Instruction} {op : Operation} {word : Int}

private theorem reset_random (m : Machine) : m.reset.random = m.random := by
  rw [reset, powerOn]

private theorem operation?_random_iff : i.operation? = some .random ↔ i.family = 0xC :=
  Instruction.operation?_iff_family nofun rfl

/-- A draw moves the stream by one split, and any other instruction leaves it alone. -/
theorem Admits.random_effect (h : m.Admits i op) : (op.effect i m).random =
    if i.family = 0xC then m.random.split.1 else m.random := by
  by_cases hdraw : op = .random
  · subst hdraw
    rw [if_pos (operation?_random_iff.mp h.named)]
    rfl
  · have hfamily : i.family ≠ 0xC := fun hf =>
      hdraw (h.eq_of_operation? (operation?_random_iff.mpr hf))
    rw [if_neg hfamily, Operation.effect_random hdraw]

/-- A draw leaves in VX the byte of the state that it splits off, under its mask. -/
theorem Admits.drawn_effect (h : m.Admits i op) (hf : i.family = 0xC) :
    (op.effect i m).v.get i.x = m.random.split.2.spentByte &&& i.nn := by
  obtain rfl : op = .random := h.eq_of_operation? (operation?_random_iff.mpr hf)
  rw [← Random.Stream.byte_eq]
  exact Digit.get_put m.v i.x _

end Machine

open Machine Execution

/-- The draws among the executed instructions take the stream from `first` to `last`. Each of them
finds it where the draws before have left it, and stores the byte of the state that it splits
off, under its mask. -/
structure Spends (first : Random.Stream) (done : List Execution) (last : Random.Stream) : Prop where
  last_eq : last = first.after (draws done).length
  draw : ∀ j e, (draws done)[j]? = some e → e.source.random = first.after j ∧
    e.stored = (first.after j).split.2.spentByte &&& e.instruction.nn

namespace Spends
variable {first middle last : Random.Stream} {done more : List Execution} {e : Execution}
  {m next : Machine} {word : Int}

theorem nil (first : Random.Stream) : Spends first [] first := ⟨rfl, fun _ _ he => by cases he⟩

private theorem single
    (hrandom : e.target.random =
      if e.instruction.family = 0xC then e.source.random.split.1 else e.source.random)
    (hstored : e.instruction.family = 0xC →
      e.stored = e.source.random.split.2.spentByte &&& e.instruction.nn) :
    Spends e.source.random [e] e.target.random := by
  by_cases hf : e.instruction.family = 0xC
  · have hdraws : draws [e] = [e] := List.filter_cons_of_pos (isDraw_iff.mpr hf)
    rw [if_pos hf] at hrandom
    refine ⟨by rw [hdraws]; exact hrandom, ?_⟩
    intro j d hd
    rw [hdraws] at hd
    cases j with
    | zero =>
      cases hd
      exact ⟨rfl, hstored hf⟩
    | succ j => cases hd
  · have hdraws : draws [e] = [] := List.filter_cons_of_neg (mt isDraw_iff.mp hf)
    rw [if_neg hf] at hrandom
    refine ⟨by rw [hdraws]; exact hrandom, ?_⟩
    intro j d hd
    rw [hdraws] at hd
    cases hd

theorem append (h : Spends first done middle) (h' : Spends middle more last) :
    Spends first (done ++ more) last := by
  have hdraws : draws (done ++ more) = draws done ++ draws more := List.filter_append ..
  refine ⟨?_, ?_⟩
  · rw [h'.last_eq, h.last_eq, hdraws, List.length_append, Random.Stream.after_add]
  · intro j e he
    rw [hdraws] at he
    rcases Nat.lt_or_ge j (draws done).length with hj | hj
    · rw [List.getElem?_append_left hj] at he
      exact h.draw j e he
    · rw [List.getElem?_append_right hj] at he
      have hlater := h'.draw _ e he
      rwa [h.last_eq, ← Random.Stream.after_add, Nat.add_sub_cancel' hj] at hlater

private theorem of_cycle (h : m.cycle = (next, none)) :
    Spends m.random [Transition.execution ⟨m, next⟩] next.random := by
  obtain ⟨op, hop, rfl⟩ := cycle_eq_ok h
  refine single (e := Transition.execution ⟨m, _⟩) ?_ ?_
  · exact (countCycle_random _).trans hop.advance.random_effect
  · intro hf
    have hv := hop.advance.drawn_effect hf
    rw [← countCycle_v] at hv
    exact hv

private theorem of_execute (h : m.execute word = .ok next) :
    Spends m.random [⟨Instruction.decode word, m, next⟩] next.random := by
  obtain ⟨op, hop, rfl⟩ := execute_eq_ok h
  exact single (e := ⟨_, m, _⟩) hop.random_effect hop.drawn_effect

private theorem of_passage {done : List Transition} {last : Machine} (h : Passage m done last) :
    Spends m.random (done.map Transition.execution) last.random := by
  induction h with
  | refl m => exact nil m.random
  | keys keypad _ ih => exact ih
  | cycle hc _ ih => exact (of_cycle hc).append ih

private theorem of_single (request : Request) (m : Machine) (h : request.single = true) :
    Spends m.random (m.executed request) (m.serve request).random := by
  cases request with
  | input input =>
    cases input with
    | setKey index down =>
      rw [serve, feed_setKey]
      exact nil m.random
    | setKeys downs =>
      rw [serve, feed_setKeys]
      exact nil m.random
    | cycle => exact of_passage (.of_transitions 1 m)
    | frame => exact of_passage (.of_transitions _ m)
  | load image =>
    rw [serve_load]
    exact nil m.random
  | execute word =>
    rw [serve, executed]
    cases hx : m.execute word with
    | error f => exact nil m.random
    | ok next => exact of_execute hx
  | reset =>
    rw [serve, reset_random]
    exact nil m.random
  | fetch | closeFrame => exact nil m.random
  | run => cases h

private theorem of_requests (requests : List Request) (m : Machine)
    (h : ∀ request ∈ requests, request.single = true) :
    Spends m.random (m.executions requests) (requests.foldl serve m).random := by
  induction requests generalizing m with
  | nil => exact nil m.random
  | cons request rest ih =>
    obtain ⟨hrequest, hrest⟩ := List.forall_mem_cons.mp h
    exact (of_single request m hrequest).append (ih (m.serve request) hrest)

end Spends

namespace Machine

/-- Over any single requests the stream moves by one split for each executed draw, and the draw
leaves the byte of the state that was split off, under its mask, in its register. So what a program
draws is settled by the stream at the start: it is the same through other images, keys, resets
and faults. -/
theorem random_stream_is_spent_by_draws (m : Machine) (requests : List Request)
    (hsingle : ∀ request ∈ requests, request.single = true) :
    (requests.foldl serve m).random =
        m.random.after (draws (m.executions requests)).length ∧
      (∀ j e, (draws (m.executions requests))[j]? = some e →
        e.stored = (m.random.after j).split.2.spentByte &&& e.instruction.nn) ∧
      ∀ (other : Machine) (requests' : List Request),
        (∀ request ∈ requests', request.single = true) → other.random = m.random →
        ∀ (j : Nat) (e e' : Execution), (draws (m.executions requests))[j]? = some e →
          (draws (other.executions requests'))[j]? = some e' →
          e.source.random.byte = e'.source.random.byte := by
  have h := Spends.of_requests requests m hsingle
  refine ⟨h.last_eq, fun j e he => (h.draw j e he).2, ?_⟩
  intro other requests' hsingle' hsame j e e' he he'
  have h' := Spends.of_requests requests' other hsingle'
  rw [(h.draw j e he).1, (h'.draw j e' he').1, hsame]

/-- A cycle that draws, a reset, a word that is refused and a word that draws again. -/
theorem random_stream_is_spent_by_draws_over_reset :
    let program := Memory.powerOn.store 0x200 [0xC0, 0xFF]
    let m := { powerOn ⟨0, 7⟩ with memory := program }
    let requests := [.input .cycle, .reset, .execute 0x0000, .execute 0xC10F]
    (∀ request ∈ requests, request.single = true) ∧
      (requests.foldl serve m).random = m.random.after 2 ∧
      ∃ first second, draws (m.executions requests) = [first, second] ∧
        first.stored = m.random.split.2.spentByte &&& 0xFF ∧
        second.stored = (m.random.after 1).split.2.spentByte &&& 0x0F := by
  intro program m requests
  have hsingle : ∀ request ∈ requests, request.single = true := by decide
  have hword : m.word = 0xC0FF :=
    (word_of_store (show m.memory = program from rfl) rfl (by decide)).trans (by decide)
  have hadmits : m.Admits (Instruction.decode (0xC0FF : UInt16).toNat) .random :=
    .of_operation? (by decide) (by decide) (by decide) (by decide)
  obtain ⟨next, hc⟩ : ∃ next, m.cycle = (next, none) := ⟨_, cycle_of_admits hword hadmits⟩
  obtain ⟨f, hrefused⟩ : ∃ f, next.reset.execute 0x0000 = .error f := ⟨_, rfl⟩
  obtain ⟨last, hx⟩ : ∃ last, next.reset.execute 0xC10F = .ok last := ⟨_, rfl⟩
  have hm : m.instruction = ⟨0xC, 0, 0xF, 0xF⟩ := by
    rw [instruction, hword]
    decide
  have hnext : m.serve (.input .cycle) = next := by
    rw [serve, feed, cycles, hc]
    rfl
  have hkept : next.reset.serve (.execute 0x0000) = next.reset := by
    rw [serve, hrefused]
    rfl
  have hfirst : m.executed (.input .cycle) = [⟨m.instruction, m, next⟩] := by
    rw [executed, transitions, hc]
    rfl
  have hsecond : next.reset.executed (.execute 0x0000) = [] := by
    rw [executed, hrefused]
  have hthird : next.reset.executed (.execute 0xC10F) =
      [⟨Instruction.decode 0xC10F, next.reset, last⟩] := by
    rw [executed, hx]
  have hdraws : draws (m.executions requests) =
      [⟨m.instruction, m, next⟩, ⟨Instruction.decode 0xC10F, next.reset, last⟩] := by
    rw [executions, executions, executions, executions, hfirst, hnext, serve, hkept, hsecond,
      hthird, hm]
    rfl
  obtain ⟨hlast, hstored, -⟩ := random_stream_is_spent_by_draws m requests hsingle
  rw [hdraws] at hlast hstored
  refine ⟨hsingle, hlast, _, _, hdraws, ?_, ?_⟩
  · exact (hstored 0 _ rfl).trans (by rw [hm]; rfl)
  · exact hstored 1 _ rfl

end Machine
end Chip8
