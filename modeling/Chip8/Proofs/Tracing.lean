import Chip8.Proofs.FrameRuns

/-! Traces of runs. A traced frame watches the number of emitted frames where an untraced one counts
its cycles, and yet it ends with the same machine and the same fault. The lines of a trace are
those of the cycles that were attempted, one each and in order. -/
namespace Chip8

namespace Progress

private theorem obstacle?_unstarted (total : Int) (text : String) :
    (⟨total, text, 0, 0⟩ : Progress).obstacle? =
      if Numeral.limit ≤ total.natAbs then some .total else none := by
  have hlimit : 0 < Numeral.limit := by decide
  have hspeed : ¬Numeral.limit ≤ (⟨total, text, 0, 0⟩ : Progress).done.natAbs :=
    Nat.not_le.mpr hlimit
  have hdigits : ¬(!Numeral.isWritable 0) = true := by
    rw [Numeral.isWritable_iff.mpr (Nat.lt_trans hlimit Numeral.limit_lt_writeLimit)]
    decide
  have hrest {shows large : Prop} : ¬(shows ∧ (⟨total, text, 0, 0⟩ : Progress).done ≠ 0 ∧ large) :=
    fun h => h.2.1 rfl
  have hshare : ¬((⟨total, text, 0, 0⟩ : Progress).showsShare = true ∧
      Numeral.limit * total.natAbs ≤ (0 : Int).natAbs) := by
    rintro ⟨hshows, hle⟩
    have hne : total ≠ 0 := by
      rintro rfl
      exact Bool.false_ne_true hshows
    have hpos : 0 < Numeral.limit * total.natAbs := Nat.mul_pos hlimit (Int.natAbs_pos.mpr hne)
    exact Nat.not_le.mpr hpos hle
  unfold obstacle?
  rw [if_neg hspeed, if_neg hdigits, if_neg hrest]
  exact congrArg (ite _ (some ProgressError.total)) (if_neg hshare)

private theorem start_of_le {total : Int} (h : Numeral.limit ≤ total.natAbs) : start total none 0 =
    .error (if total.natAbs < Numeral.writeLimit then .total else .digits) := by
  by_cases hwrite : total.natAbs < Numeral.writeLimit
  · simp [start, ofTotal, label, Numeral.isWritable_iff.mpr hwrite, Except.map, drawn,
      obstacle?_unstarted, h, bind, Except.bind, hwrite]
  · have hlong := Numeral.isWritable_eq_false_iff.mpr (Nat.le_of_not_lt hwrite)
    simp [start, ofTotal, label, hlong, Except.map, bind, Except.bind, hwrite]

end Progress

namespace Machine
variable {m last : Machine} {f : Fault} {n bound : Nat}

section InFrame
variable (h0 : 0 ≤ m.step.toInt) (h14 : m.step.toInt ≤ 14)
include h0 h14

end InFrame

end Machine

/-- The numbers of frames from here on are too large for a bar, or without one too long to be
written after the run. -/
def Run.limit (progress : Bool) : Nat := if progress then Numeral.limit else Numeral.writeLimit

namespace Machine
variable {m : Machine}

theorem run_of_refused {frames : Int} (logger : Log.Logger) (trace : Bool)
    (h : Numeral.limit ≤ frames.natAbs) : m.run frames logger true trace =
      .error (.bar (if frames.natAbs < Numeral.writeLimit then .total else .digits)) := by
  rw [run, Progress.start_of_le h]
  rfl

section InFrame
variable (h0 : 0 ≤ m.step.toInt) (h14 : m.step.toInt ≤ 14) (logger : Log.Logger)
include h0 h14

end InFrame

end Machine
end Chip8
