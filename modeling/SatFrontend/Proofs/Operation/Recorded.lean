import SatFrontend.Proofs.Operation.Simulation
import SatFrontend.Proofs.Solver.Calls

namespace SatFrontend

-- A receiver with a record of what reached it, one call at a time.
structure Recorded (σ : Type) where
  receiver : σ
  calls : List Call := []

namespace Recorded

variable {σ : Type} [Receiver σ]

instance : Receiver (Recorded σ) where
  limit x := Receiver.limit x.receiver
  push x l := ⟨Receiver.push x.receiver l, x.calls ++ [.push l]⟩
  endClause x := ⟨Receiver.endClause x.receiver, x.calls ++ [.endClause]⟩
  assume x l := ⟨Receiver.assume x.receiver l, x.calls ++ [.assume l]⟩

@[simp] theorem calls_push (x : Recorded σ) (l : Lit) :
    (Receiver.push x l).calls = x.calls ++ [.push l] := rfl

@[simp] theorem calls_endClause (x : Recorded σ) :
    (Receiver.endClause x).calls = x.calls ++ [.endClause] := rfl

@[simp] theorem calls_assume (x : Recorded σ) (l : Lit) :
    (Receiver.assume x l).calls = x.calls ++ [.assume l] := rfl

-- A receiver notices nothing of the record.
theorem simulation_erase :
    Receiver.Simulation (fun (x : Recorded σ) (s : σ) => x.receiver = s) (fun _ => True) where
  allowed _ _ := trivial
  push := by
    rintro x s l rfl -
    rfl
  endClause := by
    rintro x s rfl
    rfl
  assume := by
    rintro x s l rfl -
    rfl

theorem perform_erase (files : Files) (op : Operation) (x : Recorded σ) :
    (op.perform files x).receiver.receiver = (op.perform files x.receiver).receiver :=
  (op.perform_alike files simulation_erase (fun _ _ h => Or.inl (congrArg Receiver.limit h))
    (fun _ _ => trivial) rfl).receiver

end Recorded

end SatFrontend
