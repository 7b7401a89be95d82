import RequestGuard.Proofs.Reference.Refinement
import RequestGuard.Proofs.Traffic.Sound

/-!
# An operation that nobody interrupts

If nothing else happens and the clock stands still while an operation makes its calls, it comes
to the outcome that `Services.run` says. So what is known of programs that run as a whole also
holds of flights, if they are left alone.
-/

namespace RequestGuard

namespace Traffic

variable {l : Ledger} {w : Traffic} {n : Nat} {o : Operation} {r : Except Failure o.Answer}
  {services : Services}

/-- A flight that makes its calls one after the other comes to the outcome of its program. -/
theorem proceeds_alone {p : Program o.Answer} (flight : w.flights.get? n = some ⟨o, some p⟩)
    (run : w.services.run w.now p = (some r, services)) :
    ∃ k, (w.acts l (List.replicate k (.proceed n none))).Answered n o r ∧
      (w.acts l (List.replicate k (.proceed n none))).services = services := by
  induction p generalizing w with
  | pure a =>
      cases run
      exact ⟨0, flight, rfl⟩
  | fail f =>
      cases run
      exact ⟨0, flight, rfl⟩
  | call c next ih =>
      have step : w.act l (.proceed n none) = w.call n none o c next := act_proceed flight
      have after : (w.call n none o c next).flights.get? n =
          some ⟨o, Program.resume next (w.services.perform w.now none c).1⟩ := by
        simp only [call, Table.get?_insert, if_true]
      cases performed : w.services.perform w.now none c with
      | mk reply s' =>
        have services' : (w.call n none o c next).services = s' := congrArg Prod.snd performed
        rw [performed] at after
        cases reply with
        | none =>
            simp only [Services.run, Program.run, performed] at run
            cases run
        | some r =>
            cases r with
            | error f =>
                rw [Services.run_error performed] at run
                cases run
                refine ⟨1, ?_, ?_⟩
                · simp only [List.replicate, acts, List.foldl, step]
                  exact after
                · simp only [List.replicate, acts, List.foldl, step]
                  exact services'
            | ok a =>
                rw [Services.run_ok performed, ← services'] at run
                obtain ⟨k, answered, ends⟩ := ih a after run
                refine ⟨k + 1, ?_, ?_⟩
                · simp only [List.replicate, acts, List.foldl, step]
                  exact answered
                · simp only [List.replicate, acts, List.foldl, step]
                  exact ends

/-- A new flight that is left alone comes to the outcome of its program. -/
theorem begins_alone (new : w.hasBegun n = false)
    (run : w.services.run w.now (o.program l w.now) = (some r, services)) :
    ∃ k, (w.acts l (.begin n o :: List.replicate k (.proceed n none))).Answered n o r ∧
      (w.acts l (.begin n o :: List.replicate k (.proceed n none))).services = services := by
  have begun : w.act l (.begin n o) = { w with
      flights := w.flights.insert n ⟨o, some (o.program l w.now)⟩
      log := w.log ++ [.begun w.now n o] } := begin_of_new new
  have flight : (w.act l (.begin n o)).flights.get? n = some ⟨o, some (o.program l w.now)⟩ := by
    rw [begun, Table.get?_insert, if_pos rfl]
  refine proceeds_alone flight ?_
  rw [begun]
  exact run

end Traffic

end RequestGuard
