import TransparencyLog.Proofs.Command.Run

namespace TransparencyLog.Command

/-- What stands on a console after texts have been shown on it, or why one of them is refused. -/
def Console.transcript (console : Console) : List LooseText → Except Console.Fault String
  | [] => .ok ""
  | text :: rest =>
      match console.render (.text text), console.transcript rest with
      | .ok shown, .ok after => .ok (shown ++ after)
      | .error fault, _ | _, .error fault => .error fault

namespace Run

variable {console : Console} {state : State} {returned : Unit → State → Prop}
  {ended : Ending → State → Prop} {text : String}

theorem comes_emit (h : returned () (state.printed (text ++ "\n"))) :
    Comes (emit text) state returned ended :=
  comes_write h

theorem comes_emitDocument {document : Value} (hprint : Json.print .indented document = .ok text)
    (h : returned () (state.printed (text ++ "\n"))) :
    Comes (emitDocument document) state returned ended := by
  rw [emitDocument, hprint]
  exact comes_emit h

theorem comes_sayAll {texts : List LooseText}
    (hshown : ∀ output, console.transcript texts = .ok output →
      returned () (state.printed output))
    (hrefused : ∀ fault output, console.transcript texts = .error fault →
      ended (.broken (.console fault)) (state.printed output)) :
    Comes (sayAll console texts) state returned ended := by
  induction texts generalizing state with
  | nil =>
      refine comes_pure ?_
      rw [← state.printed_empty]
      exact hshown "" rfl
  | cons text texts ih =>
      refine comes_bind (comes_present (fun shown hrender => ih ?_ ?_) fun fault hrender => ?_)
      · intro output htexts
        rw [State.printed_printed]
        exact hshown _ (by rw [Console.transcript, hrender, htexts])
      · intro fault output htexts
        rw [State.printed_printed]
        exact hrefused fault _ (by rw [Console.transcript, hrender, htexts])
      · rw [← state.printed_empty]
        exact hrefused fault "" (by rw [Console.transcript, hrender])

end Run

end TransparencyLog.Command
