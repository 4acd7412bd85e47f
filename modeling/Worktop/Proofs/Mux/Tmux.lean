import Worktop.Proofs.Asking
import Worktop.Proofs.Text.Lines

/-! # Commands to tmux and their replies

What a command to tmux comes to is told by its one reply (`Worktop.Mux.Tmux.resultOf`), and so is
which windows there are (`Worktop.Mux.Tmux.windowsOf`).
-/

namespace Worktop.Mux.Tmux

open Act

variable {ω : Type}

theorem exec_reads (c : Command) : Reads (exec c : Result ω Output).run c
    (·.mapError fun e => .unavailable .tmux e.reason.message) := by
  unfold exec
  apply reads_reply
  intro reply
  cases reply with
  | ok output => rfl
  | error e => rfl

/-- What a command that has to succeed comes to. -/
def resultOf (operation : String) : Reply → Except Error Output
  | .error e => .error (.unavailable .tmux e.reason.message)
  | .ok output =>
    if output.success then .ok output
    else if saysNoServer output.complaint then .error (.unavailable .tmux output.complaint)
    else .error (.commandFailed .tmux operation output.complaint)

theorem run_reads (operation : String) (c : Command) :
    Reads (run operation c : Result ω Output).run c (resultOf operation) := by
  unfold run
  refine (exec_reads c).output (fun output => ?_) fun e => rfl
  unfold resultOf
  dsimp only
  split
  · rfl
  · split
    · rfl
    · rfl

theorem resultOf_eq_ok {operation : String} {reply : Reply} {output : Output}
    (told : resultOf operation reply = .ok output) :
    reply = .ok output ∧ output.success = true := by
  cases reply with
  | error e => cases told
  | ok output' =>
    unfold resultOf at told
    dsimp only at told
    split at told
    · rename_i success
      cases told
      exact ⟨rfl, success⟩
    · split at told
      · cases told
      · cases told

/-- The windows that a reply lists. Where it says that there is no server, there are none. -/
def windowsOf : Reply → Except Error (List (String × String))
  | .error e => .error (.unavailable .tmux e.reason.message)
  | .ok output =>
    if output.success then .ok (windowsOfListing output.stdout)
    else if saysNoServer output.complaint then .ok []
    else .error (.commandFailed .tmux "list-windows" output.complaint)

theorem windows_reads (socket : Option String) :
    Reads (windows socket : Result ω _).run (listCommand socket) windowsOf := by
  unfold windows
  refine (exec_reads _).output (fun output => ?_) fun e => rfl
  unfold windowsOf
  dsimp only
  split
  · rfl
  · split
    · rfl
    · rfl

theorem listWindows_reads (socket : Option String) :
    Reads (listWindows socket : Result ω _).run (listCommand socket) fun reply =>
      (windowsOf reply).map fun windows => windows.map (·.2) :=
  (windows_reads socket).map _

theorem windowIds_reads (socket : Option String) (name : String) :
    Reads (windowIds socket name : Result ω _).run (listCommand socket) fun reply =>
      (windowsOf reply).map fun windows => (windows.filter (·.2 = name)).map (·.1) :=
  (windows_reads socket).map _

/-- Where there are any windows, they were listed. -/
theorem windowsOf_eq_ok {reply : Reply} {windows : List (String × String)}
    (told : windowsOf reply = .ok windows) (filled : windows ≠ []) :
    ∃ output, reply = .ok output ∧ output.success = true ∧
      windows = windowsOfListing output.stdout := by
  cases reply with
  | error e => cases told
  | ok output =>
    unfold windowsOf at told
    dsimp only at told
    split at told
    · rename_i success
      cases told
      exact ⟨output, rfl, success, rfl⟩
    · split at told
      · cases told
        exact absurd rfl filled
      · cases told

theorem listed_of_mem {id name listing : String}
    (member : (id, name) ∈ windowsOfListing listing) :
    '\t' ∉ id.toList ∧ id ++ "\t" ++ name ∈ Text.lines listing := by
  obtain ⟨line, present, shape⟩ := List.mem_filterMap.mp member
  obtain ⟨rfl, absent⟩ := Text.eq_append_of_splitFirst? shape
  exact ⟨absent, present⟩

end Worktop.Mux.Tmux
