import CosmicMounter.Model

/-!
# Command arguments

`CommandArg` of `process.rs`: the text of an argument, and whether it is left
out of the displayed command.
-/

namespace CosmicMounter

open Rust

structure CommandArg where
  value : String
  sensitive : Bool
  deriving DecidableEq, Repr

/-- The argument holds no character that would end or split a command line. -/
def isPlainArgument (value : String) : Bool :=
  !value.toList.any fun c ↦ decide (c ∈ ['\x00', '\n', '\r'])

/-- Arguments added one after another, each refused with its own message. -/
def pushArgs (args : List CommandArg) (more : List (CommandArg × Message)) :
    Except Message (List CommandArg) :=
  more.foldlM (fun args arg ↦
    if isPlainArgument arg.1.value then .ok (args ++ [arg.1]) else .error arg.2) args

theorem exists_pushArgs {more : List (CommandArg × Message)}
    (h : ∀ arg ∈ more, isPlainArgument arg.1.value = true) (args : List CommandArg) :
    ∃ result, pushArgs args more = .ok result := by
  induction more generalizing args with
  | nil => exact ⟨args, rfl⟩
  | cons arg more ih =>
      obtain ⟨result, hresult⟩ := ih (fun a ha ↦ h a (List.mem_cons_of_mem _ ha)) (args ++ [arg.1])
      refine ⟨result, ?_⟩
      rw [← hresult, pushArgs, List.foldlM_cons, if_pos (h arg List.mem_cons_self)]
      rfl

end CosmicMounter
