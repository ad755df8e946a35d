import Reperio.Concurrency.Transition

/-!
# Write-ahead logs

Transactions are committed to a log beside the main file, and checkpoints copy
them from there, in their order. What is copied stays in the log until the log
starts over, so a transaction may be in one of the two files or in both, and no
run loses one (`WriteAheadLog.contents_of_run`, `WriteAheadLog.mem_contents_iff`).
-/

namespace Reperio.Storage

open Concurrency

/-- The transactions of the main file and those of the log. -/
structure WriteAheadLog (Transaction : Type) where
  main : List Transaction
  -- the log, in two parts
  copied : List Transaction
  uncopied : List Transaction
  isCopied : copied ⊆ main

/-- What becomes of a database. -/
inductive LogAction (Transaction : Type) where
  | commit (transaction : Transaction)
  -- of so many transactions; all of them when the last connection is closed
  | checkpoint (count : ℕ)
  | startOver
  deriving DecidableEq

variable {Transaction : Type}

def LogAction.committed : LogAction Transaction → List Transaction
  | commit transaction => [transaction]
  | _ => []

namespace WriteAheadLog

def create : WriteAheadLog Transaction where
  main := []
  copied := []
  uncopied := []
  isCopied := List.nil_subset []

def log (database : WriteAheadLog Transaction) : List Transaction :=
  database.copied ++ database.uncopied

/-- What a reader of both files finds. -/
def contents (database : WriteAheadLog Transaction) : List Transaction :=
  database.main ++ database.uncopied

theorem isCopied_append {copied main : List Transaction} (added : List Transaction)
    (isCopied : copied ⊆ main) : copied ++ added ⊆ main ++ added :=
  List.append_subset.mpr
    ⟨List.Subset.trans isCopied (List.subset_append_left _ _), List.subset_append_right _ _⟩

/-- The log starts over only when all of it is copied. -/
def step (database : WriteAheadLog Transaction) :
    LogAction Transaction → Option (WriteAheadLog Transaction)
  | .commit transaction => some { database with uncopied := database.uncopied ++ [transaction] }
  | .checkpoint count =>
    some
      { main := database.main ++ database.uncopied.take count
        copied := database.copied ++ database.uncopied.take count
        uncopied := database.uncopied.drop count
        isCopied := isCopied_append _ database.isCopied }
  | .startOver =>
    if database.uncopied = [] then
      some { database with copied := [], isCopied := List.nil_subset _ }
    else none

variable {database start next last : WriteAheadLog Transaction} {transaction : Transaction}
variable {action : LogAction Transaction} {actions : List (LogAction Transaction)}

theorem contents_of_step (stepped : database.step action = some next) :
    next.contents = database.contents ++ action.committed := by
  cases action with
  | commit transaction =>
    obtain rfl := Option.some.inj stepped
    exact (List.append_assoc _ _ _).symm
  | checkpoint count =>
    obtain rfl := Option.some.inj stepped
    simp [contents, LogAction.committed]
  | startOver =>
    rw [step] at stepped
    split at stepped
    · obtain rfl := Option.some.inj stepped
      exact (List.append_nil _).symm
    · cases stepped

/-- A reader of both files finds every transaction that was committed, in order. -/
theorem contents_of_run (ran : runFrom step start actions = some last) :
    last.contents = start.contents ++ actions.flatMap LogAction.committed := by
  refine runFrom_induction ?_ ?_ ran
  · exact (List.append_nil _).symm
  · intro past state action next _ ih stepped
    rw [contents_of_step stepped, ih, List.flatMap_append, List.flatMap_singleton,
      List.append_assoc]

theorem mem_contents_iff :
    transaction ∈ database.contents ↔ transaction ∈ database.main ∨ transaction ∈ database.log := by
  rw [contents, log, List.mem_append, List.mem_append]
  constructor
  · exact Or.imp_right .inr
  · rintro (isMain | isCopied | isUncopied)
    · exact .inl isMain
    · exact .inl (database.isCopied isCopied)
    · exact .inr isUncopied

/-- The main file is complete exactly when the log holds nothing that is not in it. -/
theorem contents_subset_main_iff : database.contents ⊆ database.main ↔
    database.log ⊆ database.main := by
  constructor
  · exact fun subset _ isLogged => subset (mem_contents_iff.mpr (.inr isLogged))
  · intro subset transaction isContained
    exact (mem_contents_iff.mp isContained).elim id fun isLogged => subset isLogged

end WriteAheadLog

end Reperio.Storage
