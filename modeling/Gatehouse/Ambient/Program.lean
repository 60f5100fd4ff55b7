/-!
# Ambient context

Programs that open scopes, start tasks and look at the context around them. A scope covers the
steps inside it, in its own task only: a task that is started sees nothing of where it was started,
unless the context is handed over. What a program sees is therefore fixed by its text.
-/
namespace Gatehouse.Ambient

mutual

/-- Steps that cannot wait. -/
inductive Block (Context : Type)
  | observe
  | run (context : Context) (body : List (Block Context))
  | detach (handsOver : Bool) (body : List (Step Context))

/-- Steps that may wait. The end of a task is waited for where it is spawned, but not where it is
detached. -/
inductive Step (Context : Type)
  | observe
  | run (context : Context) (body : List (Step Context))
  | runBlocking (context : Context) (body : List (Block Context))
  | spawn (body : List (Step Context))
  | spawnWithContext (body : List (Step Context))
  | detach (handsOver : Bool) (body : List (Step Context))
  | join (branches : List (List (Step Context)))
  | wait

end

/-- What the steps of a program saw, nested as the program is. -/
inductive Trace (Context : Type)
  | seen (context : Option Context)
  | list (entries : List (Trace Context))
  | nothing

variable {Context : Type}

/-! ## What a program sees -/

/-- The context that a new task starts in. -/
def inherited (handsOver : Bool) (ambient : Option Context) : Option Context :=
  if handsOver then ambient else none

mutual

def Block.meaning (ambient : Option Context) : Block Context → Trace Context
  | .observe => .seen ambient
  | .run context body => .list (Block.meanings (some context) body)
  | .detach handsOver body => .list (Step.meanings (inherited handsOver ambient) body)

def Block.meanings (ambient : Option Context) : List (Block Context) → List (Trace Context)
  | [] => []
  | step :: rest => step.meaning ambient :: Block.meanings ambient rest

def Step.meaning (ambient : Option Context) : Step Context → Trace Context
  | .observe => .seen ambient
  | .run context body => .list (Step.meanings (some context) body)
  | .runBlocking context body => .list (Block.meanings (some context) body)
  | .spawn body => .list (Step.meanings none body)
  | .spawnWithContext body => .list (Step.meanings ambient body)
  | .detach handsOver body => .list (Step.meanings (inherited handsOver ambient) body)
  | .join branches => .list (Step.branchMeanings ambient branches)
  | .wait => .nothing

def Step.meanings (ambient : Option Context) : List (Step Context) → List (Trace Context)
  | [] => []
  | step :: rest => step.meaning ambient :: Step.meanings ambient rest

def Step.branchMeanings (ambient : Option Context) :
    List (List (Step Context)) → List (Trace Context)
  | [] => []
  | body :: rest => .list (Step.meanings ambient body) :: Step.branchMeanings ambient rest

end

end Gatehouse.Ambient
