import Gatehouse.Ambient.Program

/-!
# Parts of a context

An accessor shows a part of the ambient context, such as the request id or the start time. What it
shows in a program is what the program means whose scopes carry that part only.
-/
namespace Gatehouse.Ambient

variable {Context Part : Type}

mutual

def Block.view (part : Context → Part) : Block Context → Block Part
  | .observe => .observe
  | .run context body => .run (part context) (Block.viewAll part body)
  | .detach handsOver body => .detach handsOver (Step.viewAll part body)

def Block.viewAll (part : Context → Part) : List (Block Context) → List (Block Part)
  | [] => []
  | step :: rest => step.view part :: Block.viewAll part rest

/-- A step with a part of each of its contexts. -/
def Step.view (part : Context → Part) : Step Context → Step Part
  | .observe => .observe
  | .run context body => .run (part context) (Step.viewAll part body)
  | .runBlocking context body => .runBlocking (part context) (Block.viewAll part body)
  | .spawn body => .spawn (Step.viewAll part body)
  | .spawnWithContext body => .spawnWithContext (Step.viewAll part body)
  | .detach handsOver body => .detach handsOver (Step.viewAll part body)
  | .join branches => .join (Step.viewBranches part branches)
  | .wait => .wait

def Step.viewAll (part : Context → Part) : List (Step Context) → List (Step Part)
  | [] => []
  | step :: rest => step.view part :: Step.viewAll part rest

def Step.viewBranches (part : Context → Part) :
    List (List (Step Context)) → List (List (Step Part))
  | [] => []
  | body :: rest => Step.viewAll part body :: Step.viewBranches part rest

end

mutual

/-- What an accessor shows where a trace shows the whole context. -/
def Trace.view (part : Context → Part) : Trace Context → Trace Part
  | .seen context => .seen (context.map part)
  | .list entries => .list (Trace.viewAll part entries)
  | .nothing => .nothing

def Trace.viewAll (part : Context → Part) : List (Trace Context) → List (Trace Part)
  | [] => []
  | entry :: rest => entry.view part :: Trace.viewAll part rest

end

theorem inherited_map (part : Context → Part) (handsOver : Bool) (ambient : Option Context) :
    inherited handsOver (ambient.map part) = (inherited handsOver ambient).map part := by
  cases handsOver <;> rfl

mutual

theorem Block.meaning_view (part : Context → Part) : (step : Block Context) →
    (ambient : Option Context) →
    (step.view part).meaning (ambient.map part) = (step.meaning ambient).view part
  | .observe, _ => rfl
  | .run context body, _ => congrArg Trace.list (Block.meanings_view part body (some context))
  | .detach handsOver body, ambient => by
    have inside := Step.meanings_view part body (inherited handsOver ambient)
    rw [← inherited_map] at inside
    exact congrArg Trace.list inside

theorem Block.meanings_view (part : Context → Part) : (body : List (Block Context)) →
    (ambient : Option Context) →
    Block.meanings (ambient.map part) (Block.viewAll part body)
      = Trace.viewAll part (Block.meanings ambient body)
  | [], _ => rfl
  | step :: rest, ambient => by
    simp only [Block.viewAll, Block.meanings, Trace.viewAll, Block.meaning_view part step ambient,
      Block.meanings_view part rest ambient]

theorem Step.meaning_view (part : Context → Part) : (step : Step Context) →
    (ambient : Option Context) →
    (step.view part).meaning (ambient.map part) = (step.meaning ambient).view part
  | .observe, _ => rfl
  | .run context body, _ => congrArg Trace.list (Step.meanings_view part body (some context))
  | .runBlocking context body, _ =>
    congrArg Trace.list (Block.meanings_view part body (some context))
  | .spawn body, _ => congrArg Trace.list (Step.meanings_view part body none)
  | .spawnWithContext body, ambient => congrArg Trace.list (Step.meanings_view part body ambient)
  | .detach handsOver body, ambient => by
    have inside := Step.meanings_view part body (inherited handsOver ambient)
    rw [← inherited_map] at inside
    exact congrArg Trace.list inside
  | .join branches, ambient => congrArg Trace.list (Step.branchMeanings_view part branches ambient)
  | .wait, _ => rfl

theorem Step.meanings_view (part : Context → Part) : (body : List (Step Context)) →
    (ambient : Option Context) →
    Step.meanings (ambient.map part) (Step.viewAll part body)
      = Trace.viewAll part (Step.meanings ambient body)
  | [], _ => rfl
  | step :: rest, ambient => by
    simp only [Step.viewAll, Step.meanings, Trace.viewAll, Step.meaning_view part step ambient,
      Step.meanings_view part rest ambient]

theorem Step.branchMeanings_view (part : Context → Part) : (branches : List (List (Step Context))) →
    (ambient : Option Context) →
    Step.branchMeanings (ambient.map part) (Step.viewBranches part branches)
      = Trace.viewAll part (Step.branchMeanings ambient branches)
  | [], _ => rfl
  | body :: rest, ambient => by
    simp only [Step.viewBranches, Step.branchMeanings, Trace.viewAll, Trace.view,
      Step.meanings_view part body ambient, Step.branchMeanings_view part rest ambient]

end

end Gatehouse.Ambient
