import RecordRules.System.Step
import RecordRules.Proofs.System.Changes

/-!
# What replies tell

Whoever sees the replies to the steps of a run knows what has become of every record: which ones
were created, which saves and moves were tried, and which of them lasted.

* `Note` is what there is to know, and `Step.notes` reads it off the reply to a step and to whatever
  ran inside it.
* `Change.note?` is what a change of the tables lets an observer know.
* `Step.Throughout` says something about a step and all steps inside it.
* `Reachable` are the systems that runs lead to, also in the middle of a step, with what has been
  noted on the way.
-/

set_option autoImplicit false

namespace RecordRules

open Workflow

/-! ## Notes -/

/-- Why something failed, if it did. -/
def failureOf {α : Type} : Result α → Option Failure
  | .ok _ => none
  | .error e => some e

/-- Something that replies tell about records. -/
inductive Note where
  /-- A record was created, in a state if one was given. -/
  | created (recordId : String) (state : Option String)
  /-- A script tried to save a new state of a record. -/
  | saved (recordId : String) (failure : Option Failure)
  /-- A script came to its end, and with it its saves of some records. -/
  | committed (recordIds : List String)
  /-- A move was tried. -/
  | moved (move : Move) (failure : Option Failure)

namespace Note

/-- Whether what is noted is visible to everybody. -/
def lasting : Note → Bool
  | .created .. => true
  | .saved .. => false
  | .committed _ => true
  | .moved _ failure => failure.isNone

/-- The end of a script that has saved some records, if it has. -/
def committed? : List String → Option Note
  | [] => none
  | ids => some (.committed ids)

theorem committed?_filter_lasting (ids : List String) :
    (committed? ids).toList.filter lasting = (committed? ids).toList := by
  cases ids <;> rfl

end Note

/-- The id in a record as it is shown. -/
def shownId (shown : Fields Value) : String :=
  match shown.get? "record_id" with
  | some (.text recordId) => recordId
  | _ => ""

/-- What the answer to an operation tells. -/
def Operation.notes : Operation → Answer → List Note
  | .createRecord n, .result (.ok (.map shown)) => [.created (shownId shown) n.state]
  | _, _ => []

/-- The id of the record whose state a part of a script saves. -/
def Action.savedId? : Action → Option String
  | .saveState recordId _ _ => some recordId
  | _ => none

mutual

/-- What the reply to a step tells. -/
def Step.notes : Step → Reply → List Note
  | .operation o, .answer a => o.notes a
  | .move m meanwhile, .moved result replies _ =>
    notesAll meanwhile (replies.getD []) ++ [.moved m (failureOf result)]
  | .transaction script, .transaction parts none =>
    scriptNotes script parts none ++ (Note.committed? (script.filterMap Action.savedId?)).toList
  | .transaction script, .transaction parts failure => scriptNotes script parts failure
  | _, _ => []

/-- What the replies to steps tell. -/
def notesAll : List Step → List Reply → List Note
  | step :: rest, reply :: replies => step.notes reply ++ notesAll rest replies
  | _, _ => []

/-- What the outcome of a part of a script tells. -/
def Action.notes : Action → Except Failure Outcome → List Note
  | .saveState recordId _ _, r => [.saved recordId (failureOf r)]
  | .outside steps, .ok (.outside replies) => notesAll steps replies
  | _, _ => []

/-- What the outcomes of the parts of a script tell, the last of which is its failure if it has
failed. -/
def scriptNotes : List Action → List Outcome → Option Failure → List Note
  | action :: rest, outcome :: outcomes, failure =>
    action.notes (.ok outcome) ++ scriptNotes rest outcomes failure
  | action :: _, [], some failure => action.notes (.error failure)
  | _, _, _ => []

end

theorem notesAll_nil_right (steps : List Step) : notesAll steps [] = [] := by
  cases steps <;> rfl

theorem scriptNotes_nil_left (outcomes : List Outcome) (failure : Option Failure) :
    scriptNotes [] outcomes failure = [] := by
  cases outcomes <;> rfl

/-- What a change lets an observer know. -/
def Change.note? : Change → Option Note
  | .insert (.record r) => some (.created r.id r.state)
  | .move m .. => some (.moved m none)
  | .commit writes => Note.committed? (writes.filterMap Write.savedId?)
  | _ => none

/-! ## Steps inside steps -/

mutual

/-- Something holds of a step and of all steps inside it. -/
def Step.Throughout (p : Step → Prop) : Step → Prop
  | .operation o => p (.operation o)
  | .wait moment => p (.wait moment)
  | .move m meanwhile => p (.move m meanwhile) ∧ Step.AllThroughout p meanwhile
  | .transaction script => p (.transaction script) ∧ Action.AllThroughout p script
  | .request r => p (.request r)
  | .withdraw parts => p (.withdraw parts)

/-- Something holds of steps and of all steps inside them. -/
def Step.AllThroughout (p : Step → Prop) : List Step → Prop
  | [] => True
  | step :: rest => step.Throughout p ∧ Step.AllThroughout p rest

/-- Something holds of all steps inside a part of a script. -/
def Action.Throughout (p : Step → Prop) : Action → Prop
  | .outside steps => Step.AllThroughout p steps
  | _ => True

/-- Something holds of all steps inside a script. -/
def Action.AllThroughout (p : Step → Prop) : List Action → Prop
  | [] => True
  | action :: rest => action.Throughout p ∧ Action.AllThroughout p rest

end

mutual

/-- What follows of single steps follows of all steps inside a step. -/
theorem Step.Throughout.mono {p q : Step → Prop} (hpq : ∀ step, p step → q step) :
    ∀ step : Step, step.Throughout p → step.Throughout q
  | .operation _, h => hpq _ h
  | .wait _, h => hpq _ h
  | .move _ meanwhile, h => ⟨hpq _ h.1, Step.AllThroughout.mono hpq meanwhile h.2⟩
  | .transaction script, h => ⟨hpq _ h.1, Action.AllThroughout.mono hpq script h.2⟩
  | .request _, h => hpq _ h
  | .withdraw _, h => hpq _ h

theorem Step.AllThroughout.mono {p q : Step → Prop} (hpq : ∀ step, p step → q step) :
    ∀ steps : List Step, Step.AllThroughout p steps → Step.AllThroughout q steps
  | [], _ => trivial
  | step :: rest, h => ⟨Step.Throughout.mono hpq step h.1, Step.AllThroughout.mono hpq rest h.2⟩

theorem Action.Throughout.mono {p q : Step → Prop} (hpq : ∀ step, p step → q step) :
    ∀ action : Action, action.Throughout p → action.Throughout q
  | .outside steps, h => Step.AllThroughout.mono hpq steps h
  | .load .., _ => trivial
  | .saveState .., _ => trivial
  | .appendAudit _, _ => trivial
  | .fail _, _ => trivial

theorem Action.AllThroughout.mono {p q : Step → Prop} (hpq : ∀ step, p step → q step) :
    ∀ script : List Action, Action.AllThroughout p script → Action.AllThroughout q script
  | [], _ => trivial
  | action :: rest, h =>
    ⟨Action.Throughout.mono hpq action h.1, Action.AllThroughout.mono hpq rest h.2⟩

end

/-! ## Moves under way -/

/-- What runs during a move whose record has been loaded, and the system afterwards: nothing if no
roles are looked up. -/
def meanwhile (u : System) (o : Opened) (steps : List Step) : List Reply × System :=
  if o.plan.transition.isRestricted then runAll u steps else ([], u)

/-- What runs during a move is a run like any other, or nothing at all. -/
theorem meanwhile_ind {P : List Note → System → Prop} {u : System} {o : Opened} {steps : List Step}
    (hnone : P [] u) (hall : P (notesAll steps (runAll u steps).1) (runAll u steps).2) :
    P (notesAll steps (meanwhile u o steps).1) (meanwhile u o steps).2 := by
  rw [meanwhile]
  split
  · exact hall
  · rw [notesAll_nil_right]
    exact hnone

/-- A move tells what ran meanwhile and how it ended. -/
theorem Step.run_move (s : System) (m : Move) (steps : List Step) :
    (Step.move m steps).notes ((Step.move m steps).run s).1 =
        notesAll steps ((execute s m fun s => runAll s steps).2.1.getD []) ++
          [.moved m (failureOf (execute s m fun s => runAll s steps).1)] ∧
      ((Step.move m steps).run s).2 = (execute s m fun s => runAll s steps).2.2 := by
  rw [Step.run, Step.notes]
  exact ⟨rfl, rfl⟩

/-- A move that fails before the look-up of roles tells only that. -/
theorem Step.run_move_of_error {s : System} {m : Move} {e : Failure} {steps : List Step}
    (h : execute s m (fun s => runAll s steps) = (.error e, none, s)) :
    (Step.move m steps).notes ((Step.move m steps).run s).1 = [.moved m (some e)] ∧
      ((Step.move m steps).run s).2 = s := by
  obtain ⟨hnotes, hsystem⟩ := Step.run_move s m steps
  rw [h] at hnotes hsystem
  rw [hnotes, Option.getD_none, notesAll_nil_right]
  exact ⟨rfl, hsystem⟩

/-- A move that comes to the look-up of roles tells what ran meanwhile and how it ended then. -/
theorem Step.run_move_of_some {s u : System} {m : Move} {o : Opened}
    (h : reached? s m = some (o, u)) (steps : List Step) :
    (Step.move m steps).notes ((Step.move m steps).run s).1 =
        notesAll steps (meanwhile u o steps).1 ++
          [.moved m (failureOf (finish (meanwhile u o steps).2 m o).1)] ∧
      ((Step.move m steps).run s).2 = (finish (meanwhile u o steps).2 m o).2 := by
  obtain ⟨hnotes, hsystem⟩ := Step.run_move s m steps
  rw [execute_of_some h, interlude] at hnotes hsystem
  rw [hnotes, hsystem, meanwhile]
  cases o.plan.transition.isRestricted <;> exact ⟨rfl, rfl⟩

/-! ## Reachable systems -/

/-- Runs from an empty database lead to a system, also to one in the middle of a step; with what has
been noted on the way. -/
inductive Reachable (p : Step → Prop) : System → List Note → Prop
  | start {s : System} (h : s.database = {}) : Reachable p s []
  | step {s : System} {notes : List Note} (h : Reachable p s notes) {step : Step}
    (hstep : step.Throughout p) :
    Reachable p (step.run s).2 (notes ++ step.notes (step.run s).1)
  /-- A move has come to the look-up of roles. -/
  | during {s u : System} {notes : List Note} {m : Move} {o : Opened} (h : Reachable p s notes)
    (hreached : reached? s m = some (o, u)) : Reachable p u notes
  /-- A script has come through some of its parts. -/
  | within {s : System} {x : Scripted} {notes : List Note} {script : List Action}
    {outcomes : List Outcome} (h : Reachable p s notes)
    (hscript : (Step.transaction script).Throughout p)
    (hrun : runScript { system := s } script = (outcomes, none, x)) :
    Reachable p x.system (notes ++ scriptNotes script outcomes none)

/-- Systems are reachable by steps of every wider kind, too. -/
theorem Reachable.mono {p q : Step → Prop} (hpq : ∀ step, p step → q step) {s : System}
    {notes : List Note} (h : Reachable p s notes) : Reachable q s notes := by
  induction h with
  | start h => exact .start h
  | step _ hstep ih => exact ih.step (Step.Throughout.mono hpq _ hstep)
  | during _ hreached ih => exact ih.during hreached
  | within _ hscript hrun ih => exact ih.within (Step.Throughout.mono hpq _ hscript) hrun

/-- A run leads from a reachable system to another one. -/
theorem Reachable.steps {p : Step → Prop} {s : System} {notes : List Note} {steps : List Step}
    (h : Reachable p s notes) (hsteps : Step.AllThroughout p steps) :
    Reachable p (runAll s steps).2 (notes ++ notesAll steps (runAll s steps).1) := by
  induction steps generalizing s notes with
  | nil =>
    rw [runAll, notesAll, List.append_nil]
    · exact h
    · nofun
  | cons step rest ih =>
    have hrest := ih (h.step hsteps.1) hsteps.2
    rw [List.append_assoc] at hrest
    exact hrest

/-- A run from an empty database leads to a reachable system. -/
theorem Reachable.of_run {p : Step → Prop} {steps : List Step}
    (hsteps : Step.AllThroughout p steps) :
    Reachable p (runAll {} steps).2 (notesAll steps (runAll {} steps).1) :=
  (Reachable.start rfl).steps hsteps

/-! ## A small workflow

Papers that are ready are signed by a clerk. -/

namespace Paper

def sign : Transition :=
  { id := "sign", workflowId := "approval", fromState := "DRAFT", toState := "SIGNED"
    actionLabel := some "Sign", labelKey := none, description := none
    allowedRoles := some ["clerk"], conditions := some ["ready"], metadata := none }

def approval : Workflow :=
  { id := "approval", name := "Approval", initialState := "DRAFT", states := []
    transitions := [sign], closed := Or.inl rfl }

def paper : Entity :=
  { id := "paper", name := "Paper", properties := [], workflowId := some "approval"
    unique := List.nodup_nil }

/-- A paper that is ready. -/
def ready (id : String) (state : Option String) : NewRecord :=
  { entityId := "paper", data := [("ready", .bool true)], id := some id, state }

/-- A paper without a state and a draft; Ann is a clerk. -/
def setUp : List Step :=
  [.operation (.saveWorkflow approval), .operation (.saveEntity paper),
   .operation (.createRecord (ready "new" none)),
   .operation (.createRecord (ready "draft" (some "DRAFT"))),
   .operation (.assignRole "ann" "clerk")]

/-- Somebody without a name is a clerk, too. -/
def setUpUnnamed : List Step := setUp ++ [.operation (.assignRole "" "clerk")]

/-- A request to sign a paper. -/
def signing (recordId : String) (actor : Option String) : Move :=
  { entityId := "paper", recordId, transitionId := "sign", comments := none, actor }

/-- The new paper is signed, while somebody tries in vain to sign the draft. -/
def signed : List Step :=
  setUp ++ [.move (signing "new" (some "ann")) [.move (signing "draft" (some "ann")) []]]

end Paper

end RecordRules
