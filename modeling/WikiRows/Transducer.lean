/-!
# Transducers

A transducer goes through a list one item at a time, gives a part of its output for each, and the
last part at the end. `outputs` says what it gives from a state on; `run` gives the same in one
loop, so that long lists need no deep recursion.
-/

namespace WikiRows

/-- What an item makes of a state, and what the end makes of it. -/
structure Transducer (State Item Output : Type) where
  step : State → Item → List Output × State
  finish : State → List Output

namespace Transducer

variable {State Item Output : Type} (t : Transducer State Item Output)

def outputs (state : State) : List Item → List Output
  | [] => t.finish state
  | item :: rest => (t.step state item).1 ++ outputs (t.step state item).2 rest

/-- The output from a state on, behind an output that is given backwards. -/
def runOnto (done : List Output) (state : State) : List Item → List Output
  | [] => done.reverseAux (t.finish state)
  | item :: rest =>
    let (new, state) := t.step state item
    runOnto (new.reverseAux done) state rest

/-- The output from a state on, in one loop. -/
def run (state : State) (items : List Item) : List Output := t.runOnto [] state items

def after (state : State) : List Item → List Output × State
  | [] => ([], state)
  | item :: rest =>
    let (later, last) := after (t.step state item).2 rest
    ((t.step state item).1 ++ later, last)

theorem outputs_append (state : State) (items rest : List Item) :
    t.outputs state (items ++ rest) =
      (t.after state items).1 ++ t.outputs (t.after state items).2 rest := by
  induction items generalizing state with
  | nil => rfl
  | cons item items ih => simp only [List.cons_append, outputs, after, ih, List.append_assoc]

/-- Items that give no output only change what the state carries. -/
theorem outputs_append_of_silent {Carried : Type} (state : Carried → State)
    (next : Carried → Item → Carried) {items : List Item}
    (h : ∀ x, ∀ item ∈ items, t.step (state x) item = ([], state (next x item))) (x : Carried)
    (rest : List Item) :
    t.outputs (state x) (items ++ rest) = t.outputs (state (items.foldl next x)) rest := by
  induction items generalizing x with
  | nil => rfl
  | cons item items ih =>
    rw [List.cons_append, outputs, h x item List.mem_cons_self,
      ih fun x item hitem => h x item (List.mem_cons_of_mem _ hitem)]
    rfl

theorem runOnto_eq (items : List Item) (done : List Output) (state : State) :
    t.runOnto done state items = done.reverse ++ t.outputs state items := by
  induction items generalizing done state with
  | nil => simp [runOnto, outputs, List.reverseAux_eq]
  | cons item rest ih => simp [runOnto, outputs, ih, List.reverseAux_eq]

theorem run_eq (state : State) (items : List Item) :
    t.run state items = t.outputs state items := by simp [run, runOnto_eq]

end Transducer

end WikiRows
